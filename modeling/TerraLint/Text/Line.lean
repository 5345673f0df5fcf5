/-!
# Lines of a text

A line ends at a line feed; a carriage return right before the line feed belongs to the line end.
The text after the last line feed is a line of its own unless it is empty.

* `lines`: the lines without their ends.
* `unlines`: lines joined with line feeds.
-/

namespace TerraLint.Text

/-- The line without the carriage return that belongs to its end. -/
def chompReturn (line : List Char) : List Char :=
  if line.getLast? = some '\r' then line.dropLast else line

/-- The lines of a text, without their ends. -/
def lines (text : List Char) : List (List Char) :=
  let pieces := text.splitOn '\n'
  pieces.dropLast.map chompReturn ++ pieces.getLast?.toList.filter fun last => !last.isEmpty

/-- Lines joined with a line feed between each two. -/
def unlines (ls : List (List Char)) : List Char := ['\n'].intercalate ls

@[simp] theorem unlines_nil : unlines [] = [] := rfl

@[simp] theorem unlines_singleton (l : List Char) : unlines [l] = l := by simp [unlines]

end TerraLint.Text
