import TerraLint.Text.Blank
import TerraLint.Text.Line
import TerraLint.Format.Line
import TerraLint.Format.Indent
import TerraLint.Format.Assignment

/-!
# The layout of a text

`format` gives a text its normal layout: two spaces of indentation per level, one space around the
`=` of an assignment, signs aligned over runs of consecutive assignments whose brackets balance on
their line, verbatim lines kept but for their trailing blanks, and no blank at the end of the text.
-/

namespace TerraLint

open Text

namespace Format

/-- A line with all that its layout depends on. -/
structure Row where
  line : Line
  level : Nat
  /-- The assignment it holds, if it is code and holds one. -/
  assignment : Option Assignment
deriving DecidableEq, Repr

namespace Row

/-- The row of a line at a level. -/
def ofLine (line : Line) (level : Nat) : Row :=
  ⟨line, level, if line.kind = .code then Assignment.parse? (trim line.raw) else none⟩

/-- Whether the row takes part in alignment: an assignment whose brackets balance. -/
def isAligned (row : Row) : Bool := row.assignment.isSome && row.line.net == 0

/-- The length of the row's key, in characters. -/
def keyLength (row : Row) : Nat := (row.assignment.map (·.key.length)).getD 0

/-- Whether two neighbouring rows belong to one run of aligned assignments. -/
def sameRun (a b : Row) : Bool := a.isAligned && b.isAligned && a.level == b.level

/-- The row in its normal layout, its key padded to a width. -/
def render (width : Nat) (row : Row) : List Char :=
  match row.line.kind with
  | .blank => []
  | .verbatim => trimEnd row.line.raw
  | .code =>
    List.replicate (2 * row.level) ' ' ++
      match row.assignment with
      | some a => a.render width
      | none => trim row.line.raw

end Row

/-- The width of the key column of a run: its longest key. A row that is not aligned has none. -/
def runWidth (run : List Row) : Nat := ((run.filter Row.isAligned).map Row.keyLength).foldl max 0

/-- The rows of a text. -/
def rows (text : List Char) : List Row :=
  let lines := classify text
  lines.zipWith Row.ofLine (indentLevels lines)

/-- The rows in their normal layout, run by run. -/
def renderRows (rows : List Row) : List (List Char) :=
  (rows.splitBy Row.sameRun).flatMap fun run => run.map (Row.render (runWidth run))

end Format

/-- The text in its normal layout. -/
def format (text : List Char) : List Char :=
  trimEnd (unlines (Format.renderRows (Format.rows text)))

/-- The string in its normal layout. -/
def formatString (text : String) : String := String.ofList (format text.toList)

end TerraLint
