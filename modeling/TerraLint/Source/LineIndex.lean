import TerraLint.Text.Offset
import TerraLint.Source.Range

/-!
# Line index

The offsets at which the lines of a text start, computed once, turn a byte offset into a line and a
column.
-/

namespace TerraLint

open Text

/-- The offsets at which lines start, in ascending order; the first is zero. -/
structure LineIndex where
  starts : List Nat
deriving DecidableEq, Repr

namespace LineIndex

/-- The offsets after the line feeds of a text that starts at offset `byte`. -/
def startsFrom (byte : Nat) : List Char → List Nat
  | [] => []
  | c :: cs =>
    let next := byte + c.utf8Size
    if c = '\n' then next :: startsFrom next cs else startsFrom next cs

/-- The index of a text. -/
def ofText (text : List Char) : LineIndex := ⟨0 :: startsFrom 0 text⟩

/-- The number of lines that start at or before an offset. -/
def linesUpTo (index : LineIndex) (byte : Nat) : Nat := index.starts.countP (· ≤ byte)

/-- The position of an offset of the text. Past the end it is the end, inside a character it is the
start of that character. -/
def pos (index : LineIndex) (text : List Char) (byte : Nat) : Pos :=
  let byte := floorBoundary byte text
  let line := index.linesUpTo byte
  let start := index.starts.getD (line - 1) 0
  ⟨line, ((sliceBytes start byte text).getD []).length + 1, byte⟩

end LineIndex

end TerraLint
