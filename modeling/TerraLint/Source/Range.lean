/-!
# Positions and ranges

A position names a character of a text by line and column, both counted from one, and by byte
offset, counted from zero. Positions are ordered by line and column. A range stands in a named file;
the null range stands nowhere and marks that nothing was seen yet.
-/

namespace TerraLint

/-- A position in a text. -/
structure Pos where
  /-- The line, from one. -/
  line : Nat
  /-- The column, from one, in characters. -/
  column : Nat
  /-- The byte offset, from zero. -/
  byte : Nat
deriving DecidableEq, Repr, Inhabited

namespace Pos

/-- Order by line and column; the offset does not count. -/
def compare (a b : Pos) : Ordering :=
  (Ord.compare a.line b.line).then (Ord.compare a.column b.column)

/-- Whether a position is before another. -/
def before (a b : Pos) : Bool := a.compare b == .lt

/-- Whether a position is not after another. -/
def notAfter (a b : Pos) : Bool := a.compare b != .gt

end Pos

/-- A range of text in a named file. -/
structure SourceRange where
  file : String
  start : Pos
  /-- The position after the last character. -/
  stop : Pos
deriving DecidableEq, Repr, Inhabited

namespace SourceRange

/-- The range that stands nowhere. -/
def null : SourceRange := ⟨"", ⟨0, 0, 0⟩, ⟨0, 0, 0⟩⟩

/-- Whether a range stands nowhere: it has no file and no line. -/
def isNull (r : SourceRange) : Bool := r.file == "" && r.start.line == 0 && r.stop.line == 0

/-- The lines of two ranges together. A bound moves to the other range only when its line wins, so
the columns belong to the winning line. -/
def unionLines (a b : SourceRange) : SourceRange :=
  if a.isNull then b
  else
    { a with
      start := if b.start.line < a.start.line then b.start else a.start
      stop := if a.stop.line < b.stop.line then b.stop else a.stop }

/-- The range as messages show it: file, then line and column of its bounds. -/
def display (r : SourceRange) : String :=
  r.file ++ ":" ++ toString r.start.line ++ "," ++ toString r.start.column ++ "-" ++
    toString r.stop.line ++ "," ++ toString r.stop.column

end SourceRange

end TerraLint
