import TerraLint.Format.Line

/-!
# Indentation levels

A code line that opens more brackets than it closes is indented at the current level and adds one
level, however many brackets it opens; a line that closes more than it opens takes levels away
before it is indented. The stack holds, innermost first, how many brackets of each level are still
open.
-/

namespace TerraLint.Format

/-- Closes `n` brackets, innermost level first. A level goes when all its brackets are closed;
brackets that were never opened are ignored. -/
def closeBrackets : Nat → List Nat → List Nat
  | _, [] => []
  | n, top :: rest =>
    if n = 0 then top :: rest
    else if top ≤ n then closeBrackets (n - top) rest
    else (top - n) :: rest

/-- The level of a line, and the stack after it. -/
def indentLine (stack : List Nat) (line : Line) : Nat × List Nat :=
  if line.kind = .code then
    if 0 < line.net then (stack.length, line.net.toNat :: stack)
    else
      let stack := closeBrackets (-line.net).toNat stack
      (stack.length, stack)
  else (stack.length, stack)

/-- The level of each line, from the stack before the first. -/
def indentFrom (stack : List Nat) : List Line → List Nat
  | [] => []
  | line :: lines =>
    let (level, stack) := indentLine stack line
    level :: indentFrom stack lines

/-- The level of each line of a text. -/
def indentLevels (lines : List Line) : List Nat := indentFrom [] lines

end TerraLint.Format
