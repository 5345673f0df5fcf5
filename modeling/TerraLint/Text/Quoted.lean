import TerraLint.Unicode.Addition
import TerraLint.Unicode.Grapheme

/-!
# Quoted text

A text in quotes, the way names are shown to developers: quotes, backslashes and line ends are
escaped, and so is every character that shows nothing by itself.
-/

namespace TerraLint.Text

open Unicode

/-- Characters that extend the one before them and show by themselves all the same: voiced sound
marks of half width. -/
def voicingMarks : Intervals := [(65438, 65439)]

/-- Whether a character beyond ASCII shows nothing by itself. -/
def isInvisible (n : Nat) : Bool :=
  if newCharacters.contains n then newMarks.contains n
  else
    hasCategory (.mn :: .me :: Category.separators ++ Category.others) n ||
      (otherExtending.contains n && !voicingMarks.contains n)

/-- Whether a character shows by itself. -/
def isVisible (c : Char) : Bool :=
  if c.toNat < 128 then 32 ≤ c.toNat && c.toNat < 127 else !isInvisible c.toNat

/-- A character inside quotes. -/
def quoteChar (c : Char) : List Char :=
  match c with
  | '"' => ['\\', '"']
  | '\\' => ['\\', '\\']
  | '\n' => ['\\', 'n']
  | '\r' => ['\\', 'r']
  | '\t' => ['\\', 't']
  | c =>
    if c.toNat = 0 then ['\\', '0']
    else if isVisible c then [c]
    else ['\\', 'u', '{'] ++ Nat.toDigits 16 c.toNat ++ ['}']

/-- A text in quotes. -/
def quote (cs : List Char) : List Char := '"' :: cs.flatMap quoteChar ++ ['"']

end TerraLint.Text
