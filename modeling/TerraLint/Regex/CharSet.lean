import TerraLint.Unicode.Case
import TerraLint.Unicode.Property

/-!
# Classes of characters

The classes of characters that a regular expression has names for.

* `BasicClass.members`: digits, white space and the characters of words.
* `asciiClass?`: the classes of ASCII, by name.
-/

namespace TerraLint.Regex

open Unicode

/-- A set of characters. -/
abbrev CharSet := Intervals

namespace CharSet

/-- The set of one character. -/
def single (c : Char) : CharSet := [(c.toNat, c.toNat)]

/-- Whether a character is in a set. -/
def has (s : CharSet) (c : Char) : Bool := s.contains c.toNat

/-- The characters in one of two sets but not in both. -/
def symmDiff (a b : CharSet) : CharSet := (Intervals.diff a b).union (Intervals.diff b a)

/-- The complement of a set, or the set itself. -/
def negateIf (negated : Bool) (a : CharSet) : CharSet := if negated then a.complement else a

/-- Whether a set holds characters of ASCII only. -/
def isAscii (a : CharSet) : Bool := a.all fun (_, high) => high < 128

/-- A set with the letters of ASCII that differ in case only from one of it. -/
def asciiCaseClosure (a : CharSet) : CharSet :=
  let move (low high distance : Nat) (up : Bool) : CharSet :=
    (Intervals.inter a [(low, high)]).map fun (first, last) =>
      if up then (first + distance, last + distance) else (first - distance, last - distance)
  Intervals.unions [a, move 65 90 32 true, move 97 122 32 false]

end CharSet

/-- A class with a letter of its own. -/
inductive BasicClass where
  | digit
  | space
  | word
deriving DecidableEq, Repr

/-- The characters of words: alphabetic characters, marks, decimal digits, connectors and joiners.
-/
def wordCharacters : CharSet :=
  Intervals.unions [alphabetic, ofCategories (.nd :: .pc :: Category.marks), joinControls]

/-- The characters of a class, in Unicode or in ASCII. -/
def BasicClass.members (unicode : Bool) : BasicClass → CharSet
  | .digit => if unicode then decimalDigits else [(48, 57)]
  | .space => if unicode then whiteSpace else [(9, 13), (32, 32)]
  | .word => if unicode then wordCharacters else [(48, 57), (65, 90), (95, 95), (97, 122)]

/-- The class of ASCII with a name. -/
def asciiClass? (name : List Char) : Option CharSet :=
  match String.ofList name with
  | "alnum" => some [(48, 57), (65, 90), (97, 122)]
  | "alpha" => some [(65, 90), (97, 122)]
  | "ascii" => some [(0, 127)]
  | "blank" => some [(9, 9), (32, 32)]
  | "cntrl" => some [(0, 31), (127, 127)]
  | "digit" => some (BasicClass.digit.members false)
  | "graph" => some [(33, 126)]
  | "lower" => some [(97, 122)]
  | "print" => some [(32, 126)]
  | "punct" => some [(33, 47), (58, 64), (91, 96), (123, 126)]
  | "space" => some (BasicClass.space.members false)
  | "upper" => some [(65, 90)]
  | "word" => some (BasicClass.word.members false)
  | "xdigit" => some [(48, 57), (65, 70), (97, 102)]
  | _ => none

end TerraLint.Regex
