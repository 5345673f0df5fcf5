/-!
# Text between quotes

How text is written so that it reads as a literal: special characters are escaped inside quotes, and
the first character of `${` or `%{` is written twice.

* `escapeMarkers`: literal text with its markers doubled. After the first marker a `$` or `%` takes
  the character behind it along, so that of two such characters in a row only the first one counts.
* `isTemplate`: whether a text holds a sequence that reads as an interpolation or a directive.
-/

namespace TerraLint.Hcl

/-- A character inside quotes. -/
def escapeChar (c : Char) : List Char :=
  match c with
  | '"' => ['\\', '"']
  | '\\' => ['\\', '\\']
  | '\n' => ['\\', 'n']
  | '\r' => ['\\', 'r']
  | '\t' => ['\\', 't']
  | '\x08' => ['\\', 'b']
  | '\x0c' => ['\\', 'f']
  | c =>
    if c.toNat < 32 then
      let digits := Nat.toDigits 16 c.toNat
      ['\\', 'u'] ++ List.replicate (4 - digits.length) '0' ++ digits
    else [c]

/-- Whether a character starts a template sequence when a brace follows. -/
def isMarker (c : Char) : Bool := c == '$' || c == '%'

/-- A text that starts with a marker, with its markers doubled. -/
def doubleMarkers : List Char → List Char
  | [] => []
  | [c] => [c]
  | c :: d :: cs =>
    if isMarker c then
      if d = '{' then c :: c :: '{' :: doubleMarkers cs else c :: d :: doubleMarkers cs
    else c :: doubleMarkers (d :: cs)

/-- A text with its markers doubled, so that none of them starts a sequence. -/
def escapeMarkers : List Char → List Char
  | [] => []
  | [c] => [c]
  | c :: d :: cs =>
    if isMarker c && d == '{' then doubleMarkers (c :: d :: cs) else c :: escapeMarkers (d :: cs)

/-- Whether a text holds a marker that is not doubled and a closing brace behind it. -/
def isTemplate : List Char → Bool
  | '$' :: '$' :: '{' :: cs => isTemplate cs
  | '%' :: '%' :: '{' :: cs => isTemplate cs
  | '$' :: '{' :: cs => cs.contains '}'
  | '%' :: '{' :: cs => cs.contains '}'
  | _ :: cs => isTemplate cs
  | [] => false

/-- A literal in quotes. -/
def quoted (s : String) : String :=
  String.ofList ('"' :: (escapeMarkers s.toList).flatMap escapeChar ++ ['"'])

end TerraLint.Hcl
