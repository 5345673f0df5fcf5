import TerraLint.Text.Blank
import TerraLint.Format.Scan

/-!
# Assignments

A line assigns when it starts with a bare word or a quoted string, blanks, and one `=`. The signs
`==` and `=>` are no assignment.
-/

namespace TerraLint.Format

open Text

/-- The two sides of an assignment, both trimmed. -/
structure Assignment where
  /-- The key as written. -/
  key : List Char
  /-- The value, without the blanks around it. -/
  value : List Char
deriving DecidableEq, Repr

namespace Assignment

/-- The rest of a quoted string up to and with its closing quote, and the text after it. A
backslash hides the next character. -/
def quotedRest : List Char → Option (List Char × List Char)
  | '"' :: cs => some (['"'], cs)
  | '\\' :: c :: cs =>
    if c = '\n' then none
    else (quotedRest cs).map fun (taken, rest) => ('\\' :: c :: taken, rest)
  | c :: cs =>
    if c = '\\' then none
    else (quotedRest cs).map fun (taken, rest) => (c :: taken, rest)
  | [] => none

/-- The key that starts the text, and the text after it. -/
def key? : List Char → Option (List Char × List Char)
  | '"' :: cs => (quotedRest cs).map fun (taken, rest) => ('"' :: taken, rest)
  | c :: cs =>
    if Scan.isWordStart c then
      some (c :: cs.takeWhile Scan.isWordRest, cs.dropWhile Scan.isWordRest)
    else none
  | [] => none

/-- Reads a trimmed line as an assignment. -/
def parse? (content : List Char) : Option Assignment := do
  let (key, rest) ← key? content
  match trimStart rest with
  | '=' :: '=' :: _ => none
  | '=' :: '>' :: _ => none
  | '=' :: value => some ⟨key, trim value⟩
  | _ => none

/-- The assignment with its key padded to a width; an empty value leaves the sign last. -/
def render (a : Assignment) (width : Nat) : List Char :=
  let padded := a.key ++ List.replicate (width - a.key.length) ' '
  if a.value.isEmpty then padded ++ [' ', '=']
  else padded ++ [' ', '=', ' '] ++ a.value

end Assignment

end TerraLint.Format
