import TerraLint.Text.Digits
import TerraLint.Hcl.Cursor
import TerraLint.Hcl.Number

/-!
# Numbers and literal runs of text

`Cursor.number` reads an unsigned number. `Cursor.quotedRun`, `Cursor.heredocRun` and
`Cursor.plainRun` read the longest run of literal text inside a quoted string, inside a heredoc and
outside of both: up to an interpolation, a directive or the end. Inside quotes a backslash escapes.
An escape that is not known is dropped and ends the run, but no run starts with one.
-/

namespace TerraLint.Hcl

open Text

namespace Cursor

/-- Reads an exponent: its mark, an optional sign and digits. -/
def exponent (c : Cursor) : Option (Int × Cursor) := do
  let c ← (c.expect ['e']).or (c.expect ['E'])
  let (negative, c) := c.skipIf ['-']
  let c := if negative then c else (c.skipIf ['+']).2
  let (digits, c) := c.takeWhile Char.isDigit
  if digits.isEmpty then none
  else
    let size : Int := decimalNumber digits
    some (if negative then -size else size, c)

/-- Reads the digits after a decimal point. -/
def fractionDigits (c : Cursor) : Option (List Char × Cursor) := do
  let c ← c.expect ['.']
  let (digits, c) := c.takeWhile Char.isDigit
  if digits.isEmpty then none else some (digits, c)

/-- The number of a decimal, unless it is too large for a double. -/
def realNumber (digits : List Char) (power : Int) : Option Number :=
  let d := Double.ofDecimal (decimalNumber digits) power
  if d.isFinite then some (.ofDouble d) else none

/-- Reads an unsigned number. Digits alone must fit into sixty-four bits; with a fraction or an
exponent the number must be finite. -/
def number (c : Cursor) : Option (Number × Cursor) := do
  let (digits, c) := c.takeWhile Char.isDigit
  if digits.isEmpty then none
  else
    match c.fractionDigits with
    | some (fraction, c) =>
      let power : Int := -(fraction.length : Int)
      match c.exponent with
      | some (e, c) => (realNumber (digits ++ fraction) (power + e)).map (·, c)
      | none => (realNumber (digits ++ fraction) power).map (·, c)
    | none =>
      match c.exponent with
      | some (e, c) => (realNumber digits e).map (·, c)
      | none =>
        let n := decimalNumber digits
        if n < Nat.pow 2 64 then some (.unsigned n, c) else none

/-- The end of a literal run at an unknown escape: `taken` is the run in reverse. -/
def endRun (taken : List Char) (c : Cursor) : Option (String × Cursor) :=
  if taken.isEmpty then none else some (String.ofList taken.reverse, c)

/-- Reads literal text inside quotes, up to the closing quote, an interpolation or a directive;
`taken` is what was read so far, in reverse. -/
def quotedRun (taken : List Char) (byte : Nat) : List Char → Option (String × Cursor)
  | '"' :: cs => endRun taken ⟨'"' :: cs, byte⟩
  | '$' :: '$' :: '{' :: cs => quotedRun ('{' :: '$' :: taken) (byte + 3) cs
  | '%' :: '%' :: '{' :: cs => quotedRun ('{' :: '%' :: taken) (byte + 3) cs
  | '$' :: '{' :: cs => endRun taken ⟨'$' :: '{' :: cs, byte⟩
  | '%' :: '{' :: cs => endRun taken ⟨'%' :: '{' :: cs, byte⟩
  | '\\' :: 'u' :: a :: b :: c :: d :: cs =>
    match hexNumber [a, b, c, d] >>= charOfCode with
    | some ch => quotedRun (ch :: taken) (byte + 6) cs
    | none => endRun taken ⟨a :: b :: c :: d :: cs, byte + 2⟩
  | '\\' :: 'u' :: cs => endRun taken ⟨cs, byte + 2⟩
  | '\\' :: 'U' :: a :: b :: c :: d :: e :: f :: g :: h :: cs =>
    match hexNumber [a, b, c, d, e, f, g, h] >>= charOfCode with
    | some ch => quotedRun (ch :: taken) (byte + 10) cs
    | none => endRun taken ⟨a :: b :: c :: d :: e :: f :: g :: h :: cs, byte + 2⟩
  | '\\' :: 'U' :: cs => endRun taken ⟨cs, byte + 2⟩
  | '\\' :: c :: cs =>
    match simpleEscape c with
    | some ch => quotedRun (ch :: taken) (byte + 1 + c.utf8Size) cs
    | none => endRun taken ⟨cs, byte + 1 + c.utf8Size⟩
  | ['\\'] => none
  | c :: cs => quotedRun (c :: taken) (byte + c.utf8Size) cs
  | [] => none

/-- The line break that starts the text, empty if none does. -/
def lineBreakText : List Char → List Char
  | '\n' :: _ => ['\n']
  | '\r' :: '\n' :: _ => ['\r', '\n']
  | _ => []

/-- Whether the line that starts here is blanks and then the identifier of a heredoc. -/
def isTerminator (id : List Char) (cs : List Char) : Bool :=
  id.isPrefixOf (cs.dropWhile fun c => c == ' ' || c == '\t')

/-- Whether a line break and the terminator of a heredoc come next. -/
def closesHeredoc (id : List Char) (cs : List Char) : Bool :=
  match lineBreakText cs with
  | [] => false
  | br => isTerminator id (cs.drop br.length)

/-- Reads literal text of a heredoc, up to the line break before its terminator, an interpolation or
a directive; `taken` is what was read so far, in reverse. -/
def heredocRun (id : List Char) (taken : List Char) (byte : Nat) :
    List Char → Option (String × Cursor)
  | '$' :: '$' :: '{' :: cs => heredocRun id ('{' :: '$' :: taken) (byte + 3) cs
  | '%' :: '%' :: '{' :: cs => heredocRun id ('{' :: '%' :: taken) (byte + 3) cs
  | '$' :: '{' :: cs => endRun taken ⟨'$' :: '{' :: cs, byte⟩
  | '%' :: '{' :: cs => endRun taken ⟨'%' :: '{' :: cs, byte⟩
  | c :: cs =>
    if closesHeredoc id (c :: cs) then endRun taken ⟨c :: cs, byte⟩
    else heredocRun id (c :: taken) (byte + c.utf8Size) cs
  | [] => none

/-- Reads literal text outside quotes, up to an interpolation, a directive or the end of the text;
`taken` is what was read so far, in reverse. -/
def plainRun (taken : List Char) (byte : Nat) : List Char → String × Cursor
  | '$' :: '$' :: '{' :: cs => plainRun ('{' :: '$' :: taken) (byte + 3) cs
  | '%' :: '%' :: '{' :: cs => plainRun ('{' :: '%' :: taken) (byte + 3) cs
  | '$' :: '{' :: cs => (String.ofList taken.reverse, ⟨'$' :: '{' :: cs, byte⟩)
  | '%' :: '{' :: cs => (String.ofList taken.reverse, ⟨'%' :: '{' :: cs, byte⟩)
  | c :: cs => plainRun (c :: taken) (byte + c.utf8Size) cs
  | [] => (String.ofList taken.reverse, ⟨[], byte⟩)

end Cursor

end TerraLint.Hcl
