import TerraLint.Text.Blank
import TerraLint.Text.Digits
import TerraLint.Json.Basic
import TerraLint.Json.Decimal

/-!
# Reading JSON

The reader is strict: only space, tab, line feed and carriage return are blanks, numbers have no
leading zeros and are not out of range, strings hold no control characters and no half of a
surrogate pair, and nothing stands after the value. Arrays and objects nest at most `maxDepth` deep.

* `Json.parse?`: the value that a text writes.
-/

namespace TerraLint.Json

open Text

/-- How deep arrays and objects may nest. -/
def maxDepth : Nat := 127

/-- A text without the blanks at its start. -/
def skipBlanks (cs : List Char) : List Char := cs.dropWhile isLayout

/-! ## Strings -/

/-- Reads the code points and surrogates up to the closing quote, and gives the rest. -/
def readUnits : List Char → Option (List Nat × List Char)
  | '"' :: rest => some ([], rest)
  | '\\' :: 'u' :: a :: b :: c :: d :: rest => do
    let unit ← hexNumber [a, b, c, d]
    let (units, rest) ← readUnits rest
    return (unit :: units, rest)
  | '\\' :: e :: rest => do
    let c ← simpleEscape e
    let (units, rest) ← readUnits rest
    return (c.toNat :: units, rest)
  | c :: rest =>
    if c.toNat < 0x20 then none
    else do
      let (units, rest) ← readUnits rest
      return (c.toNat :: units, rest)
  | [] => none

/-- The character of two surrogates. -/
def ofSurrogates (high low : Nat) : Option Char :=
  if 0xDC00 ≤ low ∧ low < 0xE000 then
    charOfCode (0x10000 + (high - 0xD800) * 0x400 + (low - 0xDC00))
  else none

/-- Characters of code points, with surrogates taken in pairs. -/
def ofUnits : List Nat → Option (List Char)
  | [] => some []
  | [n] => (charOfCode n).map ([·])
  | m :: n :: rest =>
    if 0xD800 ≤ m ∧ m < 0xDC00 then do
      let c ← ofSurrogates m n
      return c :: (← ofUnits rest)
    else do
      let c ← charOfCode m
      return c :: (← ofUnits (n :: rest))

/-- Reads a string whose opening quote was read. -/
def readString (cs : List Char) : Option (String × List Char) := do
  let (units, rest) ← readUnits cs
  let text ← ofUnits units
  return (String.ofList text, rest)

/-! ## Numbers -/

/-- The digits at the start of a text, and the rest. -/
def spanDigits (cs : List Char) : List Char × List Char := cs.span Char.isDigit

/-- Reads a fraction if there is one: the digits after a point. -/
def readFraction (cs : List Char) : Option (List Char × List Char) :=
  match cs with
  | '.' :: rest =>
    match spanDigits rest with
    | ([], _) => none
    | (digits, rest) => some (digits, rest)
  | _ => some ([], cs)

/-- Reads the sign and the digits of an exponent. -/
def readPower (cs : List Char) : Option (Int × List Char) :=
  let (negative, cs) := match cs with
    | '-' :: rest => (true, rest)
    | '+' :: rest => (false, rest)
    | _ => (false, cs)
  match spanDigits cs with
  | ([], _) => none
  | (digits, rest) =>
    let size : Int := decimalNumber digits
    some (if negative then -size else size, rest)

/-- Reads an exponent if there is one. -/
def readExponent (cs : List Char) : Option (Option Int × List Char) :=
  match cs with
  | 'e' :: rest | 'E' :: rest => (readPower rest).map fun (power, rest) => (some power, rest)
  | _ => some (none, cs)

/-- The value of a number: its sign, its digits before and after the point, and its exponent. -/
def numberOf (negative : Bool) (whole fraction : List Char) (power : Option Int) : Option Json :=
  let size : Int := decimalNumber whole
  let signed := if negative then -size else size
  let fits := -(Nat.pow 2 63 : Int) ≤ signed ∧ signed < (Nat.pow 2 64 : Int) ∧
    ¬(negative ∧ size = 0)
  if fraction.isEmpty ∧ power.isNone ∧ fits then some (.integer signed)
  else
    (Decimal.ofDigits whole fraction (power.getD 0)).toDouble?.map fun d =>
      .real (if negative then d.neg else d)

/-- Reads a number. -/
def readNumber (cs : List Char) : Option (Json × List Char) := do
  let (negative, cs) := match cs with
    | '-' :: rest => (true, rest)
    | _ => (false, cs)
  let (whole, cs) := spanDigits cs
  if whole.isEmpty || (1 < whole.length && whole.head? == some '0') then none
  else
    let (fraction, cs) ← readFraction cs
    let (power, cs) ← readExponent cs
    let n ← numberOf negative whole fraction power
    return (n, cs)

/-! ## Values -/

mutual

/-- Reads a value; arrays and objects in it nest at most `depth` deep. -/
def readValue : Nat → Nat → List Char → Option (Json × List Char)
  | 0, _, _ => none
  | fuel + 1, depth, cs =>
    match skipBlanks cs with
    | 'n' :: 'u' :: 'l' :: 'l' :: rest => some (.null, rest)
    | 't' :: 'r' :: 'u' :: 'e' :: rest => some (.bool true, rest)
    | 'f' :: 'a' :: 'l' :: 's' :: 'e' :: rest => some (.bool false, rest)
    | '"' :: rest => (readString rest).map fun (s, rest) => (.string s, rest)
    | '[' :: rest =>
      match depth with
      | 0 => none
      | depth + 1 =>
        match skipBlanks rest with
        | ']' :: rest => some (.array [], rest)
        | rest => (readItems fuel depth rest).map fun (items, rest) => (.array items, rest)
    | '{' :: rest =>
      match depth with
      | 0 => none
      | depth + 1 =>
        match skipBlanks rest with
        | '}' :: rest => some (.object [], rest)
        | rest => (readMembers fuel depth rest).map fun (ms, rest) => (.object ms, rest)
    | cs => readNumber cs

/-- Reads the items of an array and its closing bracket. -/
def readItems : Nat → Nat → List Char → Option (List Json × List Char)
  | 0, _, _ => none
  | fuel + 1, depth, cs => do
    let (item, cs) ← readValue fuel depth cs
    match skipBlanks cs with
    | ',' :: rest =>
      let (items, rest) ← readItems fuel depth rest
      return (item :: items, rest)
    | ']' :: rest => return ([item], rest)
    | _ => none

/-- Reads the members of an object and its closing brace. -/
def readMembers : Nat → Nat → List Char → Option (List (String × Json) × List Char)
  | 0, _, _ => none
  | fuel + 1, depth, cs =>
    match skipBlanks cs with
    | '"' :: cs => do
      let (name, cs) ← readString cs
      match skipBlanks cs with
      | ':' :: cs =>
        let (value, cs) ← readValue fuel depth cs
        match skipBlanks cs with
        | ',' :: rest =>
          let (members, rest) ← readMembers fuel depth rest
          return ((name, value) :: members, rest)
        | '}' :: rest => return ([(name, value)], rest)
        | _ => none
      | _ => none
    | _ => none

end

/-- The value that a text writes, with blanks around it. Each step of the reader takes a character
or is followed by one that does. -/
def parse? (text : List Char) : Option Json := do
  let (value, rest) ← readValue (2 * text.length + 2) maxDepth text
  if (skipBlanks rest).isEmpty then some value else none

end TerraLint.Json
