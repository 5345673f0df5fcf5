import TerraLint.Number.Double
import TerraLint.Text.Digits

/-!
# YAML values

What a scalar stands for: a plain scalar without tag is null, a boolean, a number or a string by the
way it is written.

* `ofPlain?`: the value of a plain scalar. An integer that fits into 128 bits but not into 64 is
  refused; a longer one is a double.
* `Value.same`: equality of values. The order of a mapping's entries does not count.
-/

namespace TerraLint.Yaml

open Text

/-- A value. -/
inductive Value where
  | null
  | bool (value : Bool)
  | integer (value : Int)
  | real (value : Double)
  | string (text : List Char)
  | sequence (items : List Value)
  | mapping (entries : List (Value × Value))
  | tagged (tag : List Nat) (value : Value)

namespace Value

/-- Whether two doubles are equal; non-numbers are. -/
def sameReal (a b : Double) : Bool := (a.isNaN && b.isNaN) || a.toFloat == b.toFloat

mutual

/-- Whether two values are equal. -/
def same : Value → Value → Bool
  | .null, .null => true
  | .bool a, .bool b => a == b
  | .integer a, .integer b => a == b
  | .real a, .real b => sameReal a b
  | .string a, .string b => a == b
  | .sequence as, .sequence bs => sameItems as bs
  | .mapping as, .mapping bs => as.length == bs.length && allIn as bs
  | .tagged s a, .tagged t b => s == t && a.same b
  | _, _ => false

/-- Whether two lists of values are equal. -/
def sameItems : List Value → List Value → Bool
  | [], [] => true
  | a :: as, b :: bs => a.same b && sameItems as bs
  | _, _ => false

/-- Whether each entry is equal to one of others. -/
def allIn : List (Value × Value) → List (Value × Value) → Bool
  | [], _ => true
  | (k, v) :: rest, others =>
    (others.any fun (k', v') => k.same k' && v.same v') && allIn rest others

end

/-! ## Scalars -/

/-- Whether a text writes null. -/
def isNull (text : List Char) : Bool :=
  ["null", "Null", "NULL", "~"].any fun word => word.toList == text

/-- The boolean that a text writes. -/
def bool? (text : List Char) : Option Bool :=
  if ["true", "True", "TRUE"].any fun word => word.toList == text then some true
  else if ["false", "False", "FALSE"].any fun word => word.toList == text then some false
  else none

/-- Whether a text is a sequence of digits with a zero before others: no number is written so. -/
def hasLeadingZero (text : List Char) : Bool :=
  let digits := match text with
    | '-' :: rest | '+' :: rest => rest
    | _ => text
  1 < digits.length && digits.head? == some '0' && digits.all Char.isDigit

/-- The number that digits of a base write. -/
def digits? (base : Nat) (digits : List Char) : Option Nat :=
  if digits.isEmpty then none
  else
    digits.foldlM (fun n c => do
      let d ← hexDigit c
      if d < base then some (n * base + d) else none) 0

/-- The size that a text without sign writes: in base sixteen, eight or two after a mark, else in
base ten. -/
def magnitude? (text : List Char) : Option Nat :=
  match text with
  | '0' :: 'x' :: rest => digits? 16 rest
  | '0' :: 'o' :: rest => digits? 8 rest
  | '0' :: 'b' :: rest => digits? 2 rest
  | _ => digits? 10 text

/-- The integer that a text writes. -/
def integer? (text : List Char) : Option Int :=
  if hasLeadingZero text then none
  else
    match text with
    | '-' :: rest => (magnitude? rest).map fun n => -(n : Int)
    | '+' :: rest => (magnitude? rest).map fun n => (n : Int)
    | _ => (magnitude? text).map fun n => (n : Int)

/-- Whether an integer fits into as many bits, signed or unsigned. -/
def fits (bits : Nat) (i : Int) : Bool :=
  -(Nat.pow 2 (bits - 1) : Int) ≤ i && i < (Nat.pow 2 bits : Int)

/-- The power of ten that an exponent writes; zero where there is none. -/
def power? (cs : List Char) : Option Int :=
  match cs with
  | [] => some 0
  | c :: rest =>
    if c = 'e' ∨ c = 'E' then
      match rest with
      | '-' :: digits => (digits? 10 digits).map fun n => -(n : Int)
      | '+' :: digits => (digits? 10 digits).map fun n => (n : Int)
      | digits => (digits? 10 digits).map fun n => (n : Int)
    else none

/-- The double that a text without sign writes: digits with a point among them or not, and an
exponent or not. -/
def decimal? (text : List Char) : Option Double :=
  let (whole, rest) := text.span Char.isDigit
  let (fraction, rest) := match rest with
    | '.' :: rest => rest.span Char.isDigit
    | _ => ([], rest)
  if whole.isEmpty && fraction.isEmpty then none
  else do
    let power ← power? rest
    let d := Double.ofDecimal (decimalNumber (whole ++ fraction)) (power - fraction.length)
    if d.isFinite then some d else none

/-- Whether a text writes infinity. -/
def isInfinity (text : List Char) : Bool :=
  [".inf", ".Inf", ".INF"].any fun word => word.toList == text

/-- Whether a text writes a non-number. -/
def isNotNumber (text : List Char) : Bool :=
  [".nan", ".NaN", ".NAN"].any fun word => word.toList == text

/-- The infinite double. -/
def infinity : Double := ⟨0x7FF0000000000000⟩

/-- The double that a text writes. -/
def real? (text : List Char) : Option Double :=
  if isNotNumber text then some ⟨0x7FF8000000000000⟩
  else
    match text with
    | '-' :: rest => if isInfinity rest then some infinity.neg else (decimal? rest).map Double.neg
    | '+' :: rest => if isInfinity rest then some infinity else decimal? rest
    | _ => if isInfinity text then some infinity else decimal? text

/-- The value of an integer that a text writes; the outer option is none if it writes none. -/
def ofInteger? (text : List Char) : Option (Option Value) :=
  match integer? text with
  | none => none
  | some i =>
    if fits 64 i then some (some (.integer i))
    else if fits 128 i then some none
    else none

/-- The value of a plain scalar without tag. -/
def ofPlain? (text : List Char) : Option Value :=
  if text.isEmpty || isNull text then some .null
  else
    match bool? text with
    | some b => some (.bool b)
    | none =>
      match ofInteger? text with
      | some v => v
      | none =>
        match if hasLeadingZero text then none else real? text with
        | some d => some (.real d)
        | none => some (.string text)

end Value

end TerraLint.Yaml
