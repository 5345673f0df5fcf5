import TerraLint.Number.Double

/-!
# Decimal numbers in double arithmetic

A decimal number is its leading digits, as many as fit into 64 bits, and a power of ten. Both are
doubles, and so is their product, with the rounding that this brings: a number close to the largest
double may be out of range.

* `Decimal.ofDigits`: the leading digits of a number.
* `Decimal.toDouble?`: the double, unless it is out of range.
-/

namespace TerraLint.Json

/-- The number `significand · 10 ^ power`. -/
structure Decimal where
  /-- The leading digits. -/
  significand : Nat
  /-- The power of ten. -/
  power : Int
deriving DecidableEq, Repr

namespace Decimal

/-- The number with one more digit, if that fits into 64 bits. -/
def push? (significand : Nat) (digit : Char) : Option Nat :=
  let next := 10 * significand + (digit.toNat - '0'.toNat)
  if next < Nat.pow 2 64 then some next else none

/-- The longest start of some digits that fits after others, and how many digits are left. -/
def extend (significand : Nat) : List Char → Nat × Nat
  | [] => (significand, 0)
  | digit :: rest =>
    match push? significand digit with
    | some next => extend next rest
    | none => (significand, rest.length + 1)

/-- The number with the given digits before and after the point and the given exponent. Digits that
do not fit are zeros. -/
def ofDigits (whole fraction : List Char) (exponent : Int) : Decimal :=
  let (significand, left) := extend 0 whole
  let (significand, unread) := extend significand fraction
  ⟨significand, exponent + left - (fraction.length - unread)⟩

/-- A power of ten as a double. -/
def tenTo (n : Nat) : Float := Float.ofScientific 1 false n

/-- The double that a number is; nothing if it is out of range. Division by a large power of ten is
done in two steps, and more steps would always end at zero. -/
def toDouble? (d : Decimal) : Option Double :=
  let f := Float.ofNat d.significand
  let size := d.power.natAbs
  if d.significand = 0 then some (.ofFloat f)
  else if d.power ≤ 0 then
    if size ≤ 308 then some (.ofFloat (f / tenTo size))
    else if size ≤ 616 then some (.ofFloat (f / tenTo 308 / tenTo (size - 308)))
    else some (.ofFloat 0)
  else if 308 < size then none
  else
    let product := Double.ofFloat (f * tenTo size)
    if product.isFinite then some product else none

end Decimal

end TerraLint.Json
