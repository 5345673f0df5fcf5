/-!
# Double precision numbers

A double is kept as its 64 bits, so that two of them are equal exactly when they are the same
number with the same sign. A finite double is `mantissa · 2 ^ exponent` with the sign of its top
bit.

* `ofDecimal`: the double nearest to a decimal number.
* `remainder`: the exact remainder of a division truncated toward zero.
-/

namespace TerraLint

/-- A double precision number, as its bits. -/
structure Double where
  /-- Sign, eleven bits of exponent, fifty-two bits of fraction. -/
  bits : UInt64
deriving DecidableEq, Repr

namespace Double

/-- The double that holds a machine number. -/
def ofFloat (f : Float) : Double := ⟨f.toBits⟩

/-- The machine number a double holds. -/
def toFloat (d : Double) : Float := Float.ofBits d.bits

/-- Whether the sign is negative; zero has a sign too. -/
def isNegative (d : Double) : Bool := d.bits.toNat / Nat.pow 2 63 == 1

/-- The biased exponent. -/
def biased (d : Double) : Nat := d.bits.toNat / Nat.pow 2 52 % Nat.pow 2 11

/-- The fraction bits. -/
def fraction (d : Double) : Nat := d.bits.toNat % Nat.pow 2 52

/-- Neither infinite nor a non-number. -/
def isFinite (d : Double) : Bool := d.biased != 2047

/-- The non-numbers. -/
def isNaN (d : Double) : Bool := d.biased == 2047 && d.fraction != 0

/-- The integral factor of a finite double. -/
def mantissa (d : Double) : Nat := if d.biased = 0 then d.fraction else d.fraction + Nat.pow 2 52

/-- The power of two of a finite double. -/
def exponent (d : Double) : Int := if d.biased = 0 then -1074 else (d.biased : Int) - 1075

/-- The integer that a finite double is, if it is one. -/
def toInt? (d : Double) : Option Int :=
  if d.isFinite then
    let size : Option Nat :=
      if 0 ≤ d.exponent then some (d.mantissa * Nat.pow 2 d.exponent.toNat)
      else if d.mantissa % Nat.pow 2 (-d.exponent).toNat = 0 then
        some (d.mantissa / Nat.pow 2 (-d.exponent).toNat)
      else none
    size.map fun n => if d.isNegative then -(n : Int) else n
  else none

/-- The double nearest to an integer. -/
def ofInt (i : Int) : Double := ofFloat (Float.ofInt i)

/-- The double with the other sign. -/
def neg (d : Double) : Double := ofFloat (-d.toFloat)

/-- The double nearest to `digits · 10 ^ power`; infinite when that is out of range. -/
def ofDecimal (digits : Nat) (power : Int) : Double :=
  let magnitude := (Nat.toDigits 10 digits).length + power
  if digits = 0 ∨ magnitude < -330 then ofFloat 0
  else if 310 < magnitude then ⟨0x7FF0000000000000⟩
  else ofFloat (Float.ofScientific digits (power < 0) power.natAbs)

/-- The remainder of a division truncated toward zero, with the sign of the dividend. It is exact:
both operands are brought to one power of two. -/
def remainder (a b : Double) : Double :=
  if !a.isFinite || b.isNaN || (b.isFinite && b.mantissa == 0) then ofFloat (0 / 0)
  else if !b.isFinite then a
  else
    let power := min a.exponent b.exponent
    let x := a.mantissa * Nat.pow 2 (a.exponent - power).toNat
    let y := b.mantissa * Nat.pow 2 (b.exponent - power).toNat
    let size := Float.scaleB (Float.ofNat (x % y)) power
    if a.isNegative then ofFloat (-size) else ofFloat size

end Double

end TerraLint
