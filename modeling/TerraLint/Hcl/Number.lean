import TerraLint.Number.Double

/-!
# Numbers of the configuration language

A number is an unsigned integer of sixty-four bits, a signed one, or a double. Reading gives an
unsigned integer unless the number is negative, and a double without a fraction that fits is kept
as an integer, so that `1.0` and `1` are the same number.

Two integers of one kind are combined as such and the result keeps their kind, so that a remainder
of negative integers is signed even when it is zero. Any other pair is combined as doubles, and a
division always is.
-/

namespace TerraLint.Hcl

/-- A number. -/
inductive Number where
  /-- An integer from `0` to `2^64 - 1`. -/
  | unsigned (n : Nat)
  /-- An integer from `-2^63` to `2^63 - 1`. -/
  | signed (i : Int)
  | real (d : Double)
deriving DecidableEq, Repr

namespace Number

/-- Whether an integer fits into sixty-four bits without a sign. -/
def fitsUnsigned (i : Int) : Bool := 0 ≤ i && i < (Nat.pow 2 64 : Int)

/-- Whether an integer fits into sixty-four bits with a sign. -/
def fitsSigned (i : Int) : Bool := -(Nat.pow 2 63 : Int) ≤ i && i < (Nat.pow 2 63 : Int)

/-- The number of a double. -/
def ofDouble (d : Double) : Number :=
  match d.toInt? with
  | some i =>
    if fitsUnsigned i then .unsigned i.toNat else if fitsSigned i then .signed i else .real d
  | none => .real d

/-- The unsigned number of an integer, as a double when it does not fit. -/
def ofUnsigned (i : Int) : Number :=
  if fitsUnsigned i then .unsigned i.toNat else .real (.ofInt i)

/-- The signed number of an integer, as a double when it does not fit. -/
def ofSigned (i : Int) : Number := if fitsSigned i then .signed i else .real (.ofInt i)

/-- The nearest double. -/
def toDouble : Number → Double
  | .unsigned n => .ofInt n
  | .signed i => .ofInt i
  | .real d => d

/-- The number with the other sign. The size of a signed integer is unsigned. -/
def neg : Number → Number
  | .unsigned 0 => .unsigned 0
  | .unsigned n => ofSigned (-n)
  | .signed i => .unsigned i.natAbs
  | .real d => .real d.neg

/-- Combines two numbers: as integers if both are of one kind, else as doubles. -/
def combine (exact : Int → Int → Int) (rounded : Double → Double → Double) (a b : Number) :
    Number :=
  match a, b with
  | .unsigned m, .unsigned n => ofUnsigned (exact m n)
  | .signed i, .signed j => ofSigned (exact i j)
  | _, _ => ofDouble (rounded a.toDouble b.toDouble)

/-- Lifts an operation on machine numbers to doubles. -/
def lift (f : Float → Float → Float) (a b : Double) : Double := .ofFloat (f a.toFloat b.toFloat)

/-- Sum. -/
def add : Number → Number → Number := combine (· + ·) (lift (· + ·))

/-- The signed integer with the same sixty-four bits as an unsigned one. -/
def asSigned (n : Nat) : Int := (n : Int).bmod (Nat.pow 2 64)

/-- Difference. An unsigned integer less a greater one is the difference of the signed integers
with the same bits. -/
def sub (a b : Number) : Number :=
  match a, b with
  | .unsigned m, .unsigned n =>
    if n ≤ m then .unsigned (m - n) else ofSigned (asSigned m - asSigned n)
  | a, b => combine (· - ·) (lift (· - ·)) a b

/-- Product. -/
def mul : Number → Number → Number := combine (· * ·) (lift (· * ·))

/-- Remainder, with the sign of the dividend. -/
def mod : Number → Number → Number := combine Int.tmod Double.remainder

/-- Quotient, always rounded to a double. -/
def div (a b : Number) : Number := ofDouble (lift (· / ·) a.toDouble b.toDouble)

/-- Whether two numbers are equal: as integers if both are of one kind, else as doubles. -/
def eq : Number → Number → Bool
  | .unsigned m, .unsigned n => m == n
  | .signed i, .signed j => i == j
  | a, b => a.toDouble.toFloat == b.toDouble.toFloat

/-- Whether a number is less than another. -/
def lt : Number → Number → Bool
  | .unsigned m, .unsigned n => m < n
  | .signed i, .signed j => i < j
  | a, b => a.toDouble.toFloat < b.toDouble.toFloat

/-- Whether a number is at most another. -/
def le : Number → Number → Bool
  | .unsigned m, .unsigned n => m ≤ n
  | .signed i, .signed j => i ≤ j
  | a, b => a.toDouble.toFloat ≤ b.toDouble.toFloat

end Number

end TerraLint.Hcl
