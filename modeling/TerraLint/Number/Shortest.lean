import TerraLint.Number.Double

/-!
# Shortest decimal forms

The shortest decimal of a finite double is the decimal with the fewest digits that reads back as
that double, and of those the nearest to it, the even one when two are equally near. Reading back
means lying between the midpoints to the two neighbouring doubles, the midpoints included when the
mantissa is even.

A double is written with the digits of its shortest decimal. The point is written in place while it
stands within sixteen digits or at most four zeros follow it; otherwise the number has an exponent.
-/

namespace TerraLint

/-- The number `digits · 10 ^ power`. -/
structure Decimal where
  /-- The digits as one number. -/
  digits : Nat
  power : Int
deriving DecidableEq, Repr

/-- A non-negative fraction. -/
structure Fraction where
  num : Nat
  /-- The denominator, positive. -/
  den : Nat

namespace Fraction

/-- The fraction `n · 2 ^ q`. -/
def binary (n : Nat) (q : Int) : Fraction :=
  if 0 ≤ q then ⟨n * Nat.pow 2 q.toNat, 1⟩ else ⟨n, Nat.pow 2 (-q).toNat⟩

/-- The fraction of a decimal. -/
def ofDecimal (d : Decimal) : Fraction :=
  if 0 ≤ d.power then ⟨d.digits * Nat.pow 10 d.power.toNat, 1⟩
  else ⟨d.digits, Nat.pow 10 (-d.power).toNat⟩

/-- The greatest integer `n` with `n · 10 ^ power` not above the fraction. -/
def floorAt (f : Fraction) (power : Int) : Nat :=
  if 0 ≤ power then f.num / (f.den * Nat.pow 10 power.toNat)
  else f.num * Nat.pow 10 (-power).toNat / f.den

/-- Order of fractions. -/
def lt (a b : Fraction) : Bool := a.num * b.den < b.num * a.den

/-- The distance between two fractions. -/
def distance (a b : Fraction) : Fraction :=
  ⟨((a.num * b.den : Nat) - (b.num * a.den : Nat) : Int).natAbs, a.den * b.den⟩

end Fraction

namespace Double

/-- Whether a decimal reads back as the double `d`, which is finite and not zero. -/
def readsBack (d : Double) (x : Decimal) : Bool :=
  let m := d.mantissa
  let q := d.exponent
  let low := if d.fraction = 0 ∧ 1 < d.biased then Fraction.binary (4 * m - 1) (q - 2)
    else Fraction.binary (2 * m - 1) (q - 1)
  let high := Fraction.binary (2 * m + 1) (q - 1)
  let v := Fraction.ofDecimal x
  if m % 2 = 0 then !v.lt low && !high.lt v else low.lt v && v.lt high

/-- The nearer of the two decimals on the grid of a power of ten that reads back, if one does; of
two that are equally near, the even one. -/
def onGrid (d : Double) (power : Int) : Option Decimal :=
  let value := Fraction.binary d.mantissa d.exponent
  let below : Decimal := ⟨value.floorAt power, power⟩
  let above : Decimal := ⟨below.digits + 1, power⟩
  match d.readsBack below, d.readsBack above with
  | true, true =>
    let toBelow := value.distance (.ofDecimal below)
    let toAbove := value.distance (.ofDecimal above)
    if toBelow.lt toAbove then some below
    else if toAbove.lt toBelow then some above
    else if below.digits % 2 = 0 then some below
    else some above
  | true, false => some below
  | false, true => some above
  | false, false => none

/-- The first grid with a hit, from the coarsest. -/
def firstHit (d : Double) : List Int → Option Decimal
  | [] => none
  | power :: finer => (d.onGrid power).or (d.firstHit finer)

/-- A decimal without the zeros at the end of its digits. -/
def stripZeros : Nat → Decimal → Decimal
  | 0, x => x
  | n + 1, x =>
    if x.digits ≠ 0 ∧ x.digits % 10 = 0 then stripZeros n ⟨x.digits / 10, x.power + 1⟩ else x

/-- The shortest decimal of the size of a finite double. -/
def shortest (d : Double) : Decimal :=
  if d.mantissa = 0 then ⟨0, 0⟩
  else
    let value := Fraction.binary d.mantissa d.exponent
    let whole := (value.num / value.den)
    let top : Int :=
      if 0 < whole then (Nat.toDigits 10 whole).length
      else -((Nat.toDigits 10 (value.den / value.num)).length - 1 : Int)
    let grids := (List.range 20).map fun (n : Nat) => top - (n : Int)
    match d.firstHit grids with
    | some x => stripZeros 20 x
    | none => ⟨0, 0⟩

end Double

/-! ## Decimal text -/

namespace Decimal

/-- The text of a decimal. -/
def text (x : Decimal) : String :=
  let digits := Nat.toDigits 10 x.digits
  let point : Int := digits.length + x.power
  let zeros (n : Int) := List.replicate n.toNat '0'
  if 0 ≤ x.power ∧ point ≤ 16 then String.ofList (digits ++ zeros x.power ++ ['.', '0'])
  else if 0 < point ∧ point ≤ 16 then
    String.ofList (digits.take point.toNat ++ ['.'] ++ digits.drop point.toNat)
  else if -5 < point ∧ point ≤ 0 then String.ofList (['0', '.'] ++ zeros (-point) ++ digits)
  else
    let fraction := digits.drop 1
    let mantissa := if fraction.isEmpty then digits else digits.take 1 ++ ['.'] ++ fraction
    String.ofList (mantissa ++ ['e']) ++ toString (point - 1)

end Decimal

namespace Double

/-- The text of a double. -/
def text (d : Double) : String :=
  if d.isNaN then "NaN"
  else
    let size := if d.isFinite then d.shortest.text else "inf"
    if d.isNegative then "-" ++ size else size

end Double

end TerraLint
