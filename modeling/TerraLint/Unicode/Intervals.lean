/-!
# Sets of code points

A set of code points is written as a list of closed intervals in ascending order. Surrogates are in
no set, for they are no characters.

* `Intervals.contains`: whether a code point is in a set.
* `Intervals.union`, `Intervals.complement`, `Intervals.inter`, `Intervals.diff`: the operations of
  sets. What they yield has no two intervals that touch each other.
-/

namespace TerraLint.Unicode

/-- Closed intervals of code points, in ascending order. -/
abbrev Intervals := List (Nat × Nat)

/-- The greatest code point. -/
def lastCodePoint : Nat := 0x10FFFF

namespace Intervals

/-- Whether a code point lies in one of the intervals. -/
def contains (s : Intervals) (n : Nat) : Bool := s.any fun (low, high) => low ≤ n && n ≤ high

/-- Joins the interval from `low` to `high` with the intervals after it that touch it. -/
def joinFrom (low high : Nat) : Intervals → Intervals
  | [] => [(low, high)]
  | (first, last) :: rest =>
    if first ≤ high + 1 then joinFrom low (max high last) rest
    else (low, high) :: joinFrom first last rest

/-- Joins intervals that touch each other. -/
def join : Intervals → Intervals
  | [] => []
  | (low, high) :: rest => joinFrom low high rest

/-- The code points in one of two sets. -/
def union (s t : Intervals) : Intervals := join (List.merge s t fun a b => a.1 ≤ b.1)

/-- The code points in one of some sets. -/
def unions (sets : List Intervals) : Intervals := sets.foldr union []

/-- What lies between intervals, from a code point on. -/
def gaps (start : Nat) : Intervals → Intervals
  | [] => if start ≤ lastCodePoint then [(start, lastCodePoint)] else []
  | (low, high) :: rest =>
    if start < low then (start, low - 1) :: gaps (high + 1) rest
    else gaps (max start (high + 1)) rest

/-- The code points that are no characters. -/
def surrogates : Intervals := [(0xD800, 0xDFFF)]

/-- The characters that are not in a set. -/
def complement (s : Intervals) : Intervals := gaps 0 (s.union surrogates)

/-- All characters. -/
def characters : Intervals := complement []

/-- The code points in both of two sets. -/
def inter (s t : Intervals) : Intervals := (s.complement.union t.complement).complement

/-- The code points in the first of two sets and not in the second. -/
def diff (s t : Intervals) : Intervals := s.inter t.complement

/-- The set of some code points, in any order. -/
def ofPoints (points : List Nat) : Intervals :=
  join ((points.mergeSort (· ≤ ·)).map fun n => (n, n))

/-- The characters from `low` to `high`. -/
def range (low high : Nat) : Intervals := inter [(low, high)] characters

end Intervals

end TerraLint.Unicode
