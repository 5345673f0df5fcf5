import TerraLint.Regex.Basic
import TerraLint.Unicode.Utf8

/-!
# Simplified expressions

Expressions are put together in a form without what has no effect: sequences and choices are flat,
characters next to each other are one literal, a choice between characters is a set, and what all
alternatives start with is written once.

* `Regex.concat`, `Regex.choice`, `Regex.repeated`, `Regex.ofSet`: the ways to put expressions
  together.
* `Regex.minLength`, `Regex.maxLength`: the bounds of the length of a match.
-/

namespace TerraLint.Regex

open Unicode

/-! ## Lengths -/

/-- The number of octets of the shortest match. There is none where some part matches nothing. -/
def minLength : Regex → Option Nat
  | .empty | .assert _ => some 0
  | .literal cs => some (cs.map (utf8Length ·.toNat)).sum
  | .set s => s.head?.map fun (low, _) => utf8Length low
  | .capture _ r => r.minLength
  | .seq a b => return (← a.minLength) + (← b.minLength)
  | .alt a b => return min (← a.minLength) (← b.minLength)
  | .times r least _ _ => r.minLength.map (least * ·)

/-- The number of octets of the longest match. There is none where there is no bound or some part
matches nothing. -/
def maxLength : Regex → Option Nat
  | .empty | .assert _ => some 0
  | .literal cs => some (cs.map (utf8Length ·.toNat)).sum
  | .set s => s.getLast?.map fun (_, high) => utf8Length high
  | .capture _ r => r.maxLength
  | .seq a b => return (← a.maxLength) + (← b.maxLength)
  | .alt a b => return max (← a.maxLength) (← b.maxLength)
  | .times r _ most _ => return (← most) * (← r.maxLength)

/-- Whether every match starts at the start of the text. -/
def startsText : Regex → Bool
  | .empty | .literal _ | .set _ => false
  | .assert a => a == .textStart
  | .capture _ r => r.startsText
  | .seq a b => a.startsText || (a.maxLength == some 0 && b.startsText)
  | .alt a b => a.startsText && b.startsText
  | .times r least _ _ => 0 < least && r.startsText

/-- Whether every match ends at the end of the text. -/
def endsText : Regex → Bool
  | .empty | .literal _ | .set _ => false
  | .assert a => a == .textEnd
  | .capture _ r => r.endsText
  | .seq a b => b.endsText || (b.maxLength == some 0 && a.endsText)
  | .alt a b => a.endsText && b.endsText
  | .times r least _ _ => 0 < least && r.endsText

/-! ## Sets and sequences -/

/-- The expression for a character of a set. -/
def ofSet (s : CharSet) : Regex :=
  match s with
  | [(low, high)] => if low = high then .literal [Char.ofNat low] else .set s
  | _ => .set s

/-- The parts of a sequence. -/
def parts : Regex → List Regex
  | .empty => []
  | .seq a b => a :: b.parts
  | r => [r]

/-- The sequence of some parts. -/
def ofParts : List Regex → Regex
  | [] => .empty
  | [r] => r
  | r :: rs => .seq r (ofParts rs)

/-- Puts a part in front of others. Two literals become one. -/
def joinPart : Regex → List Regex → List Regex
  | .literal a, .literal b :: rs => .literal (a ++ b) :: rs
  | r, rs => r :: rs

/-- One expression after the other. -/
def concat (rs : List Regex) : Regex := ofParts ((rs.flatMap parts).foldr joinPart [])

/-! ## Choices -/

/-- The alternatives of a choice. -/
def alternatives : Regex → List Regex
  | .alt a b => a :: b.alternatives
  | r => [r]

/-- The choice between some alternatives. -/
def ofAlternatives : List Regex → Regex
  | [] => .set []
  | [r] => r
  | r :: rs => .alt r (ofAlternatives rs)

/-- The character of a literal of one character. -/
def single? : Regex → Option Char
  | .literal [c] => some c
  | _ => none

/-- The set of an expression that is one. -/
def set? : Regex → Option CharSet
  | .set s => some s
  | _ => none

/-- The choice between alternatives. Single characters, or sets, become one set. -/
def merge (rs : List Regex) : Regex :=
  let rs := rs.flatMap alternatives
  if rs.length < 2 then ofAlternatives rs
  else
    match rs.mapM single?, rs.mapM set? with
    | some cs, _ => ofSet (Intervals.ofPoints (cs.map Char.toNat))
    | none, some sets => ofSet (Intervals.unions sets)
    | none, none => ofAlternatives rs

/-- The parts of an expression that is a sequence of at least two. -/
def sequence? : Regex → Option (List Regex)
  | .seq a b => some (a :: b.parts)
  | _ => none

/-- How many parts at the start of two sequences are equal. -/
def commonLength : List Regex → List Regex → Nat
  | a :: as, b :: bs => if a = b then commonLength as bs + 1 else 0
  | _, _ => 0

/-- The number of parts with which all alternatives start, if each of them is a sequence. -/
def sharedLength (rs : List Regex) : Nat :=
  match rs.mapM sequence? with
  | some (first :: others) =>
    others.foldl (fun n other => min n (commonLength first other)) first.length
  | _ => 0

/-- The choice between at least two alternatives that do not merge, with the parts that all of them
start with in front. -/
def factored (rs : List Regex) : Regex :=
  let n := sharedLength rs
  match rs with
  | first :: _ =>
    if n = 0 then ofAlternatives rs
    else concat (first.parts.take n ++ [merge (rs.map fun r => concat (r.parts.drop n))])
  | [] => .set []

/-- The choice between alternatives. -/
def choice (rs : List Regex) : Regex :=
  match rs with
  | [r] => r
  | _ =>
    match merge rs with
    | .alt a b => factored (a :: b.alternatives)
    | merged => merged

/-! ## Repetitions -/

/-- An expression at least `least` times and at most `most` times. What matches the empty text only
is repeated once at most. -/
def repeated (r : Regex) (least : Nat) (most : Option Nat) (greedy : Bool) : Regex :=
  let once := r.maxLength == some 0
  let least := if once then min least 1 else least
  let most := if once then some (min (most.getD 1) 1) else most
  if least = 0 ∧ most = some 0 then .empty
  else if least = 1 ∧ most = some 1 then r
  else .times r least most greedy

end TerraLint.Regex
