import TerraLint.Unicode.Intervals

/-!
# Characters as octets

A character is written as one to four octets. The characters of an interval are written as sequences
of octets that lie in ranges; an interval is cut into pieces for which the ranges of the octets do
not depend on each other.

* `utf8Octets`: the octets of a character.
* `isUtf8`: whether octets write characters.
* `Intervals.octetRanges`: the sequences of ranges of octets that write the characters of a set.
-/

namespace TerraLint.Unicode

/-- The number of octets that write a character. -/
def utf8Length (n : Nat) : Nat :=
  if n < 0x80 then 1 else if n < 0x800 then 2 else if n < 0x10000 then 3 else 4

/-- The octets that write a character. -/
def utf8Octets (n : Nat) : List Nat :=
  let tail (k : Nat) := 0x80 + n / Nat.pow 64 k % 64
  match utf8Length n with
  | 1 => [n]
  | 2 => [0xC0 + n / 64, tail 0]
  | 3 => [0xE0 + n / 4096, tail 1, tail 0]
  | _ => [0xF0 + n / 262144, tail 2, tail 1, tail 0]

/-- Cuts the interval from `low` to `high` where blocks of `block` code points start, then its inner
part where larger blocks start, so often as there are `levels`. -/
def cutAtBlocks : Nat → Nat → Nat → Nat → Intervals
  | 0, _, low, high => [(low, high)]
  | levels + 1, block, low, high =>
    if low / block = high / block then [(low, high)]
    else
      let first := (low + block - 1) / block * block
      let last := (high + 1) / block * block
      let head := if low < first then [(low, first - 1)] else []
      let inner := if first < last then cutAtBlocks levels (block * 64) first (last - 1) else []
      let tail := if last ≤ high then [(last, high)] else []
      head ++ inner ++ tail

/-- The characters that are written with the same number of octets. -/
def utf8Classes : Intervals := [(0, 0x7F), (0x80, 0x7FF), (0x800, 0xFFFF), (0x10000, 0x10FFFF)]

/-- Cuts an interval into pieces whose characters are written by sequences of ranges of octets. -/
def cutForOctets (low high : Nat) : Intervals :=
  utf8Classes.flatMap fun (first, last) =>
    let low := max low first
    let high := min high last
    if high < low then []
    else if last < 0x80 then [(low, high)]
    else cutAtBlocks 3 64 low high

/-- A sequence of ranges of octets. -/
abbrev OctetRanges := List (Nat × Nat)

/-- The ranges of the octets that follow the first octet of a character; nothing if no character
starts with it. -/
def laterOctets? (first : Nat) : Option OctetRanges :=
  let tail := (0x80, 0xBF)
  if first < 0x80 then some []
  else if first < 0xC2 then none
  else if first < 0xE0 then some [tail]
  else if first = 0xE0 then some [(0xA0, 0xBF), tail]
  else if first = 0xED then some [(0x80, 0x9F), tail]
  else if first < 0xF0 then some [tail, tail]
  else if first = 0xF0 then some [(0x90, 0xBF), tail, tail]
  else if first < 0xF4 then some [tail, tail, tail]
  else if first = 0xF4 then some [(0x80, 0x8F), tail, tail]
  else none

/-- Whether octets complete a character of which octets in some ranges are still to come, and write
characters after it. -/
def isUtf8After : OctetRanges → List Nat → Bool
  | [], [] => true
  | _ :: _, [] => false
  | [], first :: rest => (laterOctets? first).any fun later => isUtf8After later rest
  | (low, high) :: later, octet :: rest =>
    low ≤ octet && octet ≤ high && isUtf8After later rest

/-- Whether octets write characters. -/
def isUtf8 (octets : List Nat) : Bool := isUtf8After [] octets

/-- The sequences of ranges of octets that write the characters of a set, in order. -/
def Intervals.octetRanges (s : Intervals) : List OctetRanges :=
  (s.flatMap fun (low, high) => cutForOctets low high).map fun (low, high) =>
    (utf8Octets low).zip (utf8Octets high)

end TerraLint.Unicode
