import Std.Data.HashMap
import TerraLint.Regex.Meaning
import TerraLint.Regex.Parser
import TerraLint.Regex.Simplify

/-!
# The size of expressions

An expression is matched by an automaton over octets. Its size is bounded, in the direction of
reading and against it. The automaton itself is not built; only the order in which its states are
added and the octets that they take are worked out. A state takes thirty-two octets, a transition of
a state with several ones eight, and each way out of a branching four.

* `Plan`: the order in which states are added.
* `Plan.measure`: the size of the automaton, unless it is too large.
* `Regex.fits`: whether an expression keeps to the bound.
* `Regex.parse?`: the expression that a text writes.
-/

namespace TerraLint.Regex

open Unicode

/-! ## Sets of characters as octets -/

/-- Sequences of ranges of octets with what they have in common at the start written once: the ways
to go on from a state. -/
inductive OctetTree where
  | done
  /-- A range of octets, the ways to go on after it, and the other ways. -/
  | branch (low high : Nat) (after others : OctetTree)

namespace OctetTree

/-- The tree of one sequence. -/
def ofRanges : OctetRanges → OctetTree
  | [] => .done
  | (low, high) :: rest => .branch low high (ofRanges rest) .done

/-- Adds a sequence after the others. -/
def add (ranges : OctetRanges) : OctetTree → OctetTree
  | .done => ofRanges ranges
  | .branch low high after others =>
    match ranges with
    | [] => .branch low high after others
    | range :: rest =>
      if range = (low, high) then .branch low high (after.add rest) others
      else .branch low high after (others.add ranges)

/-- The tree of some sequences. -/
def ofList (sequences : List OctetRanges) : OctetTree :=
  sequences.foldl (fun tree ranges => tree.add ranges) .done

end OctetTree

/-! ## Sharing states -/

/-- The states that were added: how many, what they take, and those to be shared. A state is looked
up in the one slot that its transitions lead to, and gives way to the next one there. -/
structure Sharing where
  /-- How many states were added. -/
  states : Nat
  /-- What they take. -/
  octets : Nat
  /-- The states to be shared, each with its transitions, by slot. -/
  slots : Std.HashMap UInt64 (List Nat × Nat)

namespace Sharing

/-- Mixes numbers into one. -/
def mix (numbers : List Nat) : UInt64 :=
  numbers.foldl (fun h n => (h ^^^ n.toUInt64) * 1099511628211) 14695981039346656037

/-- Adds a state, to be found in a slot. -/
def insert (slot : UInt64) (size : Nat) (transitions : List Nat) : Sharing → Nat × Sharing
  | ⟨states, octets, slots⟩ =>
    (states, ⟨states + 1, octets + size, slots.insert slot (transitions, states)⟩)

/-- The number of the state with some transitions. If it is not in its slot, it is added. -/
def find (capacity : UInt64) (size : Nat) (transitions : List Nat) (s : Sharing) : Nat × Sharing :=
  let slot := mix transitions % capacity
  match s.slots[slot]? with
  | some (known, state) =>
    if known = transitions then (state, s) else s.insert slot size transitions
  | none => s.insert slot size transitions

/-- Adds the states of a tree, those at its ends first, where `target` is the state after all.
Yields the transitions of its first state. -/
def addTree (target : Nat) : OctetTree → Sharing → List Nat × Sharing
  | .done, s => ([], s)
  | .branch low high after others, s =>
    let (state, s) := match after with
      | .done => (target, s)
      | after =>
        let (transitions, s) := addTree target after s
        s.find 10000 (32 + 8 * (transitions.length / 3)) transitions
    let (transitions, s) := addTree target others s
    (low :: high :: state :: transitions, s)

/-- Adds the states of a sequence of ranges of octets that is read against its direction, where
`target` is the state after all. -/
def addRanges (target : Nat) : OctetRanges → Sharing → Nat × Sharing
  | [], s => (target, s)
  | (low, high) :: rest, s =>
    let (state, s) := s.find 1000 32 [target, low, high]
    addRanges state rest s

end Sharing

/-! ## Literals -/

/-- Texts by their first octet: the rests of those with the same one, in the order of the texts. -/
def insertByHead (head : Nat) (tail : List Nat) :
    List (Nat × List (List Nat)) → List (Nat × List (List Nat))
  | [] => [(head, [tail])]
  | (other, tails) :: groups =>
    if other = head then (other, tails ++ [tail]) :: groups
    else (other, tails) :: insertByHead head tail groups

/-- Cuts texts where one is empty, and groups each piece by its first octets. What comes first is
the last piece. -/
def groupTexts (texts : List (List Nat)) : List (List (Nat × List (List Nat))) :=
  texts.foldl (fun pieces text =>
    match text, pieces with
    | [], [[], []] => pieces
    | [], pieces => [] :: pieces
    | head :: tail, piece :: pieces => insertByHead head tail piece :: pieces
    | head :: tail, [] => [[(head, [tail])]]) [[]]

/-- The number of states that tell texts apart by their octets, and the octets that their
transitions take. Texts are at most as long as the first argument. -/
def literalStates : Nat → List (List Nat) → Nat × Nat
  | 0, _ => (0, 0)
  | n + 1, texts =>
    if texts.all List.isEmpty then (0, 0)
    else
      let pieces := groupTexts texts
      let filled := pieces.filter fun piece => !piece.isEmpty
      let own := (filled.length + 1, 4 * (filled.length + pieces.length - 1) +
        (filled.map fun piece => if piece.length = 1 then 0 else 8 * piece.length).sum)
      (filled.flatten.map fun (_, tails) => literalStates n tails).foldl
        (fun (states, octets) (more, moreOctets) => (states + more, octets + moreOctets)) own

/-! ## Plans -/

/-- Whether an automaton reads a text from its start or from its end. -/
inductive Direction where
  | forward
  | backward
deriving DecidableEq, Repr

/-- The order in which the states of an automaton are added. -/
inductive Plan where
  /-- Some states, and the octets that their transitions take beyond the states themselves. -/
  | states (count extra : Nat)
  /-- The states that read a character forward. -/
  | tree (t : OctetTree)
  /-- The states that read a character backward. -/
  | chains (sequences : List OctetRanges)
  | both (first second : Plan)
  | copies (n : Nat) (p : Plan)

namespace Plan

/-- A state with one way out. -/
def one : Plan := .states 1 0

/-- A state with two ways out. -/
def fork : Plan := .states 1 8

/-- Plans, one after the other. -/
def all (ps : List Plan) : Plan := ps.foldr .both (.states 0 0)

/-- The plan for a character of a set. -/
def ofSet (d : Direction) (s : CharSet) : Plan :=
  if s.isAscii then .states 2 (8 * s.length)
  else
    match d with
    | .forward => .tree (OctetTree.ofList s.octetRanges)
    | .backward => .chains s.octetRanges

/-- The octets that write some characters. -/
def octets (cs : List Char) : List Nat := cs.flatMap fun c => utf8Octets c.toNat

/-- The plan for a choice between literals. -/
def ofLiterals (d : Direction) (literals : List (List Char)) : Plan :=
  let texts := literals.map fun cs =>
    match d with
    | .forward => octets cs
    | .backward => (octets cs).reverse
  let (count, extra) := literalStates ((texts.map List.length).foldl max 0 + 1) texts
  .states (count + 1) extra

/-- What follows an alternative, where `k` stand before it: after the second one, the state that
branches and the one in which the alternatives meet. -/
def closeAlternative (k : Nat) (p : Plan) : Plan :=
  match k with
  | 0 => p
  | 1 => .both p (.states 2 8)
  | _ => .both p (.states 0 4)

/-- The plan for a repetition of a part, where `advances` tells whether each match of the part has
some length. -/
def repetition (advances : Bool) (least : Nat) (most : Option Nat) (p : Plan) : Plan :=
  match least, most with
  | 0, some 1 => all [fork, p, one]
  | 0, none => if advances then .both fork p else all [p, fork, fork, one]
  | n, none => .both (.copies n p) fork
  | n, some m =>
    let needed := if n = 0 then one else .copies n p
    if n = m then needed else all [needed, one, .copies (m - n) (.both fork p)]

end Plan

/-- The characters of an expression that is a literal. -/
def literal? : Regex → Option (List Char)
  | .literal cs => some cs
  | _ => none

/-- The plan for an expression, as the alternative of a choice before which `k` others stand. -/
def planAfter (d : Direction) : Nat → Regex → Plan
  | k, .empty | k, .assert _ => .closeAlternative k .one
  | k, .literal cs => .closeAlternative k (.states (Plan.octets cs).length 0)
  | k, .set s => .closeAlternative k (.ofSet d s)
  | k, .capture _ r =>
    let inner := planAfter d 0 r
    .closeAlternative k (if d = .forward then .all [.one, inner, .one] else inner)
  | k, .seq a b =>
    let first := planAfter d 0 a
    let second := planAfter d 0 b
    .closeAlternative k (if d = .forward then .both first second else .both second first)
  | k, .alt a b =>
    match (a :: b.alternatives).mapM literal? with
    | some literals =>
      if k = 0 then .ofLiterals d literals
      else .both (.closeAlternative k (planAfter d 0 a)) (planAfter d (k + 1) b)
    | none => .both (.closeAlternative k (planAfter d 0 a)) (planAfter d (k + 1) b)
  | k, .times r least most _ =>
    let advances := r.minLength.any (0 < ·)
    .closeAlternative k (.repetition advances least most (planAfter d 0 r))

/-- The plan for the automaton of an expression. Unless every match is bound to the end of the text
at which reading starts, the automaton may first skip octets. -/
def plan (d : Direction) (r : Regex) : Plan :=
  match d with
  | .forward =>
    .all [if r.startsText then .one else .states 3 16, .one, planAfter d 0 r, .one, .one]
  | .backward => .all [if r.endsText then .one else .states 3 16, planAfter d 0 r, .one]

/-! ## Measuring -/

/-- How many states were added, and what they take. -/
structure Tally where
  states : Nat
  /-- What they take. -/
  octets : Nat
deriving DecidableEq, Repr

/-- What an automaton may take. -/
def maxOctets : Nat := 10 * 1024 * 1024

namespace Tally

/-- A tally, unless it is too large. -/
def check (t : Tally) : Option Tally := if t.octets ≤ maxOctets then some t else none

/-- Adds the states of a tree of ranges of octets. -/
def addTree (ways : OctetTree) (t : Tally) : Tally :=
  let (transitions, s) := Sharing.addTree t.states ways ⟨t.states + 1, t.octets + 32, ∅⟩
  let (_, s) := s.find 10000 (32 + 8 * (transitions.length / 3)) transitions
  ⟨s.states, s.octets⟩

/-- Adds the states of sequences of ranges of octets that are read backward. -/
def addChains (sequences : List OctetRanges) (t : Tally) : Tally :=
  let start : Sharing := ⟨t.states + 2, t.octets + 64, ∅⟩
  let s := sequences.foldl (fun s ranges => (s.addRanges (t.states + 1) ranges).2) start
  ⟨s.states, s.octets + 4 * sequences.length⟩

/-- Takes a step `n` times, as long as it succeeds. -/
def times (step : Tally → Option Tally) : Nat → Tally → Option Tally
  | 0, t => some t
  | n + 1, t => (step t).bind (times step n)

end Tally

/-- What is added to a tally, unless it becomes too large. -/
def Plan.measure : Plan → Tally → Option Tally
  | .states count extra, t => Tally.check ⟨t.states + count, t.octets + 32 * count + extra⟩
  | .tree ways, t => (t.addTree ways).check
  | .chains sequences, t => (t.addChains sequences).check
  | .both first second, t => (first.measure t).bind second.measure
  | .copies n p, t => Tally.times (fun t => p.measure t) n t

/-- Whether the automata of an expression are small enough. -/
def fits (r : Regex) : Bool :=
  ((plan .backward r).measure ⟨0, 0⟩).isSome && ((plan .forward r).measure ⟨0, 0⟩).isSome

/-! ## Texts as expressions -/

/-- The expression that a text writes, unless its automaton is too large. -/
def parse? (text : List Char) : Option Regex := do
  let r ← (← Pattern.parse? text).regex?
  if r.fits then some r else none

end TerraLint.Regex
