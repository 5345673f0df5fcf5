import TerraLint.Regex.CharSet

/-!
# Regular expressions

A regular expression is matched against a text by the positions at which a match may stand: from a
set of positions it leads to the set of all positions after a match. Every position is visited at
most once in a repetition, so matching ends.

* `Regex.advance`: the positions after a match.
* `Regex.occursIn`: whether an expression matches somewhere in a text.
-/

namespace TerraLint.Regex

/-- What is demanded of a position. Where it is about words, `unicode` tells whether their
characters are those of Unicode or those of ASCII; where it is about lines, `returns` tells whether
carriage returns end them. -/
inductive Assertion where
  | textStart
  | textEnd
  | lineStart (returns : Bool)
  | lineEnd (returns : Bool)
  | boundary (unicode : Bool)
  | noBoundary (unicode : Bool)
  | wordStart (unicode : Bool)
  | wordEnd (unicode : Bool)
  | noWordBefore (unicode : Bool)
  | noWordAfter (unicode : Bool)
deriving DecidableEq, Repr

/-- Whether the character at a position, if there is one, satisfies a predicate. -/
def isAt (text : List Char) (p : Nat) (test : Char → Bool) : Bool := text[p]?.any test

/-- Whether the character before a position, if there is one, satisfies a predicate. -/
def isBefore (text : List Char) (p : Nat) (test : Char → Bool) : Bool :=
  0 < p && isAt text (p - 1) test

namespace Assertion

/-- Whether a word goes on before a position. -/
def wordBefore (text : List Char) (p : Nat) (unicode : Bool) : Bool :=
  isBefore text p (BasicClass.word.members unicode).has

/-- Whether a word goes on after a position. -/
def wordAfter (text : List Char) (p : Nat) (unicode : Bool) : Bool :=
  isAt text p (BasicClass.word.members unicode).has

/-- Whether a position of a text satisfies an assertion. -/
def holds (text : List Char) (p : Nat) : Assertion → Bool
  | .textStart => p == 0
  | .textEnd => p == text.length
  | .lineStart false => p == 0 || isBefore text p (· == '\n')
  | .lineStart true =>
    p == 0 || isBefore text p (· == '\n') || (isBefore text p (· == '\r') && !isAt text p (· == '\n'))
  | .lineEnd false => p == text.length || isAt text p (· == '\n')
  | .lineEnd true =>
    p == text.length || isAt text p (· == '\r') ||
      (isAt text p (· == '\n') && !isBefore text p (· == '\r'))
  | .boundary unicode => wordBefore text p unicode != wordAfter text p unicode
  | .noBoundary unicode => wordBefore text p unicode == wordAfter text p unicode
  | .wordStart unicode => !wordBefore text p unicode && wordAfter text p unicode
  | .wordEnd unicode => wordBefore text p unicode && !wordAfter text p unicode
  | .noWordBefore unicode => !wordBefore text p unicode
  | .noWordAfter unicode => !wordAfter text p unicode

end Assertion

end Regex

/-- A regular expression. A group matches what is inside it; its number is kept, but nothing refers to
it. -/
inductive Regex where
  | empty
  | literal (cs : List Char)
  | set (s : Regex.CharSet)
  | assert (a : Regex.Assertion)
  | capture (index : Nat) (r : Regex)
  | seq (a b : Regex)
  | alt (a b : Regex)
  /-- At least `least` times, and at most `most` times if there is a bound; as often as possible if
  `greedy`, which changes no answer to whether there is a match. -/
  | times (r : Regex) (least : Nat) (most : Option Nat) (greedy : Bool)
deriving DecidableEq, Repr

namespace Regex

/-- Takes a step `n` times, or until it changes nothing. -/
def iterate (step : List Nat → List Nat) : Nat → List Nat → List Nat
  | 0, ps => ps
  | n + 1, ps =>
    let next := step ps
    if next = ps then ps else iterate step n next

/-- Adds the positions that at most `n` steps lead to. -/
def grow (step : List Nat → List Nat) : Nat → List Nat → List Nat
  | 0, ps => ps
  | n + 1, ps =>
    let next := (ps ++ step ps).eraseDups
    if next.length = ps.length then ps else grow step n next

/-- The positions after a match that starts at one of some positions. -/
def advance (text : List Char) : Regex → List Nat → List Nat
  | .empty, ps => ps
  | .literal cs, ps => (ps.filter fun p => cs.isPrefixOf (text.drop p)).map (· + cs.length)
  | .set s, ps => (ps.filter fun p => isAt text p s.has).map (· + 1)
  | .assert a, ps => ps.filter fun p => a.holds text p
  | .capture _ r, ps => r.advance text ps
  | .seq a b, ps => b.advance text (a.advance text ps)
  | .alt a b, ps => (a.advance text ps ++ b.advance text ps).eraseDups
  | .times r least most _, ps =>
    let more := match most with
      | none => text.length + 1
      | some n => n - least
    grow (r.advance text) more (iterate (r.advance text) least ps).eraseDups

/-- Whether an expression matches somewhere in a text. -/
def occursIn (r : Regex) (text : List Char) : Bool :=
  !(r.advance text (List.range (text.length + 1))).isEmpty

end Regex

end TerraLint
