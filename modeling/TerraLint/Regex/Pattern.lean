import TerraLint.Regex.CharSet

/-!
# Patterns

A regular expression as it is written: with its options, groups and brackets, before their meaning
is known.

* `Pattern`: a written expression.
* `Pattern.depth`: how deep its groups, brackets and repetitions are nested.
-/

namespace TerraLint.Regex

/-! ## Options -/

/-- What an option changes. -/
inductive OptionName where
  | ignoreCase
  /-- `^` and `$` match at lines. -/
  | multiLine
  /-- A dot matches a line feed too. -/
  | dotAll
  /-- Carriage returns end lines too. -/
  | returns
  /-- Repetitions take as little as they can, unless a question mark follows. -/
  | swapGreed
  /-- Classes are those of Unicode, not those of ASCII. -/
  | unicode
  /-- Blanks and comments in the expression do not count. -/
  | verbose
deriving DecidableEq, Repr

/-- The option with a letter. -/
def OptionName.ofLetter? : Char → Option OptionName
  | 'i' => some .ignoreCase
  | 'm' => some .multiLine
  | 's' => some .dotAll
  | 'R' => some .returns
  | 'U' => some .swapGreed
  | 'u' => some .unicode
  | 'x' => some .verbose
  | _ => none

/-- Options that are switched on or off, in the order in which they are written. -/
abbrev OptionChanges := List (OptionName × Bool)

/-! ## Characters and classes -/

/-- A character, and whether it is written as an octet of two hexadecimal digits. -/
structure Literal where
  char : Char
  octet : Bool := false
deriving DecidableEq, Repr

/-- A class with a name, or its complement. A basic class is written with a letter of its own. -/
inductive NamedClass where
  | basic (negated : Bool) (kind : BasicClass)
  | ascii (negated : Bool) (members : CharSet)
  | property (negated : Bool) (members : CharSet)
deriving DecidableEq, Repr

/-- An operation between two parts of a class. -/
inductive SetOp where
  | inter
  | diff
  | symmDiff
deriving DecidableEq, Repr

/-- What is written between brackets: `both` is a member with the others after it. -/
inductive ClassPattern where
  | empty
  | literal (l : Literal)
  | range (low high : Literal)
  | named (c : NamedClass)
  | bracket (negated : Bool) (inner : ClassPattern)
  | both (first others : ClassPattern)
  | operation (op : SetOp) (left right : ClassPattern)
deriving DecidableEq, Repr

namespace ClassPattern

/-- The members of a list. -/
def ofList : List ClassPattern → ClassPattern
  | [] => .empty
  | [p] => p
  | p :: ps => .both p (ofList ps)

/-- How deep brackets, operations and lists of members are nested. -/
def depth : ClassPattern → Nat
  | .empty | .literal _ | .range .. | .named _ => 0
  | .bracket _ inner => inner.depth + 1
  | .both first others =>
    max (first.depth + 1) (match others with
      | .both .. => others.depth
      | _ => others.depth + 1)
  | .operation _ left right => max left.depth right.depth + 1

end ClassPattern

/-! ## Expressions -/

/-- A written position; `caret` and `dollar` are those that the options change. -/
inductive Anchor where
  | caret
  | dollar
  | textStart
  | textEnd
  | boundary
  | noBoundary
  | wordStart
  | wordEnd
  | noWordBefore
  | noWordAfter
deriving DecidableEq, Repr

/-- What a group is for: to be captured under a number, or to set options for what is inside. -/
inductive GroupKind where
  | capture (index : Nat)
  | options (changes : OptionChanges)
deriving DecidableEq, Repr

/-- A written expression. Options without a group hold for the rest of the group around them. -/
inductive Pattern where
  | empty
  | options (changes : OptionChanges)
  | literal (l : Literal)
  | dot
  | anchor (a : Anchor)
  | named (c : NamedClass)
  | bracket (negated : Bool) (inner : ClassPattern)
  /-- At least `least` times, and at most `most` times if there is a bound. -/
  | times (p : Pattern) (least : Nat) (most : Option Nat) (lazy : Bool)
  | group (kind : GroupKind) (p : Pattern)
  | seq (first others : Pattern)
  | alt (first others : Pattern)
deriving DecidableEq, Repr

namespace Pattern

/-- A sequence of parts. -/
def sequence : List Pattern → Pattern
  | [] => .empty
  | [p] => p
  | p :: ps => .seq p (sequence ps)

/-- A choice between alternatives. -/
def choice : List Pattern → Pattern
  | [] => .empty
  | [p] => p
  | p :: ps => .alt p (choice ps)

/-- Whether a repetition may follow: something to repeat is written. -/
def isRepeatable : Pattern → Bool
  | .empty | .options _ => false
  | _ => true

/-- How deep groups, repetitions, sequences, choices and brackets are nested. -/
def depth : Pattern → Nat
  | .empty | .options _ | .literal _ | .dot | .anchor _ | .named _ => 0
  | .bracket _ inner => inner.depth + 1
  | .times p .. | .group _ p => p.depth + 1
  | .seq first others =>
    max (first.depth + 1) (match others with
      | .seq .. => others.depth
      | _ => others.depth + 1)
  | .alt first others =>
    max (first.depth + 1) (match others with
      | .alt .. => others.depth
      | _ => others.depth + 1)

end Pattern

end TerraLint.Regex
