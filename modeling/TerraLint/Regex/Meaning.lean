import TerraLint.Regex.Pattern
import TerraLint.Regex.Simplify

/-!
# The meaning of patterns

What a pattern matches depends on the options in force at each of its places.

* `Pattern.regex?`: the expression that a pattern stands for.
-/

namespace TerraLint.Regex

open Unicode

/-! ## Options -/

/-- The options in force at a place of a pattern. -/
structure Flags where
  ignoreCase : Bool := false
  multiLine : Bool := false
  dotAll : Bool := false
  returns : Bool := false
  swapGreed : Bool := false
  unicode : Bool := true
deriving DecidableEq, Repr

namespace Flags

/-- Switches an option on or off. -/
def set (flags : Flags) : OptionName × Bool → Flags
  | (.ignoreCase, on) => { flags with ignoreCase := on }
  | (.multiLine, on) => { flags with multiLine := on }
  | (.dotAll, on) => { flags with dotAll := on }
  | (.returns, on) => { flags with returns := on }
  | (.swapGreed, on) => { flags with swapGreed := on }
  | (.unicode, on) => { flags with unicode := on }
  | (.verbose, _) => flags

/-- A set with the characters that differ in case only, if case does not count. -/
def close (flags : Flags) (s : CharSet) : CharSet :=
  if !flags.ignoreCase then s
  else if flags.unicode then s.caseClosure
  else s.asciiCaseClosure

/-- A set, unless it leaves ASCII where only ASCII is matched. -/
def accept (flags : Flags) (s : CharSet) : Option CharSet :=
  if flags.unicode || s.isAscii then some s else none

/-- Whether a character may be written where only ASCII is matched: not as an octet beyond it. -/
def acceptsLiteral (flags : Flags) (l : Literal) : Bool :=
  flags.unicode || !l.octet || l.char.toNat < 128

end Flags

/-! ## Classes -/

/-- The result of an operation. -/
def SetOp.apply : SetOp → CharSet → CharSet → CharSet
  | .inter, a, b => a.inter b
  | .diff, a, b => a.diff b
  | .symmDiff, a, b => a.symmDiff b

/-- The characters of a class with a name. A property has none where only ASCII is matched. -/
def NamedClass.members? (flags : Flags) : NamedClass → Option CharSet
  | .basic negated kind => flags.accept (.negateIf negated (kind.members flags.unicode))
  | .ascii negated s => flags.accept (.negateIf negated (flags.close s))
  | .property negated s =>
    if flags.unicode then some (.negateIf negated (flags.close s)) else none

/-- The code point of a member of a class. Where only ASCII is matched, it is one of ASCII. -/
def Literal.member? (flags : Flags) (l : Literal) : Option Nat :=
  if flags.unicode || l.char.toNat < 128 then some l.char.toNat else none

/-- The characters of what is written between brackets. -/
def ClassPattern.members? (flags : Flags) : ClassPattern → Option CharSet
  | .empty => some []
  | .literal l => (l.member? flags).map fun n => [(n, n)]
  | .range low high => return Intervals.range (← low.member? flags) (← high.member? flags)
  | .named c => c.members? flags
  | .bracket negated inner => do
    flags.accept (.negateIf negated (flags.close (← inner.members? flags)))
  | .both first others => return (← first.members? flags).union (← others.members? flags)
  | .operation op left right =>
    return op.apply (flags.close (← left.members? flags)) (flags.close (← right.members? flags))

/-! ## Expressions -/

/-- The characters that a dot matches. -/
def Flags.dot (flags : Flags) : Option CharSet :=
  if !flags.unicode then none
  else if flags.dotAll then some Intervals.characters
  else if flags.returns then some (Intervals.complement [(10, 10), (13, 13)])
  else some (Intervals.complement [(10, 10)])

/-- What a written position demands. -/
def Anchor.assertion (flags : Flags) : Anchor → Assertion
  | .caret => if flags.multiLine then .lineStart flags.returns else .textStart
  | .dollar => if flags.multiLine then .lineEnd flags.returns else .textEnd
  | .textStart => .textStart
  | .textEnd => .textEnd
  | .boundary => .boundary flags.unicode
  | .noBoundary => .noBoundary flags.unicode
  | .wordStart => .wordStart flags.unicode
  | .wordEnd => .wordEnd flags.unicode
  | .noWordBefore => .noWordBefore flags.unicode
  | .noWordAfter => .noWordAfter flags.unicode

/-- The expression of a character. -/
def Literal.regex? (flags : Flags) (l : Literal) : Option Regex :=
  if flags.acceptsLiteral l then some (ofSet (flags.close (.single l.char))) else none

/-- The alternatives that a pattern stands for under some options, and the options in force after
it. -/
def Pattern.alternatives? (flags : Flags) : Pattern → Option (List Regex × Flags)
  | .empty => some ([.empty], flags)
  | .options changes => some ([.empty], changes.foldl Flags.set flags)
  | .literal l => (l.regex? flags).map fun r => ([r], flags)
  | .dot => flags.dot.map fun s => ([ofSet s], flags)
  | .anchor a => some ([.assert (a.assertion flags)], flags)
  | .named c => (c.members? flags).map fun s => ([ofSet s], flags)
  | .bracket negated inner => do
    let s ← flags.accept (.negateIf negated (flags.close (← inner.members? flags)))
    return ([ofSet s], flags)
  | .times p least most lazy => do
    let (rs, after) ← p.alternatives? flags
    return ([repeated (Regex.choice rs) least most (lazy == after.swapGreed)], after)
  | .group (.capture index) p => do
    let (rs, _) ← p.alternatives? flags
    return ([.capture index (Regex.choice rs)], flags)
  | .group (.options changes) p => do
    let (rs, _) ← p.alternatives? (changes.foldl Flags.set flags)
    return ([Regex.choice rs], flags)
  | .seq first others => do
    let (rs, flags) ← first.alternatives? flags
    let (ss, flags) ← others.alternatives? flags
    return ([concat [Regex.choice rs, Regex.choice ss]], flags)
  | .alt first others => do
    let (rs, flags) ← first.alternatives? flags
    let (ss, flags) ← others.alternatives? flags
    return (rs ++ ss, flags)

/-- The expression that a pattern stands for. -/
def Pattern.regex? (p : Pattern) : Option Regex :=
  (p.alternatives? {}).map fun (rs, _) => Regex.choice rs

end TerraLint.Regex
