import TerraLint.Data.Sorted
import TerraLint.Layout.Tree

/-!
# Canonical order

A section is in order when its arguments, as they stand in the source, follow the order of its kind.
A block is in order when its sections are, and each section starts at least two lines after the one
before it ends.
-/

namespace TerraLint.Layout

namespace Section

/-- Whether an argument may stand before another in a section of a kind. -/
def precedes (kind : SectionKind) (a b : Arg) : Bool :=
  match kind with
  | .headMeta | .tailMeta => b.priority ≤ a.priority
  | .attributes | .nestedBlocks => stringLe a.key b.key

/-- Whether an argument stands before another in the source. -/
def standsBefore (a b : Arg) : Bool := a.range.start.notAfter b.range.start

/-- The arguments as they stand in the source. -/
def sourceOrder (s : Section) : List Arg := sortBy standsBefore s.args

/-- The arguments in canonical order; those with equal keys stay as they stand in the source. -/
def canonical (s : Section) : List Arg := sortBy (precedes s.kind) s.sourceOrder

/-- Whether the arguments stand in canonical order. -/
def isOrdered (s : Section) : Bool := inOrder (precedes s.kind) s.sourceOrder

end Section

/-- Whether sections are ordered, follow each other, and leave a line free between each two;
`last` is the last line of the section before them, if there is one. -/
def sectionsOrdered (last : Option Nat) : List Section → Bool
  | [] => true
  | s :: rest =>
    s.isOrdered &&
      match s.range? with
      | none => sectionsOrdered last rest
      | some range =>
        (match last with
          | none => true
          | some line => line + 2 ≤ range.start.line) &&
        sectionsOrdered (some range.stop.line) rest

/-- Whether the arguments of a block stand in canonical order. -/
def Tree.isOrdered (t : Tree) : Bool := sectionsOrdered none t.sections

end TerraLint.Layout
