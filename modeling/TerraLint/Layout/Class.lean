import TerraLint.Hcl.Query

/-!
# Classes of arguments

The meta arguments of a block stand at its head or at its tail, ordered by priority; all other
arguments stand between them.
-/

namespace TerraLint.Layout

open Hcl

/-- Where an argument belongs. -/
inductive ArgClass where
  | head (priority : Nat)
  | tail (priority : Nat)
  | ordinary
deriving DecidableEq, Repr

namespace ArgClass

/-- The priority of a meta argument; a higher one stands first. -/
def priority : ArgClass → Nat
  | head p | tail p => p
  | ordinary => 0

/-- Whether the argument stands at the head. -/
def isHead : ArgClass → Bool
  | head _ => true
  | _ => false

/-- Whether the argument stands at the tail. -/
def isTail : ArgClass → Bool
  | tail _ => true
  | _ => false

end ArgClass

/-- The names of meta arguments with their priorities. -/
structure Classifier where
  head : List (String × Nat)
  tail : List (String × Nat)

namespace Classifier

/-- The meta arguments of resources and data sources. -/
def terraform : Classifier where
  head := [("for_each", 1), ("count", 1), ("provider", 0)]
  tail := [("lifecycle", 1), ("depends_on", 0)]

/-- The class of a name. -/
def classify (c : Classifier) (name : String) : ArgClass :=
  match c.head.lookup name with
  | some p => .head p
  | none =>
    match c.tail.lookup name with
    | some p => .tail p
    | none => .ordinary

end Classifier

/-- The name under which a block is classified. A dynamic block takes its first label, so that it is
classified like the blocks it generates. -/
def blockName (b : Block) : String :=
  if b.kind = "dynamic" then b.firstLabel?.getD b.kind else b.kind

/-- The key by which a block is sorted: its type, or all labels of a dynamic block together. -/
def blockSortField (b : Block) : String :=
  if b.kind = "dynamic" then String.join b.labels else b.kind

/-- Whether a block stands for its parent: the content of a dynamic block adds no level. -/
def inheritsPath (parentKind childName : String) : Bool :=
  parentKind == "dynamic" && childName == "content"

end TerraLint.Layout
