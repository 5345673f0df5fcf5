/-!
# Sorted lists

`inOrder` decides whether each element of a list stands rightly before the next one. `sortBy` sorts
by insertion, so that elements which are equal under the order keep their places among each other.
-/

namespace TerraLint

variable {α : Type}

/-- Whether `le` holds between each element and the next. -/
def inOrder (le : α → α → Bool) : List α → Bool
  | a :: b :: rest => le a b && inOrder le (b :: rest)
  | _ => true

/-- Puts an element before the first one that it may precede. -/
def insertBy (le : α → α → Bool) (a : α) : List α → List α
  | [] => [a]
  | b :: rest => if le a b then a :: b :: rest else b :: insertBy le a rest

/-- The list sorted by an order. -/
def sortBy (le : α → α → Bool) : List α → List α
  | [] => []
  | a :: rest => insertBy le a (sortBy le rest)

/-- Order of strings by code points. -/
def stringLe (a b : String) : Bool := compare a b != .gt

/-- The list sorted by a key. -/
def sortOn (key : α → String) (xs : List α) : List α :=
  sortBy (fun a b => stringLe (key a) (key b)) xs

/-- Whether a list is sorted by a key. -/
def inOrderOn (key : α → String) (xs : List α) : Bool :=
  inOrder (fun a b => stringLe (key a) (key b)) xs

end TerraLint
