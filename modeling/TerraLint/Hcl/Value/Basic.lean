import TerraLint.Hcl.Number

/-!
# Values

What an expression evaluates to. The entries of an object have distinct keys and keep the order in
which the keys were first put in; that order does not count for equality.
-/

namespace TerraLint.Hcl

/-- A value. -/
inductive Value where
  | null
  | bool (value : Bool)
  | number (value : Number)
  | string (value : String)
  | list (items : List Value)
  | object (entries : List (String × Value))
deriving Repr

namespace Value

/-- An object with an entry put in: a key that is there keeps its place and takes the new value. -/
def insert (key : String) (value : Value) : List (String × Value) → List (String × Value)
  | [] => [(key, value)]
  | (k, v) :: entries =>
    if k = key then (k, value) :: entries else (k, v) :: insert key value entries

/-- The value under a key. -/
def lookup (key : String) : List (String × Value) → Option Value
  | [] => none
  | (k, v) :: entries => if k = key then some v else lookup key entries

mutual

/-- Equality of values. -/
def eq : Value → Value → Bool
  | .null, .null => true
  | .bool a, .bool b => a == b
  | .number a, .number b => a.eq b
  | .string a, .string b => a == b
  | .list as, .list bs => eqList as bs
  | .object as, .object bs => as.length == bs.length && eqEntries as bs
  | _, _ => false

/-- Equality of lists, item by item. -/
def eqList : List Value → List Value → Bool
  | [], [] => true
  | a :: as, b :: bs => eq a b && eqList as bs
  | _, _ => false

/-- Whether each entry has an equal one under its key. -/
def eqEntries : List (String × Value) → List (String × Value) → Bool
  | [], _ => true
  | (k, v) :: rest, others =>
    (match lookup k others with
      | some w => eq v w
      | none => false) && eqEntries rest others

end

end Value

end TerraLint.Hcl
