import TerraLint.Number.Shortest
import TerraLint.Hcl.Quoting
import TerraLint.Hcl.Value.Basic

/-!
# Text of values

A value inside a template is written as configuration text: strings as they are, lists and objects
over several lines with two spaces of indentation. Items of a list are divided by commas, but no
comma follows an item that ends with an empty list or an empty object.
-/

namespace TerraLint.Hcl

/-- The text of a number. -/
def Number.text : Number → String
  | .unsigned n => toString n
  | .signed i => toString i
  | .real d => d.text

namespace Value

/-- A string as a value: in quotes, and with escapes unless it reads as a template. -/
def stringText (s : String) : String :=
  if isTemplate s.toList then "\"" ++ s ++ "\"" else quoted s

/-- A line end and the indentation of a level. -/
def newline (level : Nat) : String := String.ofList ('\n' :: List.replicate (2 * level) ' ')

mutual

/-- Whether the last thing inside a value is an empty list or an empty object. -/
def endsEmpty : Value → Bool
  | .list items => itemsEndEmpty items
  | .object entries => entriesEndEmpty entries
  | _ => false

/-- Whether a list is empty, or its last item ends empty. -/
def itemsEndEmpty : List Value → Bool
  | [] => true
  | [item] => endsEmpty item
  | _ :: items => itemsEndEmpty items

/-- Whether an object is empty, or its last value ends empty. -/
def entriesEndEmpty : List (String × Value) → Bool
  | [] => true
  | [(_, value)] => endsEmpty value
  | _ :: entries => entriesEndEmpty entries

end

mutual

/-- A value as configuration text at a level of nesting. -/
def print (level : Nat) : Value → String
  | .null => "null"
  | .bool b => if b then "true" else "false"
  | .number n => n.text
  | .string s => stringText s
  | .list [] => "[]"
  | .list (item :: items) =>
    "[" ++ newline (level + 1) ++ print (level + 1) item ++
      printItems (level + 1) item.endsEmpty items ++ newline level ++ "]"
  | .object [] => "\x7b\x7d"
  | .object (entry :: entries) =>
    "\x7b" ++ printEntry (level + 1) entry ++ printEntries (level + 1) entries ++ newline level ++
      "\x7d"

/-- Further items of a list, each on a line of its own, after an item that may end empty. -/
def printItems (level : Nat) (afterEmpty : Bool) : List Value → String
  | [] => ""
  | item :: items =>
    (if afterEmpty then "" else ",") ++ newline level ++ print level item ++
      printItems level item.endsEmpty items

/-- The entry of an object on a line of its own. -/
def printEntry (level : Nat) : String × Value → String
  | (key, value) => newline level ++ quoted key ++ " = " ++ print level value

/-- Further entries of an object. -/
def printEntries (level : Nat) : List (String × Value) → String
  | [] => ""
  | entry :: entries => printEntry level entry ++ printEntries level entries

end

/-- The text of a value inside a template. -/
def text : Value → String
  | .string s => s
  | v => v.print 0

/-- The key that a value is in an object: a string, a number or a truth value. -/
def key? : Value → Option String
  | .string s => some s
  | .number n => some n.text
  | .bool b => some (if b then "true" else "false")
  | _ => none

end Value

end TerraLint.Hcl
