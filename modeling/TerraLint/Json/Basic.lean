import TerraLint.Number.Shortest

/-!
# JSON values

A JSON value as it is written: an object keeps all its members in order. Where one name is written
twice, the later member counts. A value is written on one line without blanks. Strings escape quotes,
backslashes and control characters only.
-/

namespace TerraLint

/-- A JSON value. -/
inductive Json where
  | null
  | bool (value : Bool)
  /-- A number written without fraction and exponent that fits into sixty-four bits. -/
  | integer (value : Int)
  | real (value : Double)
  | string (value : String)
  | array (items : List Json)
  | object (members : List (String × Json))

namespace Json

/-- The members of an object. -/
def members? : Json → Option (List (String × Json))
  | .object members => some members
  | _ => none

/-- The text of a string. -/
def string? : Json → Option String
  | .string s => some s
  | _ => none

/-- The items of an array; none for any other value. -/
def items : Json → List Json
  | .array items => items
  | _ => []

/-- The member of an object with a name. -/
def field? (json : Json) (name : String) : Option Json :=
  json.members?.bind fun members => members.reverse.lookup name

/-! ## Writing -/

/-- A code below 256 as two hexadecimal digits. -/
def hexPair (n : Nat) : List Char := [Nat.digitChar (n / 16), Nat.digitChar (n % 16)]

/-- A character inside a string. -/
def escapeChar (c : Char) : List Char :=
  match c with
  | '"' => ['\\', '"']
  | '\\' => ['\\', '\\']
  | '\n' => ['\\', 'n']
  | '\r' => ['\\', 'r']
  | '\t' => ['\\', 't']
  | '\x08' => ['\\', 'b']
  | '\x0c' => ['\\', 'f']
  | c => if c.toNat < 0x20 then ['\\', 'u', '0', '0'] ++ hexPair c.toNat else [c]

/-- A string in quotes. -/
def renderString (s : String) : String :=
  String.ofList ('"' :: s.toList.flatMap escapeChar ++ ['"'])

mutual

/-- The text of a value. -/
def render : Json → String
  | .null => "null"
  | .bool b => if b then "true" else "false"
  | .integer i => toString i
  | .real d => d.text
  | .string s => renderString s
  | .array items => "[" ++ ",".intercalate (renderItems items) ++ "]"
  | .object members => "\x7b" ++ ",".intercalate (renderMembers members) ++ "\x7d"

/-- The texts of values. -/
def renderItems : List Json → List String
  | [] => []
  | item :: rest => item.render :: renderItems rest

/-- The texts of members. -/
def renderMembers : List (String × Json) → List String
  | [] => []
  | (name, value) :: rest => (renderString name ++ ":" ++ value.render) :: renderMembers rest

end

end Json

end TerraLint
