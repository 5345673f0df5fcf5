import TerraLint.Json.Reader
import TerraLint.Text.Blank

/-!
# Messages

A message is a JSON object on a line of its own: the version of the protocol, whether it is a
request, a response or an event, its type, its id and its payload. A reader takes any version that
fits into a byte, an absent id as the empty one and an absent payload as the empty object; members
it does not know do not matter, but those it knows stand once.

* `Request.parse?`: the request on a line.
* `Message.toJson`: a response or an event as a value.
-/

namespace TerraLint

/-- A message that was read. Whether it calls itself a request does not matter. -/
structure Request where
  type : String
  /-- The id that the response repeats. -/
  id : String
  payload : Json

namespace Request

/-- The names of the members of a message. -/
def memberNames : List String := ["v", "kind", "type", "id", "payload"]

/-- Whether no member of a message stands twice. -/
def membersUnique (json : Json) : Bool :=
  match json.members? with
  | some members => memberNames.all fun name => (members.countP fun m => m.1 == name) ≤ 1
  | none => false

/-- The version of a message, if it fits into a byte. -/
def version? (json : Json) : Option Nat :=
  match json.field? "v" with
  | some (.integer v) => if 0 ≤ v ∧ v < 256 then some v.toNat else none
  | _ => none

/-- Whether a value is the word for a kind of message. -/
def isKind (json : Json) : Bool :=
  match json.string? with
  | some word => ["req", "res", "event"].contains word
  | none => false

/-- The id of a message. -/
def idOf (json : Json) : Option String :=
  match json.field? "id" with
  | none | some .null => some ""
  | some value => value.string?

/-- The payload of a message. -/
def payloadOf (json : Json) : Json :=
  match json.field? "payload" with
  | none | some .null => .object []
  | some value => value

/-- The request that a value is. -/
def ofJson? (json : Json) : Option Request :=
  if membersUnique json then do
    let _ ← version? json
    let kind ← json.field? "kind"
    let type ← (← json.field? "type").string?
    let id ← idOf json
    if isKind kind then some { type, id, payload := payloadOf json } else none
  else none

/-- The request on a line. -/
def parse? (line : List Char) : Option Request := (Json.parse? (Text.trim line)).bind ofJson?

end Request

/-- What is sent. -/
inductive Message where
  /-- The response to a request. -/
  | response (type id : String) (payload : Json)
  /-- Something that was not asked for. -/
  | event (type : String) (payload : Json)

/-- A message as a value. -/
def Message.toJson : Message → Json
  | response type id payload =>
    .object [("v", .integer 1), ("kind", .string "res"), ("type", .string type),
      ("id", .string id), ("payload", payload)]
  | event type payload =>
    .object [("v", .integer 1), ("kind", .string "event"), ("type", .string type),
      ("payload", payload)]

end TerraLint
