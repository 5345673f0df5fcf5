import TerraLint.Protocol.Capabilities
import TerraLint.Protocol.Diagnostic
import TerraLint.Protocol.Message
import TerraLint.Protocol.Preprocess

/-!
# The server

A server answers requests one after the other. It keeps the names of the rules that it was
configured with; before that it checks no file. A line that is no request, or a request of an
unknown type, stops it; what was sent before stays sent.

* `Server.step`: the answer to a line, or that the server stops.
* `Server.serve`: the answers to lines, and whether all of them were answered.
-/

namespace TerraLint

/-- What a server needs to know of its surroundings. -/
structure Host where
  workDir : String
  filter : IgnoreFilter
  /-- The number of bytes of the file at a path, if there is one. -/
  sizeOf : String → Option Nat

/-- The state of a server. -/
structure Server where
  /-- The names of the configured rules, after the server was configured. -/
  configured : Option (List String)
deriving DecidableEq, Repr

namespace Server

/-- A server that was not configured yet. -/
def start : Server := ⟨none⟩

/-- The answer that all went well. -/
def ok : Json := .object [("ok", .bool true)]

/-- The answer that the server was not configured yet. -/
def notInitialized : Json :=
  .object [("ok", .bool false), ("error", .string "not_initialized")]

/-- The names of the rules in a request to configure the server: the names in its configuration, or
those of all rules if it has none. -/
def configuredBy (payload : Json) : List String :=
  match (payload.field? "rulesetConfig").bind Json.members? with
  | some members => members.map (·.1)
  | none => Rule.all.map Rule.name

/-- The text of a member; empty if it is not there or no string. -/
def textField (payload : Json) (name : String) : String :=
  ((payload.field? name).bind Json.string?).getD ""

/-- The uris in a request about files. -/
def fileUris (payload : Json) : List String :=
  ((payload.field? "fileUris").getD .null).items.filterMap Json.string?

/-- What is wrong in a document. -/
def analysis (host : Host) (configured : List String) (uri content : String) : Json :=
  .object
    [("uri", .string uri),
     ("diagnostics", .array
       ((diagnose host.filter configured (Uri.fileName host.workDir uri) content).map
         Diagnostic.toJson))]

/-- The answer to a request, and the server after it; nothing if the type of the request is
unknown. -/
def handle (host : Host) (server : Server) (request : Request) : Option (Server × List Message) :=
  let respond := Message.response request.type request.id
  match request.type with
  | "initialize" => some (⟨some (configuredBy request.payload)⟩, [respond ok])
  | "shutdown" => some (server, [respond ok])
  | "getDefaultConfig" => some (server, [respond defaultConfig])
  | "getCapabilities" => some (server, [respond capabilities])
  | "preprocessFiles" =>
    some (server,
      [respond (Preprocessing.ofUris host.sizeOf (fileUris request.payload)).toJson])
  | "analyzeFile" =>
    match server.configured with
    | none => some (server, [respond notInitialized])
    | some configured =>
      let found := analysis host configured (textField request.payload "uri")
        (textField request.payload "content")
      some (server, [.event "diagnostics" found, respond ok])
  | _ => none

/-- The answer to a line, and the server after it; nothing if the server stops. -/
def step (host : Host) (server : Server) (line : List Char) : Option (Server × List Message) :=
  (Request.parse? line).bind (server.handle host)

/-- The answers to lines, up to one that stops the server, and whether none does. -/
def serve (host : Host) : Server → List (List Char) → List Message × Bool
  | _, [] => ([], true)
  | server, line :: lines =>
    match server.step host line with
    | none => ([], false)
    | some (server, messages) =>
      let (later, finished) := serve host server lines
      (messages ++ later, finished)

end Server

end TerraLint
