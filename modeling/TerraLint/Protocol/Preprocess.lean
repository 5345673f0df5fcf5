import TerraLint.Json.Basic
import TerraLint.Protocol.Uri
import TerraLint.Rule.Registry

/-!
# What is known of files before they are checked

For each file its uri, its language, its name, its size if it is on disk, and whether it was
generated; for all of them together their number and how many are versions files.
-/

namespace TerraLint

/-- What is known of a file before it is checked. -/
structure FileContext where
  uri : String
  language : Option String
  /-- Its name without directories; empty if it has none. -/
  fileName : String
  /-- The number of its bytes, if it is on disk. -/
  fileSize : Option Nat
  /-- Whether it lies in a directory of generated files. -/
  isGenerated : Bool
deriving DecidableEq, Repr

/-- Whether a text stands in another one. -/
def occursIn (needle : List Char) : List Char → Bool
  | [] => needle.isEmpty
  | c :: cs => needle.isPrefixOf (c :: cs) || occursIn needle cs

namespace FileContext

/-- What is known of the file with a uri, where `sizeOf` gives the size of the file at a path. -/
def ofUri (sizeOf : String → Option Nat) (uri : String) : FileContext :=
  let path := Uri.path uri
  { uri
    language := Uri.language? uri
    fileName := (Path.fileName? path).getD ""
    fileSize := sizeOf path
    isGenerated := occursIn "/.terraform/".toList path.toList }

/-- The entry of a file. -/
def toJson (file : FileContext) : Json :=
  .object
    [("uri", .string file.uri), ("content", .string ""),
     ("language", (file.language.map Json.string).getD .null),
     ("context", .object (
       (file.fileSize.map fun n => ("file_size", Json.integer n)).toList ++
       ("file_name", Json.string file.fileName) ::
       (if file.isGenerated then [("terraform_generated", Json.bool true)] else [])))]

end FileContext

/-- What is known of some files. -/
structure Preprocessing where
  files : List FileContext
deriving DecidableEq, Repr

namespace Preprocessing

/-- What is known of the files with some uris. -/
def ofUris (sizeOf : String → Option Nat) (uris : List String) : Preprocessing :=
  ⟨uris.map (FileContext.ofUri sizeOf)⟩

/-- The number of files. -/
def totalFiles (p : Preprocessing) : Nat := p.files.length

/-- The number of versions files. -/
def versionsFiles (p : Preprocessing) : Nat :=
  p.files.countP fun file => file.fileName == "versions.tf"

/-- The answer about some files. -/
def toJson (p : Preprocessing) : Json :=
  .object
    [("ruleset_id", .string rulesetId), ("files", .array (p.files.map FileContext.toJson)),
     ("global_context", .object
       [("total_files", .integer p.totalFiles), ("versions_files", .integer p.versionsFiles),
        ("ruleset_type", .string rulesetId)])]

end Preprocessing

end TerraLint
