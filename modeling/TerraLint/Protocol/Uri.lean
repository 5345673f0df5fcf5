import TerraLint.Path

/-!
# Document uris

A document is named by a path or by a `file` uri. It is checked under its path as seen from the
working directory if it lies below it, so that patterns for files need not know where that is.
-/

namespace TerraLint.Uri

/-- The path of a uri. -/
def path (uri : String) : String :=
  let start := "file://".toList
  if start.isPrefixOf uri.toList then String.ofList (uri.toList.drop start.length) else uri

/-- The name under which a document is checked. -/
def fileName (workDir uri : String) : String :=
  (Path.relativeTo? workDir (path uri)).getD (path uri)

/-- The language of a document, if it is one that the rules know. -/
def language? (uri : String) : Option String :=
  if Path.extension? (path uri) = some "tf" then some "terraform" else none

end TerraLint.Uri
