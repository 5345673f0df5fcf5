import TerraLint.Unicode.Utf8
import TerraLint.Yaml.Node
import TerraLint.Yaml.Tokens
import TerraLint.Yaml.Value

/-!
# YAML documents that are mappings

The value of a node: collections nest at most `maxDepth` deep, no mapping has two equal keys, and
aliases are followed at most a hundred times as often as the document has marks.

* `isMapping`: whether a text is one document that is a mapping, or that has no content.
-/

namespace TerraLint.Yaml

/-- How deep collections may nest. -/
def maxDepth : Nat := 128

/-- The name that octets without an exclamation mark before them are. -/
def withoutBang (tag : List Nat) : List Nat :=
  match tag with
  | 0x21 :: first :: rest => first :: rest
  | _ => tag

/-- The name of a tag that is not a standard one, without the exclamation marks before it. It has to
be a text. -/
def localTag? (tag : Option (List Nat)) : Option (List Nat) :=
  match tag with
  | some (0x21 :: name) =>
    if Unicode.isUtf8 name then some (withoutBang (withoutBang (0x21 :: name))) else none
  | _ => none

/-- The value of a scalar whose tag is not the name of a kind. -/
def scalarValue? (tag : Option (List Nat)) (text : List Char) (plain : Bool) : Option Value :=
  let untagged := if plain then Value.ofPlain? text else some (.string text)
  match tag with
  | none | some (0x21 :: _) => untagged
  | some tag =>
    if tag = standardTag "bool" then (Value.bool? text).map .bool
    else if tag = standardTag "int" then (Value.ofInteger? text).join
    else if tag = standardTag "float" then (Value.real? text).map .real
    else if tag = standardTag "null" then if Value.isNull text then some .null else none
    else some (.string text)

/-- A value under a local tag, if there is one. -/
def tagWith (tag : Option (List Nat)) (v : Value) : Value :=
  match localTag? tag with
  | some name => .tagged name v
  | none => v

/-- The values of nodes, each read with the number of aliases that may still be followed. -/
def itemValues? (read : Nat → Node → Option (Value × Nat)) (jumps : Nat) :
    List Node → Option (List Value × Nat)
  | [] => some ([], jumps)
  | n :: rest => do
    let (v, jumps) ← read jumps n
    let (vs, jumps) ← itemValues? read jumps rest
    return (v :: vs, jumps)

/-- The values of entries whose keys differ from each other and from the keys before them. -/
def entryValues? (read : Nat → Node → Option (Value × Nat)) (jumps : Nat) (before : List Value) :
    List (Node × Node) → Option (List (Value × Value) × Nat)
  | [] => some ([], jumps)
  | (k, v) :: rest => do
    let (k, jumps) ← read jumps k
    if before.any k.same then none
    else
      let (v, jumps) ← read jumps v
      let (vs, jumps) ← entryValues? read jumps (k :: before) rest
      return ((k, v) :: vs, jumps)

namespace Anchors

/-- The node that stands for a node: an alias is followed, if that may be done once more. -/
def follow? (anchors : Anchors) (jumps : Nat) : Node → Option (Node × Nat)
  | .reference number =>
    if jumps = 0 then .none else (anchors.node? number).map fun n => (n, jumps - 1)
  | n => some (n, jumps)

/-- The value of a node in which collections nest at most `depth` deep, and how many more aliases
may be followed. -/
def value? (anchors : Anchors) (depth jumps : Nat) (n : Node) : Option (Value × Nat) := do
  let (n, jumps) ← anchors.follow? jumps n
  match n, depth with
  | .scalar tag text plain, _ =>
    (scalarValue? tag text plain).map fun v => (tagWith tag v, jumps)
  | .sequence tag items, depth + 1 =>
    (itemValues? (value? anchors depth) jumps items).map fun (vs, jumps) =>
      (tagWith tag (.sequence vs), jumps)
  | .mapping tag entries, depth + 1 =>
    (entryValues? (value? anchors depth) jumps [] entries).map fun (vs, jumps) =>
      (tagWith tag (.mapping vs), jumps)
  | _, _ => .none

end Anchors

namespace Document

/-- Whether a document is a mapping with a value, or has no content. -/
def isMapping (d : Document) : Bool :=
  match d.root with
  | .mapping .. => (d.anchors.value? maxDepth (100 * d.root.marks) d.root).isSome
  | .scalar _ [] true => true
  | _ => false

end Document

/-- Whether a text is one document that is a mapping, or that has no content. -/
def isMapping (text : List Char) : Bool :=
  text.all isAllowed && ((tokens text).bind Document.ofTokens?).any Document.isMapping

end TerraLint.Yaml
