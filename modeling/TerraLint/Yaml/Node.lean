import TerraLint.Yaml.Tag

/-!
# YAML nodes

The tree that the tokens of a text write. An alias refers to a node by the number of its anchor. A
text holds at most one document, and a document without content is an empty scalar.

* `Document.ofTokens?`: the document of a text.
-/

namespace TerraLint.Yaml

/-- A node. Its tag is the one in full, if it has one. -/
inductive Node where
  /-- An alias: the number of the anchor that it refers to. -/
  | reference (number : Nat)
  /-- A scalar: its text, and whether it is plain. -/
  | scalar (tag : Option (List Nat)) (text : List Char) (plain : Bool)
  | sequence (tag : Option (List Nat)) (items : List Node)
  | mapping (tag : Option (List Nat)) (entries : List (Node × Node))

namespace Node

/-- The scalar that stands where nothing is written. -/
def empty : Node := .scalar none [] true

mutual

/-- The number of marks in a node: one for a scalar or an alias, two for a collection around those
of its members. -/
def marks : Node → Nat
  | .reference _ | .scalar .. => 1
  | .sequence _ items => 2 + marksOfItems items
  | .mapping _ entries => 2 + marksOfEntries entries

/-- The number of marks in nodes. -/
def marksOfItems : List Node → Nat
  | [] => 0
  | n :: rest => n.marks + marksOfItems rest

/-- The number of marks in entries. -/
def marksOfEntries : List (Node × Node) → Nat
  | [] => 0
  | (k, v) :: rest => k.marks + v.marks + marksOfEntries rest

end

end Node

/-- The anchors that were read. The number of an anchor is how many names were known before it; an
anchor whose name is known takes its name over from the earlier one, so that the next anchor with a
new name has the same number. A number stands for the node that got it last. -/
structure Anchors where
  /-- The names with their numbers, each name once. -/
  names : List (List Char × Nat)
  /-- The numbers of all anchors, the last one first. -/
  numbers : List Nat
  /-- The nodes that are complete, by the number of anchors before them. -/
  complete : List (Nat × Node)

namespace Anchors

/-- No anchors. -/
def none : Anchors := ⟨[], [], []⟩

/-- Adds an anchor for the node that comes next. -/
def define (anchors : Anchors) (name : List Char) : Anchors :=
  let number := anchors.names.length
  { anchors with
    names := (name, number) :: anchors.names.filter (·.1 != name)
    numbers := number :: anchors.numbers }

/-- Completes the node of the anchor with as many anchors before it. -/
def finish (anchors : Anchors) (before : Nat) (n : Node) : Anchors :=
  { anchors with complete := (before, n) :: anchors.complete }

/-- The number of an alias, if its name is known. -/
def number? (anchors : Anchors) (name : List Char) : Option Nat := anchors.names.lookup name

/-- The node that a number stands for. -/
def node? (anchors : Anchors) (number : Nat) : Option Node := do
  let later ← anchors.numbers.findIdx? (· == number)
  anchors.complete.lookup (anchors.numbers.length - 1 - later)

end Anchors

/-- Where a node stands. -/
inductive Place where
  | flow
  | block
  /-- In a block mapping, where the dashes of a sequence need no indentation. -/
  | blockEntry
deriving DecidableEq, Repr

/-- The tokens that are left, the anchors, and the expansions of tag handles. -/
structure NodeReader where
  rest : List Token
  anchors : Anchors
  /-- The expansions of tag handles. -/
  handles : List (List Char × List Nat)

/-- The anchor and the tag before a node. -/
structure Properties where
  anchor : Option (List Char)
  tag : Option (List Nat)

/-- Whether a node has an anchor or a tag. -/
def Properties.isSome (p : Properties) : Bool := p.anchor.isSome || p.tag.isSome

namespace NodeReader

/-- A reader of the given tokens, with the standard tag handles after others. -/
def start (handles : List (List Char × List Nat)) (ts : List Token) : NodeReader :=
  ⟨ts, .none, handles ++ [(['!'], octetsOf ['!']), (['!', '!'], standardTag "")]⟩

/-- A tag in full; nothing if its handle is not known. -/
def expand (r : NodeReader) (handle : List Char) (suffix : List Nat) : Option (List Nat) :=
  if handle.isEmpty then some suffix else (r.handles.lookup handle).map (· ++ suffix)

/-- Reads the anchor and the tag before a node, in either order. -/
def properties (r : NodeReader) : Option (Properties × NodeReader) :=
  match r.rest with
  | .anchor name :: .tag handle suffix :: rest | .tag handle suffix :: .anchor name :: rest =>
    (r.expand handle suffix).map fun tag => (⟨some name, some tag⟩, { r with rest })
  | .anchor name :: rest => some (⟨some name, none⟩, { r with rest })
  | .tag handle suffix :: rest =>
    (r.expand handle suffix).map fun tag => (⟨none, some tag⟩, { r with rest })
  | _ => some (⟨none, none⟩, r)

/-- Adds the anchor of the node that comes next, if it has one. -/
def define (r : NodeReader) : Option (List Char) → NodeReader
  | none => r
  | some name => { r with anchors := r.anchors.define name }

/-- Completes a node that has an anchor or has none, with as many anchors before it. -/
def finish (r : NodeReader) (anchor : Option (List Char)) (before : Nat) (n : Node) : NodeReader :=
  if anchor.isSome then { r with anchors := r.anchors.finish before n } else r

/-- The reader after the token that comes next. -/
def skip (r : NodeReader) : NodeReader := { r with rest := r.rest.drop 1 }

/-- Whether one of some tokens comes next. -/
def isNext (r : NodeReader) (ts : List Token) : Bool := r.rest.head?.any ts.contains

mutual

/-- Reads a node. -/
def node : Nat → Place → NodeReader → Option (Node × NodeReader)
  | 0, _, _ => none
  | fuel + 1, place, r =>
    match r.rest with
    | .alias name :: rest => (r.anchors.number? name).map fun k => (.reference k, { r with rest })
    | _ => do
      let (props, r) ← r.properties
      let before := r.anchors.numbers.length
      let (n, r) ← content fuel place props (r.define props.anchor)
      return (n, r.finish props.anchor before n)

/-- Reads a node after its anchor and its tag. -/
def content : Nat → Place → Properties → NodeReader → Option (Node × NodeReader)
  | 0, _, _, _ => none
  | fuel + 1, place, props, r =>
    let sequence (result : Option (List Node × NodeReader)) :=
      result.map fun (items, r) => (Node.sequence props.tag items, r)
    let mapping (result : Option (List (Node × Node) × NodeReader)) :=
      result.map fun (entries, r) => (Node.mapping props.tag entries, r)
    match r.rest, place with
    | .blockEntry :: _, .blockEntry => sequence (dashItems fuel r)
    | .scalar text plain :: _, _ =>
      some (.scalar props.tag text plain, r.skip)
    | .flowSequenceStart :: _, _ => sequence (flowItems fuel true r.skip)
    | .flowMappingStart :: _, _ => mapping (flowEntries fuel true r.skip)
    | .blockSequenceStart :: _, .block | .blockSequenceStart :: _, .blockEntry =>
      sequence (blockItems fuel r.skip)
    | .blockMappingStart :: _, .block | .blockMappingStart :: _, .blockEntry =>
      mapping (blockEntries fuel r.skip)
    | _, _ => if props.isSome then some (.scalar props.tag [] true, r) else none

/-- Reads a node, or an empty scalar before one of some tokens. -/
def nodeUnless : Nat → List Token → Place → NodeReader → Option (Node × NodeReader)
  | 0, _, _, _ => none
  | fuel + 1, stops, place, r => if r.isNext stops then some (.empty, r) else node fuel place r

/-- Reads the items of a block sequence and its end. -/
def blockItems : Nat → NodeReader → Option (List Node × NodeReader)
  | 0, _ => none
  | fuel + 1, r =>
    match r.rest with
    | .blockEntry :: _ => do
      let (item, r) ← nodeUnless fuel [.blockEntry, .blockEnd] .block r.skip
      let (items, r) ← blockItems fuel r
      return (item :: items, r)
    | .blockEnd :: _ => some ([], r.skip)
    | _ => none

/-- Reads the items of a sequence that is not indented. -/
def dashItems : Nat → NodeReader → Option (List Node × NodeReader)
  | 0, _ => none
  | fuel + 1, r =>
    match r.rest with
    | .blockEntry :: _ => do
      let (item, r) ← nodeUnless fuel [.blockEntry, .key, .value, .blockEnd] .block r.skip
      let (items, r) ← dashItems fuel r
      return (item :: items, r)
    | _ => some ([], r)

/-- Reads the entries of a block mapping and its end. -/
def blockEntries : Nat → NodeReader → Option (List (Node × Node) × NodeReader)
  | 0, _ => none
  | fuel + 1, r =>
    match r.rest with
    | .key :: _ => do
      let (k, r) ← nodeUnless fuel [.key, .value, .blockEnd] .blockEntry r.skip
      let (v, r) ← if r.isNext [.value] then
          nodeUnless fuel [.key, .value, .blockEnd] .blockEntry r.skip
        else some (.empty, r)
      let (entries, r) ← blockEntries fuel r
      return ((k, v) :: entries, r)
    | .blockEnd :: _ => some ([], r.skip)
    | _ => none

/-- Reads the items of a flow sequence and its closing bracket. A key makes an item a mapping of one
entry. -/
def flowItems : Nat → Bool → NodeReader → Option (List Node × NodeReader)
  | 0, _, _ => none
  | fuel + 1, isFirst, r =>
    if r.isNext [.flowSequenceEnd] then some ([], r.skip)
    else if !isFirst && !r.isNext [.flowEntry] then none
    else
      let r := if isFirst then r else r.skip
      if r.isNext [.flowSequenceEnd] then some ([], r.skip)
      else do
        let (item, r) ← if r.isNext [.key] then pair fuel r.skip else node fuel .flow r
        let (items, r) ← flowItems fuel false r
        return (item :: items, r)

/-- Reads the entry that is an item of a flow sequence, after its key token. Where no key is
written, the token that comes next is passed over. -/
def pair : Nat → NodeReader → Option (Node × NodeReader)
  | 0, _ => none
  | fuel + 1, r => do
    let (k, r) ← if r.isNext [.value, .flowEntry, .flowSequenceEnd] then some (.empty, r.skip)
      else node fuel .flow r
    let (v, r) ← if r.isNext [.value] then
        nodeUnless fuel [.flowEntry, .flowSequenceEnd] .flow r.skip
      else some (.empty, r)
    return (.mapping none [(k, v)], r)

/-- Reads the entries of a flow mapping and its closing brace. -/
def flowEntries : Nat → Bool → NodeReader → Option (List (Node × Node) × NodeReader)
  | 0, _, _ => none
  | fuel + 1, isFirst, r =>
    if r.isNext [.flowMappingEnd] then some ([], r.skip)
    else if !isFirst && !r.isNext [.flowEntry] then none
    else
      let r := if isFirst then r else r.skip
      if r.isNext [.flowMappingEnd] then some ([], r.skip)
      else do
        let (entry, r) ← flowEntry fuel r
        let (entries, r) ← flowEntries fuel false r
        return (entry :: entries, r)

/-- Reads an entry of a flow mapping: a key and a value, or a key alone. -/
def flowEntry : Nat → NodeReader → Option ((Node × Node) × NodeReader)
  | 0, _ => none
  | fuel + 1, r =>
    if r.isNext [.key] then do
      let (k, r) ← nodeUnless fuel [.value, .flowEntry, .flowMappingEnd] .flow r.skip
      let (v, r) ← if r.isNext [.value] then
          nodeUnless fuel [.flowEntry, .flowMappingEnd] .flow r.skip
        else some (.empty, r)
      return ((k, v), r)
    else (node fuel .flow r).map fun (k, r) => ((k, .empty), r)

end

end NodeReader

/-! ## Documents -/

/-- What the directives of a document say. -/
structure Directives where
  hasVersion : Bool
  /-- The expansions of tag handles, the last one first. -/
  handles : List (List Char × List Nat)

/-- Reads directives. The version is given once at most and is 1.1 or 1.2; no handle is expanded
twice. -/
def Directives.read (d : Directives) : List Token → Option (Directives × List Token)
  | .version major minor :: rest =>
    if d.hasVersion || !(major == 1 && (minor == 1 || minor == 2)) then none
    else Directives.read { d with hasVersion := true } rest
  | .tagHandle handle expansion :: rest =>
    if (d.handles.lookup handle).isSome then none
    else Directives.read { d with handles := (handle, expansion) :: d.handles } rest
  | ts => some (d, ts)

/-- Whether tokens start with something that is not part of a document's content. -/
def endsDocument : List Token → Bool
  | [] | .version .. :: _ | .tagHandle .. :: _ | .documentStart :: _ | .documentEnd :: _ => true
  | _ => false

/-- A document: its root, and the nodes that its aliases refer to. -/
structure Document where
  root : Node
  anchors : Anchors

namespace Document

/-- The document without content. -/
def empty : Document := ⟨.empty, .none⟩

/-- The number of steps that suffice to read the node of some tokens. -/
def stepBound (ts : List Token) : Nat := 4 * ts.length + 4

/-- Reads the content of a document. -/
def ofContent? (handles : List (List Char × List Nat)) (ts : List Token) :
    Option (Document × List Token) :=
  ((NodeReader.start handles ts).node (stepBound ts) .block).map fun (n, r) =>
    (⟨n, r.anchors⟩, r.rest)

/-- Reads the first document: its directives and its start, unless it has none, and its content. -/
def first? (ts : List Token) : Option (Document × List Token) :=
  match ts with
  | .version .. :: _ | .tagHandle .. :: _ | .documentStart :: _ => do
    let (d, ts) ← Directives.read ⟨false, []⟩ ts
    match ts with
    | .documentStart :: ts =>
      if endsDocument ts then some (.empty, ts) else ofContent? d.handles ts
    | _ => none
  | _ => ofContent? [] ts

/-- The one document that tokens hold; an empty one if they hold none. -/
def ofTokens? (ts : List Token) : Option Document :=
  if ts.isEmpty then some .empty
  else do
    let (d, rest) ← first? ts
    if rest.all (· == .documentEnd) then some d else none

end Document

end TerraLint.Yaml
