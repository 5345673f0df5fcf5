import TerraLint.Source.File
import TerraLint.Layout.Class

/-!
# Layout trees

The layout tree of a block sorts its arguments into sections. A root block has five of them: head
meta arguments, attributes, nested blocks, tail meta arguments and tail meta blocks. A nested block
has the first three only.

* `Section.ofArgs`: the section that holds some arguments, with the lines that they cover.
* `Tree.root`: the layout tree of a block.
-/

namespace TerraLint.Layout

open Hcl

/-- How the arguments of a section are ordered. -/
inductive SectionKind where
  /-- By descending priority. -/
  | headMeta
  /-- By name. -/
  | attributes
  /-- By sort field. -/
  | nestedBlocks
  /-- By descending priority. -/
  | tailMeta
deriving DecidableEq, Repr

mutual

/-- What an argument is: the text of an attribute, or a block. -/
inductive Content where
  | attr (text : List Char)
  | block (tree : Tree)

/-- One argument of a block. -/
structure Arg where
  /-- The key it is sorted by. -/
  key : String
  range : SourceRange
  /-- Its priority as a meta argument. -/
  priority : Nat
  content : Content

/-- A group of arguments and the lines they cover. -/
structure Section where
  kind : SectionKind
  /-- The arguments, in the order in which they were added. -/
  args : List Arg
  /-- The lines that the arguments cover; the null range if there are none. -/
  range : SourceRange

/-- A block with its arguments sorted into sections. -/
structure Tree where
  /-- The name the block is classified under. -/
  name : String
  /-- The key the block is sorted by. -/
  sortField : String
  /-- The names of the enclosing blocks and of this one. -/
  path : List String
  range : SourceRange
  defRange : SourceRange
  header : String
  /-- The sections in canonical order. -/
  sections : List Section

end

namespace Section

/-- A section without arguments. -/
def empty (kind : SectionKind) : Section := ⟨kind, [], .null⟩

/-- Adds an argument at the end. -/
def add (s : Section) (arg : Arg) : Section :=
  { s with args := s.args ++ [arg], range := s.range.unionLines arg.range }

/-- The section that holds some arguments. -/
def ofArgs (kind : SectionKind) (args : List Arg) : Section := args.foldl add (empty kind)

/-- The lines that the section covers, if it has arguments. -/
def range? (s : Section) : Option SourceRange := if s.range.isNull then none else some s.range

end Section

/-- The place of an argument in a block. -/
inductive Slot where
  | head | attributes | blocks | tailArgs | tailBlocks
deriving DecidableEq, Repr

namespace Slot

/-- How the arguments of a slot are ordered. -/
def kind : Slot → SectionKind
  | head => .headMeta
  | attributes => .attributes
  | blocks => .nestedBlocks
  | tailArgs | tailBlocks => .tailMeta

/-- The slots of a block, in canonical order. -/
def all (isRoot : Bool) : List Slot :=
  if isRoot then [head, attributes, blocks, tailArgs, tailBlocks] else [head, attributes, blocks]

/-- The slot of an attribute. Tail meta arguments are known in a root block only. -/
def ofAttribute (isRoot : Bool) (c : ArgClass) : Slot :=
  if c.isHead then head else if isRoot && c.isTail then tailArgs else attributes

/-- The slot of a nested block. -/
def ofBlock (isRoot : Bool) (c : ArgClass) : Slot :=
  if isRoot && c.isTail then tailBlocks else blocks

/-- The arguments of each slot in a section of its own. -/
def sections (isRoot : Bool) (args : List (Slot × Arg)) : List Section :=
  (all isRoot).map fun slot =>
    Section.ofArgs slot.kind ((args.filter fun (s, _) => s == slot).map (·.2))

end Slot

/-- The argument that an attribute is, and its slot. -/
def attributeArg (file : SourceFile) (classifier : Classifier) (isRoot : Bool) (a : Attribute) :
    Slot × Arg :=
  let c := classifier.classify a.key
  let range := file.rangeOf a.span
  (.ofAttribute isRoot c, ⟨a.key, range, c.priority, .attr (file.slice range)⟩)

mutual

/-- The layout tree of a block at a path. -/
def Tree.build (file : SourceFile) (classifier : Classifier) (isRoot : Bool) (path : List String) :
    Block → Tree
  | ⟨kind, labels, body, span⟩ =>
    let b : Block := ⟨kind, labels, body, span⟩
    let attributes := b.attributesByOffset.map (attributeArg file classifier isRoot)
    let blocks := blockArgs file classifier isRoot kind path body
    { name := blockName b
      sortField := blockSortField b
      path := path
      range := file.rangeOf span
      defRange := file.defRange b
      header := b.header
      sections := Slot.sections isRoot (attributes ++ blocks) }

/-- The arguments that the blocks among some structures are, and their slots. -/
def blockArgs (file : SourceFile) (classifier : Classifier) (isRoot : Bool) (parentKind : String)
    (path : List String) : List Item → List (Slot × Arg)
  | [] => []
  | .attr _ :: items => blockArgs file classifier isRoot parentKind path items
  | .block b :: items =>
    let name := blockName b
    let c := classifier.classify name
    let childPath := if inheritsPath parentKind name then path else path ++ [name]
    let tree := Tree.build file classifier false childPath b
    (.ofBlock isRoot c, ⟨tree.sortField, tree.range, c.priority, .block tree⟩) ::
      blockArgs file classifier isRoot parentKind path items

end

/-- The layout tree of a top level block. -/
def Tree.root (file : SourceFile) (classifier : Classifier) (b : Block) : Tree :=
  Tree.build file classifier true (b.kind :: b.firstLabel?.toList) b

namespace Tree

/-- All arguments, section by section. -/
def args (t : Tree) : List Arg := t.sections.flatMap (·.args)

/-- The nested blocks, section by section. -/
def nested (t : Tree) : List Tree :=
  t.args.filterMap fun arg =>
    match arg.content with
    | .attr _ => none
    | .block tree => some tree

end Tree

end TerraLint.Layout
