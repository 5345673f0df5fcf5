import TerraLint.Data.Sorted
import TerraLint.Hcl.Tree

/-!
# Looking into bodies

The attributes and the blocks of a body, of one block type, of all nested blocks, and the name under
which a block is announced.
-/

namespace TerraLint.Hcl

namespace Item

/-- The attribute that a structure is. -/
def attr? : Item → Option Attribute
  | .attr a => some a
  | .block _ => none

/-- The block that a structure is. -/
def block? : Item → Option Block
  | .attr _ => none
  | .block b => some b

/-- Where a structure stands. -/
def span : Item → Span
  | .attr a => a.span
  | .block b => b.span

end Item

namespace Body

/-- The attributes of a body, in source order. -/
def attributes (body : Body) : List Attribute := body.filterMap Item.attr?

/-- The blocks of a body, in source order. -/
def blocks (body : Body) : List Block := body.filterMap Item.block?

/-- The blocks of one type, in source order. -/
def blocksOf (body : Body) (kind : String) : List Block :=
  body.blocks.filter fun b => b.kind == kind

/-- The first block of another type. -/
def firstBlockNotOf (body : Body) (kind : String) : Option Block :=
  body.blocks.find? fun b => b.kind != kind

/-- The attribute with a key. -/
def attribute? (body : Body) (key : String) : Option Attribute :=
  body.attributes.find? fun a => a.key == key

/-- The attributes ordered by where they start. -/
def attributesByOffset (body : Body) : List Attribute :=
  sortBy (fun a b => a.span.start ≤ b.span.start) body.attributes

end Body

mutual

/-- The attributes of the blocks among some structures, and of all blocks nested in them. -/
def nestedAttributes : List Item → List Attribute
  | [] => []
  | .attr _ :: items => nestedAttributes items
  | .block b :: items => b.allAttributes ++ nestedAttributes items

/-- Every attribute of a block: its own first, then those of its blocks. -/
def Block.allAttributes : Block → List Attribute
  | ⟨_, _, body, _⟩ => Body.attributes body ++ nestedAttributes body

end

/-- Every attribute of a body: its own first, then those of its blocks, depth first. -/
def Body.allAttributes (body : Body) : List Attribute := body.attributes ++ nestedAttributes body

namespace Block

/-- The attributes of a block, in source order. -/
def attributes (b : Block) : List Attribute := Body.attributes b.body

/-- The blocks inside a block, in source order. -/
def blocks (b : Block) : List Block := Body.blocks b.body

/-- The blocks of one type inside a block, in source order. -/
def blocksOf (b : Block) (kind : String) : List Block := Body.blocksOf b.body kind

/-- The attribute of a block with a key. -/
def attribute? (b : Block) (key : String) : Option Attribute := Body.attribute? b.body key

/-- The attributes of a block ordered by where they start. -/
def attributesByOffset (b : Block) : List Attribute := Body.attributesByOffset b.body

/-- The first label. -/
def firstLabel? (b : Block) : Option String := b.labels.head?

/-- The first label, empty when there is none. -/
def firstLabel (b : Block) : String := b.firstLabel?.getD ""

/-- The type and the labels in quotes, as a block is announced. -/
def header (b : Block) : String :=
  b.labels.foldl (fun text label => text ++ " \"" ++ label ++ "\"") b.kind

end Block

end TerraLint.Hcl
