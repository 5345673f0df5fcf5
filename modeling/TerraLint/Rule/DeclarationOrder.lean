import TerraLint.Format
import TerraLint.Data.Sorted
import TerraLint.Rule.Basic

/-!
# The order of declarations

Variables stand with those that have a default first, each group by name; outputs stand by name; the
values of a `locals` block stand by name. An issue recommends the declarations in order, those with
equal keys as they stand.
-/

namespace TerraLint

open Text Hcl

namespace DeclarationOrder

/-- Whether a variable may stand before another: with a default first, then by name. -/
def variablePrecedes (a b : Block) : Bool :=
  let required (v : Block) := (v.attribute? "default").isNone
  if required a = required b then stringLe a.firstLabel b.firstLabel else !required a

/-- Whether an output may stand before another: by name. -/
def outputPrecedes (a b : Block) : Bool := stringLe a.firstLabel b.firstLabel

/-- The texts of blocks with a blank line between each two, in normal layout. -/
def renderBlocks (file : SourceFile) (blocks : List Block) : String :=
  String.ofList (format (['\n', '\n'].intercalate (blocks.map fun b => file.textOf b.span)))

/-- Recommends an order for blocks that are out of it, at the first of them. -/
def checkBlocks (title : String) (precedes : Block → Block → Bool) (file : SourceFile)
    (blocks : List Block) : List Finding :=
  match blocks with
  | [] => []
  | first :: _ =>
    if inOrder precedes blocks then []
    else [.issue (title ++ "\n" ++ renderBlocks file (sortBy precedes blocks)) (file.defRange first)]

/-- A `locals` block that holds some values, in normal layout. -/
def renderLocals (file : SourceFile) (values : List Attribute) : String :=
  let lines := values.map fun a => file.textOf a.span
  String.ofList (format ("locals \x7b\n".toList ++ unlines lines ++ ['\n', '}']))

/-- Recommends an order for the values of a `locals` block that are out of it. -/
def checkLocals (file : SourceFile) (b : Block) : List Finding :=
  let values := b.attributesByOffset
  if inOrderOn Attribute.key values then []
  else
    [.issue ("Recommended locals variable order:\n" ++
      renderLocals file (sortOn Attribute.key values)) (file.defRange b)]

end DeclarationOrder

namespace Rule

open DeclarationOrder

/-- Variables stand with those that have a default first, each group by name. -/
def variableOrder : Rule where
  name := "terraform_variable_order"
  description :=
    "Recommends declaring variables with a default value first, each group sorted by name"
  findings file body :=
    checkBlocks "Recommended variable order:" variablePrecedes file (body.blocksOf "variable")

/-- Outputs stand by name. -/
def outputOrder : Rule where
  name := "terraform_output_order"
  description := "Recommends sorting outputs by name"
  findings file body :=
    checkBlocks "Recommended output order:" outputPrecedes file (body.blocksOf "output")

/-- The values of a `locals` block stand by name. -/
def localsOrder : Rule where
  name := "terraform_locals_order"
  description := "Recommends sorting the values of each locals block by name"
  findings file body := (body.blocksOf "locals").flatMap (checkLocals file)

end Rule

end TerraLint
