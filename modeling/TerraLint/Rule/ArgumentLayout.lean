import TerraLint.Layout.Render
import TerraLint.Rule.Basic

/-!
# The layout of resources and data sources

The arguments of a resource or of a data source stand in canonical order. The issue recommends the
canonical form of each outermost block that is out of order.
-/

namespace TerraLint

open Hcl

/-- Whether a block declares a resource or a data source. -/
def isResource (b : Block) : Bool := b.kind == "resource" || b.kind == "data"

/-- Reports the outermost blocks in a block whose arguments are out of order. -/
def checkLayout (file : SourceFile) (b : Block) : List Finding :=
  (Layout.Tree.root file .terraform b).misplaced.map fun m =>
    .issue ("Arguments are expected to be arranged in following Layout:\n" ++
      String.ofList m.suggestion) m.range

/-- The arguments of resources and data sources stand in canonical order. -/
def Rule.argumentLayout : Rule where
  name := "terraform_resource_data_arg_layout"
  description :=
    "Arguments of resource and data blocks should follow the canonical layout: meta arguments, attributes, nested blocks, then depends_on and lifecycle"
  findings file body := (body.blocks.filter isResource).flatMap (checkLayout file)

end TerraLint
