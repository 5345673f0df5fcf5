import TerraLint.Error
import TerraLint.Source.File
import TerraLint.Hcl.Evaluation

/-!
# Values of attributes

The value of an attribute is computed from its own text, with no variables and no functions in
scope: whatever refers to anything else has no value.
-/

namespace TerraLint.SourceFile

open Hcl

/-- The value of an attribute, if it is static. -/
def value? (file : SourceFile) (a : Attribute) : Option Value := evaluateText (file.textOf a.span)

/-- The value of an attribute; an error if it is not static. -/
def evaluate (file : SourceFile) (a : Attribute) : Except LintError Value :=
  match file.value? a with
  | some v => .ok v
  | none => .error (.evaluation file.name a.key "the value is not static")

end TerraLint.SourceFile
