import TerraLint.Rule.Basic

/-!
# Declarations in files of their own

A file that declares variables declares nothing else, and so does one that declares outputs. The
issue stands at the first block of another type.
-/

namespace TerraLint

open Hcl

/-- Reports the first block of another type in a file that has a block of this type. -/
def checkSeparate (kind message : String) (file : SourceFile) (body : Body) : List Finding :=
  if (body.blocksOf kind).isEmpty then []
  else
    match body.firstBlockNotOf kind with
    | some other => [.issue message (file.defRange other)]
    | none => []

namespace Rule

/-- Variables stand in a file of their own. -/
def variableSeparate : Rule where
  name := "terraform_variable_separate"
  description := "Variables should be declared in a file of their own"
  findings := checkSeparate "variable"
    "Putting variables and other types of blocks in the same file is not recommended"

/-- Outputs stand in a file of their own. -/
def outputSeparate : Rule where
  name := "terraform_output_separate"
  description := "Outputs should be declared in a file of their own"
  findings := checkSeparate "output"
    "Putting outputs and other types of blocks in the same file is not recommended"

end Rule

end TerraLint
