import TerraLint.Rule.Basic
import TerraLint.Source.Evaluation

/-!
# Declarations of variables

A sensitive variable has no default value, and `nullable` is declared only to say that it is false.
Whether a variable is sensitive or nullable is the value of an expression; a variable whose
sensitivity has no value is a failure, one whose nullability has none counts as nullable.
-/

namespace TerraLint

open Hcl

/-- Whether a default value is there in name only: `null`, or a collection written empty. -/
def isEmptyDefault (e : Expr) : Bool :=
  match e.form with
  | .null | .array [] _ | .object [] _ => true
  | _ => false

/-- Whether a value is the boolean `true`. -/
def Hcl.Value.isTrue : Value → Bool
  | .bool b => b
  | _ => false

/-- Whether a value is the boolean `false`. -/
def Hcl.Value.isFalse : Value → Bool
  | .bool b => !b
  | _ => false

/-- Reports the default value of a variable that is sensitive. -/
def checkSensitive (file : SourceFile) (b : Block) : List Finding :=
  match b.attribute? "default", b.attribute? "sensitive" with
  | some preset, some sensitive =>
    if isEmptyDefault preset.value then []
    else
      match file.evaluate sensitive with
      | .error e => [.failure e]
      | .ok v =>
        if v.isTrue then
          [.issue ("Default value is not expected to be set for sensitive variable `" ++
            b.firstLabel ++ "`") (file.keyRange preset)]
        else []
  | _, _ => []

/-- Reports that a variable says it is nullable. -/
def checkNullable (file : SourceFile) (b : Block) : List Finding :=
  match b.attribute? "nullable" with
  | none => []
  | some nullable =>
    if (file.value? nullable).any Value.isFalse then []
    else
      [.issue "`nullable` is default to `true` so we don't need to declare it explicitly."
        (file.rangeOf nullable.span)]

namespace Rule

/-- Sensitive variables have no default value. -/
def sensitiveVariableNoDefault : Rule where
  name := "terraform_sensitive_variable_no_default"
  description := "Sensitive variables should not declare a default value"
  severity := .warning
  findings file body := (body.blocksOf "variable").flatMap (checkSensitive file)

/-- `nullable` is declared only when it is false. -/
def variableNullableFalse : Rule where
  name := "terraform_variable_nullable_false"
  description := "`nullable` only needs to be declared when it is set to false"
  enabled := true
  findings file body := (body.blocksOf "variable").flatMap (checkNullable file)

end Rule

end TerraLint
