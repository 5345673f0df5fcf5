import TerraLint.Error
import TerraLint.Source.File

/-!
# Rules and what they find

A rule looks at the files of a module one by one. What it finds in a file is a list of findings, in
order: issues, and failures that keep it from deciding. Rules hold no state.
-/

namespace TerraLint

open Hcl

/-- How much an issue matters. -/
inductive Severity where
  | warning
  | notice
deriving DecidableEq, Repr

/-- The word for a severity. -/
def Severity.word : Severity → String
  | warning => "warn"
  | notice => "info"

/-- A recorded issue. The message says what is wrong, and what is recommended instead. -/
structure Issue where
  rule : String
  severity : Severity
  message : String
  range : SourceRange
deriving DecidableEq, Repr

/-- What a rule finds: something to report, or something that could not be decided. -/
inductive Finding where
  | issue (message : String) (range : SourceRange)
  | failure (e : LintError)

/-- The files of a module that a rule looks at. -/
inductive Scope where
  | everyFile
  /-- The first file whose path ends with this name. -/
  | fileNamed (name : String)
deriving DecidableEq, Repr

/-- A rule, with what it finds in a file that has a body. -/
structure Rule where
  name : String
  description : String
  severity : Severity := .notice
  enabled : Bool := false
  scope : Scope := .everyFile
  findings : SourceFile → Body → List Finding

end TerraLint
