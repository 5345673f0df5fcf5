import TerraLint.Ignore
import TerraLint.Path
import TerraLint.Rule.Basic

/-!
# Checking a module

A session holds the files of a module and the issues that were recorded. An issue is recorded once:
an equal one is refused, and the refusal is an error of the check. A check looks at every file in
its scope that can be read and is not ignored, and goes on after errors.

* `Session.emit`: records an issue.
* `Session.check`: runs a rule.
-/

namespace TerraLint

open Hcl

/-- The files of a module and the issues recorded in them. -/
structure Session where
  files : List SourceFile
  issues : List Issue

namespace Session

/-- A session over named texts, with no issue yet. -/
def start (files : List (String × String)) : Session :=
  ⟨files.map fun (name, text) => SourceFile.parse name text.toList, []⟩

/-- The first file whose path ends with a name. -/
def file? (s : Session) (name : String) : Option SourceFile :=
  s.files.find? fun file => Path.endsWith file.name name

/-- The first file whose path ends with a name; an error if there is none. -/
def file (s : Session) (name : String) : Except LintError SourceFile :=
  match s.file? name with
  | some file => .ok file
  | none => .error (.fileNotFound name)

/-- The body of a file; an error if it cannot be read. -/
def body (s : Session) (name : String) : Except LintError Body := do
  let file ← s.file name
  match file.body? with
  | some body => .ok body
  | none => .error (.parse file.name "invalid syntax")

/-- Records an issue, unless an equal one is recorded. -/
def record (s : Session) (issue : Issue) : Except LintError Session :=
  if s.issues.contains issue then
    .error (.emitRejected issue.rule ("duplicate issue at " ++ issue.range.display))
  else .ok { s with issues := s.issues ++ [issue] }

/-- Records an issue of a rule. -/
def emit (s : Session) (rule : Rule) (message : String) (range : SourceRange) :
    Except LintError Session :=
  s.record ⟨rule.name, rule.severity, message, range⟩

/-- The files that a rule looks at. -/
def inScope (s : Session) : Scope → List SourceFile
  | .everyFile => s.files
  | .fileNamed name => (s.file? name).toList

/-- What a rule finds in a file; nothing if the file is ignored or cannot be read. -/
def findingsIn (rule : Rule) (filter : IgnoreFilter) (file : SourceFile) : List Finding :=
  if filter.isIgnored file.name rule.name then []
  else
    match file.body? with
    | some body => rule.findings file body
    | none => []

/-- What a rule finds in the files of a session. -/
def findings (s : Session) (rule : Rule) (filter : IgnoreFilter) : List Finding :=
  (s.inScope rule.scope).flatMap (findingsIn rule filter)

/-- Takes over a finding: an issue is recorded, an error collected. -/
def takeOver (rule : Rule) : Session × ErrorList → Finding → Session × ErrorList
  | (s, errors), .issue message range =>
    match s.emit rule message range with
    | .ok s => (s, errors)
    | .error e => (s, errors.push e)
  | (s, errors), .failure e => (s, errors.push e)

/-- Runs a rule: the session after it, and its errors together. -/
def check (s : Session) (rule : Rule) (filter : IgnoreFilter) : Session × Except LintError Unit :=
  let (after, errors) := (s.findings rule filter).foldl (takeOver rule) (s, .empty)
  (after, errors.collapse)

end Session

end TerraLint
