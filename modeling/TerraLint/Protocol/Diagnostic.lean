import TerraLint.Json.Basic
import TerraLint.Protocol.Uri
import TerraLint.Rule.Registry
import TerraLint.Session

/-!
# Diagnostics

A document is checked as a module of one file by every rule that its configuration names, whatever
it says about it. Issues become diagnostics, with lines and columns counted from zero; the null
range is the start of the document. Errors of rules are not shown.
-/

namespace TerraLint

/-- A position in a document, counted from zero. -/
structure Place where
  line : Nat
  character : Nat
deriving DecidableEq, Repr

/-- The position in a document. -/
def Pos.toPlace (p : Pos) : Place := ⟨p.line - 1, p.column - 1⟩

/-- A diagnostic; `code` is the name of the rule in capitals. -/
structure Diagnostic where
  ruleId : String
  message : String
  severity : String
  start : Place
  stop : Place
  code : String
  docsUrl : String
deriving DecidableEq, Repr

/-- The diagnostic of an issue of a rule. -/
def Rule.diagnostic (rule : Rule) (issue : Issue) : Diagnostic where
  ruleId := issue.rule
  message := issue.message
  severity := issue.severity.word
  start := issue.range.start.toPlace
  stop := issue.range.stop.toPlace
  code := String.ofList (issue.rule.toList.map Char.toUpper)
  docsUrl := rule.link

/-- The diagnostics of a rule in a document. -/
def Rule.diagnostics (rule : Rule) (filter : IgnoreFilter) (name text : String) : List Diagnostic :=
  ((Session.start [(name, text)]).check rule filter).1.issues.map rule.diagnostic

/-- The diagnostics of a document under a configuration that names some rules. -/
def diagnose (filter : IgnoreFilter) (configured : List String) (name text : String) :
    List Diagnostic :=
  (Rule.all.filter fun rule => configured.contains rule.name).flatMap fun rule =>
    rule.diagnostics filter name text

/-- A position as a value. -/
def Place.toJson (p : Place) : Json :=
  .object [("line", .integer p.line), ("character", .integer p.character)]

/-- A diagnostic as a value. -/
def Diagnostic.toJson (d : Diagnostic) : Json :=
  .object
    [("rule_id", .string d.ruleId), ("message", .string d.message),
     ("severity", .string d.severity),
     ("range", .object [("start", d.start.toJson), ("end", d.stop.toJson)]),
     ("code", .string d.code), ("docs_url", .string d.docsUrl)]

end TerraLint
