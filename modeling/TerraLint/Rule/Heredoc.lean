import TerraLint.Hcl.Subterm
import TerraLint.Json.Reader
import TerraLint.Rule.Basic
import TerraLint.Yaml.Document

/-!
# Documents in heredocs

A heredoc that writes a JSON value or a YAML mapping is better written as a value of the language
and encoded by a function. What is interpolated into the heredoc contributes nothing to its text.
The issue stands on the line on which the heredoc starts.
-/

namespace TerraLint

open Text Hcl

namespace Hcl

/-- The literal text of a heredoc. -/
def Expr.heredocText? (e : Expr) : Option String :=
  match e.form with
  | .heredoc _ parts => some (String.join (parts.filterMap Part.literal?))
  | _ => none

/-- The heredocs in an expression with their texts, in source order. -/
def Expr.heredocs (e : Expr) : List (Expr × String) :=
  e.preorder.filterMap fun h => h.heredocText?.map fun text => (h, text)

end Hcl

namespace Heredoc

/-- What is recommended instead of a heredoc with a text. -/
def recommendation? (text : List Char) : Option String :=
  if allBlank text then none
  else if (Json.parse? text).isSome then
    some "for JSON, instead of HEREDOC, use a combination of a `local` and the `jsonencode` function"
  else if Yaml.isMapping text then
    some "for YAML, instead of HEREDOC, use a combination of a `local` and the `yamlencode` function"
  else none

/-- The range of the first line of a span. -/
def firstLine (file : SourceFile) (span : Span) : SourceRange :=
  let rest := (dropBytes? span.start file.text).getD []
  let line := rest.takeWhile (· != '\n')
  let stop := if line.length < rest.length then span.start + byteLength line else span.stop
  file.range span.start (min stop span.stop)

/-- Reports a heredoc that writes a document. -/
def check (file : SourceFile) (heredoc : Expr × String) : List Finding :=
  match recommendation? heredoc.2.toList, heredoc.1.span with
  | some message, some span => [.issue message (firstLine file span)]
  | _, _ => []

end Heredoc

/-- JSON and YAML are encoded by functions instead of written in heredocs. -/
def Rule.heredocUsage : Rule where
  name := "terraform_heredoc_usage"
  description := "Recommends jsonencode or yamlencode over HEREDOC holding JSON or YAML"
  findings file body :=
    (body.allAttributes.flatMap fun a => a.value.heredocs).flatMap (Heredoc.check file)

end TerraLint
