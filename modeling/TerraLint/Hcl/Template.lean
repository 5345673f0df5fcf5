import TerraLint.Text.Offset
import TerraLint.Data.Sorted
import TerraLint.Hcl.Quoting
import TerraLint.Hcl.Heredoc

/-!
# Text of templates

A template is written without its quotes. Its sequences are written as they stand in the source, but
strings, quoted templates and heredocs inside them are written anew, with escapes in their literals.
What is written reads as the same template again, except in a quoted template inside another one:
there the literals that follow a further quoted template have no escapes, and those of heredocs and
directives have them, though they read as they stand.

* `Template.text`: the text of a template.
-/

namespace TerraLint.Hcl

open Text

/-- A part of the source that is written anew. -/
structure Patch where
  span : Span
  text : List Char

/-- A result of writing; the state tells whether literals of templates are escaped. -/
abbrev Written := StateM Bool

namespace Patch

/-- The bytes of a source from `start` to `stop`, with patches in the order of their spans. -/
def splice (source : List Char) (start stop : Nat) : List Patch → List Char
  | [] => (sliceBytes start stop source).getD []
  | p :: patches =>
    (sliceBytes start p.span.start source).getD [] ++ p.text ++
      splice source p.span.stop stop patches

/-- A span of a source with patches inside it. -/
def apply (source : List Char) (span : Span) (patches : List Patch) : List Char :=
  splice source span.start span.stop (sortBy (fun a b => a.span.start ≤ b.span.start) patches)

/-- The patch of what stands somewhere. -/
def at? (span : Option Span) (text : List Char) : List Patch :=
  match span with
  | none => []
  | some span => [⟨span, text⟩]

end Patch

/-- Literal text of a template, escaped when the state says so. -/
def writeLiteral (text : List Char) : Written (List Char) := do
  let marked := escapeMarkers text
  return if ← get then marked.flatMap escapeChar else marked

mutual

/-- What is written anew inside an expression. -/
def Expr.patches (source : List Char) : Expr → Written (List Patch)
  | .node span form => form.patches source span

/-- What is written anew in a form that stands at a span. -/
def Form.patches (source : List Char) (span : Option Span) : Form → Written (List Patch)
  | .null | .bool _ | .number _ | .variable _ => return []
  | .string s => return Patch.at? span (quoted s).toList
  | .array items _ => patchesOf source items
  | .object entries _ => patchesOfEntries source entries
  | .template parts => do
    set true
    let text ← writeParts source 0 true parts
    set false
    return Patch.at? span ('"' :: text ++ ['"'])
  | .heredoc marker parts => do
    let text ← writeParts source (marker.indent.getD 0) true parts
    let opening := (if marker.indent.isSome then "<<-" else "<<") ++ marker.id ++ "\n"
    return Patch.at? span (opening.toList ++ text ++ marker.id.toList)
  | .parens inner => inner.patches source
  | .conditional cond yes no => do
    return (← cond.patches source) ++ (← yes.patches source) ++ (← no.patches source)
  | .call _ args _ _ => patchesOf source args
  | .traversal root steps => return (← root.patches source) ++ (← patchesOfSteps source steps)
  | .unary _ place (.node _ operand) => operand.patches source (some place)
  | .binary lhs _ rhs => return (← lhs.patches source) ++ (← rhs.patches source)
  | .comprehension _ _ collection key value _ cond => do
    return (← collection.patches source) ++ (← patchesOfOption source key) ++
      (← value.patches source) ++ (← patchesOfOption source cond)

/-- What is written anew inside an expression that may be missing. -/
def patchesOfOption (source : List Char) : Option Expr → Written (List Patch)
  | none => return []
  | some e => e.patches source

/-- What is written anew inside some expressions. -/
def patchesOf (source : List Char) : List Expr → Written (List Patch)
  | [] => return []
  | e :: es => return (← e.patches source) ++ (← patchesOf source es)

/-- What is written anew inside the entries of an object. -/
def patchesOfEntries (source : List Char) : List Entry → Written (List Patch)
  | [] => return []
  | .mk key value _ _ :: entries => do
    return (← key.patches source) ++ (← value.patches source) ++
      (← patchesOfEntries source entries)

/-- What is written anew inside the steps of a traversal. -/
def patchesOfSteps (source : List Char) : List Step → Written (List Patch)
  | [] => return []
  | .index _ key :: steps => return (← key.patches source) ++ (← patchesOfSteps source steps)
  | _ :: steps => patchesOfSteps source steps

/-- The text of template parts, with `indent` blanks put before each line that starts in a literal;
`atStart` tells whether the first part starts a line. -/
def writeParts (source : List Char) (indent : Nat) (atStart : Bool) :
    List Part → Written (List Char)
  | [] => return []
  | .literal text :: parts => do
    let literal ← writeLiteral (Heredoc.indentText indent atStart text.toList)
    return literal ++ (← writeParts source indent (Heredoc.endsLine text.toList) parts)
  | .interpolation sequence e :: parts => do
    let text := Patch.apply source sequence.span (← e.patches source)
    return text ++ (← writeParts source indent false parts)
  | .choice opening cond yes middle no closing :: parts => do
    let header := Patch.apply source opening.span (← cond.patches source)
    let yes ← writeParts source 0 false yes
    let divider := middle.elim [] fun sequence => Patch.apply source sequence.span []
    let no ← writeParts source 0 false no
    return header ++ yes ++ divider ++ no ++ Patch.apply source closing.span [] ++
      (← writeParts source indent false parts)
  | .repetition opening _ _ collection body closing :: parts => do
    let header := Patch.apply source opening.span (← collection.patches source)
    let body ← writeParts source 0 false body
    return header ++ body ++ Patch.apply source closing.span [] ++
      (← writeParts source indent false parts)

end

/-- The text of a template without its quotes; the spans of its parts are those of a source. -/
def Template.text (source : List Char) (parts : List Part) : List Char :=
  (Id.run ((writeParts source 0 true parts).run false)).1

end TerraLint.Hcl
