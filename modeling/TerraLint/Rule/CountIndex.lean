import TerraLint.Hcl.Subterm
import TerraLint.Rule.Basic

/-!
# Uses of `count.index`

`count.index` names an instance by its position, so that a subscript or an argument made of it moves
when an instance is removed. The rule reports each such reference below a subscript or an argument
of a call; the subscripts of a reported reference are not looked into.

* `Form.places`: the sub-expressions, each with whether it is a subscript or an argument.
* `countIndexes`: the references to report.
-/

namespace TerraLint

open Hcl

namespace Hcl

/-- The direct sub-expressions, each with whether it is a subscript or an argument of a call. -/
def Form.places : Form → List (Bool × Expr)
  | .traversal root steps => (false, root) :: (steps.filterMap Step.index?).map (true, ·)
  | .call _ args _ _ => args.map (true, ·)
  | form => form.children.map (false, ·)

theorem Form.map_places (form : Form) : form.places.map (·.2) = form.children := by
  cases form <;> simp [Form.places, Form.children, List.map_map, Function.comp_def]

theorem Expr.size_lt_of_mem_places {e child : Expr} {marked : Bool}
    (h : (marked, child) ∈ e.form.places) : sizeOf child < sizeOf e := by
  refine Expr.size_lt_of_mem_children ?_
  show child ∈ e.form.children
  rw [← Form.map_places]
  exact List.mem_map.2 ⟨_, h, rfl⟩

/-- Whether an expression refers to `count.index`, or to something inside it. -/
def Expr.isCountIndex (e : Expr) : Bool :=
  match e.form with
  | .traversal root (.attr _ name :: _) => root.name? == some "count" && name == "index"
  | _ => false

/-- The references to `count.index` in an expression that stand below a subscript or an argument,
where `nested` tells whether the expression itself does. -/
def Expr.countIndexes (nested : Bool) (e : Expr) : List Expr :=
  if nested && e.isCountIndex then [e]
  else e.form.places.attach.flatMap fun ⟨(marked, child), _⟩ =>
    child.countIndexes (nested || marked)
termination_by sizeOf e
decreasing_by exact Expr.size_lt_of_mem_places ‹_›

end Hcl

/-- The range of the two names `count.index` at the start of a reference. -/
def SourceFile.countIndexRange (file : SourceFile) (e : Expr) : SourceRange :=
  match e.form with
  | .traversal root (step :: _) =>
    match root.span with
    | some span => file.range span.start step.span.stop
    | none => file.exprRange e
  | _ => file.exprRange e

/-- `count.index` is neither a subscript nor an argument. -/
def Rule.countIndexUsage : Rule where
  name := "terraform_count_index_usage"
  description := "Discourages `count.index` as a subscript or a function argument"
  severity := .warning
  findings file body :=
    let found := body.allAttributes.flatMap fun a => a.value.countIndexes false
    (found.map file.countIndexRange).eraseDups.map fun range =>
      .issue "`count.index` is not recommended to be used as the subscript of list/map or the argument of function call, use for_each instead" range

end TerraLint
