import TerraLint.Hcl.Tree

/-!
# Sub-expressions

A sub-expression is smaller than the expression it belongs to, so that functions may descend from an
expression to its children.

* `Expr.size_lt_of_mem_children`: children are smaller.
* `Expr.preorder`: an expression and all its sub-expressions, each before its own.
-/

namespace TerraLint.Hcl

theorem Entry.size_lt_of_mem_exprs {entry : Entry} {e : Expr} (h : e ∈ entry.exprs) :
    sizeOf e < sizeOf entry := by
  cases entry with
  | mk k v colon ending =>
    simp only [Entry.exprs, Entry.key, Entry.value] at h
    split at h <;> simp only [List.mem_cons, List.not_mem_nil, or_false] at h
    · subst h
      simp only [Entry.mk.sizeOf_spec]
      omega
    · rcases h with rfl | rfl <;> simp only [Entry.mk.sizeOf_spec] <;> omega

theorem Part.size_lt_of_interpolation {part : Part} {e : Expr} (h : part.interpolation? = some e) :
    sizeOf e < sizeOf part := by
  cases part <;> simp only [Part.interpolation?, reduceCtorEq, Option.some.injEq] at h
  subst h
  simp only [Part.interpolation.sizeOf_spec]
  omega

theorem Step.size_lt_of_index {step : Step} {e : Expr} (h : step.index? = some e) :
    sizeOf e < sizeOf step := by
  cases step <;> simp only [Step.index?, reduceCtorEq, Option.some.injEq] at h
  subst h
  simp only [Step.index.sizeOf_spec]
  omega

theorem Form.size_lt_of_mem_children {form : Form} {e : Expr} (h : e ∈ form.children) :
    sizeOf e < sizeOf form := by
  cases form <;> simp only [Form.children, List.mem_cons, List.not_mem_nil, or_false,
    List.mem_filterMap, List.mem_flatMap, List.cons_append, List.mem_append, Option.mem_toList] at h
  case array items closing =>
    have := List.sizeOf_lt_of_mem h
    simp only [Form.array.sizeOf_spec]
    omega
  case object entries gap =>
    obtain ⟨entry, hm, he⟩ := h
    have h₁ := List.sizeOf_lt_of_mem hm
    have h₂ := Entry.size_lt_of_mem_exprs he
    simp only [Form.object.sizeOf_spec]
    omega
  case template parts =>
    obtain ⟨part, hm, he⟩ := h
    have h₁ := List.sizeOf_lt_of_mem hm
    have h₂ := Part.size_lt_of_interpolation he
    simp only [Form.template.sizeOf_spec]
    omega
  case heredoc marker parts =>
    obtain ⟨part, hm, he⟩ := h
    have h₁ := List.sizeOf_lt_of_mem hm
    have h₂ := Part.size_lt_of_interpolation he
    simp only [Form.heredoc.sizeOf_spec]
    omega
  case parens inner =>
    subst h
    simp only [Form.parens.sizeOf_spec]
    omega
  case conditional cond yes no =>
    simp only [Form.conditional.sizeOf_spec]
    rcases h with rfl | rfl | rfl <;> omega
  case call name args spread closing =>
    have := List.sizeOf_lt_of_mem h
    simp only [Form.call.sizeOf_spec]
    omega
  case traversal root steps =>
    simp only [Form.traversal.sizeOf_spec]
    rcases h with rfl | ⟨step, hm, he⟩
    · omega
    · have h₁ := List.sizeOf_lt_of_mem hm
      have h₂ := Step.size_lt_of_index he
      omega
  case unary op place operand =>
    subst h
    simp only [Form.unary.sizeOf_spec]
    omega
  case binary lhs op rhs =>
    simp only [Form.binary.sizeOf_spec]
    rcases h with rfl | rfl <;> omega
  case comprehension keyName valueName collection key value grouped cond =>
    simp only [Form.comprehension.sizeOf_spec]
    rcases h with rfl | h | rfl | h
    · omega
    · subst h
      simp only [Option.some.sizeOf_spec]
      omega
    · omega
    · subst h
      simp only [Option.some.sizeOf_spec]
      omega

theorem Expr.size_lt_of_mem_children {e child : Expr} (h : child ∈ e.children) :
    sizeOf child < sizeOf e := by
  cases e with
  | node span form =>
    have : sizeOf child < sizeOf form := Form.size_lt_of_mem_children h
    simp only [Expr.node.sizeOf_spec]
    omega

/-- An expression and all its sub-expressions, each before its own. -/
def Expr.preorder (e : Expr) : List Expr :=
  e :: e.children.attach.flatMap fun ⟨child, _⟩ => child.preorder
termination_by sizeOf e
decreasing_by exact Expr.size_lt_of_mem_children ‹_›

end TerraLint.Hcl
