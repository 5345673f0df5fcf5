import Mathlib.Logic.Basic
import TerraLint.Rule.VariableName

/-!
# Branches of conditionals

A value that is assigned directly is judged if it is a reference, a branch of a conditional whatever
it is. So a branch is judged as if it were assigned by itself unless it holds a single reference to
a variable, inside a call, a collection or a template for instance, that does not bear the name of
the argument.

* `VariableName.Place`: the places of a file at which attributes are looked at.
* `VariableName.Misnames`: the expressions that are reported when they are judged.
* `VariableName.findings_conditional`: what is found in a conditional and in its branches.
-/

namespace TerraLint

open Hcl

namespace VariableName

/-! ## Attributes in their place -/

/-- A place for an attribute among the structures of a block or of a block in it. -/
inductive Place where
  | here (kind : String) (labels : List String) (above below : List Item) (span : Span)
  | nested (kind : String) (labels : List String) (above : List Item) (inner : Place)
      (below : List Item) (span : Span)

namespace Place

/-- The type of the outermost block. -/
def kind : Place → String
  | .here kind _ _ _ _ => kind
  | .nested kind _ _ _ _ _ => kind

/-- The outermost block with an attribute put in. -/
def block (a : Attribute) : Place → Block
  | .here kind labels above below span => ⟨kind, labels, above ++ .attr a :: below, span⟩
  | .nested kind labels above inner below span =>
    ⟨kind, labels, above ++ .block (inner.block a) :: below, span⟩

/-- No block around the place that stands inside another one is one of the language itself. -/
def Visited : Place → Prop
  | .here .. => True
  | .nested _ _ _ inner _ _ => inner.kind ∉ builtIn ∧ inner.Visited

theorem kind_block (place : Place) (a : Attribute) : (place.block a).kind = place.kind := by
  cases place <;> rfl

end Place

variable {file : SourceFile} {property : String} {e : Expr}

theorem nestedVisited_append (items items' : List Item) :
    nestedVisited (items ++ items') = nestedVisited items ++ nestedVisited items' := by
  induction items with
  | nil => simp [nestedVisited]
  | cons item items ih => cases item <;> simp [nestedVisited, ih]

/-- An attribute at a place is looked at once, among the same others whatever it is. -/
theorem exists_visited_block {place : Place} (h : place.Visited) :
    ∃ before after, ∀ a, visited (place.block a) = before ++ a :: after := by
  induction place with
  | here kind labels above below span =>
    refine ⟨Body.attributes above, Body.attributes below ++ nestedVisited (above ++ below), ?_⟩
    intro a
    simp [Place.block, visited, Body.attributes, nestedVisited, nestedVisited_append, Item.attr?]
  | nested kind labels above inner below span ih =>
    obtain ⟨hkind, hinner⟩ := h
    obtain ⟨before, after, hvisited⟩ := ih hinner
    refine ⟨Body.attributes above ++ Body.attributes below ++ nestedVisited above ++ before,
      after ++ nestedVisited below, fun a => ?_⟩
    have hattributes : Body.attributes (above ++ .block (inner.block a) :: below) =
        Body.attributes above ++ Body.attributes below := by
      simp only [Body.attributes, List.filterMap_append]
      rfl
    have hlooked : builtIn.contains (inner.block a).kind = false := by
      rw [Place.kind_block]
      simpa using hkind
    rw [Place.block, visited, hattributes, nestedVisited_append, nestedVisited, hlooked, hvisited]
    simp

/-- What is found around an attribute of a resource does not depend on it. -/
theorem exists_findings_block {place : Place} (hkind : place.kind ∈ ["resource", "data"])
    (h : place.Visited) (file : SourceFile) (above below : Body) : ∃ before after, ∀ a,
      Rule.variableNameConvention.findings file (above ++ .block (place.block a) :: below) =
        before ++ checkAttribute file a ++ after := by
  obtain ⟨before, after, hvisited⟩ := exists_visited_block h
  let found (bs : List Block) := ((bs.filter isResource).flatMap visited).flatMap (checkAttribute file)
  refine ⟨found above.blocks ++ before.flatMap (checkAttribute file),
    after.flatMap (checkAttribute file) ++ found below.blocks, fun a => ?_⟩
  have hblocks : Body.blocks (above ++ .block (place.block a) :: below) =
      above.blocks ++ place.block a :: below.blocks := by
    simp only [Body.blocks, List.filterMap_append]
    rfl
  have hresource : isResource (place.block a) = true := by
    rw [isResource, Place.kind_block]
    simpa using hkind
  have hfindings : ∀ body : Body, Rule.variableNameConvention.findings file body =
      found body.blocks := fun _ => rfl
  rw [hfindings, hblocks]
  simp only [found, List.filter_append, List.filter_cons_of_pos hresource, List.flatMap_append,
    List.flatMap_cons, hvisited, List.append_assoc]

/-! ## Single references -/

/-- An expression holds one reference, to a variable, and that does not bear the name of the
argument. -/
def Misnames (property : String) (e : Expr) : Prop :=
  ∃ r, e.references = [r] ∧ r.rootName = "var" ∧
    (r.name = "" ∨ property = "" ∨ ¬property.toList <:+ r.name.toList)

theorem checkReference_eq_nil_iff {r : Reference} : checkReference file property r = [] ↔
    ¬(r.name = "" ∨ property = "" ∨ ¬property.toList <:+ r.name.toList) := by
  unfold checkReference
  simp only [List.append_eq_nil_iff, ite_eq_right_iff, ite_eq_left_iff, Bool.or_eq_true,
    String.isEmpty_iff, imp_false, List.isSuffixOf_iff_suffix, List.cons_ne_nil]
  rw [← not_or, or_assoc]

/-- What is judged is reported just when it misnames the argument. -/
theorem checkExpr_eq_nil_iff : checkExpr file property e = [] ↔ ¬Misnames property e := by
  unfold checkExpr
  split
  · rename_i r hreferences
    split
    · rename_i hvar
      rw [checkReference_eq_nil_iff, not_iff_not]
      constructor
      · exact fun h => ⟨r, hreferences, hvar, h⟩
      · rintro ⟨r', hreferences', -, h⟩
        obtain rfl := List.singleton_inj.1 (hreferences.symm.trans hreferences')
        exact h
    · rename_i hvar
      refine iff_of_true rfl ?_
      rintro ⟨r', hreferences', hvar', -⟩
      obtain rfl := List.singleton_inj.1 (hreferences.symm.trans hreferences')
      exact hvar hvar'
  · rename_i hnone
    refine iff_of_true rfl ?_
    rintro ⟨r, hreferences, -⟩
    exact hnone r hreferences

/-- Only references count in what is judged. -/
theorem checkExpr_congr {e' : Expr} (h : e.references = e'.references) :
    checkExpr file property e = checkExpr file property e' := by
  unfold checkExpr
  rw [h]

theorem references_of_no_reference (h : e.reference? = none) :
    e.references = e.children.flatMap Expr.references := by
  rw [Expr.references, h]
  dsimp only
  rw [List.flatMap_subtype (g := Expr.references) (fun _ _ => rfl), List.unattach_attach]

theorem references_conditional (span : Option Span) (cond yes no : Expr) :
    Expr.references (.node span (.conditional cond yes no)) =
      cond.references ++ yes.references ++ no.references := by
  have hchildren : (Expr.node span (.conditional cond yes no)).children = [cond, yes, no] := rfl
  rw [references_of_no_reference rfl, hchildren]
  simp

/-! ## Branches and values -/

/-- What is found in a branch of a conditional. -/
def checkBranch (file : SourceFile) (property : String) (e : Expr) : List Finding :=
  if builtIn.contains property then [] else checkExpr file property e

/-- What is found in a value that is assigned directly. -/
def checkValue (file : SourceFile) (property : String) (e : Expr) : List Finding :=
  (assigned e).flatMap (checkBranch file property)

theorem checkAttribute_eq (file : SourceFile) (a : Attribute) :
    checkAttribute file a = checkValue file a.key a.value := by
  unfold checkAttribute checkValue checkBranch
  split
  · exact (List.flatMap_eq_nil_iff.2 fun _ _ => rfl).symm
  · rfl

/-- What is assigned in a misnaming value and misnames itself holds the reference. -/
theorem checkExpr_assigned (h : Misnames property e) (hassigned : ∃ x ∈ assigned e, Misnames property x) :
    (assigned e).flatMap (checkExpr file property) = checkExpr file property e := by
  obtain ⟨r, hreferences, -⟩ := h
  obtain ⟨x, hx, r', hx', -⟩ := hassigned
  obtain ⟨span, form⟩ := e
  cases form with
  | conditional cond yes no =>
    have hnil : ∀ {e : Expr}, e.references = [] → checkExpr file property e = [] := fun h => by
      rw [checkExpr, h]
    have hassigned : assigned (.node span (.conditional cond yes no)) = [yes, no] := rfl
    rw [hassigned, List.flatMap_cons, List.flatMap_singleton]
    rw [references_conditional] at hreferences
    rw [hassigned] at hx
    have hlength := congrArg List.length hreferences
    simp only [List.length_append, List.length_cons, List.length_nil] at hlength
    -- The one reference stands in the branch that misnames, so the other one is not reported.
    rcases List.mem_cons.1 hx with rfl | hx
    · have hlength' := congrArg List.length hx'
      have hno : no.references = [] := List.length_eq_zero_iff.1 (by simp at hlength'; omega)
      have hcond : cond.references = [] := List.length_eq_zero_iff.1 (by simp at hlength'; omega)
      rw [hnil hno, List.append_nil]
      refine checkExpr_congr ?_
      rw [references_conditional, hcond, hno, List.nil_append, List.append_nil]
    · obtain rfl := List.mem_singleton.1 hx
      have hlength' := congrArg List.length hx'
      have hyes : yes.references = [] := List.length_eq_zero_iff.1 (by simp at hlength'; omega)
      have hcond : cond.references = [] := List.length_eq_zero_iff.1 (by simp at hlength'; omega)
      rw [hnil hyes, List.nil_append]
      refine checkExpr_congr ?_
      rw [references_conditional, hcond, hyes, List.nil_append, List.nil_append]
  | traversal root steps => exact List.flatMap_singleton _ _
  | _ => cases hx

/-- A branch is judged as if it were assigned directly just when it misnames the argument as what is
judged of it then does. -/
theorem checkBranch_eq_checkValue_iff :
    checkBranch file property e = checkValue file property e ↔ property ∈ builtIn ∨
      (Misnames property e ↔ ∃ x ∈ assigned e, Misnames property x) := by
  by_cases hbuiltIn : property ∈ builtIn
  · have hbranch : ∀ e, checkBranch file property e = [] := fun e =>
      if_pos (List.contains_iff_mem.2 hbuiltIn)
    refine iff_of_true ?_ (.inl hbuiltIn)
    rw [hbranch, checkValue]
    exact (List.flatMap_eq_nil_iff.2 fun x _ => hbranch x).symm
  · have hbranch : checkBranch file property = checkExpr file property := funext fun e =>
      if_neg (mt List.contains_iff_mem.1 hbuiltIn)
    have hvalue : (assigned e).flatMap (checkExpr file property) = [] ↔
        ¬∃ x ∈ assigned e, Misnames property x := by
      simp only [List.flatMap_eq_nil_iff, checkExpr_eq_nil_iff, not_exists, not_and]
    rw [checkValue, hbranch, or_iff_right hbuiltIn]
    constructor
    · intro heq
      rw [← not_iff_not, ← hvalue, ← heq, checkExpr_eq_nil_iff]
    · intro hiff
      by_cases hmisnames : Misnames property e
      · exact (checkExpr_assigned hmisnames (hiff.1 hmisnames)).symm
      · rw [checkExpr_eq_nil_iff.2 hmisnames, hvalue.2 (mt hiff.2 hmisnames)]

/-- What is found at a place of a resource when a value is assigned there: for a conditional, what
is found in one branch and then in the other one, among the same findings as for any other value. A
branch may differ from the value assigned directly only by a single reference that misnames the
argument. -/
theorem findings_conditional {place : Place} (hkind : place.kind ∈ ["resource", "data"])
    (h : place.Visited) (file : SourceFile) (above below : Body) (a : Attribute) :
    ∃ before after,
      (∀ e, Rule.variableNameConvention.findings file
          (above ++ .block (place.block { a with value := e }) :: below) =
        before ++ checkValue file a.key e ++ after) ∧
      (∀ span cond yes no, Rule.variableNameConvention.findings file
          (above ++ .block (place.block
            { a with value := .node span (.conditional cond yes no) }) :: below) =
        before ++ (checkBranch file a.key yes ++ checkBranch file a.key no) ++ after) ∧
      ∀ e, checkBranch file a.key e = checkValue file a.key e ↔
        a.key ∈ builtIn ∨ (Misnames a.key e ↔ ∃ x ∈ assigned e, Misnames a.key x) := by
  obtain ⟨before, after, hfindings⟩ := exists_findings_block hkind h file above below
  refine ⟨before, after, fun e => ?_, fun span cond yes no => ?_, fun e =>
    checkBranch_eq_checkValue_iff⟩
  · rw [hfindings, checkAttribute_eq]
  · have hvalue : checkValue file a.key (.node span (.conditional cond yes no)) =
        checkBranch file a.key yes ++ checkBranch file a.key no := by
      have hassigned : assigned (.node span (.conditional cond yes no)) = [yes, no] := rfl
      rw [checkValue, hassigned, List.flatMap_cons, List.flatMap_singleton]
    rw [hfindings, checkAttribute_eq]
    dsimp only
    rw [hvalue]

/-- The value `f(var.x)`. -/
def callOfVariable : Expr :=
  .node none (.call ["f"] [.node none (.traversal (.node none (.variable "var")) [.attr ⟨0, 0⟩ "x"])]
    false ⟨false, none⟩)

theorem references_callOfVariable :
    callOfVariable.references = [⟨.node none (.variable "var"), "var", "x"⟩] := by
  have hargument : Expr.references (.node none (.traversal (.node none (.variable "var"))
      [.attr ⟨0, 0⟩ "x"])) = [⟨.node none (.variable "var"), "var", "x"⟩] := by
    rw [Expr.references]
    rfl
  have hchildren : callOfVariable.children =
      [.node none (.traversal (.node none (.variable "var")) [.attr ⟨0, 0⟩ "x"])] := rfl
  rw [references_of_no_reference rfl, hchildren, List.flatMap_singleton, hargument]

/-- In `name = true ? f(var.x) : null` the call is reported, in `name = f(var.x)` it is not. -/
theorem findings_conditional_call :
    let place := Place.here "resource" ["a", "b"] [] [] ⟨0, 0⟩
    let found (e : Expr) := Rule.variableNameConvention.findings (.parse "main.tf" [])
      [.block (place.block ⟨"name", ⟨0, 0⟩, e, ⟨0, 0⟩⟩)]
    found callOfVariable = [] ∧ found (.node none .null) = [] ∧
    found (.node none (.conditional (.node none (.bool true)) callOfVariable (.node none .null))) ≠
      [] := by
  intro place found
  have hdirect : found callOfVariable = [] := rfl
  refine ⟨hdirect, rfl, ?_⟩
  obtain ⟨before, after, hvalue, hchoice, hagree⟩ := @findings_conditional place (by decide) trivial
    (.parse "main.tf" []) [] [] ⟨"name", ⟨0, 0⟩, callOfVariable, ⟨0, 0⟩⟩
  have hmisnames : Misnames "name" callOfVariable :=
    ⟨_, references_callOfVariable, rfl, .inr (.inr (by decide))⟩
  have hcall : ¬("name" ∈ builtIn ∨ (Misnames "name" callOfVariable ↔
      ∃ x ∈ assigned callOfVariable, Misnames "name" x)) := by
    rintro (hbuiltIn | hiff)
    · exact absurd hbuiltIn (by decide)
    · obtain ⟨x, hx, -⟩ := hiff.1 hmisnames
      cases hx
  have hne := mt (hagree callOfVariable).1 hcall
  have hnil : checkValue (.parse "main.tf" []) "name" callOfVariable = [] := rfl
  intro hempty
  have hfound := (hchoice none (.node none (.bool true)) callOfVariable (.node none .null)).symm.trans
    hempty
  simp only [List.append_eq_nil_iff] at hfound
  exact hne (hfound.1.2.1.trans hnil.symm)

end VariableName

end TerraLint
