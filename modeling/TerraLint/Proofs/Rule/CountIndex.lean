import Mathlib.Data.List.Pairwise
import TerraLint.Proofs.Rule.Terms

/-!
# Exactly the uses of `count.index` are reported

A reference to `count.index` is reported just when it stands inside a subscript or an argument of a
call and not inside another reference that is reported. References start at tokens of their own, so
that no two issues have the same range and no reference is dropped with the range of another one.

* `Form.Has`, `Expr.Leads`: the ways down from an expression, marked by subscripts and arguments.
* `Expr.Leads.mem_or_enclosed`: what is not reported stands inside what is.
* `CountIndex.nodup_ranges`: references have ranges of their own.
* `countIndexUsage_reports`: what the rule reports about a body.
-/

namespace TerraLint

open Text Hcl

namespace Hcl

/-! ## Parts of an expression -/

/-- A form has an expression as a part of its own, marked when it is a subscript or an argument of a
call. What stands in the directives of a template is no part of it. -/
inductive Form.Has : Form → Bool → Expr → Prop
  | item {items : List Expr} {closing : Closing} {x : Expr} (h : x ∈ items) :
    Has (.array items closing) false x
  | key {entries : List Entry} {gap : Option Span} {entry : Entry} (h : entry ∈ entries)
    (hname : entry.key.name? = none) : Has (.object entries gap) false entry.key
  | value {entries : List Entry} {gap : Option Span} {entry : Entry} (h : entry ∈ entries) :
    Has (.object entries gap) false entry.value
  | interpolation {parts : List Part} {sequence : Sequence} {x : Expr}
    (h : .interpolation sequence x ∈ parts) : Has (.template parts) false x
  | heredoc {marker : Marker} {parts : List Part} {sequence : Sequence} {x : Expr}
    (h : .interpolation sequence x ∈ parts) : Has (.heredoc marker parts) false x
  | parens (x : Expr) : Has (.parens x) false x
  | condition (x yes no : Expr) : Has (.conditional x yes no) false x
  | yes (cond x no : Expr) : Has (.conditional cond x no) false x
  | no (cond yes x : Expr) : Has (.conditional cond yes x) false x
  | argument {name : List String} {args : List Expr} {spread : Bool} {closing : Closing} {x : Expr}
    (h : x ∈ args) : Has (.call name args spread closing) true x
  | root (x : Expr) (steps : List Step) : Has (.traversal x steps) false x
  | subscript {root : Expr} {steps : List Step} {span : Span} {x : Expr}
    (h : .index span x ∈ steps) : Has (.traversal root steps) true x
  | operand (op : UnaryOp) (place : Span) (x : Expr) : Has (.unary op place x) false x
  | left (x : Expr) (op : BinaryOp) (rhs : Expr) : Has (.binary x op rhs) false x
  | right (lhs : Expr) (op : BinaryOp) (x : Expr) : Has (.binary lhs op x) false x
  | collection (keyName : Option String) (valueName : String) (x : Expr) (key : Option Expr)
    (value : Expr) (grouped : Bool) (cond : Option Expr) :
    Has (.comprehension keyName valueName x key value grouped cond) false x
  | newKey (keyName : Option String) (valueName : String) (collection x value : Expr)
    (grouped : Bool) (cond : Option Expr) :
    Has (.comprehension keyName valueName collection (some x) value grouped cond) false x
  | newValue (keyName : Option String) (valueName : String) (collection : Expr) (key : Option Expr)
    (x : Expr) (grouped : Bool) (cond : Option Expr) :
    Has (.comprehension keyName valueName collection key x grouped cond) false x
  | filter (keyName : Option String) (valueName : String) (collection : Expr) (key : Option Expr)
    (value : Expr) (grouped : Bool) (x : Expr) :
    Has (.comprehension keyName valueName collection key value grouped (some x)) false x

/-- A way down from an expression to a part of a part, marked when a step of it is. -/
inductive Expr.Leads : Expr → Bool → Expr → Prop
  | here (x : Expr) : Leads x false x
  | down {e part x : Expr} {marked below : Bool} (hpart : e.form.Has marked part)
    (h : Leads part below x) : Leads e (marked || below) x

/-- An expression has another one inside a subscript or an argument of its own. -/
def Expr.Encloses (e x : Expr) : Prop := ∃ key below, e.form.Has true key ∧ key.Leads below x

theorem Part.interpolation?_eq_some {part : Part} {x : Expr} :
    part.interpolation? = some x ↔ ∃ sequence, part = .interpolation sequence x := by
  cases part <;> simp [Part.interpolation?]

theorem Step.index?_eq_some {step : Step} {x : Expr} :
    step.index? = some x ↔ ∃ span, step = .index span x := by
  cases step <;> simp [Step.index?]

theorem Entry.mem_exprs {entry : Entry} {x : Expr} :
    x ∈ entry.exprs ↔ (entry.key.name? = none ∧ x = entry.key) ∨ x = entry.value := by
  unfold Entry.exprs
  cases entry.key.name? <;> simp

/-- The places that the rule looks at are the parts of a form. -/
theorem Form.mem_places_iff {form : Form} {marked : Bool} {x : Expr} :
    (marked, x) ∈ form.places ↔ form.Has marked x := by
  constructor
  · intro h
    cases form with
    | null | bool | number | string | «variable» => cases h
    | array items closing =>
      simp only [places, children, List.mem_map, Prod.mk.injEq] at h
      obtain ⟨x, hx, rfl, rfl⟩ := h
      exact .item hx
    | object entries gap =>
      simp only [places, children, List.mem_map, List.mem_flatMap, Entry.mem_exprs,
        Prod.mk.injEq] at h
      obtain ⟨x, ⟨entry, hentry, ⟨hname, rfl⟩ | rfl⟩, rfl, rfl⟩ := h
      · exact .key hentry hname
      · exact .value hentry
    | template parts =>
      simp only [places, children, List.mem_map, List.mem_filterMap, Part.interpolation?_eq_some,
        Prod.mk.injEq] at h
      obtain ⟨x, ⟨part, hpart, sequence, rfl⟩, rfl, rfl⟩ := h
      exact .interpolation hpart
    | heredoc marker parts =>
      simp only [places, children, List.mem_map, List.mem_filterMap, Part.interpolation?_eq_some,
        Prod.mk.injEq] at h
      obtain ⟨x, ⟨part, hpart, sequence, rfl⟩, rfl, rfl⟩ := h
      exact .heredoc hpart
    | parens inner =>
      simp only [places, children, List.map_cons, List.map_nil, List.mem_singleton,
        Prod.mk.injEq] at h
      obtain ⟨rfl, rfl⟩ := h
      exact .parens _
    | conditional cond yes no =>
      simp only [places, children, List.map_cons, List.map_nil, List.mem_cons, List.not_mem_nil,
        or_false, Prod.mk.injEq] at h
      rcases h with ⟨rfl, rfl⟩ | ⟨rfl, rfl⟩ | ⟨rfl, rfl⟩
      · exact .condition _ _ _
      · exact .yes _ _ _
      · exact .no _ _ _
    | call name args spread closing =>
      simp only [places, List.mem_map, Prod.mk.injEq] at h
      obtain ⟨x, hx, rfl, rfl⟩ := h
      exact .argument hx
    | traversal root steps =>
      simp only [places, List.mem_cons, List.mem_map, List.mem_filterMap, Step.index?_eq_some,
        Prod.mk.injEq] at h
      rcases h with ⟨rfl, rfl⟩ | ⟨x, ⟨step, hstep, span, rfl⟩, rfl, rfl⟩
      · exact .root _ _
      · exact .subscript hstep
    | unary op place operand =>
      simp only [places, children, List.map_cons, List.map_nil, List.mem_singleton,
        Prod.mk.injEq] at h
      obtain ⟨rfl, rfl⟩ := h
      exact .operand _ _ _
    | binary lhs op rhs =>
      simp only [places, children, List.map_cons, List.map_nil, List.mem_cons, List.not_mem_nil,
        or_false, Prod.mk.injEq] at h
      rcases h with ⟨rfl, rfl⟩ | ⟨rfl, rfl⟩
      · exact .left _ _ _
      · exact .right _ _ _
    | comprehension keyName valueName collection key value grouped cond =>
      simp only [places, children, List.map_cons, List.cons_append, List.map_append, List.mem_cons,
        List.mem_append, List.mem_map, Option.mem_toList, Prod.mk.injEq] at h
      rcases h with ⟨rfl, rfl⟩ | ⟨x, rfl, rfl, rfl⟩ | ⟨rfl, rfl⟩ | ⟨x, rfl, rfl, rfl⟩
      · exact .collection _ _ _ _ _ _ _
      · exact .newKey _ _ _ _ _ _ _
      · exact .newValue _ _ _ _ _ _ _
      · exact .filter _ _ _ _ _ _ _
  · intro h
    cases h with
    | item h => exact List.mem_map_of_mem h
    | key h hname =>
      exact List.mem_map_of_mem (List.mem_flatMap.2 ⟨_, h, Entry.mem_exprs.2 (.inl ⟨hname, rfl⟩)⟩)
    | value h =>
      exact List.mem_map_of_mem (List.mem_flatMap.2 ⟨_, h, Entry.mem_exprs.2 (.inr rfl)⟩)
    | interpolation h | heredoc h => exact List.mem_map_of_mem (List.mem_filterMap.2 ⟨_, h, rfl⟩)
    | argument h => exact List.mem_map_of_mem h
    | subscript h =>
      exact List.mem_cons_of_mem _ (List.mem_map_of_mem (List.mem_filterMap.2 ⟨_, h, rfl⟩))
    | _ => simp [places, children]

namespace Expr

theorem mem_children_iff {e child : Expr} :
    child ∈ e.children ↔ ∃ marked, e.form.Has marked child := by
  rw [children, ← Form.map_places]
  simp [Form.mem_places_iff]

theorem Leads.mem_preorder {e x : Expr} {marked : Bool} (h : e.Leads marked x) :
    x ∈ e.preorder := by
  induction h with
  | here x => exact x.mem_preorder_self
  | down hpart _ ih => exact mem_preorder_of_child (mem_children_iff.2 ⟨_, hpart⟩) ih

theorem Leads.size_le {e x : Expr} {marked : Bool} (h : e.Leads marked x) :
    sizeOf x ≤ sizeOf e := by
  induction h with
  | here x => exact le_rfl
  | down hpart _ ih => exact ih.trans (size_lt_of_mem_children (mem_children_iff.2 ⟨_, hpart⟩)).le

theorem Encloses.mem_preorder {e x : Expr} (h : e.Encloses x) : x ∈ e.preorder := by
  obtain ⟨key, below, hkey, hx⟩ := h
  exact mem_preorder_of_child (mem_children_iff.2 ⟨_, hkey⟩) hx.mem_preorder

/-- No expression encloses itself. -/
theorem Encloses.size_lt {e x : Expr} (h : e.Encloses x) : sizeOf x < sizeOf e := by
  obtain ⟨key, below, hkey, hx⟩ := h
  exact hx.size_le.trans_lt (size_lt_of_mem_children (mem_children_iff.2 ⟨_, hkey⟩))

/-! ## References to `count.index` -/

theorem countIndexes_eq (nested : Bool) (e : Expr) :
    e.countIndexes nested = if nested && e.isCountIndex then [e]
      else e.form.places.flatMap fun place => place.2.countIndexes (nested || place.1) := by
  rw [countIndexes]
  congr 1
  rw [List.flatMap_subtype (g := fun place => place.2.countIndexes (nested || place.1))
    (fun _ _ => rfl), List.unattach_attach]

/-- What is reported stands below a subscript or an argument. -/
theorem leads_of_mem_countIndexes {nested : Bool} {e x : Expr} (h : x ∈ e.countIndexes nested) :
    ∃ marked, e.Leads marked x ∧ (nested || marked) = true := by
  rw [countIndexes_eq] at h
  split at h
  · rename_i hself
    obtain rfl := List.mem_singleton.1 h
    exact ⟨false, .here x, by rw [(Bool.and_eq_true_iff.1 hself).1]; rfl⟩
  · obtain ⟨⟨marked, part⟩, hplace, hx⟩ := List.mem_flatMap.1 h
    have hpart := Form.mem_places_iff.1 hplace
    have : sizeOf part < sizeOf e := size_lt_of_mem_children (mem_children_iff.2 ⟨_, hpart⟩)
    obtain ⟨below, hleads, hmarked⟩ := leads_of_mem_countIndexes hx
    exact ⟨marked || below, .down hpart hleads, by rw [← Bool.or_assoc, hmarked]⟩
termination_by sizeOf e

/-- What stands inside a reference stands inside one of its subscripts. -/
theorem StartsAtIndex.encloses {e x part : Expr} {marked below : Bool} (he : e.StartsAtIndex)
    (hpart : e.form.Has marked part) (h : part.Leads below x) (hx : x.StartsAtIndex) :
    e.Encloses x := by
  obtain ⟨root, span, steps, hform, hroot⟩ := he
  have hpart' := hpart
  rw [hform] at hpart'
  cases hpart' with
  | subscript hkey => exact ⟨part, below, hpart, h⟩
  | root =>
    -- The variable at the root is no reference and has no parts.
    cases h with
    | here =>
      obtain ⟨_, _, _, hform', -⟩ := hx
      rw [hroot] at hform'
      cases hform'
    | down hinner =>
      rw [hroot] at hinner
      cases hinner

/-- A reference below a subscript or an argument is reported, or it stands inside one that is. -/
theorem Leads.mem_or_enclosed {nested marked : Bool} {e x : Expr} (h : e.Leads marked x)
    (hx : x.StartsAtIndex) (hmarked : (nested || marked) = true) :
    x ∈ e.countIndexes nested ∨ ∃ y ∈ e.countIndexes nested, y.Encloses x := by
  induction h generalizing nested with
  | here x =>
    rw [Bool.or_false] at hmarked
    rw [countIndexes_eq, hmarked, isCountIndex_iff.2 hx]
    exact .inl (List.mem_singleton_self x)
  | @down e part x marked below hpart h ih =>
    rw [countIndexes_eq]
    split
    · rename_i hself
      have he := isCountIndex_iff.1 (Bool.and_eq_true_iff.1 hself).2
      exact .inr ⟨e, List.mem_singleton_self e, he.encloses hpart h hx⟩
    · have hplace := Form.mem_places_iff.2 hpart
      rw [← Bool.or_assoc] at hmarked
      rcases ih hx hmarked with hmem | ⟨y, hy, hinner⟩
      · exact .inl (List.mem_flatMap.2 ⟨_, hplace, hmem⟩)
      · exact .inr ⟨y, List.mem_flatMap.2 ⟨_, hplace, hy⟩, hinner⟩

theorem flatMap_children {β : Type} (e : Expr) (f : Expr → List β) :
    e.children.flatMap f = e.form.places.flatMap fun place => f place.2 := by
  rw [children, ← Form.map_places, List.flatMap_map]

/-- The references are reported in the order in which they stand. -/
theorem countIndexes_sublist (nested : Bool) (e : Expr) :
    (e.countIndexes nested).Sublist (e.preorder.filter isCountIndex) := by
  rw [countIndexes_eq, preorder_eq]
  split
  · rename_i hself
    rw [List.filter_cons_of_pos (Bool.and_eq_true_iff.1 hself).2]
    exact (List.nil_sublist _).cons_cons e
  · rw [flatMap_children]
    refine List.Sublist.trans ?_ ((List.sublist_cons_self e _).filter isCountIndex)
    rw [List.filter_flatMap]
    refine List.Sublist.flatMap_right _ fun place hplace => ?_
    have : sizeOf place.2 < sizeOf e := size_lt_of_mem_places hplace
    exact countIndexes_sublist _ place.2
termination_by sizeOf e

/-! ## References start at different tokens -/

/-- Where the root of a traversal starts, if it is a term that stands somewhere. -/
def rootStart? (x : Expr) : Option Nat :=
  match x.form with
  | .traversal root _ => root.termStart?
  | _ => none

/-- The terms inside what is reported are some of all terms. -/
theorem termStarts_countIndexes (nested : Bool) (e : Expr) :
    ((e.countIndexes nested).flatMap termStarts).Sublist e.termStarts := by
  rw [countIndexes_eq]
  split
  · rw [List.flatMap_singleton]
  · rw [List.flatMap_assoc, termStarts_eq e, flatMap_children]
    refine (List.Sublist.flatMap_right _ fun place hplace => ?_).trans
      (List.sublist_append_right _ _)
    have : sizeOf place.2 < sizeOf e := size_lt_of_mem_places hplace
    exact termStarts_countIndexes _ place.2
termination_by sizeOf e

/-- A variable has no parts. -/
theorem preorder_variable {x : Expr} {name : String} (h : x.form = .variable name) :
    x.preorder = [x] := by
  have hnil : x.children = [] := by rw [children, h]; rfl
  rw [preorder_eq, hnil, List.flatMap_nil]

theorem termStarts_variable {x : Expr} {name : String} (h : x.form = .variable name) :
    x.termStarts = x.termStart?.toList := by
  have hnil : x.children = [] := by rw [children, h]; rfl
  rw [termStarts_eq, hnil, List.flatMap_nil, List.append_nil]

/-- The tokens at which the references in an expression start are some of those of its terms. -/
theorem rootStarts_sublist (e : Expr) :
    ((e.preorder.filter isCountIndex).filterMap rootStart?).Sublist e.termStarts := by
  -- The claim for a list of parts; a reference gives its own start in place of its root.
  have hparts : ∀ es : List Expr, (∀ x ∈ es, x ∈ e.children) →
      (((es.flatMap preorder).filter isCountIndex).filterMap rootStart?).Sublist
        (es.flatMap termStarts) := by
    intro es hes
    rw [List.filter_flatMap, List.filterMap_flatMap]
    refine List.Sublist.flatMap_right _ fun x hx => ?_
    have : sizeOf x < sizeOf e := size_lt_of_mem_children (hes x hx)
    exact rootStarts_sublist x
  rw [preorder_eq, termStarts_eq, List.filter_cons]
  split
  · rename_i hself
    obtain ⟨root, span, steps, hform, hroot⟩ := isCountIndex_iff.1 hself
    have hstart : e.termStart? = none := termStart?_eq_none (by rw [hform]; rfl)
    have hrootStart : e.rootStart? = root.termStart? := by rw [rootStart?, hform]
    have hnone : ¬root.isCountIndex = true := by
      rw [isCountIndex, hroot]
      exact Bool.false_ne_true
    have hchildren : e.children = root :: steps.filterMap Step.index? := by
      rw [children, hform]
      rfl
    have hkeys := hparts (steps.filterMap Step.index?) fun x hx => by
      rw [hchildren]
      exact List.mem_cons_of_mem _ hx
    rw [hstart, hchildren, List.flatMap_cons, List.flatMap_cons, termStarts_variable hroot,
      preorder_variable hroot, List.filter_append, List.filter_cons_of_neg hnone, List.filter_nil,
      List.nil_append, List.filterMap_cons, hrootStart]
    cases root.termStart? with
    | none => exact hkeys
    | some n => exact hkeys.cons_cons n
  · exact (hparts e.children fun _ hx => hx).trans (List.sublist_append_right _ _)
termination_by sizeOf e

end Expr

end Hcl

/-! ## Ranges -/

namespace SourceFile

/-- A range shows a reference to `count.index` from its root up to the end of its first step. -/
def ShowsIndex (file : SourceFile) (x : Expr) (range : SourceRange) : Prop :=
  ∃ root place span steps, x.form = .traversal root (.attr span "index" :: steps) ∧
    root.form = .variable "count" ∧ root.span = some place ∧
    range = ⟨file.name, file.pos place.start, file.pos span.stop⟩ ∧
    "count".toList <+: file.slice range ∧ "index".toList <:+ file.slice range

variable {name : String} {text : List Char} {x : Expr}

theorem range_reads {c c' : Cursor} {mid : List Char} (hc : Reaches (.ofText text) c)
    (h : Reads c c' mid) (hend : trimEnd mid = mid) : (parse name text).range c.byte c'.byte =
      ⟨name, (parse name text).pos c.byte, (parse name text).pos c'.byte⟩ := by
  obtain ⟨before, rfl, hbefore⟩ := exists_of_reaches hc
  obtain ⟨ch, more, rfl, hblank⟩ := h.token
  have hpart := @range_part name before (ch :: more) c'.rest (trimStart_cons hblank more)
  rw [hend, byteLength_append, List.append_assoc, ← h.rest, ← hbefore, ← h.byte] at hpart
  exact hpart

/-- The range of a reference that was read shows it. -/
theorem showsIndex_countIndexRange {c d : Cursor} {mid : List Char}
    (h : ReadsIndex text x c d mid) :
    (parse name text).ShowsIndex x ((parse name text).countIndexRange x) := by
  obtain ⟨root, place, span, steps, hform, hroot, hplace, hfrom, hto⟩ := h.form
  have hend : trimEnd mid = mid := by
    obtain ⟨lead, hmid⟩ := h.last
    have hword : Solid "index".toList := ⟨by decide, by decide⟩
    rw [← hmid]
    exact (hword.append lead).trimEnd
  have hshows := @shows_reads name _ _ _ h.start _ h.reads
  rw [hend] at hshows
  have hslice := slice_of_shows hshows
  rw [h.range_eq]
  refine ⟨root, place, span, steps, hform, hroot, hplace, ?_, ?_, ?_⟩
  · rw [range_reads h.start h.reads hend, hfrom, hto]
    rfl
  · rw [hslice]
    exact h.first
  · rw [hslice]
    exact h.last

theorem rootStart?_eq {c d : Cursor} {mid : List Char} (h : ReadsIndex text x c d mid) :
    x.rootStart? = some ((parse name text).countIndexRange x).start.byte := by
  obtain ⟨root, place, span, steps, hform, hroot, hplace, hfrom, hto⟩ := h.form
  have hterm : root.form.isTerm = true := by rw [hroot]; rfl
  rw [h.range_eq, start_byte_of_reads h.start h.reads, Expr.rootStart?, hform, ← hfrom]
  exact Expr.termStart?_eq_some hterm hplace

end SourceFile

/-! ## The rule -/

theorem Hcl.mem_allAttributes_of_inside {a : Attribute} {items : List Item}
    (h : Inside (.attr a) items) : a ∈ Body.allAttributes items := by
  induction h with
  | here h => exact List.mem_append_left _ (List.mem_filterMap.2 ⟨_, h, rfl⟩)
  | @nested b items hb _ ih =>
    refine List.mem_append_right _ ?_
    rw [VariableName.nestedAttributes_eq_flatMap]
    refine List.mem_flatMap.2 ⟨b, List.mem_filterMap.2 ⟨_, hb, rfl⟩, ?_⟩
    obtain ⟨kind, labels, body, span⟩ := b
    rw [Block.allAttributes]
    exact ih

namespace CountIndex

variable {name : String} {text : List Char} {d : Cursor} {body : Body}

/-- All expressions in the values of a body, in the order of the attributes. -/
def nodes (body : Body) : List Expr := body.allAttributes.flatMap fun a => a.value.preorder

theorem rootStarts_nodup (h : Stack (.ofText text) d body) :
    (((nodes body).filter Expr.isCountIndex).filterMap Expr.rootStart?).Nodup := by
  refine (h.nodup_termStarts (List.Sublist.refl _)).sublist ?_
  unfold nodes
  rw [List.filter_flatMap, List.filterMap_flatMap]
  exact List.Sublist.flatMap_right _ fun a _ => Expr.rootStarts_sublist a.value

theorem rootStart?_of_mem (h : Stack (.ofText text) d body) {x : Expr} (hx : x ∈ nodes body)
    (hindex : x.isCountIndex = true) :
    x.rootStart? = some ((SourceFile.parse name text).countIndexRange x).start.byte ∧
      (SourceFile.parse name text).ShowsIndex x
        ((SourceFile.parse name text).countIndexRange x) := by
  obtain ⟨a, ha, hx⟩ := List.mem_flatMap.1 hx
  obtain ⟨c', d', -, hsited⟩ := h.sited ha
  have hspanned := hsited.spanned _ (List.mem_singleton.2 rfl) x hx
  obtain ⟨c', stop, mid, hread⟩ := ((h.anchored ha).of_mem hx).readsIndex hindex hspanned
  exact ⟨SourceFile.rootStart?_eq hread, SourceFile.showsIndex_countIndexRange hread⟩

/-- References have ranges of their own. -/
theorem nodup_ranges (h : Stack (.ofText text) d body) :
    (((nodes body).filter Expr.isCountIndex).map
      (SourceFile.parse name text).countIndexRange).Nodup := by
  have hstarts := rootStarts_nodup h
  have hsome : ∀ x ∈ (nodes body).filter Expr.isCountIndex, x.rootStart? =
      (some ∘ fun x => ((SourceFile.parse name text).countIndexRange x).start.byte) x := by
    intro x hx
    obtain ⟨hx, hindex⟩ := List.mem_filter.1 hx
    exact (rootStart?_of_mem h hx hindex).1
  rw [List.filterMap_congr hsome, List.filterMap_eq_map] at hstarts
  refine List.Nodup.of_map (fun range => range.start.byte) ?_
  rw [List.map_map]
  exact hstarts

/-- The references that are reported, before their ranges are. -/
def reported (body : Body) : List Expr :=
  body.allAttributes.flatMap fun a => a.value.countIndexes false

theorem reported_sublist (body : Body) :
    (reported body).Sublist ((nodes body).filter Expr.isCountIndex) := by
  unfold reported nodes
  rw [List.filter_flatMap]
  exact List.Sublist.flatMap_right _ fun a _ => a.value.countIndexes_sublist false

theorem mem_of_mem_reported {body : Body} {x : Expr} (hx : x ∈ reported body) :
    x ∈ nodes body ∧ x.isCountIndex = true :=
  List.mem_filter.1 ((reported_sublist body).subset hx)

theorem rootStart?_mem {x y : Expr} {n : Nat} (hstart : x.rootStart? = some n)
    (hx : x ∈ y.preorder) : n ∈ y.termStarts := by
  unfold Expr.rootStart? at hstart
  split at hstart
  · rename_i root steps hform
    have hroot : root ∈ x.children := by
      rw [Expr.children, hform]
      exact List.mem_cons_self
    have hmem := Expr.mem_preorder_of_child hroot root.mem_preorder_self
    exact List.mem_filterMap.2 ⟨root, Expr.mem_preorder_trans hx hmem, hstart⟩
  · cases hstart

/-- What is reported does not enclose what is. -/
theorem not_encloses (h : Stack (.ofText text) d body) {x y : Expr} (hx : x ∈ reported body)
    (hy : y ∈ reported body) : ¬y.Encloses x := by
  intro hinner
  -- Both would have the token at which the inner reference starts.
  obtain ⟨hnode, hindex⟩ := mem_of_mem_reported hx
  obtain ⟨hstart, -⟩ := @rootStart?_of_mem "" text d body h x hnode hindex
  have hne : x ≠ y := by
    rintro rfl
    exact absurd hinner.size_lt (lt_irrefl _)
  have hsub : ((reported body).flatMap Expr.termStarts).Sublist
      (body.allAttributes.flatMap fun a => a.value.termStarts) := by
    unfold reported
    rw [List.flatMap_assoc]
    exact List.Sublist.flatMap_right _ fun a _ => a.value.termStarts_countIndexes false
  have hnodup := (h.nodup_termStarts (List.Sublist.refl _)).sublist hsub
  have : Std.Symm (Function.onFun List.Disjoint Expr.termStarts) :=
    ⟨fun _ _ hxy => List.disjoint_comm.1 hxy⟩
  have hdisjoint := (List.nodup_flatMap.1 hnodup).2.forall hx hy hne
  exact List.disjoint_left.1 hdisjoint (rootStart?_mem hstart x.mem_preorder_self)
    (rootStart?_mem hstart hinner.mem_preorder)

/-- A reference below a subscript or an argument is reported just when no other one encloses it. -/
theorem mem_reported_iff (h : Stack (.ofText text) d body) {x : Expr} :
    x ∈ reported body ↔ x.StartsAtIndex ∧
      (∃ a, Inside (.attr a) body ∧ a.value.Leads true x) ∧
      ∀ y ∈ reported body, ¬y.Encloses x := by
  constructor
  · intro hx
    obtain ⟨a, ha, hfound⟩ := List.mem_flatMap.1 hx
    obtain ⟨marked, hleads, hmarked⟩ := Expr.leads_of_mem_countIndexes hfound
    rw [Bool.false_or] at hmarked
    subst hmarked
    exact ⟨Expr.isCountIndex_iff.1 (mem_of_mem_reported hx).2, ⟨a, inside_of_mem_body ha, hleads⟩,
      fun y hy => not_encloses h hx hy⟩
  · rintro ⟨hindex, ⟨a, ha, hleads⟩, hfree⟩
    have hmem := mem_allAttributes_of_inside ha
    rcases @Expr.Leads.mem_or_enclosed false _ _ _ hleads hindex rfl with
      hfound | ⟨y, hy, hinner⟩
    · exact List.mem_flatMap.2 ⟨a, hmem, hfound⟩
    · exact absurd hinner (hfree y (List.mem_flatMap.2 ⟨a, hmem, hy⟩))

theorem eraseDups_of_nodup {α : Type} [BEq α] [LawfulBEq α] {xs : List α} (h : xs.Nodup) :
    xs.eraseDups = xs := by
  induction xs with
  | nil => rfl
  | cons x xs ih =>
    obtain ⟨hx, hxs⟩ := List.nodup_cons.1 h
    have hall : xs.filter (fun y => !y == x) = xs := by
      refine List.filter_eq_self.2 fun y hy => ?_
      rw [Bool.not_eq_true', beq_eq_false_iff_ne]
      rintro rfl
      exact hx hy
    rw [List.eraseDups_cons, hall, ih hxs]

/-- What an issue of the rule says. -/
def message : String :=
  "`count.index` is not recommended to be used as the subscript of list/map or the argument of function call, use for_each instead"

theorem findings_eq (h : Stack (.ofText text) d body) :
    Rule.countIndexUsage.findings (.parse name text) body = (reported body).map fun x =>
      .issue message ((SourceFile.parse name text).countIndexRange x) := by
  have hnodup := (@nodup_ranges name text d body h).sublist
    ((reported_sublist body).map (SourceFile.parse name text).countIndexRange)
  show (((reported body).map (SourceFile.parse name text).countIndexRange).eraseDups).map _ = _
  rw [eraseDups_of_nodup hnodup, List.map_map]
  rfl

end CountIndex

/-- The rule has one issue for each reference to `count.index` in a value of a body that is reached
through a subscript or an argument of a call and does not stand inside another reference with an
issue. The range of the issue shows the reference from its root to the end of its first step. No
reference occurs twice, and the issues are in the order of the values. -/
theorem countIndexUsage_reports {text : List Char} {body : Body}
    (hparse : parseBody text = some body) (name : String) : ∃ found : List Expr,
    List.Forall₂ (fun x f => ∃ range, f = .issue CountIndex.message range ∧
        (SourceFile.parse name text).ShowsIndex x range)
      found (Rule.countIndexUsage.findings (.parse name text) body) ∧
    (∀ x, x ∈ found ↔ x.StartsAtIndex ∧ (∃ a, Inside (.attr a) body ∧ a.value.Leads true x) ∧
      ∀ y ∈ found, ¬y.Encloses x) ∧
    found.Sublist ((CountIndex.nodes body).filter Expr.isCountIndex) ∧
    ((CountIndex.nodes body).filter Expr.isCountIndex).Nodup := by
  obtain ⟨d, h⟩ := stack_of_parseBody hparse
  refine ⟨CountIndex.reported body, ?_, fun x => CountIndex.mem_reported_iff h,
    CountIndex.reported_sublist body, ?_⟩
  · rw [CountIndex.findings_eq h, List.forall₂_map_right_iff, List.forall₂_same]
    intro x hx
    obtain ⟨hnode, hindex⟩ := CountIndex.mem_of_mem_reported hx
    exact ⟨_, rfl, (CountIndex.rootStart?_of_mem h hnode hindex).2⟩
  · exact .of_map _ (@CountIndex.nodup_ranges name text d body h)

/-- A reference in an argument, one that stands inside its subscript, and one in a directive. -/
def nestedReferences : List Char :=
  "a = f(count.index[g(count.index)], \"%\x7bif h(count.index)\x7d%\x7bendif\x7d\")\n".toList

/-- Only the first of them has an issue. -/
theorem countIndexUsage_reports_outermost : ∃ body x range,
    parseBody nestedReferences = some body ∧
    Rule.countIndexUsage.findings (.parse "main.tf" nestedReferences) body =
      [.issue CountIndex.message range] ∧
    (SourceFile.parse "main.tf" nestedReferences).ShowsIndex x range ∧
    ∃ a, Inside (.attr a) body ∧ a.value.Leads true x := by
  have hread : ((parseBody nestedReferences).map fun body =>
      (Rule.countIndexUsage.findings (.parse "main.tf" nestedReferences) body).length) =
        some 1 := by
    decide +kernel
  obtain ⟨body, hbody, hlength⟩ := Option.map_eq_some_iff.1 hread
  obtain ⟨found, hissues, hfound, -, -⟩ := countIndexUsage_reports hbody "main.tf"
  obtain ⟨f, hone⟩ := List.length_eq_one_iff.1 hlength
  rw [hone] at hissues
  cases hissues with
  | @cons x _ found _ hissue hrest =>
    cases hrest
    obtain ⟨range, rfl, hshows⟩ := hissue
    exact ⟨body, x, range, hbody, hone, hshows, ((hfound x).1 List.mem_cons_self).2.1⟩

end TerraLint
