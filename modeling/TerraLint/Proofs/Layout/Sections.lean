import Mathlib.Data.List.Chain
import TerraLint.Proofs.Layout.Canon
import TerraLint.Proofs.Layout.Hull
import TerraLint.Proofs.Source.Placed

/-!
# The sections of a block

The sections of a layout tree share out the arguments of a block: each argument is in the section of
its slot, and a section has its arguments in the order of the source. For a block that was read from
a text that order is the order of the lines.

* `sourceArgs`: the arguments of a block as they stand in the source.
* `args_build_perm`: the sections hold each of them once.
* `Covers`: the lines of a section are the least and the greatest of its arguments.
* `sectionsOrdered_iff`: sections follow each other just when each is in order and leaves a line free
  before the next.
-/

namespace TerraLint.Layout

open Text Hcl

/-! ## The structures of a block by slot -/

section Slots

variable (cl : Classifier) (isRoot : Bool)

/-- The slot of a structure. -/
def itemSlot : Item → Slot
  | .attr a => .ofAttribute isRoot (cl.classify a.key)
  | .block b => .ofBlock isRoot (cl.classify (blockName b))

variable {cl isRoot}

/-- Attributes and blocks never share a slot. -/
theorem isSome_attr?_iff {item : Item} {slot : Slot} (h : itemSlot cl isRoot item = slot) :
    item.attr?.isSome = (slot != .blocks && slot != .tailBlocks) := by
  subst h
  cases item with
  | attr a =>
    cases hc : cl.classify a.key <;> cases isRoot <;>
      simp [itemSlot, hc, Slot.ofAttribute, ArgClass.isHead, ArgClass.isTail, Item.attr?]
  | block b =>
    cases hc : cl.classify (blockName b) <;> cases isRoot <;>
      simp [itemSlot, hc, Slot.ofBlock, ArgClass.isTail, Item.attr?]

section

variable {β : Type} {f : Item → β} {slotOf : β → Slot}
  (hf : ∀ item, slotOf (f item) = itemSlot cl isRoot item) (body : Body) (slot : Slot)

include hf

theorem filter_attributes :
    ((body.attributes.map fun a => f (.attr a)).filter fun x => slotOf x == slot) =
      if slot != .blocks && slot != .tailBlocks then
        (body.filter fun item => itemSlot cl isRoot item == slot).map f
      else [] := by
  induction body with
  | nil => cases h : (slot != .blocks && slot != .tailBlocks) <;> rfl
  | cons item body ih =>
    cases item with
    | attr a =>
      have hcons : Body.attributes (.attr a :: body) = a :: Body.attributes body := rfl
      rw [hcons, List.map_cons, List.filter_cons, List.filter_cons, hf, ih]
      by_cases hslot : itemSlot cl isRoot (.attr a) = slot
      · have hkind := isSome_attr?_iff hslot
        rw [← hkind]
        simp [hslot, Item.attr?]
      · simp [hslot]
    | block b =>
      have hcons : Body.attributes (.block b :: body) = Body.attributes body := rfl
      rw [hcons, List.filter_cons, ih]
      by_cases hslot : itemSlot cl isRoot (.block b) = slot
      · have hkind := isSome_attr?_iff hslot
        rw [← hkind]
        simp [Item.attr?]
      · simp [hslot]

theorem filter_blocks :
    ((body.blocks.map fun b => f (.block b)).filter fun x => slotOf x == slot) =
      if slot != .blocks && slot != .tailBlocks then []
      else (body.filter fun item => itemSlot cl isRoot item == slot).map f := by
  induction body with
  | nil => cases h : (slot != .blocks && slot != .tailBlocks) <;> rfl
  | cons item body ih =>
    cases item with
    | attr a =>
      have hcons : Body.blocks (.attr a :: body) = Body.blocks body := rfl
      rw [hcons, List.filter_cons, ih]
      by_cases hslot : itemSlot cl isRoot (.attr a) = slot
      · have hkind := isSome_attr?_iff hslot
        rw [← hkind]
        simp [Item.attr?]
      · simp [hslot]
    | block b =>
      have hcons : Body.blocks (.block b :: body) = b :: Body.blocks body := rfl
      rw [hcons, List.map_cons, List.filter_cons, List.filter_cons, hf, ih]
      by_cases hslot : itemSlot cl isRoot (.block b) = slot
      · have hkind := isSome_attr?_iff hslot
        rw [← hkind]
        simp [hslot, Item.attr?]
      · simp [hslot]

/-- Attributes first and then blocks, the structures in one slot are in the order of the body. -/
theorem filter_parts :
    ((body.attributes.map (fun a => f (.attr a)) ++ body.blocks.map fun b => f (.block b)).filter
        fun x => slotOf x == slot) =
      (body.filter fun item => itemSlot cl isRoot item == slot).map f := by
  rw [List.filter_append, filter_attributes hf, filter_blocks hf]
  split <;> simp

end

/-- A nested block has no tail. -/
theorem itemSlot_mem_all (item : Item) : itemSlot cl isRoot item ∈ Slot.all isRoot := by
  cases item with
  | attr a =>
    cases hc : cl.classify a.key <;> cases isRoot <;>
      simp [itemSlot, hc, Slot.ofAttribute, ArgClass.isHead, ArgClass.isTail, Slot.all]
  | block b =>
    cases hc : cl.classify (blockName b) <;> cases isRoot <;>
      simp [itemSlot, hc, Slot.ofBlock, ArgClass.isTail, Slot.all]

/-- Slot by slot, everything that has a slot comes once. -/
theorem flatMap_slots_perm {α : Type} {slotOf : α → Slot} {slots : List Slot}
    (hnodup : slots.Nodup) {items : List α} (h : ∀ item ∈ items, slotOf item ∈ slots) :
    (slots.flatMap fun slot => items.filter fun item => slotOf item == slot).Perm items := by
  induction slots generalizing items with
  | nil =>
    cases items with
    | nil => exact .refl _
    | cons item items => cases h item List.mem_cons_self
  | cons slot slots ih =>
    obtain ⟨hslot, hnodup⟩ := List.nodup_cons.1 hnodup
    -- What is in the other slots is what is left without this one.
    have hothers := @ih hnodup (items.filter fun item => !(slotOf item == slot)) <| by
      intro item hitem
      obtain ⟨hitem, hne⟩ := List.mem_filter.1 hitem
      rcases List.mem_cons.1 (h item hitem) with heq | hmem
      · simp [heq] at hne
      · exact hmem
    have hfilter : (slots.flatMap fun s =>
        (items.filter fun item => !(slotOf item == slot)).filter fun item =>
          slotOf item == s) =
        slots.flatMap fun s => items.filter fun item => slotOf item == s := by
      refine List.flatMap_congr fun s hs => ?_
      rw [List.filter_filter]
      refine List.filter_congr fun item _ => ?_
      by_cases heq : slotOf item = s
      · have hne : s ≠ slot := fun hss => hslot (hss ▸ hs)
        simp [heq, hne]
      · simp [heq]
    rw [hfilter] at hothers
    rw [List.flatMap_cons]
    exact (hothers.append_left _).trans (List.filter_append_perm _ items)

end Slots

/-! ## Arguments in the order of the source -/

section Args

variable (file : SourceFile) (cl : Classifier) (isRoot : Bool) (parentKind : String)
  (path : List String)

/-- The argument that a structure is, and its slot. -/
def itemArg : Item → Slot × Arg
  | .attr a => attributeArg file cl isRoot a
  | .block b =>
    let name := blockName b
    let c := cl.classify name
    let childPath := if inheritsPath parentKind name then path else path ++ [name]
    let tree := Tree.build file cl false childPath b
    (.ofBlock isRoot c, ⟨tree.sortField, tree.range, c.priority, .block tree⟩)

variable {file cl isRoot parentKind path}

theorem blockArgs_eq_map (items : List Item) :
    blockArgs file cl isRoot parentKind path items =
      (Body.blocks items).map fun b => itemArg file cl isRoot parentKind path (.block b) := by
  induction items with
  | nil => rw [blockArgs]; rfl
  | cons item items ih =>
    cases item with
    | attr a =>
      rw [blockArgs, ih]
      rfl
    | block b =>
      rw [blockArgs, ih]
      rfl

theorem itemArg_slot (item : Item) :
    (itemArg file cl isRoot parentKind path item).1 = itemSlot cl isRoot item := by
  cases item <;> rfl

theorem itemArg_range (item : Item) :
    (itemArg file cl isRoot parentKind path item).2.range = file.rangeOf item.span := by
  cases item with
  | attr a => rfl
  | block b =>
    obtain ⟨kind, labels, body, span⟩ := b
    simp only [itemArg, Tree.build, Item.span]

end Args

theorem notAfter_of_line_lt {a b : Pos} (h : a.line < b.line) : a.notAfter b = true :=
  Pos.notAfter_iff.2 (Or.inl h)

/-- In a body whose structures start one after the other the attributes are in order. -/
theorem attributesByOffset_eq {body : Body}
    (h : body.Pairwise fun a b => a.span.start ≤ b.span.start) :
    body.attributesByOffset = body.attributes := by
  refine sortBy_of_pairwise (List.Pairwise.filterMap Item.attr? ?_ h)
  intro a b hab x hx y hy
  cases a with
  | block _ => cases hx
  | attr x' =>
    cases b with
    | block _ => cases hy
    | attr y' =>
      obtain rfl := Option.some.inj hx
      obtain rfl := Option.some.inj hy
      exact decide_eq_true hab

/-- The arguments of a block as they stand in the source, attributes and blocks together. -/
def sourceArgs (file : SourceFile) (cl : Classifier) (isRoot : Bool) (path : List String)
    (b : Block) : List Arg :=
  b.body.map fun item => (itemArg file cl isRoot b.kind path item).2

/-- The arguments of one slot as they stand in the source. -/
def slotArgs (file : SourceFile) (cl : Classifier) (isRoot : Bool) (path : List String) (b : Block)
    (slot : Slot) : List Arg :=
  (b.body.filter fun item => itemSlot cl isRoot item == slot).map fun item =>
    (itemArg file cl isRoot b.kind path item).2

section Sharing

variable {file : SourceFile} {cl : Classifier} {isRoot : Bool} {path : List String} {b : Block}

theorem slotArgs_sublist (slot : Slot) :
    (slotArgs file cl isRoot path b slot).Sublist (sourceArgs file cl isRoot path b) :=
  List.filter_sublist.map _

theorem sections_build (h : b.body.Pairwise fun a a' => a.span.start ≤ a'.span.start) :
    (Tree.build file cl isRoot path b).sections = (Slot.all isRoot).map fun slot =>
      Section.ofArgs slot.kind (slotArgs file cl isRoot path b slot) := by
  obtain ⟨kind, labels, body, span⟩ := b
  rw [Tree.build, Slot.sections]
  refine List.map_congr_left fun slot _ => ?_
  have hparts := filter_parts (f := itemArg file cl isRoot kind path) itemArg_slot body slot
  have hattributes : (Body.attributes body).map (attributeArg file cl isRoot) =
      (Body.attributes body).map fun a => itemArg file cl isRoot kind path (.attr a) := rfl
  rw [Block.attributesByOffset, attributesByOffset_eq h, blockArgs_eq_map, hattributes, hparts,
    List.map_map]
  rfl

theorem slots_nodup (isRoot : Bool) : (Slot.all isRoot).Nodup := by cases isRoot <;> decide

theorem slotArgs_perm :
    ((Slot.all isRoot).flatMap (slotArgs file cl isRoot path b)).Perm
      (sourceArgs file cl isRoot path b) := by
  have hslots := flatMap_slots_perm (slots_nodup isRoot) fun item (_ : item ∈ b.body) =>
    @itemSlot_mem_all cl isRoot item
  have hmap := hslots.map fun item => (itemArg file cl isRoot b.kind path item).2
  rw [List.map_flatMap] at hmap
  exact hmap

/-- The sections of a block hold each of its arguments once. -/
theorem args_build_perm (h : b.body.Pairwise fun a a' => a.span.start ≤ a'.span.start) :
    (Tree.build file cl isRoot path b).args.Perm (sourceArgs file cl isRoot path b) := by
  unfold Tree.args
  rw [sections_build h, List.flatMap_map]
  simp only [Section.ofArgs_args]
  exact slotArgs_perm

end Sharing

/-! ## Sections that follow each other -/

/-- The lines of a range are the first and the last lines of some arguments. -/
structure Covers (range : SourceRange) (args : List Arg) : Prop where
  start : ∃ a ∈ args, range.start.line = a.range.start.line
  stop : ∃ a ∈ args, range.stop.line = a.range.stop.line
  start_le : ∀ a ∈ args, range.start.line ≤ a.range.start.line
  le_stop : ∀ a ∈ args, a.range.stop.line ≤ range.stop.line

theorem Hull.covers {range : SourceRange} {args : List Arg} (h : Hull range args) :
    Covers range args := by
  obtain ⟨a, ha, hstart, hle⟩ := h.exists_start
  obtain ⟨b, hb, hstop, hle'⟩ := h.exists_stop
  refine ⟨⟨a, ha, by rw [hstart]⟩, ⟨b, hb, by rw [hstop]⟩, ?_, ?_⟩
  · rw [hstart]
    exact hle
  · rw [hstop]
    exact hle'

theorem covers_ofArgs {args : List Arg} (hline : ∀ a ∈ args, 0 < a.range.start.line)
    (hne : args ≠ []) (kind : SectionKind) :
    ∃ range, (Section.ofArgs kind args).range? = some range ∧ Covers range args :=
  ⟨_, Section.range?_ofArgs hline kind hne, (Section.hull_ofArgs hline kind hne).covers⟩

/-- A line is free between a section and a later one. -/
def Section.Clear (s s' : Section) : Prop :=
  ∀ a ∈ s.args, ∀ a' ∈ s'.args, a.range.stop.line + 2 ≤ a'.range.start.line

/-- The sections that have arguments. -/
def filled (sections : List Section) : List Section := sections.filter fun s => !s.args.isEmpty

theorem sectionsOrdered_iff {sections : List Section}
    (hsections : ∀ s ∈ sections, s = Section.ofArgs s.kind s.args)
    (hline : ∀ s ∈ sections, ∀ a ∈ s.args, 0 < a.range.start.line) (last : Option Nat) :
    sectionsOrdered last sections = true ↔
      (∀ s ∈ sections, s.isOrdered = true) ∧
        (∀ l ∈ last, ∀ s ∈ (filled sections).head?, ∀ a ∈ s.args, l + 2 ≤ a.range.start.line) ∧
          (filled sections).IsChain Section.Clear := by
  induction sections generalizing last with
  | nil => simp [sectionsOrdered, filled]
  | cons s sections ih =>
    obtain ⟨hs, hsections⟩ := List.forall_mem_cons.1 hsections
    obtain ⟨hline, hrest⟩ := List.forall_mem_cons.1 hline
    have ih := ih hsections hrest
    rw [sectionsOrdered, Bool.and_eq_true, List.forall_mem_cons, and_assoc]
    refine and_congr_right fun _ => ?_
    by_cases hnil : s.args = []
    · have hrange : s.range? = none := by
        rw [hs, hnil]
        rfl
      have hfilled : filled (s :: sections) = filled sections := by simp [filled, hnil]
      rw [hrange, hfilled]
      exact ih last
    · obtain ⟨range, hrange, hcovers⟩ := covers_ofArgs hline hnil s.kind
      obtain ⟨a, ha, hstart⟩ := hcovers.start
      obtain ⟨b, hb, hstop⟩ := hcovers.stop
      have hfilled : filled (s :: sections) = s :: filled sections := by simp [filled, hnil]
      -- The first and the last line of the section stand for those of all its arguments.
      have hbefore : ∀ l, l + 2 ≤ range.start.line ↔ ∀ a ∈ s.args, l + 2 ≤ a.range.start.line := by
        intro l
        refine ⟨fun h x hx => ?_, fun h => ?_⟩
        · have hle := hcovers.start_le x hx
          omega
        · have hle := h a ha
          omega
      have hbehind : (∀ l ∈ some range.stop.line, ∀ s' ∈ (filled sections).head?, ∀ a ∈ s'.args,
          l + 2 ≤ a.range.start.line) ↔ ∀ s' ∈ (filled sections).head?, s.Clear s' := by
        simp only [Option.mem_some_iff, forall_eq']
        refine forall₂_congr fun s' _ => ⟨fun h x hx y hy => ?_, fun h y hy => ?_⟩
        · have hle := hcovers.le_stop x hx
          have hgap := h y hy
          omega
        · rw [hstop]
          exact h b hb y hy
      have hrange' : s.range? = some range := by
        rw [hs]
        exact hrange
      rw [hrange', Bool.and_eq_true, hfilled, List.isChain_cons, ← hbehind, ih]
      cases last with
      | none =>
        simp only [Option.not_mem_none, false_imp_iff, implies_true, true_and]
      | some l =>
        simp only [decide_eq_true_eq, hbefore, List.head?_cons, Option.mem_some_iff, forall_eq']
        tauto

/-! ## Arguments below each other -/

/-- Arguments that stand below each other, each on lines of its own. -/
structure Lined (args : List Arg) : Prop where
  below : args.Pairwise fun a a' => a.range.stop.line < a'.range.start.line
  forward : ∀ a ∈ args, a.range.start.line ≤ a.range.stop.line
  somewhere : ∀ a ∈ args, 0 < a.range.start.line

namespace Lined

variable {args args' : List Arg} (h : Lined args)

include h

theorem sublist (hsub : args'.Sublist args) : Lined args' :=
  ⟨h.below.sublist hsub, fun a ha => h.forward a (hsub.subset ha),
    fun a ha => h.somewhere a (hsub.subset ha)⟩

theorem start_lt : args.Pairwise fun a a' => a.range.start.line < a'.range.start.line :=
  h.below.imp_of_mem fun ha _ hlt => Nat.lt_of_le_of_lt (h.forward _ ha) hlt

theorem nodup : args.Nodup := by
  refine h.start_lt.imp ?_
  rintro a _ hlt rfl
  exact Nat.lt_irrefl _ hlt

/-- The order of the lines is the order of the source. -/
theorem sourceOrder_eq (kind : SectionKind) : (Section.ofArgs kind args).sourceOrder = args := by
  rw [Section.sourceOrder, Section.ofArgs_args]
  exact sortBy_of_pairwise (h.start_lt.imp notAfter_of_line_lt)

end Lined

/-- The arguments of a block that was read from a text stand below each other. -/
theorem lined_sourceArgs {name : String} {text : List Char} {c d : Cursor} {b : Block}
    (hc : Reaches (.ofText text) c) (h : Stack c d b.body) (cl : Classifier) (isRoot : Bool)
    (path : List String) : Lined (sourceArgs (.parse name text) cl isRoot path b) := by
  refine ⟨?_, fun a ha => ?_, fun a ha => ?_⟩
  · unfold sourceArgs
    rw [List.pairwise_map]
    have hbelow := @SourceFile.pairwise_stack name text c d b.body hc h
    refine hbelow.imp fun hlt => ?_
    rw [itemArg_range, itemArg_range]
    exact hlt
  · obtain ⟨item, hitem, rfl⟩ := List.mem_map.1 ha
    obtain ⟨c', d', hreach, hstands⟩ := h.exists_of_mem hitem
    rw [itemArg_range]
    exact SourceFile.line_le_of_stands (hc.trans hreach) hstands
  · obtain ⟨item, -, rfl⟩ := List.mem_map.1 ha
    rw [itemArg_range]
    exact SourceFile.line_range_pos name text item.span.start item.span.stop

theorem exists_stack_of_inside {text : List Char} {body : Body} (h : parseBody text = some body)
    {b : Block} (hb : Inside (.block b) body) :
    ∃ c d, Reaches (.ofText text) c ∧ Stack c d b.body := by
  obtain ⟨d, hstack⟩ := stack_of_parseBody h
  obtain ⟨c₁, d₁, hreach, hstands⟩ := hstack.exists_of_inside hb
  obtain ⟨c₂, d₂, hopen, hbody⟩ := hstands.body
  exact ⟨c₂, d₂, hreach.trans hopen, hbody⟩

/-! ## Blocks out of order -/

theorem misplacedArgs_eq_flatMap (args : List Arg) :
    misplacedArgs args = args.flatMap fun arg => arg.content.misplaced := by
  induction args with
  | nil => rfl
  | cons arg args ih =>
    obtain ⟨key, range, priority, content⟩ := arg
    rw [misplacedArgs, ih, List.flatMap_cons]

theorem misplacedSections_eq_flatMap (sections : List Section) :
    misplacedSections sections = sections.flatMap fun s => misplacedArgs s.args := by
  induction sections with
  | nil => rfl
  | cons s sections ih =>
    obtain ⟨kind, args, range⟩ := s
    rw [misplacedSections, ih, List.flatMap_cons]

/-- A block out of order stands for all blocks inside it. -/
theorem Tree.misplaced_eq (t : Tree) :
    t.misplaced =
      if t.isOrdered then t.args.flatMap fun arg => arg.content.misplaced
      else [⟨".".intercalate t.path, t.defRange, t.render⟩] := by
  obtain ⟨name, sortField, path, range, defRange, header, sections⟩ := t
  have hargs : misplacedSections sections =
      (sections.flatMap (·.args)).flatMap fun arg => arg.content.misplaced := by
    rw [misplacedSections_eq_flatMap, List.flatMap_assoc]
    exact List.flatMap_congr fun s _ => misplacedArgs_eq_flatMap s.args
  rw [Tree.misplaced, hargs]
  rfl

/-! ## The order of a section -/

namespace Section

theorem precedes_total (kind : SectionKind) (a b : Arg) :
    precedes kind a b = true ∨ precedes kind b a = true := by
  cases kind with
  | headMeta | tailMeta =>
    simp only [precedes, decide_eq_true_eq]
    omega
  | attributes | nestedBlocks => exact stringLe_total a.key b.key

theorem precedes_trans (kind : SectionKind) (a b c : Arg) (hab : precedes kind a b = true)
    (hbc : precedes kind b c = true) : precedes kind a c = true := by
  cases kind with
  | headMeta | tailMeta =>
    simp only [precedes, decide_eq_true_eq] at *
    omega
  | attributes | nestedBlocks => exact stringLe_trans hab hbc

theorem canonical_perm (s : Section) : s.canonical.Perm s.args :=
  (sortBy_perm _).trans (sortBy_perm _)

theorem pairwise_canonical (s : Section) :
    s.canonical.Pairwise fun a b => precedes s.kind a b = true :=
  pairwise_sortBy (precedes_total s.kind) (precedes_trans s.kind) _

end Section

end TerraLint.Layout
