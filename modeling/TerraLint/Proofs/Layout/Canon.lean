import TerraLint.Layout.Render
import TerraLint.Proofs.Data.Sorted

/-!
# Canonical forms

The canonical form of a block names its type and labels and lists its arguments slot by slot, in
canonical order, each attribute with its text. Positions are left out, so that a block and its
canonical text can have the same canonical form.

* `canon`: the canonical form of a block.
* `render_build`: the canonical text of a block depends on its canonical form alone.
-/

namespace TerraLint.Layout

open Text Hcl

/-- A block or an attribute in canonical form. -/
inductive Canon where
  | attr (key : String) (text : List Char)
  | block (kind : String) (labels : List String) (slots : Slot → List Canon)

/-- The type and the labels in quotes. -/
def headerText (kind : String) (labels : List String) : List Char :=
  (labels.foldl (fun text label => text ++ " \"" ++ label ++ "\"") kind).toList

/-- The text of a section, empty if the section is. -/
def sectionText (texts : List (List Char)) : List Char :=
  if texts.isEmpty then [] else format (unlines texts)

/-- The text of a block whose sections have some texts. -/
def blockText (kind : String) (labels : List String) (texts : List (List Char)) : List Char :=
  format (braced (headerText kind labels) (joinSections (texts.filter fun text => !text.isEmpty)))

namespace Canon

mutual

/-- The text of a canonical form. -/
def render : Canon → List Char
  | .attr _ text => text
  | .block kind labels slots =>
    blockText kind labels ((Slot.all true).map fun slot => sectionText (renderAll (slots slot)))

/-- The texts of canonical forms. -/
def renderAll : List Canon → List (List Char)
  | [] => []
  | c :: cs => c.render :: renderAll cs

end

theorem renderAll_eq_map (cs : List Canon) : renderAll cs = cs.map render := by
  induction cs with
  | nil => rfl
  | cons c cs ih => rw [renderAll, ih, List.map_cons]

/-- Induction over the arguments of a block in all slots. -/
theorem induct {P : Canon → Prop} (attr : ∀ key text, P (.attr key text))
    (block : ∀ kind labels slots, (∀ slot, ∀ c ∈ slots slot, P c) → P (.block kind labels slots))
    (c : Canon) : P c := by
  refine @Canon.rec P (fun cs => ∀ c ∈ cs, P c) attr block ?_ ?_ c
  · simp
  · intro c cs hc hcs c' hc'
    rcases List.mem_cons.1 hc' with rfl | hc'
    · exact hc
    · exact hcs c' hc'

end Canon

theorem slot_mem_all (slot : Slot) : slot ∈ Slot.all true := by cases slot <;> decide

/-- An argument of a block with all that its place depends on. -/
structure Member where
  slot : Slot
  key : String
  start : Pos
  priority : Nat
  canon : Canon

namespace Member

/-- Whether a member may stand before another in a section of a kind. -/
def precedes (kind : SectionKind) (a b : Member) : Bool :=
  match kind with
  | .headMeta | .tailMeta => b.priority ≤ a.priority
  | .attributes | .nestedBlocks => stringLe a.key b.key

/-- The members in canonical order. -/
def ordered (kind : SectionKind) (ms : List Member) : List Member :=
  sortBy (precedes kind) (sortBy (fun a b => a.start.notAfter b.start) ms)

/-- The canonical forms of the members in a slot. -/
def inSlot (ms : List Member) (slot : Slot) : List Canon :=
  (ordered slot.kind (ms.filter fun m => m.slot == slot)).map (·.canon)

end Member

variable (file : SourceFile) (cl : Classifier)

/-- The member that an attribute is. -/
def attributeMember (isRoot : Bool) (a : Attribute) : Member :=
  let c := cl.classify a.key
  let range := file.rangeOf a.span
  ⟨.ofAttribute isRoot c, a.key, range.start, c.priority, .attr a.key (file.slice range)⟩

mutual

/-- The canonical form of a block. -/
def canon (isRoot : Bool) : Block → Canon
  | ⟨kind, labels, body, _⟩ =>
    .block kind labels (Member.inSlot
      ((Body.attributesByOffset body).map (attributeMember file cl isRoot) ++
        blockMembers isRoot body))

/-- The members that the blocks among some structures are. -/
def blockMembers (isRoot : Bool) : List Item → List Member
  | [] => []
  | .attr _ :: items => blockMembers isRoot items
  | .block b :: items =>
    let c := cl.classify (blockName b)
    ⟨.ofBlock isRoot c, blockSortField b, (file.rangeOf b.span).start, c.priority, canon false b⟩ ::
      blockMembers isRoot items

end

/-- An argument of a layout tree and the member that it is. -/
structure SameMember (arg : Slot × Arg) (m : Member) : Prop where
  slot : arg.1 = m.slot
  key : arg.2.key = m.key
  start : arg.2.range.start = m.start
  priority : arg.2.priority = m.priority
  render : arg.2.content.render = m.canon.render

theorem sameMember_attribute (isRoot : Bool) (a : Attribute) :
    SameMember (attributeArg file cl isRoot a) (attributeMember file cl isRoot a) :=
  ⟨rfl, rfl, rfl, rfl, rfl⟩

/-! ## Sections of a layout tree -/

theorem Section.foldl_add (args : List Arg) (s : Section) :
    (args.foldl Section.add s).kind = s.kind ∧ (args.foldl Section.add s).args = s.args ++ args := by
  induction args generalizing s with
  | nil => simp
  | cons arg args ih =>
    obtain ⟨hkind, hargs⟩ := ih (s.add arg)
    exact ⟨hkind, by rw [List.foldl_cons, hargs]; simp [Section.add]⟩

@[simp] theorem Section.ofArgs_kind (kind : SectionKind) (args : List Arg) :
    (Section.ofArgs kind args).kind = kind := (Section.foldl_add args _).1

@[simp] theorem Section.ofArgs_args (kind : SectionKind) (args : List Arg) :
    (Section.ofArgs kind args).args = args := (Section.foldl_add args _).2

theorem renderArgs_eq_map (args : List Arg) :
    renderArgs args = args.map fun arg => (arg, arg.content.render) := by
  induction args with
  | nil => rfl
  | cons arg args ih =>
    obtain ⟨key, range, priority, content⟩ := arg
    rw [renderArgs, ih, List.map_cons]

theorem renderSections_eq_map (sections : List Section) :
    renderSections sections =
      sections.map fun s => renderSorted s.kind (s.args.map fun arg => (arg, arg.content.render)) := by
  induction sections with
  | nil => rfl
  | cons s sections ih =>
    obtain ⟨kind, args, range⟩ := s
    rw [renderSections, ih, List.map_cons, renderArgs_eq_map]

/-- A section of a layout tree is written as the members in its slot are. -/
theorem renderSorted_eq {args : List (Slot × Arg)} {ms : List Member}
    (h : List.Forall₂ SameMember args ms) (slot : Slot) :
    renderSorted slot.kind (((args.filter fun (s, _) => s == slot).map (·.2)).map
        fun arg => (arg, arg.content.render)) =
      sectionText (Canon.renderAll (Member.inSlot ms slot)) := by
  let same (w : Arg × List Char) (m : Member) : Prop :=
    w.1.key = m.key ∧ w.1.range.start = m.start ∧ w.1.priority = m.priority ∧
      w.2 = m.canon.render
  have hfilter : List.Forall₂ same (((args.filter fun (s, _) => s == slot).map (·.2)).map
      fun arg => (arg, arg.content.render)) (ms.filter fun m => m.slot == slot) := by
    induction h with
    | nil => exact .nil
    | @cons arg m args ms ham _ ih =>
      by_cases hslot : m.slot = slot
      · simp only [List.filter_cons, ham.slot, hslot, beq_self_eq_true, if_true, List.map_cons]
        exact .cons ⟨ham.key, ham.start, ham.priority, ham.render⟩ ih
      · simpa [List.filter_cons, ham.slot, hslot] using ih
  have hstart : ∀ a a' b b', same a b → same a' b' →
      Section.standsBefore a.1 a'.1 = b.start.notAfter b'.start := by
    intro a a' b b' h h'
    rw [Section.standsBefore, h.2.1, h'.2.1]
  have hprecedes : ∀ a a' b b', same a b → same a' b' →
      Section.precedes slot.kind a.1 a'.1 = Member.precedes slot.kind b b' := by
    intro a a' b b' h h'
    cases slot.kind <;>
      simp only [Section.precedes, Member.precedes, h.1, h'.1, h.2.2.1, h'.2.2.1]
  have hsorted := forall₂_sortBy hprecedes (forall₂_sortBy hstart hfilter)
  obtain ⟨written, hwritten⟩ : ∃ written, written = sortBy (fun a b =>
      Section.precedes slot.kind a.1 b.1) (sortBy (fun a b => Section.standsBefore a.1 b.1)
        (((args.filter fun (s, _) => s == slot).map (·.2)).map
          fun arg => (arg, arg.content.render))) := ⟨_, rfl⟩
  rw [← hwritten] at hsorted
  have htexts : written.map (·.2) = (Member.inSlot ms slot).map Canon.render := by
    rw [← List.forall₂_eq_eq_eq, Member.inSlot, List.map_map, List.forall₂_map_left_iff,
      List.forall₂_map_right_iff]
    exact hsorted.imp fun _ _ h => h.2.2.2
  have hempty : written.isEmpty = (written.map (·.2)).isEmpty := by rw [List.isEmpty_map]
  unfold renderSorted sectionText
  rw [Canon.renderAll_eq_map, ← htexts, ← hempty, hwritten]

/-- The sections of a layout tree are written as the members in the slots are. Slots that a nested
block does not have are empty. -/
theorem renderSections_eq {isRoot : Bool} {args : List (Slot × Arg)} {ms : List Member}
    (h : List.Forall₂ SameMember args ms) (hslot : ∀ m ∈ ms, m.slot ∈ Slot.all isRoot) :
    ((renderSections (Slot.sections isRoot args)).filter fun text => !text.isEmpty) =
      ((Slot.all true).map fun slot => sectionText (Canon.renderAll (Member.inSlot ms slot))).filter
        fun text => !text.isEmpty := by
  have hsections : renderSections (Slot.sections isRoot args) =
      (Slot.all isRoot).map fun slot => sectionText (Canon.renderAll (Member.inSlot ms slot)) := by
    rw [renderSections_eq_map, Slot.sections, List.map_map]
    refine List.map_congr_left fun slot _ => ?_
    rw [← renderSorted_eq h slot]
    simp
  rw [hsections]
  cases isRoot with
  | true => rfl
  | false =>
    have hnone : ∀ slot, slot ∉ Slot.all false →
        sectionText (Canon.renderAll (Member.inSlot ms slot)) = [] := by
      intro slot hs
      have hfilter : (ms.filter fun m => m.slot == slot) = [] := by
        rw [List.filter_eq_nil_iff]
        intro m hm hm'
        exact hs (by rw [← beq_iff_eq.1 hm']; exact hslot m hm)
      simp [Member.inSlot, hfilter, Member.ordered, sortBy, Canon.renderAll, sectionText]
    have hall : Slot.all true = Slot.all false ++ [.tailArgs, .tailBlocks] := rfl
    rw [hall, List.map_append, List.filter_append]
    simp [hnone .tailArgs (by decide), hnone .tailBlocks (by decide)]

variable {file cl}

theorem slot_attributeMember (isRoot : Bool) (a : Attribute) :
    (attributeMember file cl isRoot a).slot ∈ Slot.all isRoot := by
  cases h : cl.classify a.key <;> cases isRoot <;>
    simp [attributeMember, h, Slot.ofAttribute, ArgClass.isHead, ArgClass.isTail, Slot.all]

theorem slot_blockMembers {isRoot : Bool} {items : List Item} {m : Member}
    (h : m ∈ blockMembers file cl isRoot items) : m.slot ∈ Slot.all isRoot := by
  induction items with
  | nil => simp [blockMembers] at h
  | cons item items ih =>
    cases item with
    | attr a => exact ih h
    | block b =>
      rw [blockMembers] at h
      rcases List.mem_cons.1 h with rfl | h
      · cases hc : cl.classify (blockName b) <;> cases isRoot <;>
          simp [Slot.ofBlock, ArgClass.isTail, Slot.all]
      · exact ih h

mutual

/-- The canonical text of a block is that of its canonical form. -/
theorem render_build (isRoot : Bool) (path : List String) :
    (b : Block) → (Tree.build file cl isRoot path b).render = (canon file cl isRoot b).render
  | ⟨kind, labels, body, span⟩ => by
    have hattributes : List.Forall₂ SameMember
        ((Body.attributesByOffset body).map (attributeArg file cl isRoot))
        ((Body.attributesByOffset body).map (attributeMember file cl isRoot)) := by
      rw [List.forall₂_map_left_iff, List.forall₂_map_right_iff, List.forall₂_same]
      exact fun a _ => sameMember_attribute file cl isRoot a
    have hargs := List.rel_append hattributes (sameMember_blocks isRoot kind path body)
    have hslot : ∀ m ∈ (Body.attributesByOffset body).map (attributeMember file cl isRoot) ++
        blockMembers file cl isRoot body, m.slot ∈ Slot.all isRoot := by
      intro m hm
      rcases List.mem_append.1 hm with hm | hm
      · obtain ⟨a, -, rfl⟩ := List.mem_map.1 hm
        exact slot_attributeMember isRoot a
      · exact slot_blockMembers hm
    rw [Tree.build, Tree.render, canon, Canon.render, blockText, ← renderSections_eq hargs hslot]
    rfl

theorem sameMember_blocks (isRoot : Bool) (kind : String) (path : List String) :
    (items : List Item) → List.Forall₂ SameMember (blockArgs file cl isRoot kind path items)
      (blockMembers file cl isRoot items)
  | [] => .nil
  | .attr _ :: items => by
    rw [blockArgs, blockMembers]
    exact sameMember_blocks isRoot kind path items
  | .block ⟨kind', labels, body, span⟩ :: items => by
    rw [blockArgs, blockMembers]
    refine .cons ⟨rfl, ?_, ?_, rfl, ?_⟩ (sameMember_blocks isRoot kind path items)
    · rw [Tree.build]
    · rw [Tree.build]
    · rw [Content.render]
      exact render_build false _ ⟨kind', labels, body, span⟩

end

end TerraLint.Layout
