import TerraLint.Proofs.Layout.CanonOrder
import TerraLint.Proofs.Layout.Sections

/-!
# Blocks that stand in canonical order

A block is written in canonical order when its structures stand slot by slot, each on lines of its
own, with a line free between two slots. Such a block is its own canonical form: nothing in it is
misplaced, and sorting leaves everything where it is.

* `Writes`: a structure of a file is written as a canonical form says.
* `canon_of_writes`: the canonical form of what is written so.
* `ordered_of_writes`, `misplaced_of_writes`: no block of it is out of order.
-/

namespace TerraLint.Layout

open Text Hcl

section Lines

variable (file : SourceFile)

/-- The line on which a structure starts. -/
def firstLine (item : Item) : Nat := (file.rangeOf item.span).start.line

/-- The line on which a structure ends. -/
def lastLine (item : Item) : Nat := (file.rangeOf item.span).stop.line

/-- A structure starts on a line before that of another. -/
structure Earlier (a b : Item) : Prop where
  start : a.span.start ≤ b.span.start
  line : firstLine file a < firstLine file b

/-- A structure ends with a line free before another. -/
structure Apart (a b : Item) : Prop extends Earlier file a b where
  gap : lastLine file a + 2 ≤ firstLine file b

/-- A structure of a file is written as a canonical form says, slot by slot. -/
inductive Writes : Canon → Item → Prop
  | attr {a : Attribute} : Writes (.attr a.key (file.textOf a.span)) (.attr a)
  | block {kind : String} {labels : List String} {span : Span}
    {rows : Slot → List (Canon × Item)} (hrows : ∀ slot, ∀ r ∈ rows slot, Writes r.1 r.2)
    (hinner : ∀ slot, (rows slot).Pairwise fun r r' => Earlier file r.2 r'.2)
    (houter : (Slot.all true).Pairwise fun s s' =>
      ∀ r ∈ rows s, ∀ r' ∈ rows s', Apart file r.2 r'.2) :
    Writes (.block kind labels fun slot => (rows slot).map (·.1))
      (.block ⟨kind, labels, (Slot.all true).flatMap fun slot => (rows slot).map (·.2), span⟩)

end Lines

/-! ## The structures of a block by slot -/

section Slots

variable {cl : Classifier} {isRoot : Bool}

theorem slot_of_writes {file : SourceFile} {c : Canon} {item : Item} (h : Writes file c item) :
    c.slot cl isRoot = itemSlot cl isRoot item := by
  cases h with
  | attr => rfl
  | block _ _ _ => rfl

/-- The structures of a slot are those that stand there. -/
theorem filter_rows {slots : List Slot} (hnodup : slots.Nodup) {items : Slot → List Item}
    (h : ∀ slot, ∀ item ∈ items slot, itemSlot cl isRoot item = slot) {slot : Slot}
    (hslot : slot ∈ slots) :
    ((slots.flatMap items).filter fun item => itemSlot cl isRoot item == slot) = items slot := by
  have hself : ∀ s, (items s).filter (fun item => itemSlot cl isRoot item == slot) =
      if s = slot then items s else [] := by
    intro s
    split
    · rename_i heq
      rw [List.filter_eq_self]
      intro item hitem
      rw [h s item hitem, heq, beq_self_eq_true]
    · rename_i hne
      rw [List.filter_eq_nil_iff]
      intro item hitem
      rw [h s item hitem]
      simpa using hne
  induction slots with
  | nil => cases hslot
  | cons s slots ih =>
    obtain ⟨hs, hnodup⟩ := List.nodup_cons.1 hnodup
    rw [List.flatMap_cons, List.filter_append, hself]
    rcases List.mem_cons.1 hslot with rfl | hmem
    · have hrest : (slots.flatMap items).filter (fun item => itemSlot cl isRoot item == slot) = [] := by
        rw [List.filter_eq_nil_iff]
        intro item hitem hitem'
        obtain ⟨s, hs', hitem⟩ := List.mem_flatMap.1 hitem
        rw [h s item hitem, beq_iff_eq] at hitem'
        exact hs (hitem' ▸ hs')
      rw [if_pos rfl, hrest, List.append_nil]
    · rw [if_neg (fun heq : s = slot => hs (heq ▸ hmem)), List.nil_append, ih hnodup hmem]

end Slots

/-! ## The canonical form of what is written -/

section Members

variable {file : SourceFile} {cl : Classifier} {isRoot : Bool}

variable (file cl isRoot) in
/-- The member that a structure is. -/
def itemMember : Item → Member
  | .attr a => attributeMember file cl isRoot a
  | .block b =>
    let c := cl.classify (blockName b)
    ⟨.ofBlock isRoot c, blockSortField b, (file.rangeOf b.span).start, c.priority,
      canon file cl false b⟩

theorem blockMembers_eq_map (items : List Item) :
    blockMembers file cl isRoot items =
      (Body.blocks items).map fun b => itemMember file cl isRoot (.block b) := by
  induction items with
  | nil => rfl
  | cons item items ih =>
    cases item with
    | attr a => exact ih
    | block b =>
      rw [blockMembers, ih]
      rfl

theorem itemMember_slot (item : Item) :
    (itemMember file cl isRoot item).slot = itemSlot cl isRoot item := by
  cases item <;> rfl

theorem itemMember_start (item : Item) :
    (itemMember file cl isRoot item).start = (file.rangeOf item.span).start := by
  cases item <;> rfl

theorem precedes_of_writes {c c' : Canon} {item item' : Item} (h : Writes file c item)
    (h' : Writes file c' item') (kind : SectionKind) :
    Member.precedes kind (itemMember file cl isRoot item) (itemMember file cl isRoot item') =
      c.precedes cl kind c' := by
  have hsame : ∀ {d : Canon} {i : Item}, Writes file d i →
      (itemMember file cl isRoot i).key = d.sortKey ∧
        (itemMember file cl isRoot i).priority = (cl.classify d.name).priority := by
    intro d i hd
    cases hd with
    | attr => exact ⟨rfl, rfl⟩
    | block _ _ _ => exact ⟨rfl, rfl⟩
  obtain ⟨hkey, hpriority⟩ := hsame h
  obtain ⟨hkey', hpriority'⟩ := hsame h'
  cases kind <;>
    simp only [Member.precedes, Canon.precedes, hkey, hkey', hpriority, hpriority']

end Members

/-- The structures of a block in canonical order, with what they are written as. -/
structure Rows (file : SourceFile) (rows : Slot → List (Canon × Item)) : Prop where
  writes : ∀ slot, ∀ r ∈ rows slot, Writes file r.1 r.2
  inner : ∀ slot, (rows slot).Pairwise fun r r' => Earlier file r.2 r'.2
  outer : (Slot.all true).Pairwise fun s s' => ∀ r ∈ rows s, ∀ r' ∈ rows s', Apart file r.2 r'.2

/-- The body that rows make up. -/
def rowsBody (rows : Slot → List (Canon × Item)) : Body :=
  (Slot.all true).flatMap fun slot => (rows slot).map (·.2)

namespace Rows

variable {file : SourceFile} {cl : Classifier} {isRoot : Bool} {rows : Slot → List (Canon × Item)}
  (h : Rows file rows) (hslot : ∀ slot, ∀ c ∈ (rows slot).map (·.1), c.slot cl isRoot = slot)

include h

theorem pairwise_body : (rowsBody rows).Pairwise (Earlier file) := by
  unfold rowsBody
  rw [List.pairwise_flatMap]
  refine ⟨fun slot _ => List.pairwise_map.2 (h.inner slot), h.outer.imp fun hss a ha b hb => ?_⟩
  obtain ⟨r, hr, rfl⟩ := List.mem_map.1 ha
  obtain ⟨r', hr', rfl⟩ := List.mem_map.1 hb
  exact (hss r hr r' hr').toEarlier

theorem attributesByOffset :
    Body.attributesByOffset (rowsBody rows) = Body.attributes (rowsBody rows) :=
  attributesByOffset_eq (h.pairwise_body.imp fun hab => hab.start)

include hslot

theorem filter_body (slot : Slot) :
    ((rowsBody rows).filter fun item => itemSlot cl isRoot item == slot) =
      (rows slot).map (·.2) := by
  refine filter_rows (by decide) (fun s item hitem => ?_) (slot_mem_all slot)
  obtain ⟨r, hr, rfl⟩ := List.mem_map.1 hitem
  rw [← slot_of_writes (h.writes s r hr)]
  exact hslot s r.1 (List.mem_map_of_mem hr)

/-- In canonical order the members of a slot are the rows of the slot. -/
theorem inSlot_eq (horder : ∀ slot, ((rows slot).map (·.1)).Pairwise fun a b =>
      Canon.precedes cl slot.kind a b = true)
    (hcanon : ∀ slot, ∀ r ∈ rows slot, (itemMember file cl isRoot r.2).canon = r.1) (slot : Slot) :
    Member.inSlot ((Body.attributesByOffset (rowsBody rows)).map (attributeMember file cl isRoot) ++
      blockMembers file cl isRoot (rowsBody rows)) slot = (rows slot).map (·.1) := by
  have hmembers := filter_parts (f := itemMember file cl isRoot) itemMember_slot (rowsBody rows) slot
  rw [h.filter_body hslot, List.map_map] at hmembers
  have hstart : ((rows slot).map (itemMember file cl isRoot ∘ (·.2))).Pairwise
      fun a b => a.start.notAfter b.start = true := by
    rw [List.pairwise_map]
    refine (h.inner slot).imp fun hrr => ?_
    rw [Function.comp_apply, Function.comp_apply, itemMember_start, itemMember_start]
    exact notAfter_of_line_lt hrr.line
  have hprecedes : ((rows slot).map (itemMember file cl isRoot ∘ (·.2))).Pairwise
      fun a b => Member.precedes slot.kind a b = true := by
    have hrows := List.pairwise_map.1 (horder slot)
    rw [List.pairwise_map]
    refine List.Pairwise.imp_of_mem (fun hr hr' hrr => ?_) hrows
    rw [Function.comp_apply, Function.comp_apply,
      precedes_of_writes (h.writes slot _ hr) (h.writes slot _ hr')]
    exact hrr
  rw [h.attributesByOffset, blockMembers_eq_map, Member.inSlot]
  have hparts : (Body.attributes (rowsBody rows)).map (attributeMember file cl isRoot) =
      (Body.attributes (rowsBody rows)).map fun a => itemMember file cl isRoot (.attr a) := rfl
  rw [hparts, hmembers, Member.ordered, sortBy_of_pairwise hstart, sortBy_of_pairwise hprecedes,
    List.map_map]
  exact List.map_congr_left fun r hr => hcanon slot r hr

end Rows

/-- What is written in canonical order has the canonical form that it was written from. -/
theorem canon_of_writes {file : SourceFile} {cl : Classifier} {isRoot : Bool} {c : Canon}
    (hsorted : c.Sorted cl isRoot) {b : Block} (h : Writes file c (.block b)) :
    canon file cl isRoot b = c := by
  induction c using Canon.induct generalizing isRoot b with
  | attr key text => cases h
  | block kind labels slots ih =>
    cases h with
    | @block _ _ _ rows hrows hinner houter =>
      cases hsorted with
      | block hslot horder hnested =>
        rw [canon]
        refine congrArg (Canon.block kind labels) (funext fun slot => ?_)
        refine (Rows.mk hrows hinner houter).inSlot_eq hslot horder (fun s r hr => ?_) slot
        have hmem : r.1 ∈ (rows s).map (·.1) := List.mem_map_of_mem hr
        have hwrites := hrows s r hr
        obtain ⟨c, item⟩ := r
        cases item with
        | attr a =>
          cases hwrites
          rfl
        | block b => exact ih s c hmem (hnested s c hmem) hwrites

/-! ## The layout tree of what is written -/

theorem precedes_itemArg {file : SourceFile} {cl : Classifier} {isRoot : Bool} {parentKind : String}
    {path : List String} (kind : SectionKind) (item item' : Item) :
    Section.precedes kind (itemArg file cl isRoot parentKind path item).2
        (itemArg file cl isRoot parentKind path item').2 =
      Member.precedes kind (itemMember file cl isRoot item) (itemMember file cl isRoot item') := by
  have hsame : ∀ i, (itemArg file cl isRoot parentKind path i).2.key =
        (itemMember file cl isRoot i).key ∧
      (itemArg file cl isRoot parentKind path i).2.priority =
        (itemMember file cl isRoot i).priority := by
    intro i
    cases i with
    | attr a => exact ⟨rfl, rfl⟩
    | block b =>
      obtain ⟨kind, labels, body, span⟩ := b
      simp only [itemArg, itemMember, Tree.build, and_self]
  obtain ⟨hkey, hpriority⟩ := hsame item
  obtain ⟨hkey', hpriority'⟩ := hsame item'
  cases kind <;>
    simp only [Member.precedes, Section.precedes, hkey, hkey', hpriority, hpriority']

section Order

variable {name : String} {text : List Char} {cl : Classifier} {isRoot : Bool}
  {rows : Slot → List (Canon × Item)}

theorem Rows.slotArgs_eq {file : SourceFile} (h : Rows file rows)
    (hslot : ∀ slot, ∀ c ∈ (rows slot).map (·.1), c.slot cl isRoot = slot) {b : Block}
    (hb : b.body = rowsBody rows) (path : List String) (slot : Slot) :
    slotArgs file cl isRoot path b slot =
      (rows slot).map fun r => (itemArg file cl isRoot b.kind path r.2).2 := by
  unfold slotArgs
  rw [hb, h.filter_body hslot, List.map_map]
  rfl

theorem Rows.sections_eq {file : SourceFile} (h : Rows file rows)
    (hslot : ∀ slot, ∀ c ∈ (rows slot).map (·.1), c.slot cl isRoot = slot) {b : Block}
    (hb : b.body = rowsBody rows) (path : List String) :
    (Tree.build file cl isRoot path b).sections =
      (Slot.all isRoot).map fun slot => Section.ofArgs slot.kind
        ((rows slot).map fun r => (itemArg file cl isRoot b.kind path r.2).2) := by
  have hstart : b.body.Pairwise fun a a' => a.span.start ≤ a'.span.start := by
    rw [hb]
    exact h.pairwise_body.imp fun hab => hab.start
  rw [sections_build hstart]
  exact List.map_congr_left fun slot _ => by rw [h.slotArgs_eq hslot hb]

variable (isRoot) in
theorem Rows.isOrdered {file : SourceFile} (h : Rows file rows)
    (hline : ∀ span, 0 < (file.rangeOf span).start.line)
    (horder : ∀ slot, ((rows slot).map (·.1)).Pairwise fun a b =>
      Canon.precedes cl slot.kind a b = true) (kind : String) (path : List String) :
    sectionsOrdered none ((Slot.all isRoot).map fun slot => Section.ofArgs slot.kind
      ((rows slot).map fun r => (itemArg file cl isRoot kind path r.2).2)) = true := by
  refine (sectionsOrdered_iff (fun s hs => ?_) (fun s hs a ha => ?_) none).2
    ⟨fun s hs => ?_, by simp, ?_⟩
  · obtain ⟨slot, -, rfl⟩ := List.mem_map.1 hs
    rw [Section.ofArgs_kind, Section.ofArgs_args]
  · obtain ⟨slot, -, rfl⟩ := List.mem_map.1 hs
    rw [Section.ofArgs_args] at ha
    obtain ⟨r, -, rfl⟩ := List.mem_map.1 ha
    rw [itemArg_range]
    exact hline _
  · obtain ⟨slot, -, rfl⟩ := List.mem_map.1 hs
    have hstart : ((rows slot).map fun r => (itemArg file cl isRoot kind path r.2).2).Pairwise
        fun a b => Section.standsBefore a b = true := by
      rw [List.pairwise_map]
      refine (h.inner slot).imp fun hrr => ?_
      rw [Section.standsBefore, itemArg_range, itemArg_range]
      exact notAfter_of_line_lt hrr.line
    have hprecedes : ((rows slot).map fun r => (itemArg file cl isRoot kind path r.2).2).Pairwise
        fun a b => Section.precedes slot.kind a b = true := by
      have hrows := List.pairwise_map.1 (horder slot)
      rw [List.pairwise_map]
      refine List.Pairwise.imp_of_mem (fun hr hr' hrr => ?_) hrows
      rw [precedes_itemArg, precedes_of_writes (h.writes slot _ hr) (h.writes slot _ hr')]
      exact hrr
    rw [Section.isOrdered, Section.sourceOrder, Section.ofArgs_kind, Section.ofArgs_args,
      sortBy_of_pairwise hstart]
    exact inOrder_of_pairwise hprecedes
  · have hsub : (Slot.all isRoot).Sublist (Slot.all true) := by cases isRoot <;> decide
    refine List.Pairwise.isChain (List.Pairwise.sublist List.filter_sublist ?_)
    rw [List.pairwise_map]
    refine (h.outer.sublist hsub).imp fun hss a ha b hb => ?_
    rw [Section.ofArgs_args] at ha hb
    obtain ⟨r, hr, rfl⟩ := List.mem_map.1 ha
    obtain ⟨r', hr', rfl⟩ := List.mem_map.1 hb
    rw [itemArg_range, itemArg_range]
    exact (hss r hr r' hr').gap

/-- A block that is written in canonical order is in order. -/
theorem ordered_of_writes {c : Canon} (hsorted : c.Sorted cl isRoot) {b : Block}
    (h : Writes (.parse name text) c (.block b)) (path : List String) :
    (Tree.build (.parse name text) cl isRoot path b).isOrdered = true := by
  cases h with
  | @block kind _ _ rows hrows hinner houter =>
    cases hsorted with
    | block hslot horder _ =>
      have hr : Rows (.parse name text) rows := ⟨hrows, hinner, houter⟩
      rw [Tree.isOrdered, hr.sections_eq hslot rfl path]
      exact hr.isOrdered isRoot (fun span =>
        SourceFile.line_range_pos name text span.start span.stop) horder kind path

/-- Nor is any block inside it out of order. -/
theorem misplaced_of_writes {c : Canon} (hsorted : c.Sorted cl isRoot) {b : Block}
    (h : Writes (.parse name text) c (.block b)) (path : List String) :
    (Tree.build (.parse name text) cl isRoot path b).misplaced = [] := by
  induction c using Canon.induct generalizing isRoot b path with
  | attr key text => cases h
  | block kind labels slots ih =>
    have hordered := ordered_of_writes hsorted h path
    cases h with
    | @block _ _ _ rows hrows hinner houter =>
      cases hsorted with
      | block hslot horder hnested =>
        have hr : Rows (.parse name text) rows := ⟨hrows, hinner, houter⟩
        rw [Tree.misplaced_eq, if_pos hordered, Tree.args, hr.sections_eq hslot rfl path,
          List.flatMap_eq_nil_iff]
        intro arg harg
        obtain ⟨s, hs, harg⟩ := List.mem_flatMap.1 harg
        obtain ⟨slot, -, rfl⟩ := List.mem_map.1 hs
        rw [Section.ofArgs_args] at harg
        obtain ⟨⟨c, item⟩, hrow, rfl⟩ := List.mem_map.1 harg
        have hmem : c ∈ (rows slot).map (·.1) := List.mem_map.2 ⟨_, hrow, rfl⟩
        cases item with
        | attr a => rfl
        | block b => exact ih slot c hmem (hnested slot c hmem) (hrows slot _ hrow) _

end Order

end TerraLint.Layout
