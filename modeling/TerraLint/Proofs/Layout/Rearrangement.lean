import TerraLint.Proofs.Layout.Retention

/-!
# The canonical form forgets the declared order

The structures of a block can be declared in another order, those of its nested blocks too. As long
as structures that are equal to a sort keep their order among each other, the canonical form stays
the same.

* `sortBy_eq_of_perm`: a stable sort only depends on the order of equal elements.
* `Shuffled`, `Twin`: bodies, and structures, that differ in the order of declarations.
* `Tree.render_build_rearranged`: blocks that differ in the order of declarations have the same
  canonical form.
-/

namespace TerraLint

variable {α : Type} {le : α → α → Bool}

/-- Two lists of the same elements are sorted alike if equal elements come in the same order. -/
theorem sortBy_eq_of_perm (total : ∀ a b, le a b = true ∨ le b a = true)
    (trans : ∀ a b c, le a b = true → le b c = true → le a c = true) {r : α → α → Prop}
    (asymm : ∀ a b, r a b → ¬r b a) {xs ys : List α} (hperm : ys.Perm xs) (hxs : xs.Pairwise r)
    (hys : ys.Pairwise fun a b => le a b = true → le b a = true → r a b) :
    sortBy le ys = sortBy le xs := by
  have hsorted : (sortBy le xs).Pairwise fun a b => le a b = true ∧ (le b a = true → r a b) :=
    (pairwise_sortBy total trans xs).and (stable_sortBy hxs)
  have hsorted' : (sortBy le ys).Pairwise fun a b => le a b = true ∧ (le b a = true → r a b) :=
    ((pairwise_sortBy total trans ys).and (stable_sortBy hys)).imp
      fun ⟨hab, hr⟩ => ⟨hab, fun hba => hr hba hab hba⟩
  refine List.Perm.eq_of_pairwise ?_ hsorted' hsorted
    (((sortBy_perm ys).trans hperm).trans (sortBy_perm xs).symm)
  intro a b _ _ hab hba
  exact absurd (hba.2 hab.1) (asymm a b (hab.2 hba.1))

namespace Layout

open Text Hcl

/-! ## What a structure is sorted by -/

section Keys

variable (cl : Classifier) (isRoot : Bool)

/-- The key by which a structure is sorted: the key of an attribute, the sort field of a block. -/
def itemKey : Item → String
  | .attr a => a.key
  | .block b => blockSortField b

/-- The priority of a structure as a meta argument. -/
def itemPriority : Item → Nat
  | .attr a => (cl.classify a.key).priority
  | .block b => (cl.classify (blockName b)).priority

/-- Whether a structure may stand before another in a section of a kind. -/
def itemPrecedes (kind : SectionKind) (x y : Item) : Bool :=
  match kind with
  | .headMeta | .tailMeta => itemPriority cl y ≤ itemPriority cl x
  | .attributes | .nestedBlocks => stringLe (itemKey x) (itemKey y)

/-- Two structures belong into the same section and neither is to stand before the other: in a
section of meta arguments their priorities are equal, in any other their keys. -/
def Tied (x y : Item) : Prop :=
  itemSlot cl isRoot x = itemSlot cl isRoot y ∧
    match (itemSlot cl isRoot x).kind with
    | .headMeta | .tailMeta => itemPriority cl x = itemPriority cl y
    | .attributes | .nestedBlocks => itemKey x = itemKey y

instance (x y : Item) : Decidable (Tied cl isRoot x y) := by
  unfold Tied
  cases (itemSlot cl isRoot x).kind <;> exact inferInstance

variable {cl isRoot}

variable (cl) in
theorem itemPrecedes_total (kind : SectionKind) (x y : Item) :
    itemPrecedes cl kind x y = true ∨ itemPrecedes cl kind y x = true := by
  cases kind with
  | headMeta | tailMeta =>
    simp only [itemPrecedes, decide_eq_true_eq]
    omega
  | attributes | nestedBlocks => exact stringLe_total _ _

variable (cl) in
theorem itemPrecedes_trans (kind : SectionKind) (x y z : Item)
    (hxy : itemPrecedes cl kind x y = true) (hyz : itemPrecedes cl kind y z = true) :
    itemPrecedes cl kind x z = true := by
  cases kind with
  | headMeta | tailMeta =>
    simp only [itemPrecedes, decide_eq_true_eq] at *
    omega
  | attributes | nestedBlocks => exact stringLe_trans hxy hyz

theorem tied_of_itemPrecedes {x y : Item} {slot : Slot} (hx : itemSlot cl isRoot x = slot)
    (hy : itemSlot cl isRoot y = slot) (hxy : itemPrecedes cl slot.kind x y = true)
    (hyx : itemPrecedes cl slot.kind y x = true) : Tied cl isRoot x y := by
  refine ⟨hx.trans hy.symm, ?_⟩
  rw [hx]
  cases hkind : slot.kind with
  | headMeta | tailMeta =>
    simp only [itemPrecedes, hkind, decide_eq_true_eq] at hxy hyx
    exact Nat.le_antisymm hyx hxy
  | attributes | nestedBlocks =>
    simp only [itemPrecedes, hkind] at hxy hyx
    rw [stringLe_eq_isLE] at hxy hyx
    have hcompare : compare (itemKey x) (itemKey y) = .eq :=
      Std.OrientedCmp.isLE_antisymm hxy hyx
    exact Std.LawfulEqCmp.eq_of_compare hcompare

variable {file : SourceFile} {kind : String} {path : List String} {x y : Item}

theorem itemArg_key : (itemArg file cl isRoot kind path x).2.key = itemKey x := by
  cases x with
  | attr a => rfl
  | block b =>
    obtain ⟨kind, labels, body, span⟩ := b
    simp only [itemArg, Tree.build, itemKey]

theorem itemArg_priority : (itemArg file cl isRoot kind path x).2.priority = itemPriority cl x := by
  cases x <;> rfl

end Keys

/-! ## Bodies in another order -/

/-- Two bodies hold the same structures, pair by pair: `rows` has them as the first body does and
`rows'` as the second, and tied structures come in the same order in both. -/
structure Shuffled (cl : Classifier) (isRoot : Bool) (body body' : Body)
    (rows rows' : List (Item × Item)) : Prop where
  left : rows.map (·.1) = body
  right : rows'.map (·.2) = body'
  perm : rows'.Perm rows
  ties : rows'.Pairwise fun row row' => Tied cl isRoot row.1 row'.1 → [row, row'].Sublist rows

/-- Where no structures are tied, every order will do. -/
theorem pairwise_of_untied {cl : Classifier} {isRoot : Bool} {rows rows' : List (Item × Item)}
    (h : rows'.Pairwise fun row row' => ¬Tied cl isRoot row.1 row'.1) :
    rows'.Pairwise fun row row' => Tied cl isRoot row.1 row'.1 → [row, row'].Sublist rows :=
  h.imp fun hne htied => absurd htied hne

/-- A structure of one file and one of another are the same but for the order of declarations in
nested blocks. -/
inductive Twin (file file' : SourceFile) (cl : Classifier) : Item → Item → Prop
  | attr {a a' : Attribute} (key : a'.key = a.key)
    (text : file'.textOf a'.span = file.textOf a.span) : Twin file file' cl (.attr a) (.attr a')
  | block {b b' : Block} {rows rows' : List (Item × Item)} (kind : b'.kind = b.kind)
    (labels : b'.labels = b.labels) (shuffled : Shuffled cl false b.body b'.body rows rows')
    (twins : ∀ row ∈ rows, Twin file file' cl row.1 row.2) :
    Twin file file' cl (.block b) (.block b')

/-- Two bodies of two files are the same but for the order of declarations, at any depth. -/
def Rearranged (file file' : SourceFile) (cl : Classifier) (isRoot : Bool) (body body' : Body) :
    Prop :=
  ∃ rows rows', Shuffled cl isRoot body body' rows rows' ∧
    ∀ row ∈ rows, Twin file file' cl row.1 row.2

section

variable {file file' : SourceFile} {cl : Classifier} {x y : Item}

theorem Twin.itemKey_eq (h : Twin file file' cl x y) : itemKey y = itemKey x := by
  cases h with
  | attr key _ => exact key
  | block kind labels _ _ => simp only [itemKey, blockSortField, kind, labels]

theorem Twin.blockName_eq {b b' : Block} (h : Twin file file' cl (.block b) (.block b')) :
    blockName b' = blockName b := by
  cases h with
  | block kind labels _ _ => simp only [blockName, Block.firstLabel?, kind, labels]

theorem Twin.itemPriority_eq (h : Twin file file' cl x y) :
    itemPriority cl y = itemPriority cl x := by
  cases x with
  | attr a =>
    cases h with
    | attr key _ => simp only [itemPriority, key]
  | block b =>
    cases y with
    | attr _ => cases h
    | block b' => simp only [itemPriority, h.blockName_eq]

theorem Twin.itemSlot_eq (h : Twin file file' cl x y) (isRoot : Bool) :
    itemSlot cl isRoot y = itemSlot cl isRoot x := by
  cases x with
  | attr a =>
    cases h with
    | attr key _ => simp only [itemSlot, key]
  | block b =>
    cases y with
    | attr _ => cases h
    | block b' => simp only [itemSlot, h.blockName_eq]

end

/-! ## The canonical form -/

/-- A block in canonical form is made of its header and its sections in canonical order. -/
theorem Tree.render_eq (t : Tree) :
    t.render = format (braced t.header.toList (joinSections
      ((t.sections.map fun s => sectionText (s.canonical.map fun arg => arg.content.render)).filter
        fun text => !text.isEmpty))) := by
  obtain ⟨name, sortField, path, range, defRange, header, sections⟩ := t
  rw [Tree.render, renderSections_eq_map]
  simp only [renderSorted_eq_sectionText]

section Sections

variable {name name' : String} {text text' : List Char} {cl : Classifier} {isRoot : Bool}
  {path path' : List String} {b b' : Block} {body body' : Body} {rows rows' : List (Item × Item)}

/-- The lines of the structures of a block that was read from a text follow each other. -/
theorem pairwise_line (name : String) (hparse : parseBody text = some body) (hb : Inside (.block b) body) :
    b.body.Pairwise fun x y => ((SourceFile.parse name text).rangeOf x.span).start.line <
      ((SourceFile.parse name text).rangeOf y.span).start.line := by
  obtain ⟨c, d, hc, hstack⟩ := exists_stack_of_inside hparse hb
  have hbelow := @SourceFile.pairwise_stack name text c d b.body hc hstack
  refine hbelow.imp_of_mem fun hx _ hlt => ?_
  obtain ⟨c', d', hreach, hstands⟩ := hstack.exists_of_mem hx
  exact Nat.lt_of_le_of_lt (SourceFile.line_le_of_stands (hc.trans hreach) hstands) hlt

/-- The sections of a block that was read from a text have its structures slot by slot, sorted. -/
theorem canonical_sections (hparse : parseBody text = some body) (hb : Inside (.block b) body) :
    (Tree.build (.parse name text) cl isRoot path b).sections.map (·.canonical) =
      (Slot.all isRoot).map fun slot => sortBy (Section.precedes slot.kind)
        (slotArgs (.parse name text) cl isRoot path b slot) := by
  obtain ⟨c, d, hc, hstack⟩ := exists_stack_of_inside hparse hb
  have hlined := @lined_sourceArgs name text c d b hc hstack cl isRoot path
  rw [sections_build hstack.pairwise_start, List.map_map]
  refine List.map_congr_left fun slot _ => ?_
  rw [Function.comp_apply, Section.canonical,
    (hlined.sublist (slotArgs_sublist slot)).sourceOrder_eq, Section.ofArgs_kind]

/-- An argument stands for a structure: it is sorted like it and has a text. -/
structure Stand (cl : Classifier) (x : Item) (text : List Char) (arg : Arg) : Prop where
  key : arg.key = itemKey x
  priority : arg.priority = itemPriority cl x
  render : arg.content.render = text

/-- Arguments that stand for some structures are sorted like them. -/
theorem forall₂_sort_stand {textOf : Item × Item → List Char} {args : List Arg}
    {rows : List (Item × Item)} (kind : SectionKind)
    (h : List.Forall₂ (fun arg row => Stand cl row.1 (textOf row) arg) args rows) :
    (sortBy (Section.precedes kind) args).map (fun arg => arg.content.render) =
      (sortBy (fun row row' => itemPrecedes cl kind row.1 row'.1) rows).map textOf := by
  have hsame : ∀ a a' row row', Stand cl row.1 (textOf row) a → Stand cl row'.1 (textOf row') a' →
      Section.precedes kind a a' = itemPrecedes cl kind row.1 row'.1 := by
    intro a a' row row' h h'
    cases kind <;>
      simp only [Section.precedes, itemPrecedes, h.key, h'.key, h.priority, h'.priority]
  have hsorted := forall₂_sortBy hsame h
  rw [← List.forall₂_eq_eq_eq, List.forall₂_map_left_iff, List.forall₂_map_right_iff]
  exact hsorted.imp fun _ _ h => h.render

/-- The structures of a slot, as the two bodies have them, sorted. -/
theorem sort_rows (hparse : parseBody text = some body) (hb : Inside (.block b) body)
    (h : Shuffled cl isRoot b.body b'.body rows rows') (slot : Slot) :
    sortBy (fun row row' => itemPrecedes cl slot.kind row.1 row'.1)
        (rows'.filter fun row => itemSlot cl isRoot row.1 == slot) =
      sortBy (fun row row' => itemPrecedes cl slot.kind row.1 row'.1)
        (rows.filter fun row => itemSlot cl isRoot row.1 == slot) := by
  -- the first text has its structures on lines below each other
  have hlines := pairwise_line "" hparse hb
  rw [← h.left, List.pairwise_map] at hlines
  have asymm : ∀ row row' : Item × Item,
      ((SourceFile.parse "" text).rangeOf row.1.span).start.line <
        ((SourceFile.parse "" text).rangeOf row'.1.span).start.line →
      ¬((SourceFile.parse "" text).rangeOf row'.1.span).start.line <
        ((SourceFile.parse "" text).rangeOf row.1.span).start.line :=
    fun _ _ hlt => Nat.lt_asymm hlt
  refine sortBy_eq_of_perm (fun row row' => itemPrecedes_total cl slot.kind row.1 row'.1)
    (fun row row' row'' => itemPrecedes_trans cl slot.kind row.1 row'.1 row''.1) asymm
    (h.perm.filter _) (hlines.filter _) ?_
  refine (h.ties.filter _).imp_of_mem fun {row row'} hrow hrow' hties hle hle' => ?_
  have hslot := beq_iff_eq.1 (List.mem_filter.1 hrow).2
  have hslot' := beq_iff_eq.1 (List.mem_filter.1 hrow').2
  have hpair := hties (tied_of_itemPrecedes hslot hslot' hle hle')
  exact List.pairwise_iff_forall_sublist.1 hlines hpair

/-- Blocks that hold the same structures with the same canonical forms have the same canonical
form. -/
theorem render_build_of_rows (hparse : parseBody text = some body) (hb : Inside (.block b) body)
    (hparse' : parseBody text' = some body') (hb' : Inside (.block b') body')
    (hheader : b'.header = b.header) (h : Shuffled cl isRoot b.body b'.body rows rows')
    (htwins : ∀ row ∈ rows, Twin (.parse name text) (.parse name' text') cl row.1 row.2)
    (hrender : ∀ row ∈ rows,
      (itemArg (.parse name' text') cl isRoot b'.kind path' row.2).2.content.render =
        (itemArg (.parse name text) cl isRoot b.kind path row.1).2.content.render) :
    (Tree.build (.parse name' text') cl isRoot path' b').render =
      (Tree.build (.parse name text) cl isRoot path b).render := by
  let textOf (row : Item × Item) : List Char :=
    (itemArg (.parse name text) cl isRoot b.kind path row.1).2.content.render
  have hmem : ∀ row ∈ rows', row ∈ rows := fun row hrow => h.perm.mem_iff.1 hrow
  have hslots : ∀ slot, (sortBy (Section.precedes slot.kind)
        (slotArgs (.parse name' text') cl isRoot path' b' slot)).map (·.content.render) =
      (sortBy (Section.precedes slot.kind)
        (slotArgs (.parse name text) cl isRoot path b slot)).map (·.content.render) := by
    intro slot
    have hleft : List.Forall₂ (fun arg row => Stand cl row.1 (textOf row) arg)
        (slotArgs (.parse name text) cl isRoot path b slot)
        (rows.filter fun row => itemSlot cl isRoot row.1 == slot) := by
      rw [slotArgs, ← h.left, List.filter_map, List.map_map, List.forall₂_map_left_iff]
      exact List.forall₂_same.2 fun row _ => ⟨itemArg_key, itemArg_priority, rfl⟩
    have hright : List.Forall₂ (fun arg row => Stand cl row.1 (textOf row) arg)
        (slotArgs (.parse name' text') cl isRoot path' b' slot)
        (rows'.filter fun row => itemSlot cl isRoot row.1 == slot) := by
      have hfilter : rows'.filter (fun row => itemSlot cl isRoot row.1 == slot) =
          rows'.filter ((fun item => itemSlot cl isRoot item == slot) ∘ Prod.snd) := by
        refine List.filter_congr fun row hrow => ?_
        rw [Function.comp_apply, (htwins row (hmem row hrow)).itemSlot_eq isRoot]
      rw [slotArgs, ← h.right, List.filter_map, List.map_map, List.forall₂_map_left_iff, hfilter]
      refine List.forall₂_same.2 fun row hrow => ?_
      have hrow := hmem row (List.mem_filter.1 hrow).1
      have htwin := htwins row hrow
      exact ⟨itemArg_key.trans htwin.itemKey_eq, itemArg_priority.trans htwin.itemPriority_eq,
        hrender row hrow⟩
    rw [forall₂_sort_stand slot.kind hleft, forall₂_sort_stand slot.kind hright,
      sort_rows hparse hb h slot]
  have hsections : ∀ (t : Tree), t.sections.map (fun s =>
      sectionText (s.canonical.map fun arg => arg.content.render)) =
        (t.sections.map (·.canonical)).map fun args =>
          sectionText (args.map fun arg => arg.content.render) := by
    intro t
    rw [List.map_map]
    rfl
  rw [Tree.render_eq, Tree.render_eq, header_build, header_build, hheader, hsections, hsections,
    canonical_sections hparse hb, canonical_sections hparse' hb', List.map_map, List.map_map]
  congr 5
  exact funext fun slot => congrArg sectionText (hslots slot)

/-- Twins have the same canonical form. -/
theorem render_twin (hparse : parseBody text = some body) (hparse' : parseBody text' = some body')
    {x y : Item} (h : Twin (.parse name text) (.parse name' text') cl x y) (hx : Inside x body)
    (hy : Inside y body') (isRoot : Bool) (kind kind' : String) (path path' : List String) :
    (itemArg (.parse name' text') cl isRoot kind' path' y).2.content.render =
      (itemArg (.parse name text) cl isRoot kind path x).2.content.render := by
  induction h generalizing isRoot kind kind' path path' with
  | attr _ htext => exact htext
  | @block b b' rows rows' hkind hlabels hshuffled htwins ih =>
    have hheader : b'.header = b.header := by rw [Block.header, Block.header, hkind, hlabels]
    refine render_build_of_rows hparse hx hparse' hy hheader hshuffled htwins fun row hrow => ?_
    have hleft : row.1 ∈ b.body := hshuffled.left ▸ List.mem_map_of_mem hrow
    have hright : row.2 ∈ b'.body :=
      hshuffled.right ▸ List.mem_map_of_mem (hshuffled.perm.mem_iff.2 hrow)
    exact ih row hrow (hx.of_mem hleft) (hy.of_mem hright) _ _ _ _ _

end Sections

/-- The canonical form of a block that was read from a text does not depend on the order in which
structures are declared, at any depth, except among those that no sort tells apart. -/
theorem Tree.render_build_rearranged {name name' : String} {text text' : List Char}
    {body body' : Body} (hparse : parseBody text = some body)
    (hparse' : parseBody text' = some body') {b b' : Block} (hb : Inside (.block b) body)
    (hb' : Inside (.block b') body') (cl : Classifier) (isRoot : Bool) (path path' : List String)
    (hheader : b'.header = b.header)
    (h : Rearranged (.parse name text) (.parse name' text') cl isRoot b.body b'.body) :
    (Tree.build (.parse name' text') cl isRoot path' b').render =
      (Tree.build (.parse name text) cl isRoot path b).render := by
  obtain ⟨rows, rows', hshuffled, htwins⟩ := h
  refine render_build_of_rows hparse hb hparse' hb' hheader hshuffled htwins fun row hrow => ?_
  have hleft : row.1 ∈ b.body := hshuffled.left ▸ List.mem_map_of_mem hrow
  have hright : row.2 ∈ b'.body :=
    hshuffled.right ▸ List.mem_map_of_mem (hshuffled.perm.mem_iff.2 hrow)
  exact render_twin hparse hparse' (htwins row hrow) (hb.of_mem hleft) (hb'.of_mem hright) _ _ _ _ _

/-- A block with a nested block. -/
def declaredText : List Char :=
  "r \x7b\n  b = x\n  s \x7b\n    q = z\n    p = w\n  \x7d\n  a = y\n\x7d\n".toList

/-- The same block with everything in another order. -/
def redeclaredText : List Char :=
  "r \x7b\n  s \x7b\n    p = w\n    q = z\n  \x7d\n  a = y\n  b = x\n\x7d\n".toList

/-- An attribute with a name as its value, both of one letter, that starts at an offset. -/
def shortAttribute (key value : String) (start : Nat) : Item :=
  .attr ⟨key, ⟨start, start + 1⟩, .node (some ⟨start + 4, start + 5⟩) (.variable value),
    ⟨start, start + 5⟩⟩

/-- A test that only one item passes. Expressions have no decidable equality. -/
def Recognizes (test : Item → Bool) (it : Item) : Prop := ∀ x, test x = true → x = it

/-- Tests for the attribute of these letters at this offset. -/
def isShortAttribute (key value : String) (start : Nat) : Item → Bool
  | .attr ⟨k, keySpan, .node (some valueSpan) (.variable v), span⟩ =>
    k == key && v == value && keySpan == ⟨start, start + 1⟩ && valueSpan == ⟨start + 4, start + 5⟩ &&
      span == ⟨start, start + 5⟩
  | _ => false

/-- Tests for a block without labels whose structures pass the tests, one after the other. -/
def isShortBlock (type : String) (span : Span) (tests : List (Item → Bool)) : Item → Bool
  | .block ⟨t, labels, body, s⟩ =>
    t == type && labels == [] && s == span && body.length == tests.length &&
      (List.zip tests body).all fun row => row.1 row.2
  | _ => false

theorem recognizes_shortAttribute (key value : String) (start : Nat) :
    Recognizes (isShortAttribute key value start) (shortAttribute key value start) := by
  intro it h
  unfold isShortAttribute at h
  split at h
  · simp only [Bool.and_eq_true, beq_iff_eq] at h
    obtain ⟨⟨⟨⟨rfl, rfl⟩, rfl⟩, rfl⟩, rfl⟩ := h
    rfl
  · cases h

theorem eq_of_recognized {tests : List (Item → Bool)} {body rows : List Item}
    (hrows : List.Forall₂ Recognizes tests rows) (hlength : body.length = tests.length)
    (h : ∀ row ∈ List.zip tests body, row.1 row.2 = true) : body = rows := by
  induction hrows generalizing body with
  | nil => exact List.length_eq_zero_iff.1 hlength
  | cons hrow hrows ih =>
    obtain ⟨x, body, rfl⟩ := List.exists_cons_of_length_eq_add_one hlength
    rw [List.zip_cons_cons, List.forall_mem_cons] at h
    rw [hrow x h.1, ih (Nat.succ.inj hlength) h.2]

theorem recognizes_shortBlock {type : String} {span : Span} {tests : List (Item → Bool)}
    {rows : List Item} (hrows : List.Forall₂ Recognizes tests rows) :
    Recognizes (isShortBlock type span tests) (.block ⟨type, [], rows, span⟩) := by
  intro it h
  unfold isShortBlock at h
  split at h
  · simp only [Bool.and_eq_true, beq_iff_eq, List.all_eq_true] at h
    obtain ⟨⟨⟨⟨rfl, rfl⟩, rfl⟩, hlength⟩, hall⟩ := h
    rw [eq_of_recognized hrows hlength hall]
  · cases h

theorem parseBody_of_recognized {text : List Char} {test : Item → Bool} {it : Item}
    (hit : Recognizes test it)
    (h : (parseBody text).any (fun body => body.length == 1 && body.all test) = true) :
    parseBody text = some [it] := by
  obtain ⟨body, hparse, hbody⟩ := (Option.any_eq_true _ _).1 h
  simp only [Bool.and_eq_true, beq_iff_eq, List.all_eq_true] at hbody
  obtain ⟨x, rfl⟩ := List.length_eq_one_iff.1 hbody.1
  rw [hparse, hit x (hbody.2 x List.mem_cons_self)]

/-- The structures of the first block, and the same ones of the second. -/
def outerRows : List (Item × Item) :=
  [(shortAttribute "b" "x" 6, shortAttribute "b" "x" 44),
   (.block ⟨"s", [], [shortAttribute "q" "z" 22, shortAttribute "p" "w" 32], ⟨14, 41⟩⟩,
    .block ⟨"s", [], [shortAttribute "p" "w" 14, shortAttribute "q" "z" 24], ⟨6, 33⟩⟩),
   (shortAttribute "a" "y" 44, shortAttribute "a" "y" 36)]

/-- The structures of the nested blocks. -/
def innerRows : List (Item × Item) :=
  [(shortAttribute "q" "z" 22, shortAttribute "q" "z" 24),
   (shortAttribute "p" "w" 32, shortAttribute "p" "w" 14)]

theorem Tree.render_build_rearranged_nested :
    ∃ body body' b b', parseBody declaredText = some body ∧ parseBody redeclaredText = some body' ∧
      body = [.block b] ∧ body' = [.block b'] ∧
      (Tree.root (.parse "main.tf" redeclaredText) .terraform b').render =
        (Tree.root (.parse "main.tf" declaredText) .terraform b).render := by
  let b : Block := ⟨"r", [], outerRows.map (·.1), ⟨0, 51⟩⟩
  let b' : Block := ⟨"r", [], [outerRows[1].2, outerRows[2].2, outerRows[0].2], ⟨0, 51⟩⟩
  have hparse : parseBody declaredText = some [.block b] :=
    parseBody_of_recognized (recognizes_shortBlock
      (.cons (recognizes_shortAttribute "b" "x" 6) (.cons (recognizes_shortBlock
        (.cons (recognizes_shortAttribute "q" "z" 22) (.cons (recognizes_shortAttribute "p" "w" 32) .nil)))
        (.cons (recognizes_shortAttribute "a" "y" 44) .nil)))) (by decide +kernel)
  have hparse' : parseBody redeclaredText = some [.block b'] :=
    parseBody_of_recognized (recognizes_shortBlock
      (.cons (recognizes_shortBlock
        (.cons (recognizes_shortAttribute "p" "w" 14) (.cons (recognizes_shortAttribute "q" "z" 24) .nil)))
        (.cons (recognizes_shortAttribute "a" "y" 36) (.cons (recognizes_shortAttribute "b" "x" 44) .nil))))
      (by decide +kernel)
  have hinner : Shuffled .terraform false (innerRows.map (·.1)) (innerRows.reverse.map (·.2))
      innerRows innerRows.reverse :=
    ⟨rfl, rfl, List.reverse_perm _, pairwise_of_untied (by decide +kernel)⟩
  have houter : [outerRows[1], outerRows[2], outerRows[0]].Perm outerRows :=
    @List.perm_append_comm _ [outerRows[1], outerRows[2]] [outerRows[0]]
  refine ⟨_, _, b, b', hparse, hparse', rfl, rfl, ?_⟩
  refine Tree.render_build_rearranged hparse hparse' (.here List.mem_cons_self)
    (.here List.mem_cons_self) _ _ _ _ rfl
    ⟨outerRows, [outerRows[1], outerRows[2], outerRows[0]],
      ⟨rfl, rfl, houter, pairwise_of_untied (by decide +kernel)⟩, ?_⟩
  simp only [outerRows, List.forall_mem_cons, List.not_mem_nil, false_imp_iff, implies_true,
    and_true]
  refine ⟨.attr rfl (by decide +kernel), .block rfl rfl hinner ?_, .attr rfl (by decide +kernel)⟩
  simp only [innerRows, List.forall_mem_cons, List.not_mem_nil, false_imp_iff, implies_true,
    and_true]
  exact ⟨.attr rfl (by decide +kernel), .attr rfl (by decide +kernel)⟩

end Layout

end TerraLint
