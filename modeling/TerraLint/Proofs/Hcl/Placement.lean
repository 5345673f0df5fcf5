import TerraLint.Proofs.Hcl.Body
import TerraLint.Proofs.Hcl.TermStarts

/-!
# Where the structures of a body stand

The structures of a body stand one below the other: each starts with a name, ends with a token, and
has lines of its own. So all structures of a text, those inside blocks included, and all terms of
their values start at different tokens.

* `Stands`, `Stack`: a structure, or the structures of a body, between two cursors.
* `stack_of_parseBody`: what is read from a text stands in it.
* `readBehind_of_parseBody`: what stands in a text was read where it stands.
* `Stack.tokens`: everything in a body starts at a token of its own.
-/

namespace TerraLint.Hcl

open Text Cursor

/-- A line ends between two cursors. -/
def Breaks (c d : Cursor) : Prop :=
  ∃ taken, c.rest = taken ++ d.rest ∧ d.byte = c.byte + byteLength taken ∧ '\n' ∈ taken

theorem Breaks.reaches {c d : Cursor} (h : Breaks c d) : Reaches c d := by
  obtain ⟨taken, hrest, hbyte, -⟩ := h
  exact ⟨taken, hrest, hbyte⟩

theorem Reaches.breaks {c d e : Cursor} (h : Reaches c d) (h' : Breaks d e) : Breaks c e := by
  obtain ⟨a, ha, hab⟩ := h
  obtain ⟨b, hb, hbb, hmem⟩ := h'
  refine ⟨a ++ b, by rw [ha, hb, List.append_assoc], ?_, List.mem_append_right a hmem⟩
  rw [hbb, hab, byteLength_append, Nat.add_assoc]

/-- The attribute stands from its key to the end of its value. -/
structure Attribute.StandsAt (a : Attribute) (c d : Cursor) : Prop where
  key : ∃ e, Closes c e ∧ a.keySpan = ⟨c.byte, e.byte⟩
  span : a.span = ⟨c.byte, d.byte⟩
  value : ∃ c', Closes c c' ∧ Sited c' d [a.value]

mutual

/-- A structure stands between two cursors. -/
inductive Stands : Cursor → Cursor → Item → Prop
  | attr {c d : Cursor} {a : Attribute} {ch : Char} {rest : List Char}
    (hstart : c.rest = ch :: rest) (hblank : isBlank ch = false) (hclose : Closes c d)
    (ha : a.StandsAt c d) : Stands c d (.attr a)
  | block {c c₁ d₁ d : Cursor} {b : Block} {ch : Char} {rest : List Char}
    (hstart : c.rest = ch :: rest) (hname : isNameStart ch = true) (hclose : Closes c d)
    (hspan : b.span = ⟨c.byte, d.byte⟩) (hopen : Closes c c₁) (hbody : Stack c₁ d₁ b.body)
    (hend : Reaches d₁ d) : Stands c d (.block b)

/-- Structures stand between two cursors, each below the one before it. -/
inductive Stack : Cursor → Cursor → List Item → Prop
  | nil {c d : Cursor} (h : Reaches c d) : Stack c d []
  | single {c c₁ d₁ d : Cursor} {item : Item} (h : Reaches c c₁) (hitem : Stands c₁ d₁ item)
    (hend : Reaches d₁ d) : Stack c d [item]
  | cons {c c₁ d₁ c₂ d : Cursor} {item : Item} {items : List Item} (h : Reaches c c₁)
    (hitem : Stands c₁ d₁ item) (hbreak : Breaks d₁ c₂) (hrest : Stack c₂ d items) :
    Stack c d (item :: items)

end

theorem Stack.after {b c d : Cursor} {items : List Item} (h : Stack c d items)
    (hbc : Reaches b c) : Stack b d items := by
  cases h with
  | nil h => exact .nil (hbc.trans h)
  | single h hitem hend => exact .single (hbc.trans h) hitem hend
  | cons h hitem hbreak hrest => exact .cons (hbc.trans h) hitem hbreak hrest

theorem Stands.closes {c d : Cursor} {item : Item} (h : Stands c d item) : Closes c d := by
  cases h with
  | attr _ _ hclose _ => exact hclose
  | block _ _ hclose _ _ _ _ => exact hclose

theorem Stack.reaches {c d : Cursor} {items : List Item} (h : Stack c d items) : Reaches c d := by
  induction items generalizing c with
  | nil =>
    cases h with
    | nil h => exact h
  | cons item items ih =>
    cases h with
    | single h hitem hend => exact (h.trans hitem.closes.reaches).trans hend
    | cons h hitem hbreak hrest =>
      exact ((h.trans hitem.closes.reaches).trans hbreak.reaches).trans (ih hrest)

theorem Stands.start {c d : Cursor} {item : Item} (h : Stands c d item) :
    ∃ ch rest, c.rest = ch :: rest ∧ isBlank ch = false := by
  cases h with
  | attr hstart hblank _ _ => exact ⟨_, _, hstart, hblank⟩
  | block hstart hname _ _ _ _ _ =>
    exact ⟨_, _, hstart, not_isBlank_of_isNameRest (isNameRest_of_isNameStart hname)⟩

theorem Stands.reads {c d : Cursor} {item : Item} (h : Stands c d item) :
    ∃ mid, Reads c d mid := by
  obtain ⟨ch, rest, hrest, hblank⟩ := h.start
  exact Reads.of_reaches hrest hblank h.closes.reaches h.closes.byte_lt

theorem Stands.span {c d : Cursor} {item : Item} (h : Stands c d item) :
    item.span = ⟨c.byte, d.byte⟩ := by
  cases h with
  | attr _ _ _ ha => exact ha.span
  | block _ _ _ hspan _ _ _ => exact hspan

/-! ## Line ends -/

theorem CommentRest.ends {w rest : List Char} (h : CommentRest w rest) : '\n' ∈ w ∨ rest = [] := by
  induction h with
  | feed hmark => rcases hmark with rfl | rfl <;> simp
  | done => exact .inr rfl
  | char _ _ ih => exact ih.imp_left (List.mem_cons_of_mem _)

theorem lineBreak_spec {c d : Cursor} (h : c.lineBreak = some d) : Breaks c d ∨ d.rest = [] := by
  obtain ⟨w, hw, hrest, hbyte⟩ := lineBreak_iff.1 h
  have hends : '\n' ∈ w ∨ d.rest = [] := by
    cases hw with
    | feed hmark => rcases hmark with rfl | rfl <;> simp
    | comment _ hw => exact hw.ends.imp_left (List.mem_append_right _)
  exact hends.imp_left fun hmem => ⟨w, hrest, hbyte, hmem⟩

theorem endOfLine_spec {c d : Cursor} (h : c.endOfLine = some d) :
    Reaches c d ∧ (Breaks c d ∨ d.rest = []) := by
  unfold endOfLine at h
  obtain ⟨c₁, h₁, h⟩ := Option.bind_eq_some_iff.1 h
  have hskip := reaches_skip h₁
  split at h
  · rename_i hnil
    obtain rfl := Option.some.inj h
    exact ⟨hskip, .inr hnil⟩
  · exact ⟨hskip.trans (reaches_lineBreak h), (lineBreak_spec h).imp hskip.breaks id⟩

/-! ## Labels -/

theorem closes_quotedLabel {c d : Cursor} {label : String} (h : c.quotedLabel = some (label, d)) :
    Closes c d := by
  cases quotedLabel_iff.1 h with
  | empty hopen hclose => exact (reaches_expect hopen).closes (closes_bracket hclose (by decide))
  | run hopen hrun hclose =>
    exact ((reaches_expect hopen).trans (quotedRun_iff.1 hrun).reaches).closes
      (closes_bracket hclose (by decide))

theorem reaches_labels {n : Nat} {read ls : List String} {c d : Cursor}
    (h : c.labels n read = some (ls, d)) : Reaches c d := by
  induction n generalizing read c with
  | zero => cases h
  | succ n ih =>
    cases labels_succ_iff.1 h with
    | stop => exact .refl _
    | more hlabel hskip hmore =>
      have hlabel := hlabel.elim closes_quotedLabel closes_name
      exact (hlabel.reaches.trans (reaches_skip hskip)).trans (ih hmore)

/-! ## What the readers give -/

theorem stands_attribute {n : Nat} {c d : Cursor} {a : Attribute} (h : ItemStep n c (.attr a) d) :
    Stands c d (.attr a) := by
  cases h with
  | @attr next c₁ c₂ c₃ _ key value hname hskip h₂ h₃ hvalue =>
    have hmoves : Closes c₃ d := ((sound n).expr hvalue).moves
    have hkey := closes_name hname
    have hsign := ((reaches_skip hskip).trans (reaches_expect h₂)).trans (reaches_skip h₃)
    obtain ⟨ch, rest, hrest, hstart⟩ := exists_start_of_name hname
    refine .attr hrest (not_isBlank_of_isNameRest (isNameRest_of_isNameStart hstart))
      ((hkey.reaches.trans hsign).closes hmoves) ⟨⟨next, hkey, rfl⟩, rfl, next, hkey, ?_⟩
    exact (expr_sited hvalue).after hsign

/-- What the readers with a bound give stands where it was read. -/
structure Places (n : Nat) : Prop where
  items : ∀ {read c all d}, items n read c = some (all, d) → ∃ new, all = read ++ new ∧ Stack c d new
  item : ∀ {c it d}, item n c = some (it, d) → Stands c d it
  blockBody : ∀ {c body d}, blockBody n c = some (body, d) →
    Closes c d ∧ ∃ c₁ d₁, Reaches c c₁ ∧ Stack c₁ d₁ body ∧ Reaches d₁ d

namespace Places

variable {n : Nat} (ih : Places n)

include ih

theorem items_succ {read all : List Item} {c d : Cursor}
    (h : Hcl.items (n + 1) read c = some (all, d)) : ∃ new, all = read ++ new ∧ Stack c d new := by
  cases items_succ_iff.1 h with
  | stop hskip => exact ⟨[], (List.append_nil _).symm, .nil (reaches_skip hskip)⟩
  | @more c₁ c₂ c₃ _ it _ hskip hitem _ hend hmore =>
    have hskip := reaches_skip hskip
    have hitem := ih.item hitem
    obtain ⟨new, rfl, hnew⟩ := ih.items hmore
    obtain ⟨hreach, hbreak⟩ := endOfLine_spec hend
    refine ⟨it :: new, by rw [List.append_assoc]; rfl, ?_⟩
    rcases hbreak with hbreak | hnil
    · exact .cons hskip hitem hbreak hnew
    · -- Nothing follows a structure that ends the text.
      cases hnew with
      | nil hrest => exact .single hskip hitem (hreach.trans hrest)
      | single hrest hitem' _ | cons hrest hitem' _ _ =>
        have hle := hrest.length_le
        obtain ⟨ch, rest, hcons, -⟩ := hitem'.start
        rw [hnil, hcons, List.length_cons, List.length_nil] at hle
        omega

theorem item_succ {c d : Cursor} {it : Item} (h : Hcl.item (n + 1) c = some (it, d)) :
    Stands c d it := by
  cases item_succ_iff.1 h with
  | attr hname h₂ hsign h₄ hvalue => exact stands_attribute (.attr hname h₂ hsign h₄ hvalue)
  | block hname h₂ _ hlabels hbody =>
    obtain ⟨hclose, c₄, d₄, hopen, hstack, hend⟩ := ih.blockBody hbody
    obtain ⟨ch, rest, hrest, hstart⟩ := exists_start_of_name hname
    have hkind := closes_name hname
    have hheader := (reaches_skip h₂).trans (reaches_labels hlabels)
    exact .block hrest hstart ((hkind.reaches.trans hheader).closes hclose) rfl hkind
      (hstack.after (hheader.trans hopen)) hend

theorem blockBody_succ {c d : Cursor} {body : List Item}
    (h : Hcl.blockBody (n + 1) c = some (body, d)) :
    Closes c d ∧ ∃ c₁ d₁, Reaches c c₁ ∧ Stack c₁ d₁ body ∧ Reaches d₁ d := by
  cases blockBody_succ_iff.1 h with
  | @empty c₁ c₂ _ hopen h₂ hclose =>
    have hopen := (reaches_expect hopen).trans (reaches_skip h₂)
    have hclose := closes_bracket hclose (by decide)
    exact ⟨hopen.closes hclose, c₂, _, hopen, .nil hclose.reaches, .refl _⟩
  | @lines c₁ c₂ c₃ c₄ _ _ hopen h₂ hbreak hitems hclose =>
    have hopen := (reaches_expect hopen).trans (reaches_skip h₂)
    obtain ⟨new, rfl, hnew⟩ := ih.items hitems
    have hstart := hopen.trans (reaches_lineBreak hbreak)
    have hclose := closes_bracket hclose (by decide)
    exact ⟨(hstart.trans hnew.reaches).closes hclose, c₃, c₄, hstart, hnew, hclose.reaches⟩
  | @inline c₁ c₂ c₃ c₄ _ a hopen h₂ hitem h₄ hclose =>
    have hopen := (reaches_expect hopen).trans (reaches_skip h₂)
    have hattr := stands_attribute hitem
    have hclose := (reaches_skip h₄).closes (closes_bracket hclose (by decide))
    exact ⟨(hopen.trans hattr.closes.reaches).closes hclose, c₂, d, hopen,
      .single (.refl _) hattr hclose.reaches, .refl _⟩

end Places

theorem places (n : Nat) : Places n := by
  induction n with
  | zero =>
    constructor
    all_goals simp [items, item, blockBody]
  | succ n ih => exact ⟨ih.items_succ, ih.item_succ, ih.blockBody_succ⟩

/-- What is read from a text stands in it. -/
theorem stack_of_parseBody {text : List Char} {body : Body} (h : parseBody text = some body) :
    ∃ d, Stack (.ofText text) d body := by
  unfold parseBody at h
  obtain ⟨⟨all, d⟩, hitems, h⟩ := Option.bind_eq_some_iff.1 h
  dsimp only at h
  split at h
  · obtain rfl := Option.some.inj h
    obtain ⟨new, rfl, hnew⟩ := (places _).items hitems
    exact ⟨d, hnew⟩
  · cases h

/-! ## Structures at any depth -/

/-- A structure is one of some structures, or stands in a block among them. -/
inductive Inside (item : Item) : List Item → Prop
  | here {items : List Item} (h : item ∈ items) : Inside item items
  | nested {b : Block} {items : List Item} (hb : .block b ∈ items) (h : Inside item b.body) :
    Inside item items

theorem Inside.of_subset {item : Item} {items all : List Item} (h : Inside item items)
    (hsub : items ⊆ all) : Inside item all := by
  cases h with
  | here h => exact .here (hsub h)
  | nested hb h => exact .nested (hsub hb) h

theorem Inside.cons {item : Item} {items : List Item} (h : Inside item items) (first : Item) :
    Inside item (first :: items) := h.of_subset (List.subset_cons_self _ _)

theorem not_inside_nil {x : Item} : ¬Inside x [] := by
  intro hx
  cases hx with
  | here h => cases h
  | nested h _ => cases h

theorem inside_cons_iff {x first : Item} {items : List Item} :
    Inside x (first :: items) ↔ Inside x [first] ∨ Inside x items := by
  constructor
  · intro h
    cases h with
    | here h =>
      rcases List.mem_cons.1 h with rfl | h
      · exact .inl (.here (List.mem_singleton_self _))
      · exact .inr (.here h)
    | nested hb h =>
      rcases List.mem_cons.1 hb with rfl | hb
      · exact .inl (.nested (List.mem_singleton_self _) h)
      · exact .inr (.nested hb h)
  · rintro (h | h)
    · exact h.of_subset (List.cons_subset_cons _ (List.nil_subset _))
    · exact h.cons first

theorem inside_attr_iff {x : Item} {a : Attribute} : Inside x [.attr a] ↔ x = .attr a := by
  constructor
  · intro h
    cases h with
    | here h => exact List.mem_singleton.1 h
    | nested h => cases List.mem_singleton.1 h
  · rintro rfl
    exact .here (List.mem_singleton_self _)

theorem inside_block_iff {x : Item} {b : Block} :
    Inside x [.block b] ↔ x = .block b ∨ Inside x b.body := by
  constructor
  · intro h
    cases h with
    | here h => exact .inl (List.mem_singleton.1 h)
    | nested hb h =>
      obtain rfl := Item.block.inj (List.mem_singleton.1 hb)
      exact .inr h
  · rintro (rfl | h)
    · exact .here (List.mem_singleton_self _)
    · exact .nested (List.mem_singleton_self _) h

mutual

/-- The blocks among some structures, at any depth. -/
def innerBlocks : List Item → List Block
  | [] => []
  | .attr _ :: items => innerBlocks items
  | .block b :: items => b.withInner ++ innerBlocks items

/-- A block and the blocks in it. -/
def Block.withInner : Block → List Block
  | ⟨kind, labels, body, span⟩ => ⟨kind, labels, body, span⟩ :: innerBlocks body

end

mutual

theorem mem_innerBlocks {d : Block} :
    ∀ {items : List Item}, d ∈ innerBlocks items ↔ Inside (.block d) items
  | [] => by simp [innerBlocks, not_inside_nil]
  | .attr a :: items => by
    rw [innerBlocks, mem_innerBlocks, inside_cons_iff, inside_attr_iff]
    simp
  | .block b :: items => by
    rw [innerBlocks, List.mem_append, mem_withInner, mem_innerBlocks, ← inside_cons_iff]

theorem mem_withInner {d : Block} : ∀ {b : Block}, d ∈ b.withInner ↔ Inside (.block d) [.block b]
  | ⟨kind, labels, body, span⟩ => by
    rw [Block.withInner, List.mem_cons, mem_innerBlocks, inside_block_iff, Item.block.injEq]

end

theorem Inside.of_mem {b : Block} {items : List Item} (hb : Inside (.block b) items) {child : Item}
    (hchild : child ∈ b.body) : Inside child items := by
  induction hb with
  | here h => exact .nested h (.here hchild)
  | nested h _ ih => exact .nested h ih

theorem mem_of_mem_attributes {a : Attribute} {body : Body} (h : a ∈ body.attributes) :
    .attr a ∈ body := by
  obtain ⟨item, hitem, heq⟩ := List.mem_filterMap.1 h
  cases item with
  | attr a' => exact Option.some.inj heq ▸ hitem
  | block b => cases heq

theorem mem_of_mem_blocks {b : Block} {body : Body} (h : b ∈ body.blocks) : .block b ∈ body := by
  obtain ⟨item, hitem, heq⟩ := List.mem_filterMap.1 h
  cases item with
  | attr a => cases heq
  | block b' => exact Option.some.inj heq ▸ hitem

theorem Stack.exists_of_mem {c d : Cursor} {items : List Item} (h : Stack c d items) {item : Item}
    (hitem : item ∈ items) : ∃ c' d', Reaches c c' ∧ Stands c' d' item := by
  induction items generalizing c with
  | nil => cases hitem
  | cons first items ih =>
    cases h with
    | single h hfirst hend =>
      obtain rfl := List.mem_singleton.1 hitem
      exact ⟨_, _, h, hfirst⟩
    | cons h hfirst hbreak hrest =>
      rcases List.mem_cons.1 hitem with rfl | hitem
      · exact ⟨_, _, h, hfirst⟩
      · obtain ⟨c', d', hreach, hstands⟩ := ih hrest hitem
        have hbelow := (h.trans hfirst.closes.reaches).trans hbreak.reaches
        exact ⟨c', d', hbelow.trans hreach, hstands⟩

theorem Stack.pairwise_start {c d : Cursor} {items : List Item} (h : Stack c d items) :
    items.Pairwise fun a b => a.span.start ≤ b.span.start := by
  induction items generalizing c with
  | nil => exact .nil
  | cons first items ih =>
    cases h with
    | single _ _ _ => exact List.pairwise_singleton _ _
    | cons h hfirst hbreak hrest =>
      refine List.pairwise_cons.2 ⟨fun later hlater => ?_, ih hrest⟩
      obtain ⟨c', d', hreach, hstands⟩ := hrest.exists_of_mem hlater
      rw [hfirst.span, hstands.span]
      exact ((hfirst.closes.reaches.trans hbreak.reaches).trans hreach).byte_le

theorem Stands.body {c d : Cursor} {b : Block} (h : Stands c d (.block b)) :
    ∃ c' d', Reaches c c' ∧ Stack c' d' b.body := by
  cases h with
  | block _ _ _ _ hopen hbody _ => exact ⟨_, _, hopen.reaches, hbody⟩

theorem Stack.exists_of_inside {c d : Cursor} {items : List Item} (h : Stack c d items) {item : Item}
    (hitem : Inside item items) : ∃ c' d', Reaches c c' ∧ Stands c' d' item := by
  induction hitem generalizing c d with
  | here hmem => exact h.exists_of_mem hmem
  | nested hb _ ih =>
    obtain ⟨c₁, d₁, hblock, hstands⟩ := h.exists_of_mem hb
    obtain ⟨c₂, d₂, hopen, hbody⟩ := hstands.body
    obtain ⟨c', d', hreach, hitem⟩ := ih hbody
    exact ⟨c', d', (hblock.trans hopen).trans hreach, hitem⟩

mutual

theorem inside_of_mem_nestedAttributes {a : Attribute} :
    ∀ {items : List Item}, a ∈ nestedAttributes items → Inside (.attr a) items
  | [], h => by
    rw [nestedAttributes] at h
    cases h
  | .attr _ :: items, h => by
    rw [nestedAttributes] at h
    exact (inside_of_mem_nestedAttributes h).cons _
  | .block b :: items, h => by
    rw [nestedAttributes] at h
    rcases List.mem_append.1 h with h | h
    · exact .nested List.mem_cons_self (inside_of_mem_allAttributes h)
    · exact (inside_of_mem_nestedAttributes h).cons _

theorem inside_of_mem_allAttributes {a : Attribute} :
    ∀ {b : Block}, a ∈ b.allAttributes → Inside (.attr a) b.body
  | ⟨_, _, body, _⟩, h => by
    rw [Block.allAttributes] at h
    rcases List.mem_append.1 h with h | h
    · exact .here (mem_of_mem_attributes h)
    · exact inside_of_mem_nestedAttributes h

end

theorem inside_of_mem_body {a : Attribute} {body : Body} (h : a ∈ body.allAttributes) :
    Inside (.attr a) body := by
  rcases List.mem_append.1 h with h | h
  · exact .here (mem_of_mem_attributes h)
  · exact inside_of_mem_nestedAttributes h

/-! ## Structures were read where they stand -/

/-- A structure was read behind a cursor, with a bound that is enough for the text from there. -/
def ReadBehind (c : Cursor) (it : Item) : Prop :=
  ∃ n c' d, Reaches c c' ∧ 4 * c'.rest.length ≤ n ∧ item n c' = some (it, d)

theorem ReadBehind.of_reaches {c c' : Cursor} {it : Item} (h : Reaches c c') (hit : ReadBehind c' it) :
    ReadBehind c it := by
  obtain ⟨n, c₁, d, hreach, hn, hitem⟩ := hit
  exact ⟨n, c₁, d, h.trans hreach, hn, hitem⟩

/-- What the readers with a bound give was read with bounds that are enough. -/
structure Rereads (n : Nat) : Prop where
  items : ∀ {read c all d}, items n read c = some (all, d) → 4 * c.rest.length < n →
    ∃ new, all = read ++ new ∧ ∀ x, Inside x new → ReadBehind c x
  item : ∀ {c it d}, item n c = some (it, d) → 4 * c.rest.length ≤ n →
    ∀ x, Inside x [it] → ReadBehind c x
  blockBody : ∀ {c body d}, blockBody n c = some (body, d) → 4 * c.rest.length ≤ n →
    ∀ x, Inside x body → ReadBehind c x

namespace Rereads

variable {n : Nat} (ih : Rereads n)

include ih

theorem items_succ {read all : List Item} {c d : Cursor}
    (h : Hcl.items (n + 1) read c = some (all, d)) (hn : 4 * c.rest.length < n + 1) :
    ∃ new, all = read ++ new ∧ ∀ x, Inside x new → ReadBehind c x := by
  cases items_succ_iff.1 h with
  | stop => exact ⟨[], (List.append_nil _).symm, fun x hx => absurd hx not_inside_nil⟩
  | @more c₁ c₂ c₃ _ it _ hskip hitem _ hend hmore =>
    have hskip := reaches_skip hskip
    have hle := hskip.length_le
    have hcloses := ((places n).item hitem).closes
    have hreach := (endOfLine_spec hend).1
    have hlt := hcloses.length_lt
    have hle₃ := hreach.length_le
    obtain ⟨new, rfl, hnew⟩ := ih.items hmore (by omega)
    refine ⟨it :: new, by rw [List.append_assoc]; rfl, fun x hx => ?_⟩
    rcases inside_cons_iff.1 hx with hx | hx
    · exact (ih.item hitem (by omega) x hx).of_reaches hskip
    · exact (hnew x hx).of_reaches ((hskip.trans hcloses.reaches).trans hreach)

theorem item_succ {c d : Cursor} {it : Item} (h : Hcl.item (n + 1) c = some (it, d))
    (hn : 4 * c.rest.length ≤ n + 1) (x : Item) (hx : Inside x [it]) : ReadBehind c x := by
  have hread : ReadBehind c it := ⟨n + 1, c, d, .refl c, hn, h⟩
  cases item_succ_iff.1 h with
  | attr =>
    rw [inside_attr_iff.1 hx]
    exact hread
  | block hname h₂ _ hlabels hbody =>
    rcases inside_block_iff.1 hx with rfl | hx
    · exact hread
    · have hheader := (reaches_skip h₂).trans (reaches_labels hlabels)
      have hlt := (closes_name hname).length_lt
      have hle := hheader.length_le
      exact (ih.blockBody hbody (by omega) x hx).of_reaches
        ((closes_name hname).reaches.trans hheader)

theorem blockBody_succ {c d : Cursor} {body : List Item}
    (h : Hcl.blockBody (n + 1) c = some (body, d)) (hn : 4 * c.rest.length ≤ n + 1) (x : Item)
    (hx : Inside x body) : ReadBehind c x := by
  have hbehind : ∀ {c₁ c₂ : Cursor}, c.expect ['{'] = some c₁ → c₁.skipInline = some c₂ →
      Reaches c c₂ ∧ c₂.rest.length < c.rest.length := by
    intro c₁ c₂ hopen h₂
    have hlt := (closes_bracket hopen (by decide)).length_lt
    have hle := (reaches_skip h₂).length_le
    exact ⟨(reaches_expect hopen).trans (reaches_skip h₂), by omega⟩
  cases blockBody_succ_iff.1 h with
  | empty => exact absurd hx not_inside_nil
  | lines hopen h₂ hbreak hitems =>
    obtain ⟨hopen, hlt⟩ := hbehind hopen h₂
    have hle₃ := (reaches_lineBreak hbreak).length_le
    obtain ⟨new, rfl, hnew⟩ := ih.items hitems (by omega)
    exact (hnew x hx).of_reaches (hopen.trans (reaches_lineBreak hbreak))
  | @inline c₁ c₂ c₃ _ _ a hopen h₂ hitem =>
    obtain ⟨hopen, hlt⟩ := hbehind hopen h₂
    have hread : ReadBehind c₂ (.attr a) :=
      ⟨n + 1, c₂, c₃, .refl _, by omega, item_succ_iff.2 hitem⟩
    rw [inside_attr_iff.1 hx]
    exact hread.of_reaches hopen

end Rereads

theorem rereads (n : Nat) : Rereads n := by
  induction n with
  | zero =>
    constructor
    all_goals simp [items, item, blockBody]
  | succ n ih => exact ⟨ih.items_succ, ih.item_succ, ih.blockBody_succ⟩

/-- Every structure of a text was read where it stands. -/
theorem readBehind_of_parseBody {text : List Char} {body : Body} (h : parseBody text = some body)
    {it : Item} (hit : Inside it body) : ReadBehind (.ofText text) it := by
  unfold parseBody at h
  obtain ⟨⟨all, d⟩, hitems, h⟩ := Option.bind_eq_some_iff.1 h
  dsimp only at h
  split at h
  · obtain rfl := Option.some.inj h
    obtain ⟨new, rfl, hnew⟩ := (rereads _).items hitems (by
      rw [depthBound, Cursor.ofText]
      dsimp only
      omega)
    exact hnew it hit
  · cases h

/-! ## Everything starts at a token of its own -/

mutual

/-- The offsets at which some structures start, the structures inside them and the terms of their
values. -/
def itemStarts : List Item → List Nat
  | [] => []
  | .attr a :: items => (a.span.start :: a.value.termStarts) ++ itemStarts items
  | .block b :: items => b.starts ++ itemStarts items

/-- The offsets at which a block starts, and everything inside it. -/
def Block.starts : Block → List Nat
  | ⟨_, _, body, span⟩ => span.start :: itemStarts body

end

/-- The offsets at which a structure starts, and everything inside it. -/
def Item.starts : Item → List Nat
  | .attr a => a.span.start :: a.value.termStarts
  | .block b => b.starts

theorem itemStarts_eq_flatMap (items : List Item) : itemStarts items = items.flatMap Item.starts := by
  induction items with
  | nil => rw [itemStarts, List.flatMap_nil]
  | cons item items ih =>
    cases item with
    | attr a => rw [itemStarts, ih, List.flatMap_cons, Item.starts]
    | block b => rw [itemStarts, ih, List.flatMap_cons, Item.starts]

theorem Block.starts_eq (b : Block) : b.starts = b.span.start :: b.body.flatMap Item.starts := by
  obtain ⟨kind, labels, body, span⟩ := b
  rw [Block.starts, itemStarts_eq_flatMap]

mutual

theorem Stands.tokens {c d : Cursor} {item : Item} : Stands c d item → Tokens c d item.starts
  | .attr hstart hblank hclose ha => by
    obtain ⟨c', hkey, hvalue⟩ := ha.value
    have htokens := (Tokens.singleton hstart hblank hkey.reaches hkey.byte_lt).append hvalue.tokens
    rw [List.flatMap_singleton] at htokens
    rw [Item.starts, ha.span]
    exact htokens
  | .block hstart hname hclose hspan hopen hbody hend => by
    have hblank := not_isBlank_of_isNameRest (isNameRest_of_isNameStart hname)
    have htokens := (Tokens.singleton hstart hblank hopen.reaches hopen.byte_lt).append
      (hbody.tokens.before hend)
    rw [Item.starts, Block.starts_eq, hspan]
    exact htokens

theorem Stack.tokens {c d : Cursor} {items : List Item} :
    Stack c d items → Tokens c d (items.flatMap Item.starts)
  | .nil h => .nil h
  | .single h hitem hend => by
    rw [List.flatMap_singleton]
    exact (hitem.tokens.after h).before hend
  | .cons h hitem hbreak hrest => by
    rw [List.flatMap_cons]
    exact ((hitem.tokens.after h).before hbreak.reaches).append hrest.tokens

end

end TerraLint.Hcl
