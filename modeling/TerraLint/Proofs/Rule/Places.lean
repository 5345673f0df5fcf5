import Mathlib.Data.List.Flatten
import Mathlib.Data.List.Nodup
import TerraLint.Proofs.Source.Header
import TerraLint.Rule.Basic

/-!
# Where issues stand

Issues in a file differ when they start at different tokens. Findings are spread over some offsets
when they are issues, all different, that start at these offsets, so that findings spread over
different offsets can be put together. What else is known about their ranges goes with them.

* `SourceFile.Marks`: a range that shows some part of a file.
* `Spread`: findings that are different issues.
* `Spread.flatMap`: findings that are spread over different offsets, put together.
* `Spread.blocks`: what is found in the blocks of a body, each by itself.
-/

namespace TerraLint

open Text Hcl

/-- Whether a finding is an issue that stands somewhere. -/
def Finding.isPlaced : Finding → Bool
  | issue _ range => range != .null
  | failure _ => false

/-- A range in a file shows some part of its text. -/
def SourceFile.Marks (file : SourceFile) (range : SourceRange) : Prop := ∃ mid, file.Shows range mid

theorem SourceFile.Marks.file_eq {file : SourceFile} {range : SourceRange} (h : file.Marks range) :
    range.file = file.name := by
  obtain ⟨mid, -, before, after, -, rfl⟩ := h
  rfl

/-- Findings are issues, all different, at ranges of some kind, and each starts at one of some
offsets. -/
structure Spread (P : SourceRange → Prop) (starts : List Nat) (fs : List Finding) : Prop where
  nodup : fs.Nodup
  within : ∀ f ∈ fs, ∃ m r, f = .issue m r ∧ P r ∧ 0 < r.start.line ∧ r.start.byte ∈ starts

namespace Spread

variable {P Q : SourceRange → Prop} {starts starts' : List Nat} {fs gs : List Finding}

theorem nil : Spread P starts [] := ⟨.nil, fun _ hf => absurd hf List.not_mem_nil⟩

theorem mono (h : Spread P starts fs) (hsub : starts ⊆ starts') : Spread P starts' fs := by
  refine ⟨h.nodup, fun f hf => ?_⟩
  obtain ⟨m, r, heq, hplace, hline, hbyte⟩ := h.within f hf
  exact ⟨m, r, heq, hplace, hline, hsub hbyte⟩

theorem imp (h : Spread P starts fs) (hPQ : ∀ r, P r → Q r) : Spread Q starts fs := by
  refine ⟨h.nodup, fun f hf => ?_⟩
  obtain ⟨m, r, heq, hplace, hline, hbyte⟩ := h.within f hf
  exact ⟨m, r, heq, hPQ r hplace, hline, hbyte⟩

theorem grow {n : Nat} (h : Spread P [n] fs) (hn : n ∈ starts) : Spread P starts fs := by
  refine h.mono fun k hk => ?_
  obtain rfl := List.mem_singleton.1 hk
  exact hn

theorem sublist (h : Spread P starts fs) (hsub : gs.Sublist fs) : Spread P starts gs :=
  ⟨h.nodup.sublist hsub, fun f hf => h.within f (hsub.subset hf)⟩

theorem perm (h : Spread P starts fs) (hperm : fs.Perm gs) : Spread P starts gs :=
  ⟨hperm.nodup_iff.1 h.nodup, fun f hf => h.within f (hperm.mem_iff.2 hf)⟩

/-- Findings that are spread over different offsets differ. -/
theorem flatMap {α : Type} {f : α → List Finding} (offsets : α → List Nat) {xs : List α}
    (h : ∀ x ∈ xs, Spread P (offsets x) (f x)) (hnodup : (xs.flatMap offsets).Nodup) :
    Spread P (xs.flatMap offsets) (xs.flatMap f) := by
  obtain ⟨-, hdisjoint⟩ := List.nodup_flatMap.1 hnodup
  constructor
  · rw [List.nodup_flatMap]
    refine ⟨fun x hx => (h x hx).nodup, hdisjoint.imp_of_mem fun {x y} hx hy hxy => ?_⟩
    refine List.disjoint_left.2 fun g hgx hgy => ?_
    obtain ⟨m, r, rfl, -, -, hbyte⟩ := (h x hx).within g hgx
    obtain ⟨m', r', heq, -, -, hbyte'⟩ := (h y hy).within _ hgy
    obtain ⟨-, rfl⟩ := Finding.issue.inj heq
    exact List.disjoint_left.1 hxy hbyte hbyte'
  · intro g hg
    obtain ⟨x, hx, hg⟩ := List.mem_flatMap.1 hg
    obtain ⟨m, r, heq, hplace, hline, hbyte⟩ := (h x hx).within g hg
    exact ⟨m, r, heq, hplace, hline, List.mem_flatMap.2 ⟨x, hx, hbyte⟩⟩

theorem isPlaced (h : Spread P starts fs) {f : Finding} (hf : f ∈ fs) : f.isPlaced = true := by
  obtain ⟨m, r, rfl, -, hline, -⟩ := h.within f hf
  refine bne_iff_ne.2 fun hnull => ?_
  rw [hnull] at hline
  exact absurd hline (by decide)

end Spread

/-! ## Ranges of what was read -/

section Reads

variable {name : String} {text : List Char} {d : Cursor} {body : Body} {P : SourceRange → Prop}

namespace Spread

theorem reads {e f : Cursor} {mid : List Char} (he : Reaches (.ofText text) e) (h : Reads e f mid)
    (hP : P ((SourceFile.parse name text).range e.byte f.byte)) (m : String) :
    Spread P [e.byte] [.issue m ((SourceFile.parse name text).range e.byte f.byte)] := by
  refine ⟨List.nodup_singleton _, fun f hf => ?_⟩
  obtain rfl := List.mem_singleton.1 hf
  refine ⟨m, _, rfl, hP, SourceFile.line_range_pos name text _ _, ?_⟩
  rw [SourceFile.start_byte_of_reads he h]
  exact List.mem_singleton.2 rfl

theorem marks {e f : Cursor} {mid : List Char} (he : Reaches (.ofText text) e) (h : Reads e f mid)
    (m : String) : Spread (SourceFile.parse name text).Marks [e.byte]
      [.issue m ((SourceFile.parse name text).range e.byte f.byte)] :=
  reads he h ⟨_, SourceFile.shows_reads he h⟩ m

end Spread

theorem Hcl.Item.start_mem_starts (item : Item) : item.span.start ∈ item.starts := by
  cases item with
  | attr a => exact List.mem_cons_self
  | block b =>
    rw [Item.starts, Block.starts_eq]
    exact List.mem_cons_self

namespace Spread

variable (h : Stack (.ofText text) d body) {a : Attribute} {b : Block}

include h

/-- The header of a block starts with its kind. -/
theorem defRange (hb : Inside (.block b) body) (m : String) :
    Spread (SourceFile.parse name text).Marks [b.span.start]
      [.issue m ((SourceFile.parse name text).defRange b)] := by
  obtain ⟨c', d', hreach, hstands⟩ := h.exists_of_inside hb
  obtain ⟨mid, hmid⟩ := hstands.reads
  have hspan : b.span = ⟨c'.byte, d'.byte⟩ := hstands.span
  cases hstands with
  | block hstart hname _ _ _ _ _ =>
    obtain ⟨ch, others, rfl, -⟩ := hmid.token
    have hbrace : ch ≠ '{' := by
      rw [(List.cons.inj (hstart.symm.trans hmid.rest)).1] at hname
      rintro rfl
      exact absurd hname (by decide)
    obtain ⟨header, more, htext, hlength⟩ :=
      SourceFile.headerLength_spec (false, false) (ch :: others)
    have hne := SourceFile.ne_nil_of_headerLength hbrace hlength
    rw [htext] at hmid hlength
    have hmarks := @marks name _ _ _ _ hreach (SourceFile.reads_part hmid hne) m
    rw [SourceFile.defRange_reads hreach hmid hspan, hlength, hspan]
    exact hmarks

theorem keyRange (ha : Inside (.attr a) body) (m : String) :
    Spread (SourceFile.parse name text).Marks [a.span.start]
      [.issue m ((SourceFile.parse name text).keyRange a)] := by
  obtain ⟨c', d', hreach, hstands⟩ := h.exists_of_inside ha
  obtain ⟨ch, rest, hrest, hblank⟩ := hstands.start
  cases hstands with
  | attr _ _ _ ha =>
    obtain ⟨e, hkey, hspan⟩ := ha.key
    obtain ⟨mid, hmid⟩ := Reads.of_reaches hrest hblank hkey.reaches hkey.byte_lt
    rw [SourceFile.keyRange, hspan, ha.span]
    exact marks hreach hmid m

theorem rangeOf (ha : Inside (.attr a) body) (m : String) :
    Spread (SourceFile.parse name text).Marks [a.span.start]
      [.issue m ((SourceFile.parse name text).rangeOf a.span)] := by
  obtain ⟨c', d', hreach, hstands⟩ := h.exists_of_inside ha
  obtain ⟨mid, hmid⟩ := hstands.reads
  have hspan : a.span = ⟨c'.byte, d'.byte⟩ := hstands.span
  rw [hspan]
  exact marks hreach hmid m

end Spread

end Reads

/-! ## Blocks -/

theorem Hcl.starts_blocks_sublist (items : List Item) :
    ((Body.blocks items).flatMap Block.starts).Sublist (items.flatMap Item.starts) := by
  induction items with
  | nil => exact .slnil
  | cons item items ih =>
    cases item with
    | attr a => exact ih.trans (List.sublist_append_right _ _)
    | block b => exact ih.append_left b.starts

theorem Hcl.Block.start_mem_starts (b : Block) : b.span.start ∈ b.starts :=
  Item.start_mem_starts (.block b)

theorem Hcl.Block.starts_blocks_subset (b : Block) :
    b.blocks.flatMap Block.starts ⊆ b.starts := by
  intro n hn
  rw [Block.starts_eq]
  exact List.mem_cons_of_mem _ ((starts_blocks_sublist b.body).subset hn)

theorem Hcl.Block.start_attribute_mem {a : Attribute} {b : Block} (ha : a ∈ b.attributes) :
    a.span.start ∈ b.starts := by
  rw [Block.starts_eq]
  refine List.mem_cons_of_mem _ (List.mem_flatMap.2 ⟨.attr a, mem_of_mem_attributes ha, ?_⟩)
  exact Item.start_mem_starts (.attr a)

/-- What is found in the blocks of a body, each by itself. -/
theorem Spread.blocks {P : SourceRange → Prop} {c d : Cursor} {items : List Item} (h : Stack c d items)
    {bs : List Block} (hbs : bs.Sublist (Body.blocks items)) {f : Block → List Finding}
    (hf : ∀ b ∈ bs, Spread P b.starts (f b)) :
    Spread P (bs.flatMap Block.starts) (bs.flatMap f) := by
  refine Spread.flatMap Block.starts hf (h.tokens.nodup.sublist ?_)
  exact (hbs.flatMap _).trans (starts_blocks_sublist items)

end TerraLint
