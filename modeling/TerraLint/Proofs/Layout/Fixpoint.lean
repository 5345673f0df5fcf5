import TerraLint.Proofs.Layout.Reprint

/-!
# A canonical text is its own canonical text

Two canonical forms are laid out side by side, a block and what is read off its canonical text. Lines
at the same place have the same core all the way, so that code lines become equal at the first
layout. A line that is never laid out as code is still what it was, and in the second form that is
the line of the canonical text.

* `Toward`: what is known of a line in the two forms and in the canonical text.
* `Reprinted.laid_eq`: both forms have the same canonical text.
-/

namespace TerraLint.Layout

open Text Format

/-- A line of a canonical form, the line of the form read off the canonical text, and the line of
that text. -/
structure Toward (l l' f : List Char) : Prop where
  core : core l' = core l
  trimEnd : trimEnd f = f
  place : l' = l ∨ l' = f ∨ l' = trimStart f ∧ trimStart l = l

namespace Toward

theorem same {l f : List Char} (h : Text.trimEnd f = f) : Toward l l f := ⟨rfl, h, .inl rfl⟩

theorem eq {l l' : List Char} (h : Toward l l' l) : l' = l := by
  rcases h.place with h | h | ⟨h, hl⟩
  · exact h
  · exact h
  · rw [h, hl]

end Toward

theorem toward_layLines {ls ls' fs : List (List Char)} (h : Forall₃ Toward ls ls' fs) :
    Forall₃ Toward (layLines ls) (layLines ls') fs := by
  obtain ⟨hlen, hlen'⟩ := h.length_eq
  have hcores : List.Forall₂ (fun l l' => core l' = core l) ls ls' :=
    h.left.imp fun _ _ ⟨_, ht⟩ => ht.core
  refine .of_getElem? (by simp [hlen]) (by simp [hlen']) fun i out out' f hout hout' hf => ?_
  have hi : i < ls.length := by
    have hi := (List.getElem?_eq_some_iff.1 hout).1
    rwa [length_layLines] at hi
  obtain ⟨l, hl⟩ : ∃ l, ls[i]? = some l := ⟨_, List.getElem?_eq_getElem hi⟩
  obtain ⟨l', hl'⟩ : ∃ l', ls'[i]? = some l' := ⟨_, List.getElem?_eq_getElem (hlen ▸ hi)⟩
  have ht := h.getElem? hl hl' hf
  refine ⟨?_, ht.trimEnd, ?_⟩
  · rw [getElem?_of_forall₂ (core_of_layLines ls) hl hout,
      getElem?_of_forall₂ (core_of_layLines ls') hl' hout', ht.core]
  rcases layLines_congr hcores hl hl' hout hout' with heq | ⟨rfl, rfl⟩
  · exact .inl heq
  -- A verbatim line in both forms: it keeps what it was, but for blanks at its end.
  rcases ht.place with rfl | rfl | ⟨rfl, hstart⟩
  · exact .inl rfl
  · exact .inr (.inl ht.trimEnd)
  · refine .inr (.inr ⟨?_, ?_⟩)
    · rw [← trimStart_trimEnd_comm, ht.trimEnd]
    · rw [trimStart_trimEnd_comm, hstart]

theorem toward_joinLines {ss ss' fss : List (List (List Char))}
    (h : Forall₃ (Forall₃ Toward) ss ss' fss) :
    Forall₃ Toward (joinLines ss) (joinLines ss') (joinLines fss) := by
  induction h with
  | nil => exact .nil
  | cons hs hrest ih =>
    cases hrest with
    | nil => simpa [joinLines] using hs
    | cons h₁ h₂ =>
      rw [joinLines_cons (List.cons_ne_nil _ _), joinLines_cons (List.cons_ne_nil _ _),
        joinLines_cons (List.cons_ne_nil _ _)]
      exact hs.append (.cons (.same rfl) ih)

theorem toward_blockLines {ss ss' fss : List (List (List Char))}
    (h : Forall₃ (Forall₃ Toward) ss ss' fss) (before after : List Char) (kind : String)
    (labels : List String) :
    Forall₃ Toward (blockLines kind labels ss) (blockLines kind labels ss')
      (indentedLines before after kind labels fss) := by
  have hend : ∀ {cs : List Char} (a : List Char), Solid cs → trimEnd (a ++ cs) = a ++ cs :=
    fun a hcs => (hcs.append a).trimEnd
  cases h with
  | nil =>
    refine .cons (.same ?_) .nil
    rw [← List.append_assoc]
    exact hend _ ⟨by simp, by decide⟩
  | cons hs hrest =>
    refine .cons (.same ?_) ((toward_joinLines (.cons hs hrest)).append (.cons (.same ?_) .nil))
    · rw [← List.append_assoc]
      exact hend _ ⟨by simp, by decide⟩
    · exact hend _ ⟨by simp, by decide⟩

theorem forall₃_filter {slots : List Slot} {ls ls' fs : Slot → List (List Char)}
    (h : ∀ slot ∈ slots, Forall₃ Toward (ls slot) (ls' slot) (fs slot)) :
    Forall₃ (Forall₃ Toward) ((slots.map ls).filter fun l => !l.isEmpty)
      ((slots.map ls').filter fun l => !l.isEmpty) ((slots.map fs).filter fun l => !l.isEmpty) := by
  induction slots with
  | nil => exact .nil
  | cons slot slots ih =>
    have hslot := h slot List.mem_cons_self
    have ih := ih fun s hs => h s (List.mem_cons_of_mem _ hs)
    obtain ⟨hlen, hlen'⟩ := hslot.length_eq
    simp only [List.map_cons, List.filter_cons]
    by_cases hnil : ls slot = []
    · have hnil' : ls' slot = [] := List.length_eq_zero_iff.1 (by rw [hlen, hnil]; rfl)
      have hnil'' : fs slot = [] := List.length_eq_zero_iff.1 (by rw [hlen', hnil]; rfl)
      simpa [hnil, hnil', hnil''] using ih
    · have hne' : ls' slot ≠ [] := by
        intro hnil'
        rw [hnil', List.length_nil] at hlen
        exact hnil (List.length_eq_zero_iff.1 hlen.symm)
      have hne'' : fs slot ≠ [] := by
        intro hnil'
        rw [hnil', List.length_nil] at hlen'
        exact hnil (List.length_eq_zero_iff.1 hlen'.symm)
      rw [if_pos (by simpa using hnil), if_pos (by simpa using hne'), if_pos (by simpa using hne'')]
      exact .cons hslot ih

theorem toward_attr {text f : List Char} {fs : List (List Char)} (hu : Upright text)
    (hkept : List.Forall₂ Kept (lines text) (f :: fs)) :
    Forall₃ Toward (lines text) (lines (unlines (trimStart f :: fs))) (f :: fs) := by
  rw [lines_reprinted hu.toSolid hkept]
  have hfirst : ∀ l ∈ (lines text).head?, trimStart l = l := fun l => hu.trimStart_head
  generalize lines text = ls at hkept hfirst
  cases hkept with
  | @cons l _ ls _ hl hrest =>
    refine .cons ⟨?_, hl.2.trimEnd, .inr (.inr ⟨rfl, hfirst l rfl⟩)⟩ ?_
    · rw [← hl.1.core]
      exact core_eq_of_trim (by rw [trim_eq, trim_eq, trimStart_trimStart])
    · clear hfirst
      induction hrest with
      | nil => exact .nil
      | cons hl' _ ih => exact .cons ⟨hl'.1.core, hl'.2.trimEnd, .inr (.inl rfl)⟩ ih

theorem toward_pieces {cs : List Canon} {ps : List Piece} (h : List.Forall₂ Reprinted cs ps)
    (ih : ∀ c ∈ cs, ∀ p, Reprinted c p → Forall₃ Toward c.laid p.2.laid p.1) :
    Forall₃ Toward (Canon.allLinesWith layLines cs)
      (Canon.allLinesWith layLines (ps.map (·.2))) (ps.flatMap (·.1)) := by
  induction h with
  | nil => exact .nil
  | @cons c p cs ps hcp _ ihps =>
    exact (ih c List.mem_cons_self p hcp).append
      (ihps fun d hd => ih d (List.mem_cons_of_mem _ hd))

theorem toward_laid {c : Canon} {p : Piece} (h : Reprinted c p) {Q : String → List String → Prop}
    (hc : c.Holds (fun _ text => Upright text) Q) : Forall₃ Toward c.laid p.2.laid p.1 := by
  induction c using Canon.induct generalizing p with
  | attr key text =>
    cases h with
    | attr hkept =>
      cases hc with
      | attr hu => exact toward_attr hu hkept
  | block kind labels slots ih =>
    cases h with
    | @block _ _ _ pieces before after _ _ hpieces =>
      cases hc with
      | block _ hslots =>
        have hslot : ∀ slot, Forall₃ Toward (layLines (Canon.allLinesWith layLines (slots slot)))
            (layLines (Canon.allLinesWith layLines ((pieces slot).map (·.2))))
            ((pieces slot).flatMap (·.1)) := by
          intro slot
          refine toward_layLines (toward_pieces (hpieces slot) fun c hc p hp => ?_)
          exact ih slot c hc hp (hslots slot c hc)
        exact toward_layLines (toward_blockLines (forall₃_filter fun slot _ => hslot slot)
          before after kind labels)

/-- What is read off a canonical text has that canonical text. -/
theorem Reprinted.laid_eq {c c' : Canon} (h : Reprinted c (c.laid, c'))
    {Q : String → List String → Prop} (hc : c.Holds (fun _ text => Upright text) Q) :
    c'.laid = c.laid := by
  have ht : Forall₃ Toward c.laid c'.laid c.laid := toward_laid h hc
  obtain ⟨hlen, -⟩ := ht.length_eq
  refine List.ext_getElem? fun i => ?_
  cases hi : c.laid[i]? with
  | none =>
    rw [List.getElem?_eq_none_iff] at hi ⊢
    omega
  | some l =>
    obtain ⟨hlt, -⟩ := List.getElem?_eq_some_iff.1 hi
    obtain ⟨l', hl'⟩ : ∃ l', c'.laid[i]? = some l' := ⟨_, List.getElem?_eq_getElem (hlen ▸ hlt)⟩
    rw [hl', (ht.getElem? hi hl' hi).eq]

end TerraLint.Layout
