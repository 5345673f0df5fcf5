import TerraLint.Proofs.Layout.CanonLines

/-!
# What becomes of a line on its way into a canonical text

A line that is laid out any number of times keeps its core. The blanks at its start stay spaces and
tabs if they were, and so do all its blanks.

* `eased_laid`: the lines of a canonical text are eased lines of its parts.
-/

namespace TerraLint.Layout

open Text Format

/-- Blanks that stand within a line of any file: spaces and tabs. -/
def isSpacing (c : Char) : Bool := c == ' ' || c == '\t'

/-- The line starts with no other blanks than spaces and tabs. -/
def Flush (l : List Char) : Prop := ∀ c ∈ l.takeWhile isBlank, isSpacing c = true

/-- The line has no other blanks than spaces and tabs. -/
def Plain (l : List Char) : Prop := ∀ c ∈ l, isBlank c = true → isSpacing c = true

/-- A line that was laid out, and the line before. -/
structure Eased (l out : List Char) : Prop where
  core : core out = core l
  flush : Flush l → Flush out
  plain : Plain l → Plain out

namespace Eased

theorem refl (l : List Char) : Eased l l := ⟨rfl, id, id⟩

theorem trans {a b c : List Char} (hab : Eased a b) (hbc : Eased b c) : Eased a c :=
  ⟨hbc.core.trans hab.core, hbc.flush ∘ hab.flush, hbc.plain ∘ hab.plain⟩

end Eased

theorem flush_trimEnd {l : List Char} (h : Flush l) : Flush (trimEnd l) := by
  obtain ⟨b, -, hl⟩ := exists_trimEnd l
  intro c hc
  refine h c ?_
  rw [hl, List.takeWhile_append]
  split
  · exact List.mem_append_left _ ((List.takeWhile_prefix _).subset hc)
  · exact hc

theorem takeWhile_isBlank_of_trimStart {l : List Char} (h : trimStart l = l) :
    l.takeWhile isBlank = [] := by
  cases l with
  | nil => rfl
  | cons c l =>
    have hc := isBlank_head_trimStart h
    rw [List.takeWhile_cons, hc, if_neg (by decide)]

theorem flush_spaces_append {l : List Char} (h : trimStart l = l) (n : Nat) :
    Flush (List.replicate n ' ' ++ l) := by
  intro c hc
  have htake : (List.replicate n ' ' ++ l).takeWhile isBlank = List.replicate n ' ' := by
    rw [List.takeWhile_append_of_pos (allBlank_iff.1 (allBlank_spaces n)),
      takeWhile_isBlank_of_trimStart h, List.append_nil]
  rw [htake] at hc
  rw [List.eq_of_mem_replicate hc]
  rfl

theorem eased_of_relaid {line : Line} {out : List Char} (h : Relaid line out)
    (hb : line.kind = .blank → allBlank line.raw = true) : Eased line.raw out where
  core := h.core_eq hb
  flush hf := by
    obtain ⟨level, width, rfl⟩ := h
    cases hk : line.kind with
    | blank =>
      rw [Row.render_blank hk]
      intro c hc
      cases hc
    | verbatim =>
      rw [Row.render_verbatim hk]
      exact flush_trimEnd hf
    | code =>
      rw [Row.render_code hk]
      exact flush_spaces_append (by rw [← trim_codeText, trimStart_trim]) _
  plain hp c hc hcb := by
    rcases h.mem hc with hmem | rfl
    · exact hp c hmem hcb
    · rfl

theorem eased_layLines (ls : List (List Char)) : List.Forall₂ Eased ls (layLines ls) := by
  have hrel := (List.forall₂_and_left _ _).2
    ⟨fun line hline => (Progress.run_kind hline).1, relaid_layLines ls⟩
  conv => arg 2; rw [← Progress.run_raw .start ls]
  rw [List.forall₂_map_left_iff]
  exact hrel.imp fun line out h => eased_of_relaid h.2 h.1

/-! ## All lines of a canonical text -/

section

variable {r : List Char → List Char → Prop}

theorem forall₂_joinLines (hr : r [] []) {sections sections' : List (List (List Char))}
    (h : List.Forall₂ (List.Forall₂ r) sections sections') :
    List.Forall₂ r (joinLines sections) (joinLines sections') := by
  induction h with
  | nil => exact .nil
  | @cons s s' ss ss' hs hss ih =>
    cases hss with
    | nil => simpa [joinLines] using hs
    | cons h₁ h₂ =>
      rw [joinLines_cons (List.cons_ne_nil _ _) s, joinLines_cons (List.cons_ne_nil _ _) s']
      exact List.rel_append hs (.cons hr ih)

theorem forall₂_blockLines (hr : ∀ l, r l l) {sections sections' : List (List (List Char))}
    (h : List.Forall₂ (List.Forall₂ r) sections sections') (kind : String) (labels : List String) :
    List.Forall₂ r (blockLines kind labels sections) (blockLines kind labels sections') := by
  cases h with
  | nil => exact .cons (hr _) .nil
  | cons hs hss =>
    exact .cons (hr _) (List.rel_append (forall₂_joinLines (hr []) (.cons hs hss))
      (.cons (hr _) .nil))

theorem forall₂_filter {sections sections' : List (List (List Char))}
    (h : List.Forall₂ (List.Forall₂ r) sections sections') :
    List.Forall₂ (List.Forall₂ r) (sections.filter fun ls => !ls.isEmpty)
      (sections'.filter fun ls => !ls.isEmpty) := by
  induction h with
  | nil => exact .nil
  | cons hs _ ih =>
    cases hs with
    | nil => exact ih
    | cons h₁ h₂ => exact .cons (.cons h₁ h₂) ih

end

theorem forall₂_eased_trans {a b c : List (List Char)} (hab : List.Forall₂ Eased a b)
    (hbc : List.Forall₂ Eased b c) : List.Forall₂ Eased a c := by
  induction hab generalizing c with
  | nil => exact hbc
  | cons h _ ih =>
    cases hbc with
    | cons h' hbc => exact .cons (h.trans h') (ih hbc)

/-- The lines of a canonical text are the lines that it is made of, laid out. -/
theorem eased_laid (c : Canon) : List.Forall₂ Eased c.flat c.laid := by
  induction c using Canon.induct with
  | attr key text => exact List.forall₂_same.2 fun l _ => Eased.refl l
  | block kind labels slots ih =>
    have hall : ∀ slot, List.Forall₂ Eased (Canon.allLinesWith id (slots slot))
        (Canon.allLinesWith Format.layLines (slots slot)) := by
      intro slot
      have h := ih slot
      generalize slots slot = cs at h
      induction cs with
      | nil => exact .nil
      | cons c cs ihcs =>
        exact List.rel_append (h c List.mem_cons_self)
          (ihcs fun c' hc' => h c' (List.mem_cons_of_mem _ hc'))
    have hsections : List.Forall₂ (List.Forall₂ Eased)
        ((Slot.all true).map fun slot => id (Canon.allLinesWith id (slots slot)))
        ((Slot.all true).map fun slot => layLines (Canon.allLinesWith layLines (slots slot))) := by
      rw [List.forall₂_map_left_iff, List.forall₂_map_right_iff, List.forall₂_same]
      exact fun slot _ => forall₂_eased_trans (hall slot) (eased_layLines _)
    exact forall₂_eased_trans
      (forall₂_blockLines Eased.refl (forall₂_filter hsections) kind labels) (eased_layLines _)

end TerraLint.Layout
