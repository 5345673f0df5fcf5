import Mathlib.Order.Bounds.Basic
import TerraLint.Text.Offset

/-!
# Boundaries of characters

Every offset has a greatest boundary at or below it, and a text is cut at its boundaries: what stands
before the smaller of two is the start of what stands before the greater.

* `isGreatest_floorBoundary`: what an offset that is no boundary, or none of the text, is taken for.
* `exists_part`: the part of a text between two boundaries.
-/

namespace TerraLint.Text

/-- A character of the text starts at an offset, or the text ends there. -/
def IsBoundary (text : List Char) (n : Nat) : Prop :=
  ∃ before after, text = before ++ after ∧ byteLength before = n

theorem isBoundary_iff {text : List Char} {n : Nat} :
    IsBoundary text n ↔ (dropBytes? n text).isSome = true := by
  rw [Option.isSome_iff_exists]
  simp only [dropBytes?_eq_some_iff]
  exact exists_comm

instance (text : List Char) (n : Nat) : Decidable (IsBoundary text n) :=
  decidable_of_iff _ isBoundary_iff.symm

theorem IsBoundary.le_byteLength {text : List Char} {n : Nat} (h : IsBoundary text n) :
    n ≤ byteLength text := by
  obtain ⟨before, after, rfl, rfl⟩ := h
  rw [byteLength_append]
  omega

theorem eq_nil_of_byteLength {text : List Char} (h : byteLength text = 0) : text = [] := by
  cases text with
  | nil => rfl
  | cons c cs =>
    have hc := c.utf8Size_pos
    rw [byteLength_cons] at h
    omega

/-- Of two texts that another one starts with, the one with fewer bytes starts the other one. -/
theorem prefix_of_byteLength_le {text a b : List Char} (ha : a <+: text) (hb : b <+: text)
    (h : byteLength a ≤ byteLength b) : a <+: b := by
  rcases List.prefix_or_prefix_of_prefix ha hb with hab | ⟨rest, rfl⟩
  · exact hab
  · rw [byteLength_append] at h
    obtain rfl : rest = [] := eq_nil_of_byteLength (by omega)
    simp only [List.append_nil, List.prefix_refl]

/-- Two boundaries have a part of the text between them. -/
theorem exists_part {text : List Char} {m n : Nat} (hm : IsBoundary text m)
    (hn : IsBoundary text n) (h : m ≤ n) :
    ∃ before mid after, text = before ++ mid ++ after ∧ byteLength before = m ∧
      byteLength (before ++ mid) = n := by
  obtain ⟨before, rest, htext, rfl⟩ := hm
  obtain ⟨whole, after, rfl, rfl⟩ := hn
  obtain ⟨mid, rfl⟩ := prefix_of_byteLength_le ⟨rest, htext.symm⟩ ⟨after, rfl⟩ h
  exact ⟨before, mid, after, rfl, rfl, rfl⟩

theorem sliceBytes_eq_none {text : List Char} {m n : Nat}
    (h : ¬(IsBoundary text m ∧ IsBoundary text n)) : sliceBytes m n text = none := by
  rw [Option.eq_none_iff_forall_ne_some]
  intro mid hmid
  obtain ⟨before, after, rfl, rfl, rfl⟩ := sliceBytes_eq_some_iff.1 hmid
  apply h
  constructor
  · exact ⟨before, mid ++ after, List.append_assoc .., rfl⟩
  · exact ⟨before ++ mid, after, rfl, byteLength_append ..⟩

/-! ## The greatest boundary at or below an offset -/

theorem floorBoundary_append (before after : List Char) :
    floorBoundary (byteLength before) (before ++ after) = byteLength before := by
  induction before with
  | nil =>
    cases after with
    | nil => rfl
    | cons c cs =>
      have hc := c.utf8Size_pos
      rw [List.nil_append, byteLength_nil, floorBoundary, if_neg (by omega)]
  | cons c before ih =>
    rw [List.cons_append, byteLength_cons, floorBoundary, if_pos (by omega),
      Nat.add_sub_cancel_left, ih]

theorem floorBoundary_of_isBoundary {text : List Char} {n : Nat} (h : IsBoundary text n) :
    floorBoundary n text = n := by
  obtain ⟨before, after, rfl, rfl⟩ := h
  exact floorBoundary_append before after

theorem isBoundary_floorBoundary (n : Nat) (text : List Char) :
    IsBoundary text (floorBoundary n text) := by
  induction text generalizing n with
  | nil => exact ⟨[], [], rfl, rfl⟩
  | cons c cs ih =>
    rw [floorBoundary]
    split
    · obtain ⟨before, after, hcs, hbefore⟩ := ih (n - c.utf8Size)
      exact ⟨c :: before, after, congrArg (c :: ·) hcs, congrArg (c.utf8Size + ·) hbefore⟩
    · exact ⟨[], c :: cs, rfl, rfl⟩

theorem floorBoundary_le (n : Nat) (text : List Char) : floorBoundary n text ≤ n := by
  induction text generalizing n with
  | nil => exact Nat.zero_le n
  | cons c cs ih =>
    have hrest := ih (n - c.utf8Size)
    rw [floorBoundary]
    split <;> omega

theorem le_floorBoundary {text : List Char} {m n : Nat} (hm : IsBoundary text m) (h : m ≤ n) :
    m ≤ floorBoundary n text := by
  obtain ⟨before, after, rfl, rfl⟩ := hm
  induction before generalizing n with
  | nil => exact Nat.zero_le _
  | cons c before ih =>
    rw [byteLength_cons] at h ⊢
    rw [List.cons_append, floorBoundary, if_pos (by omega)]
    have hrest := ih (n := n - c.utf8Size) (by omega)
    omega

theorem isGreatest_floorBoundary (n : Nat) (text : List Char) :
    IsGreatest {m | IsBoundary text m ∧ m ≤ min n (byteLength text)} (floorBoundary n text) := by
  have hfloor := isBoundary_floorBoundary n text
  constructor
  · have hle := floorBoundary_le n text
    have hlength := hfloor.le_byteLength
    exact ⟨hfloor, by omega⟩
  · rintro m ⟨hm, hle⟩
    exact le_floorBoundary hm (by omega)

end TerraLint.Text
