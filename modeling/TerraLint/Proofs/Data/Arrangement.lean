import Mathlib.Data.Prod.Lex
import Mathlib.Data.String.Basic
import TerraLint.Proofs.Data.Sorted

/-!
# Arrangements by a key

Sorting by the order of a key arranges a list: elements with the same key stay in the order in which
they came. There is just one such list.

* `Arranged`, `Arranged.unique`: the list with its elements in the order of a key.
* `arranged_sortBy`, `inOrder_iff_sorted`: what sorting gives, and when there is nothing to sort.
-/

namespace TerraLint

variable {α κ : Type} [LinearOrder κ]

/-- The elements stand in the order of a key. -/
def SortedBy (key : α → κ) (xs : List α) : Prop := xs.Pairwise fun a b => key a ≤ key b

/-- The elements of a list in the order of a key, those with one key as they came. -/
structure Arranged (key : α → κ) (xs ys : List α) : Prop where
  perm : ys.Perm xs
  sorted : SortedBy key ys
  stable : ∀ k, (ys.filter fun a => key a = k) = xs.filter fun a => key a = k

section

variable {key : α → κ} {xs ys zs : List α}

theorem mem_iff_of_filter_eq
    (h : ∀ k, (ys.filter fun a => key a = k) = zs.filter fun a => key a = k) {a : α} :
    a ∈ ys ↔ a ∈ zs := by
  have hfilter : (a ∈ ys.filter fun b => key b = key a) ↔ a ∈ zs.filter fun b => key b = key a := by
    rw [h]
  simpa using hfilter

theorem SortedBy.le_of_mem {a b : α} (h : SortedBy key (a :: xs)) (hb : b ∈ a :: xs) : key a ≤ key b := by
  rcases List.mem_cons.1 hb with rfl | hb
  · exact le_refl _
  · exact (List.pairwise_cons.1 h).1 b hb

/-- Two lists in the order of a key are equal if they are for each key by itself. -/
theorem eq_of_filter_eq (hys : SortedBy key ys) (hzs : SortedBy key zs)
    (h : ∀ k, (ys.filter fun a => key a = k) = zs.filter fun a => key a = k) : ys = zs := by
  induction ys generalizing zs with
  | nil =>
    refine (List.eq_nil_iff_forall_not_mem.2 fun a ha => ?_).symm
    exact List.not_mem_nil ((mem_iff_of_filter_eq h).2 ha)
  | cons y ys ih =>
    have hy : y ∈ zs := (mem_iff_of_filter_eq h).1 List.mem_cons_self
    obtain ⟨z, zs, rfl⟩ := List.exists_cons_of_ne_nil (List.ne_nil_of_mem hy)
    -- Neither first element has a smaller key than the other one.
    have hkey : key z = key y :=
      le_antisymm (hzs.le_of_mem hy) (hys.le_of_mem ((mem_iff_of_filter_eq h).2 List.mem_cons_self))
    have hfirst := h (key y)
    rw [List.filter_cons_of_pos (by simp), List.filter_cons_of_pos (by simpa using hkey)] at hfirst
    obtain rfl := (List.cons.inj hfirst).1
    have hrest : ∀ k, (ys.filter fun a => key a = k) = zs.filter fun a => key a = k := by
      intro k
      have hk := h k
      rw [List.filter_cons, List.filter_cons] at hk
      split at hk
      · exact (List.cons.inj hk).2
      · exact hk
    rw [ih (List.pairwise_cons.1 hys).2 (List.pairwise_cons.1 hzs).2 hrest]

theorem Arranged.unique (h : Arranged key xs ys) (h' : Arranged key xs zs) : ys = zs :=
  eq_of_filter_eq h.sorted h'.sorted fun k => (h.stable k).trans (h'.stable k).symm

/-- A list that is in order already is its own arrangement. -/
theorem SortedBy.arranged (h : SortedBy key xs) : Arranged key xs xs := ⟨.refl xs, h, fun _ => rfl⟩

end

section

variable {key : α → κ} {le : α → α → Bool} (hle : ∀ a b, le a b = true ↔ key a ≤ key b)

include hle

theorem filter_insertBy (a : α) (xs : List α) (k : κ) :
    ((insertBy le a xs).filter fun x => key x = k) = (a :: xs).filter fun x => key x = k := by
  induction xs with
  | nil => rfl
  | cons b xs ih =>
    rw [insertBy]
    split
    · rfl
    · -- An element that is passed has a smaller key.
      rename_i hpass
      have hlt : key b < key a := by
        rw [hle] at hpass
        exact not_le.1 hpass
      rw [List.filter_cons, ih]
      by_cases ha : key a = k
      · have hb : ¬key b = k := fun hb => hlt.ne (hb.trans ha.symm)
        simp [ha, hb]
      · simp [ha, List.filter_cons]

theorem arranged_sortBy (xs : List α) : Arranged key xs (sortBy le xs) where
  perm := sortBy_perm xs
  sorted := (pairwise_sortBy (fun a b => (le_total (key a) (key b)).imp (hle a b).2 (hle b a).2)
    (fun a b c hab hbc => (hle a c).2 (((hle a b).1 hab).trans ((hle b c).1 hbc))) xs).imp
      fun h => (hle _ _).1 h
  stable k := by
    induction xs with
    | nil => rfl
    | cons a xs ih => rw [sortBy, filter_insertBy hle, List.filter_cons, ih, List.filter_cons]

theorem inOrder_iff_sorted (xs : List α) : inOrder le xs = true ↔ SortedBy key xs := by
  rw [inOrder_iff_pairwise fun a b c hab hbc =>
    (hle a c).2 (((hle a b).1 hab).trans ((hle b c).1 hbc))]
  exact List.Pairwise.iff fun {a b} => hle a b

end

theorem stringLe_iff (a b : String) : stringLe a b = true ↔ a ≤ b := by
  unfold stringLe
  rw [bne_iff_ne, Ne, compare_gt_iff_gt, not_lt]

end TerraLint
