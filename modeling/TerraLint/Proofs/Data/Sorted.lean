import Mathlib.Data.List.Sort
import Mathlib.Data.List.Forall2
import TerraLint.Data.Sorted

/-!
# Sorting by insertion

`sortBy` is insertion sort, so what is known of that carries over. Beyond it, sorting two lists
whose elements correspond to each other keeps the correspondence (`forall₂_sortBy`), elements that
are equal under the order keep their places (`stable_sortBy`), and a list is in order just when it is
sorted (`inOrder_iff_pairwise`), which is when sorting moves none of its elements
(`samePlaces_sortBy`).
-/

namespace TerraLint

variable {α β : Type} {le : α → α → Bool}

theorem insertBy_eq_orderedInsert (a : α) (l : List α) :
    insertBy le a l = l.orderedInsert (fun x y => le x y = true) a := by
  induction l with
  | nil => rfl
  | cons b l ih => rw [insertBy, List.orderedInsert_cons, ih]

theorem sortBy_eq_insertionSort (l : List α) :
    sortBy le l = l.insertionSort fun x y => le x y = true := by
  induction l with
  | nil => rfl
  | cons a l ih => rw [sortBy, ih, insertBy_eq_orderedInsert, List.insertionSort_cons]

theorem sortBy_perm (l : List α) : (sortBy le l).Perm l := by
  rw [sortBy_eq_insertionSort]
  exact List.perm_insertionSort _ l

@[simp] theorem mem_sortBy {l : List α} {a : α} : a ∈ sortBy le l ↔ a ∈ l :=
  (sortBy_perm l).mem_iff

theorem sortBy_of_pairwise {l : List α} (h : l.Pairwise fun a b => le a b = true) :
    sortBy le l = l := by
  rw [sortBy_eq_insertionSort]
  exact h.insertionSort_eq

theorem pairwise_sortBy (total : ∀ a b, le a b = true ∨ le b a = true)
    (trans : ∀ a b c, le a b = true → le b c = true → le a c = true) (l : List α) :
    (sortBy le l).Pairwise fun a b => le a b = true := by
  rw [sortBy_eq_insertionSort]
  have : Std.Total fun x y => le x y = true := ⟨total⟩
  have : IsTrans α fun x y => le x y = true := ⟨trans⟩
  exact List.pairwise_insertionSort _ l

theorem inOrder_of_pairwise {l : List α} (h : l.Pairwise fun a b => le a b = true) :
    inOrder le l = true := by
  induction l with
  | nil => rfl
  | cons a l ih =>
    obtain ⟨ha, hl⟩ := List.pairwise_cons.1 h
    cases l with
    | nil => rfl
    | cons b l => rw [inOrder, ha b List.mem_cons_self, ih hl, Bool.and_self]

theorem inOrder_iff_pairwise (trans : ∀ a b c, le a b = true → le b c = true → le a c = true)
    {l : List α} : inOrder le l = true ↔ l.Pairwise fun a b => le a b = true := by
  refine ⟨fun h => ?_, inOrder_of_pairwise⟩
  induction l with
  | nil => exact .nil
  | cons a l ih =>
    cases l with
    | nil => exact List.pairwise_singleton _ _
    | cons b l =>
      obtain ⟨hab, hrest⟩ := Bool.and_eq_true_iff.1 h
      have hsorted := ih hrest
      refine List.pairwise_cons.2 ⟨fun c hc => ?_, hsorted⟩
      rcases List.mem_cons.1 hc with rfl | hc
      · exact hab
      · exact trans a b c hab ((List.pairwise_cons.1 hsorted).1 c hc)

section Unmoved

variable {xs ys : List α} (total : ∀ a b, le a b = true ∨ le b a = true)
  (trans : ∀ a b c, le a b = true → le b c = true → le a c = true)

include total trans in
/-- Sorting leaves a list as it is just when the list is in order. -/
theorem sortBy_eq_self_iff : sortBy le xs = xs ↔ inOrder le xs = true := by
  refine ⟨fun h => inOrder_of_pairwise ?_, fun h => ?_⟩
  · rw [← h]
    exact pairwise_sortBy total trans xs
  · exact sortBy_of_pairwise ((inOrder_iff_pairwise trans).1 h)

theorem inOrder_map (f : β → α) (xs : List β) :
    inOrder le (xs.map f) = inOrder (fun a b => le (f a) (f b)) xs := by
  induction xs with
  | nil => rfl
  | cons a xs ih =>
    cases xs with
    | nil => rfl
    | cons b xs =>
      rw [List.map_cons] at ih
      rw [List.map_cons, List.map_cons, inOrder, inOrder, ih]

/-- Whether numbered elements have the same numbers in two lists, place by place. -/
def samePlaces (xs ys : List (α × Nat)) : Bool := (xs.zip ys).all fun (a, b) => a.2 == b.2

theorem eq_of_samePlaces {ys : List (α × Nat)} (hperm : ys.Perm xs.zipIdx)
    (h : samePlaces xs.zipIdx ys = true) : ys = xs.zipIdx := by
  refine List.ext_getElem hperm.length_eq fun i hi hi' => ?_
  have hnumber : ys[i].2 = i := by
    have hzip : i < (xs.zipIdx.zip ys).length := by rw [List.length_zip]; exact lt_min hi' hi
    have hall := List.all_eq_true.1 h _ (List.getElem_mem hzip)
    rw [List.getElem_zip, List.getElem_zipIdx, Nat.zero_add] at hall
    exact (beq_iff_eq.1 hall).symm
  -- An element with its number is one of the first list, so the number says which one.
  have hmem := List.mem_zipIdx_iff_getElem?.1 (hperm.mem_iff.1 (List.getElem_mem hi))
  rw [hnumber, List.getElem?_eq_some_iff] at hmem
  obtain ⟨_, hget⟩ := hmem
  rw [List.getElem_zipIdx, Nat.zero_add, hget]
  exact Prod.ext rfl hnumber

include total trans in
/-- Sorting moves no element just when the list is in order, where an element is told from an equal
one by its place in the list. -/
theorem samePlaces_sortBy (xs : List α) :
    samePlaces xs.zipIdx (sortBy (fun a b => le a.1 b.1) xs.zipIdx) = inOrder le xs := by
  have horder : inOrder (fun a b => le a.1 b.1) xs.zipIdx = inOrder le xs := by
    rw [← inOrder_map Prod.fst, List.zipIdx_map_fst]
  rw [← horder, Bool.eq_iff_iff, ← sortBy_eq_self_iff (fun a b => total a.1 b.1)
    fun a b c => trans a.1 b.1 c.1]
  refine ⟨eq_of_samePlaces (sortBy_perm _), fun h => ?_⟩
  rw [h, samePlaces, List.zip_eq_zipWith, List.zipWith_self, List.all_map]
  exact List.all_eq_true.2 fun a _ => beq_self_eq_true a.2

end Unmoved

theorem mem_insertBy {a b : α} {l : List α} : b ∈ insertBy le a l ↔ b = a ∨ b ∈ l := by
  rw [insertBy_eq_orderedInsert, List.mem_orderedInsert]

/-- What stands before an element with an equal key stood before it. -/
theorem stable_insertBy {r : α → α → Prop} {a : α} {l : List α} (ha : ∀ b ∈ l, r a b)
    (h : l.Pairwise fun b c => le c b = true → r b c) :
    (insertBy le a l).Pairwise fun b c => le c b = true → r b c := by
  induction l with
  | nil => exact List.pairwise_singleton _ _
  | cons b l ih =>
    obtain ⟨hb, hl⟩ := List.pairwise_cons.1 h
    rw [insertBy]
    split
    · exact List.pairwise_cons.2 ⟨fun c hc _ => ha c hc, h⟩
    · rename_i hab
      have hrest := ih (fun c hc => ha c (List.mem_cons_of_mem _ hc)) hl
      refine List.pairwise_cons.2 ⟨fun c hc hcb => ?_, hrest⟩
      rcases mem_insertBy.1 hc with rfl | hc
      · exact absurd hcb hab
      · exact hb c hc hcb

theorem stable_sortBy {r : α → α → Prop} {l : List α} (h : l.Pairwise r) :
    (sortBy le l).Pairwise fun b c => le c b = true → r b c := by
  induction l with
  | nil => exact .nil
  | cons a l ih =>
    obtain ⟨ha, hl⟩ := List.pairwise_cons.1 h
    exact stable_insertBy (fun b hb => ha b (mem_sortBy.1 hb)) (ih hl)

section Correspondence

variable {r : α → β → Prop} {le' : β → β → Bool}

theorem forall₂_insertBy (hle : ∀ a a' b b', r a b → r a' b' → le a a' = le' b b') {a : α} {b : β}
    (hab : r a b) {xs : List α} {ys : List β} (h : List.Forall₂ r xs ys) :
    List.Forall₂ r (insertBy le a xs) (insertBy le' b ys) := by
  induction h with
  | nil => exact .cons hab .nil
  | @cons x y xs ys hxy hrest ih =>
    rw [insertBy, insertBy, hle a x b y hab hxy]
    split
    · exact .cons hab (.cons hxy hrest)
    · exact .cons hxy ih

/-- Lists with corresponding elements are sorted alike. -/
theorem forall₂_sortBy (hle : ∀ a a' b b', r a b → r a' b' → le a a' = le' b b') {xs : List α}
    {ys : List β} (h : List.Forall₂ r xs ys) : List.Forall₂ r (sortBy le xs) (sortBy le' ys) := by
  induction h with
  | nil => exact .nil
  | cons hxy _ ih => exact forall₂_insertBy hle hxy ih

/-- Sorting by a key that a function keeps is done before or after the function. -/
theorem map_sortBy {f : α → β} {le' : β → β → Bool} (hle : ∀ a a', le a a' = le' (f a) (f a'))
    (xs : List α) : (sortBy le xs).map f = sortBy le' (xs.map f) := by
  have hxs : List.Forall₂ (fun x y => f x = y) xs (xs.map f) := by
    rw [List.forall₂_map_right_iff]
    exact List.forall₂_same.2 fun _ _ => rfl
  have hsame : ∀ a a' b b', f a = b → f a' = b' → le a a' = le' b b' := by
    rintro a a' b b' rfl rfl
    exact hle a a'
  have hsorted := forall₂_sortBy hsame hxs
  rw [← List.forall₂_eq_eq_eq, List.forall₂_map_left_iff]
  exact hsorted

end Correspondence

theorem stringLe_eq_isLE (a b : String) : stringLe a b = (compare a b).isLE := by
  unfold stringLe
  cases compare a b <;> rfl

theorem stringLe_total (a b : String) : stringLe a b = true ∨ stringLe b a = true := by
  have hswap : compare a b = (compare b a).swap := Std.OrientedCmp.eq_swap
  rw [stringLe_eq_isLE, stringLe_eq_isLE, hswap]
  cases compare b a <;> simp

theorem stringLe_trans {a b c : String} (h : stringLe a b = true) (h' : stringLe b c = true) :
    stringLe a c = true := by
  rw [stringLe_eq_isLE] at h h' ⊢
  exact Std.TransCmp.isLE_trans h h'

end TerraLint
