import Mathlib.Data.List.Forall2

/-!
# Lists whose elements correspond

Two lists correspond when they have the same length and their elements correspond one by one. A part
of one list then corresponds to a part of the other.
-/

namespace TerraLint

variable {α β : Type} {r : α → β → Prop}

theorem exists_of_mem_forall₂ {xs : List α} {ys : List β} (h : List.Forall₂ r xs ys) {x : α}
    (hx : x ∈ xs) : ∃ y ∈ ys, r x y := by
  induction h with
  | nil => cases hx
  | cons hxy _ ih =>
    rcases List.mem_cons.1 hx with rfl | hx
    · exact ⟨_, List.mem_cons_self, hxy⟩
    · obtain ⟨y, hy, hr⟩ := ih hx
      exact ⟨y, List.mem_cons_of_mem _ hy, hr⟩

theorem exists_append_of_forall₂ {xs xs' : List α} {ys : List β}
    (h : List.Forall₂ r (xs ++ xs') ys) :
    ∃ zs zs', ys = zs ++ zs' ∧ List.Forall₂ r xs zs ∧ List.Forall₂ r xs' zs' :=
  ⟨_, _, (List.take_append_drop xs.length ys).symm, (List.forall₂_take_append _ _ _ h.flip).flip,
    (List.forall₂_drop_append _ _ _ h.flip).flip⟩

theorem exists_singleton_of_forall₂ {x : α} {ys : List β} (h : List.Forall₂ r [x] ys) :
    ∃ y, ys = [y] ∧ r x y := by
  cases h with
  | cons hxy hnil =>
    cases hnil
    exact ⟨_, rfl, hxy⟩

theorem getElem?_of_forall₂ {xs : List α} {ys : List β} (h : List.Forall₂ r xs ys) {i : Nat}
    {x : α} {y : β} (hx : xs[i]? = some x) (hy : ys[i]? = some y) : r x y := by
  obtain ⟨hi, rfl⟩ := List.getElem?_eq_some_iff.1 hx
  obtain ⟨hi', rfl⟩ := List.getElem?_eq_some_iff.1 hy
  exact h.get hi hi'

/-- Distinct elements have their partners as values of a function. -/
theorem exists_fun_of_forall₂ [DecidableEq α] [Inhabited β] {xs : List α} (hnodup : xs.Nodup)
    {ys : List β} (h : List.Forall₂ r xs ys) : ∃ f : α → β, ys = xs.map f ∧ ∀ x ∈ xs, r x (f x) := by
  induction h with
  | nil => exact ⟨fun _ => default, rfl, by simp⟩
  | @cons x y xs ys hxy _ ih =>
    obtain ⟨hx, hnodup⟩ := List.nodup_cons.1 hnodup
    obtain ⟨f, rfl, hf⟩ := ih hnodup
    have hne : ∀ z ∈ xs, z ≠ x := fun z hz heq => hx (heq ▸ hz)
    refine ⟨fun z => if z = x then y else f z, ?_, fun z hz => ?_⟩
    · rw [List.map_cons, if_pos rfl]
      exact congrArg (y :: ·) (List.map_congr_left fun z hz => (if_neg (hne z hz)).symm)
    · rcases List.mem_cons.1 hz with rfl | hz
      · simpa using hxy
      · simpa [hne z hz] using hf z hz

section Triples

variable {γ : Type} {t : α → β → γ → Prop}

/-- Three lists correspond element by element. -/
inductive Forall₃ (t : α → β → γ → Prop) : List α → List β → List γ → Prop
  | nil : Forall₃ t [] [] []
  | cons {x : α} {y : β} {z : γ} {xs : List α} {ys : List β} {zs : List γ} (h : t x y z)
    (hrest : Forall₃ t xs ys zs) : Forall₃ t (x :: xs) (y :: ys) (z :: zs)

namespace Forall₃

variable {xs xs' : List α} {ys ys' : List β} {zs zs' : List γ}

theorem append (h : Forall₃ t xs ys zs) (h' : Forall₃ t xs' ys' zs') :
    Forall₃ t (xs ++ xs') (ys ++ ys') (zs ++ zs') := by
  induction h with
  | nil => exact h'
  | cons hxyz _ ih => exact .cons hxyz ih

theorem left (h : Forall₃ t xs ys zs) : List.Forall₂ (fun x y => ∃ z, t x y z) xs ys := by
  induction h with
  | nil => exact .nil
  | cons hxyz _ ih => exact .cons ⟨_, hxyz⟩ ih

theorem length_eq (h : Forall₃ t xs ys zs) : ys.length = xs.length ∧ zs.length = xs.length := by
  induction h with
  | nil => exact ⟨rfl, rfl⟩
  | cons _ _ ih => exact ⟨congrArg (· + 1) ih.1, congrArg (· + 1) ih.2⟩

theorem of_getElem? (hy : ys.length = xs.length) (hz : zs.length = xs.length)
    (h : ∀ (i : Nat) x y z, xs[i]? = some x → ys[i]? = some y → zs[i]? = some z → t x y z) :
    Forall₃ t xs ys zs := by
  induction xs generalizing ys zs with
  | nil =>
    obtain rfl := List.length_eq_zero_iff.1 hy
    obtain rfl := List.length_eq_zero_iff.1 hz
    exact .nil
  | cons x xs ih =>
    cases ys with
    | nil => cases hy
    | cons y ys =>
      cases zs with
      | nil => cases hz
      | cons z zs =>
        refine .cons (h 0 x y z rfl rfl rfl) (ih (Nat.succ.inj hy) (Nat.succ.inj hz) ?_)
        exact fun i => h (i + 1)

theorem getElem? (h : Forall₃ t xs ys zs) {i : Nat} {x : α} {y : β} {z : γ} (hx : xs[i]? = some x)
    (hy : ys[i]? = some y) (hz : zs[i]? = some z) : t x y z := by
  induction h generalizing i with
  | nil => cases hx
  | cons hxyz _ ih =>
    cases i with
    | zero =>
      obtain rfl := Option.some.inj hx
      obtain rfl := Option.some.inj hy
      obtain rfl := Option.some.inj hz
      exact hxyz
    | succ i => exact ih hx hy hz

end Forall₃

end Triples

end TerraLint
