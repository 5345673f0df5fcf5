import Mathlib.Algebra.Ring.Nat
import TerraLint.Proofs.Format.Rows

/-!
# Levels and open brackets

The stack of levels counts the brackets that are open, and a line that brings the count back to what
it was before an opening line takes just the levels away that were added since: the levels below
them are not touched as long as the count stays above theirs.

* `sum_indentLine`: what one line does to the number of open brackets.
* `isSuffix_indentLine`: one line leaves the outer levels as they are; `Returns.isSuffix` carries
  that over all lines in between.
* `indentLevels_brackets`: the count after each line, and the levels of an opening line, of the line
  that closes it and of those in between.
-/

namespace TerraLint.Format

/-- The stack after some lines. -/
def levelsAfter (stack : List Nat) (lines : List Line) : List Nat :=
  lines.foldl (fun stack line => (indentLine stack line).2) stack

/-- The stack before line `i`, innermost level first. -/
def levelsBefore (lines : List Line) (i : Nat) : List Nat := levelsAfter [] (lines.take i)

/-- The number of brackets that are open before line `i`. -/
def openBefore (lines : List Line) (i : Nat) : Nat := (levelsBefore lines i).sum

/-- Line `j` is the first behind line `i` after which no more brackets are open than before line
`i`, and it leaves just as many open. -/
structure Returns (lines : List Line) (i j : Nat) : Prop where
  lt : i < j
  lt_length : j < lines.length
  above : ∀ k, i < k → k < j → openBefore lines i < openBefore lines (k + 1)
  back : openBefore lines (j + 1) = openBefore lines i

/-! ## Closing brackets -/

theorem sum_closeBrackets (n : Nat) (stack : List Nat) :
    (closeBrackets n stack).sum = stack.sum - n := by
  induction stack generalizing n with
  | nil => simp [closeBrackets]
  | cons top rest ih =>
    rw [closeBrackets, List.sum_cons]
    split
    · rw [List.sum_cons]
      omega
    · split
      · rw [ih]
        omega
      · rw [List.sum_cons]
        omega

theorem pos_of_mem_closeBrackets {n : Nat} {stack : List Nat} (h : ∀ m ∈ stack, 1 ≤ m) :
    ∀ m ∈ closeBrackets n stack, 1 ≤ m := by
  induction stack generalizing n with
  | nil => exact h
  | cons top rest ih =>
    obtain ⟨htop, hrest⟩ := List.forall_mem_cons.1 h
    rw [closeBrackets]
    split
    · exact h
    · split
      · exact ih hrest
      · intro m hm
        rcases List.mem_cons.1 hm with rfl | hm
        · omega
        · exact hrest m hm

/-- Closing no more brackets than the inner levels hold does not reach the outer ones. -/
theorem closeBrackets_append {n : Nat} {inner : List Nat} (h : n ≤ inner.sum) (outer : List Nat) :
    closeBrackets n (inner ++ outer) = closeBrackets n inner ++ outer := by
  induction inner generalizing n with
  | nil =>
    obtain rfl : n = 0 := by simpa using h
    cases outer <;> rfl
  | cons top rest ih =>
    rw [List.sum_cons] at h
    rw [List.cons_append, closeBrackets, closeBrackets]
    split
    · rfl
    · split
      · exact ih (by omega)
      · rfl

/-! ## One line -/

variable {stack outer : List Nat} {line : Line}

/-- A line of code adds its balance to the open brackets; those that were never opened do not
count. -/
theorem sum_indentLine (stack : List Nat) (line : Line) :
    ((indentLine stack line).2.sum : Int) =
      if line.kind = .code then max 0 (stack.sum + line.net) else stack.sum := by
  unfold indentLine
  by_cases hcode : line.kind = .code
  · by_cases hnet : 0 < line.net
    · simp only [hcode, hnet, if_true, List.sum_cons]
      omega
    · simp only [hcode, hnet, if_true, if_false, sum_closeBrackets]
      omega
  · simp only [hcode, if_false]

theorem pos_of_mem_indentLine (h : ∀ m ∈ stack, 1 ≤ m) :
    ∀ m ∈ (indentLine stack line).2, 1 ≤ m := by
  unfold indentLine
  by_cases hcode : line.kind = .code
  · by_cases hnet : 0 < line.net
    · simp only [hcode, hnet, if_true]
      intro m hm
      rcases List.mem_cons.1 hm with rfl | hm
      · omega
      · exact h m hm
    · simp only [hcode, hnet, if_true, if_false]
      exact pos_of_mem_closeBrackets h
  · simp only [hcode, if_false]
    exact h

/-- A line that opens brackets stands at the level before it, any other at the level after it. -/
theorem level_indentLine (stack : List Nat) (line : Line) :
    (indentLine stack line).1 = if line.kind = .code ∧ 0 < line.net then stack.length
      else (indentLine stack line).2.length := by
  unfold indentLine
  by_cases hcode : line.kind = .code <;> by_cases hnet : 0 < line.net <;> simp [hcode, hnet]

/-- Outer levels stay as they are while no fewer brackets are open than they hold. -/
theorem isSuffix_indentLine (houter : ∀ m ∈ outer, 1 ≤ m) (h : outer <:+ stack)
    (hsum : outer.sum ≤ (indentLine stack line).2.sum) : outer <:+ (indentLine stack line).2 := by
  obtain ⟨inner, rfl⟩ := h
  unfold indentLine at hsum ⊢
  by_cases hcode : line.kind = .code
  · by_cases hnet : 0 < line.net
    · simp only [hcode, hnet, if_true]
      exact List.suffix_append (line.net.toNat :: inner) outer
    · simp only [hcode, hnet, if_true, if_false, sum_closeBrackets, List.sum_append] at hsum ⊢
      by_cases hclosed : (-line.net).toNat ≤ inner.sum
      · rw [closeBrackets_append hclosed]
        exact List.suffix_append _ outer
      · -- More is closed than the inner levels hold, so there are no outer ones.
        cases outer with
        | nil => exact List.nil_suffix
        | cons top rest =>
          have htop := houter top List.mem_cons_self
          rw [List.sum_cons] at hsum
          omega
  · simp only [hcode, if_false]
    exact List.suffix_append inner outer

/-! ## All lines -/

variable {lines : List Line} {i j : Nat}

theorem levelsBefore_succ (h : lines[i]? = some line) :
    levelsBefore lines (i + 1) = (indentLine (levelsBefore lines i) line).2 := by
  unfold levelsBefore levelsAfter
  rw [List.take_add_one, h, Option.toList_some, List.foldl_append]
  rfl

theorem getElem?_indentFrom (stack : List Nat) (lines : List Line) (i : Nat) :
    (indentFrom stack lines)[i]? =
      lines[i]?.map fun line => (indentLine (levelsAfter stack (lines.take i)) line).1 := by
  induction lines generalizing stack i with
  | nil => rfl
  | cons line lines ih =>
    cases i with
    | zero => rfl
    | succ i =>
      rw [indentFrom, List.getElem?_cons_succ, List.getElem?_cons_succ, ih]
      rfl

/-- Each line takes its level from the stack before it, and leaves the stack for the next. -/
theorem getElem?_indentLevels (h : lines[i]? = some line) :
    ∃ level, (indentLevels lines)[i]? = some level ∧
      indentLine (levelsBefore lines i) line = (level, levelsBefore lines (i + 1)) := by
  refine ⟨(indentLine (levelsBefore lines i) line).1, ?_, ?_⟩
  · rw [indentLevels, getElem?_indentFrom, h]
    rfl
  · rw [levelsBefore_succ h]

/-- A line that opens brackets is as deep as the stack before it, any other as the stack after it. -/
theorem getElem?_indentLevels_eq (h : lines[i]? = some line) :
    (indentLevels lines)[i]? = some (if line.kind = .code ∧ 0 < line.net
      then (levelsBefore lines i).length else (levelsBefore lines (i + 1)).length) := by
  obtain ⟨level, hlevel, hstep⟩ := getElem?_indentLevels h
  have heq := level_indentLine (levelsBefore lines i) line
  rw [hstep] at heq
  rw [hlevel]
  exact congrArg some heq

theorem openBefore_succ (h : lines[i]? = some line) :
    (openBefore lines (i + 1) : Int) =
      if line.kind = .code then max 0 (openBefore lines i + line.net) else openBefore lines i := by
  unfold openBefore
  rw [levelsBefore_succ h]
  exact sum_indentLine (levelsBefore lines i) line

theorem pos_of_mem_levelsBefore (lines : List Line) (i : Nat) :
    ∀ m ∈ levelsBefore lines i, 1 ≤ m := by
  induction i with
  | zero =>
    intro m hm
    cases hm
  | succ i ih =>
    cases h : lines[i]? with
    | none =>
      have hlen := List.getElem?_eq_none_iff.1 h
      have hsame : levelsBefore lines (i + 1) = levelsBefore lines i := by
        unfold levelsBefore
        rw [List.take_of_length_le hlen, List.take_of_length_le (by omega)]
      rw [hsame]
      exact ih
    | some line =>
      rw [levelsBefore_succ h]
      exact pos_of_mem_indentLine ih

/-! ## From an opening line to the one that closes it -/

namespace Returns

variable (h : Returns lines i j) (hopens : openBefore lines i < openBefore lines (i + 1))
include h hopens

theorem openBefore_le {k : Nat} (hik : i < k) (hkj : k ≤ j + 1) :
    openBefore lines i ≤ openBefore lines k := by
  obtain ⟨k, rfl⟩ : ∃ m, k = m + 1 := ⟨k - 1, by omega⟩
  by_cases hki : k = i
  · subst hki
    exact hopens.le
  · by_cases hkj' : k = j
    · subst hkj'
      exact h.back.ge
    · exact (h.above k (by omega) (by omega)).le

theorem openBefore_lt {k : Nat} (hik : i < k) (hkj : k ≤ j) :
    openBefore lines i < openBefore lines k := by
  obtain ⟨k, rfl⟩ : ∃ m, k = m + 1 := ⟨k - 1, by omega⟩
  by_cases hki : k = i
  · subst hki
    exact hopens
  · exact h.above k (by omega) (by omega)

/-- The levels at an opening line stay where they are up to the line that closes it. -/
theorem isSuffix {k : Nat} (hik : i ≤ k) (hkj : k ≤ j + 1) :
    levelsBefore lines i <:+ levelsBefore lines k := by
  induction k, hik using Nat.le_induction with
  | base => exact List.suffix_refl _
  | succ k hik ih =>
    have hlength := h.lt_length
    have hline := List.getElem?_eq_getElem (l := lines) (i := k) (by omega)
    have hsum := h.openBefore_le hopens (k := k + 1) (by omega) hkj
    unfold openBefore at hsum
    rw [levelsBefore_succ hline] at hsum ⊢
    exact isSuffix_indentLine (pos_of_mem_levelsBefore lines i) (ih (by omega)) hsum

/-- Between the two lines there are more levels. -/
theorem length_lt {k : Nat} (hik : i < k) (hkj : k ≤ j) :
    (levelsBefore lines i).length < (levelsBefore lines k).length := by
  have hsuffix := h.isSuffix hopens (k := k) (by omega) (by omega)
  have hlt := h.openBefore_lt hopens hik hkj
  apply Nat.lt_of_le_of_ne hsuffix.length_le
  intro hlength
  unfold openBefore at hlt
  rw [hsuffix.eq_of_length hlength] at hlt
  omega

/-- Behind the line that closes there are the same levels again. -/
theorem levelsBefore_eq : levelsBefore lines (j + 1) = levelsBefore lines i := by
  have hij := h.lt
  obtain ⟨inner, hinner⟩ := h.isSuffix hopens (k := j + 1) (by omega) (by omega)
  have hback := h.back
  unfold openBefore at hback
  rw [← hinner, List.sum_append] at hback
  cases inner with
  | nil => exact hinner.symm
  | cons top rest =>
    have htop := pos_of_mem_levelsBefore lines (j + 1) top (hinner ▸ List.mem_cons_self)
    rw [List.sum_cons] at hback
    omega

end Returns

/-- After each line every level has an open bracket, and the open brackets are those before the line
and its balance, if it is code. A line that opens brackets and the first behind it that brings their
number back stand at one level, and all lines in between at deeper ones. -/
theorem indentLevels_brackets (lines : List Line) :
    (∀ (i : Nat) (line : Line), lines[i]? = some line →
      (∃ level, (indentLevels lines)[i]? = some level ∧
        indentLine (levelsBefore lines i) line = (level, levelsBefore lines (i + 1))) ∧
      (∀ m ∈ levelsBefore lines (i + 1), 1 ≤ m) ∧
      (openBefore lines (i + 1) : Int) =
        if line.kind = .code then max 0 (openBefore lines i + line.net) else openBefore lines i) ∧
    ∀ (i j : Nat) (line : Line), lines[i]? = some line → line.kind = .code → 0 < line.net →
      Returns lines i j →
      ∃ level, (indentLevels lines)[i]? = some level ∧ (indentLevels lines)[j]? = some level ∧
        ∀ k, i < k → k < j → ∃ deeper, (indentLevels lines)[k]? = some deeper ∧ level < deeper := by
  constructor
  · intro i line hline
    exact ⟨getElem?_indentLevels hline, pos_of_mem_levelsBefore lines (i + 1), openBefore_succ hline⟩
  · intro i j line hline hcode hnet h
    have hij := h.lt
    have hlength := h.lt_length
    have hopens : openBefore lines i < openBefore lines (i + 1) := by
      have hsum := openBefore_succ hline
      rw [if_pos hcode] at hsum
      omega
    refine ⟨(levelsBefore lines i).length, ?_, ?_, ?_⟩
    · rw [getElem?_indentLevels_eq hline, if_pos ⟨hcode, hnet⟩]
    · have hclosing := List.getElem?_eq_getElem hlength
      -- The closing line opens no brackets, since more are open before it than after it.
      have hcloses : ¬(lines[j].kind = .code ∧ 0 < lines[j].net) := by
        rintro ⟨hcode', hnet'⟩
        have hsum := openBefore_succ hclosing
        have hmore := h.openBefore_lt hopens hij (Nat.le_refl j)
        have hback := h.back
        rw [if_pos hcode'] at hsum
        omega
      rw [getElem?_indentLevels_eq hclosing, if_neg hcloses, h.levelsBefore_eq hopens]
    · intro k hik hkj
      have hbetween := List.getElem?_eq_getElem (l := lines) (i := k) (by omega)
      have hbefore := h.length_lt hopens hik hkj.le
      have hafter := h.length_lt hopens (k := k + 1) (by omega) hkj
      refine ⟨_, getElem?_indentLevels_eq hbetween, ?_⟩
      split
      · exact hbefore
      · exact hafter

/-- A line that opens two brackets, closed on two lines, in a block that closes more than it opened. -/
def staggered : List Line := classify "m \x7b\nf([\ng(\n1)\n]\n\n)\n\x7d\x7d".toList

theorem indentLevels_brackets_staggered :
    (staggered[7]? = some ⟨"\x7d\x7d".toList, .code, -2⟩ ∧
      (∃ level, (indentLevels staggered)[7]? = some level ∧
        indentLine (levelsBefore staggered 7) ⟨"\x7d\x7d".toList, .code, -2⟩ =
          (level, levelsBefore staggered 8)) ∧
      (∀ m ∈ levelsBefore staggered 8, 1 ≤ m) ∧
      (openBefore staggered 8 : Int) = max 0 ((openBefore staggered 7 : Int) + -2)) ∧
    staggered[1]? = some ⟨"f([".toList, .code, 2⟩ ∧ Returns staggered 1 6 ∧
      ∃ level, (indentLevels staggered)[1]? = some level ∧
        (indentLevels staggered)[6]? = some level ∧
        ∀ k, 1 < k → k < 6 →
          ∃ deeper, (indentLevels staggered)[k]? = some deeper ∧ level < deeper := by
  have hlast : staggered[7]? = some ⟨"\x7d\x7d".toList, .code, -2⟩ := by decide +kernel
  have hopening : staggered[1]? = some ⟨"f([".toList, .code, 2⟩ := by decide +kernel
  have hreturns : Returns staggered 1 6 := by
    have habove : ∀ k < 6, 1 < k → openBefore staggered 1 < openBefore staggered (k + 1) := by
      decide +kernel
    exact ⟨by omega, by decide +kernel, fun k hk hk' => habove k hk' hk, by decide +kernel⟩
  obtain ⟨hafter, hlevels⟩ := indentLevels_brackets staggered
  exact ⟨⟨hlast, hafter 7 _ hlast⟩, hopening, hreturns,
    hlevels 1 6 _ hopening rfl (by decide) hreturns⟩

end TerraLint.Format
