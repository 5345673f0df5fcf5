import Mathlib.Data.List.DropRight
import TerraLint.Source.LineIndex
import TerraLint.Proofs.Text.Boundary

/-!
# Looking up offsets

The line starts before an offset come before those behind it, so their number is the line, the last
of them is where the line starts, and the column counts from there. Positions are in the same order
as the offsets that they were looked up for.

* `ofText_append`, `getLast?_starts`: the line starts on the two sides of a boundary.
* `pos_append`: the position of a boundary.
* `pos_ofText`: the position of any offset, and why the lookup finds one.
* `compare_pos`: the order of positions.
-/

namespace TerraLint

open Text

namespace Pos

theorem compare_eq_lt_iff {a b : Pos} :
    a.compare b = .lt ↔ a.line < b.line ∨ a.line = b.line ∧ a.column < b.column := by
  rw [compare, Ordering.then_eq_lt, Nat.compare_eq_lt, Nat.compare_eq_eq, Nat.compare_eq_lt]

theorem compare_swap (a b : Pos) : (a.compare b).swap = b.compare a := by
  rw [compare, compare, Ordering.swap_then, Nat.compare_swap, Nat.compare_swap]

theorem notAfter_iff {a b : Pos} :
    a.notAfter b = true ↔ a.line < b.line ∨ a.line = b.line ∧ a.column ≤ b.column := by
  have hswap := compare_swap b a
  have hlt := @compare_eq_lt_iff b a
  have hgt : a.compare b = .gt ↔ b.compare a = .lt := by
    rw [← hswap]
    cases b.compare a <;> simp
  unfold notAfter
  rw [bne_iff_ne, Ne, hgt, hlt]
  omega

theorem compare_self (a : Pos) : a.compare a = .eq := by
  rw [compare, Ordering.then_eq_eq, Nat.compare_eq_eq, Nat.compare_eq_eq]
  exact ⟨rfl, rfl⟩

end Pos

theorem SourceRange.isNull_of_line {range : SourceRange} (h : 0 < range.start.line) :
    range.isNull = false := by
  have hne : (range.start.line == 0) = false := by
    rw [beq_eq_false_iff_ne]
    omega
  unfold SourceRange.isNull
  rw [hne, Bool.and_false, Bool.false_and]

namespace LineIndex

/-! ## Line starts -/

theorem startsFrom_append (byte : Nat) (a b : List Char) :
    startsFrom byte (a ++ b) = startsFrom byte a ++ startsFrom (byte + byteLength a) b := by
  induction a generalizing byte with
  | nil => rfl
  | cons c a ih =>
    rw [List.cons_append, startsFrom, startsFrom, ih, byteLength_cons, Nat.add_assoc]
    by_cases hc : c = '\n'
    · rw [if_pos hc, if_pos hc, List.cons_append]
    · rw [if_neg hc, if_neg hc]

theorem ofText_append (before after : List Char) :
    (ofText (before ++ after)).starts =
      (0 :: startsFrom 0 before) ++ startsFrom (byteLength before) after := by
  rw [ofText, startsFrom_append, Nat.zero_add, List.cons_append]

theorem length_startsFrom (byte : Nat) (text : List Char) :
    (startsFrom byte text).length = text.count '\n' := by
  induction text generalizing byte with
  | nil => rfl
  | cons c text ih =>
    rw [startsFrom]
    by_cases hc : c = '\n'
    · rw [if_pos hc, List.length_cons, ih, hc, List.count_cons_self]
    · rw [if_neg hc, ih, List.count_cons_of_ne hc]

theorem lt_of_mem_startsFrom {byte n : Nat} {text : List Char} (h : n ∈ startsFrom byte text) :
    byte < n := by
  induction text generalizing byte with
  | nil => cases h
  | cons c cs ih =>
    have hc := c.utf8Size_pos
    unfold startsFrom at h
    dsimp only at h
    split at h
    · rcases List.mem_cons.1 h with rfl | h
      · omega
      · have := ih h
        omega
    · have := ih h
      omega

theorem le_of_mem_startsFrom {byte n : Nat} {text : List Char} (h : n ∈ startsFrom byte text) :
    n ≤ byte + byteLength text := by
  induction text generalizing byte with
  | nil => cases h
  | cons c cs ih =>
    rw [byteLength_cons]
    unfold startsFrom at h
    dsimp only at h
    split at h
    · rcases List.mem_cons.1 h with rfl | h
      · omega
      · have := ih h
        omega
    · have := ih h
      omega

/-- The part of a text behind its last line feed. -/
def lastLine (text : List Char) : List Char := text.rtakeWhile (· ≠ '\n')

/-- The part of a text up to its last line feed. -/
def linesAbove (text : List Char) : List Char := text.rdropWhile (· ≠ '\n')

theorem linesAbove_append_lastLine (text : List Char) : linesAbove text ++ lastLine text = text :=
  List.rdropWhile_append_rtakeWhile

theorem lastLine_append {b : List Char} (hb : '\n' ∉ b) (a : List Char) :
    lastLine (a ++ b) = lastLine a ++ b := by
  unfold lastLine List.rtakeWhile
  rw [List.reverse_append, List.takeWhile_append_of_pos, List.reverse_append, List.reverse_reverse]
  intro c hc
  have hne : c ≠ '\n' := by
    rintro rfl
    exact hb (List.mem_reverse.1 hc)
  exact decide_eq_true hne

theorem getLast?_starts (text : List Char) :
    (0 :: startsFrom 0 text).getLast? = some (byteLength (linesAbove text)) := by
  unfold linesAbove
  induction text using List.reverseRecOn with
  | nil => rfl
  | append_singleton text c ih =>
    rw [startsFrom_append, Nat.zero_add, ← List.cons_append]
    by_cases hc : c = '\n'
    · subst hc
      rw [List.rdropWhile_concat_neg _ _ _ (by simp), byteLength_append]
      exact List.getLast?_concat
    · rw [List.rdropWhile_concat_pos _ _ _ (by simpa using hc), startsFrom, if_neg hc, startsFrom,
        List.append_nil]
      exact ih

/-! ## The position of a boundary -/

theorem linesUpTo_append (before after : List Char) :
    (ofText (before ++ after)).linesUpTo (byteLength before) = before.count '\n' + 1 := by
  have hbefore : (0 :: startsFrom 0 before).countP (· ≤ byteLength before) =
      (0 :: startsFrom 0 before).length := by
    rw [List.countP_eq_length]
    intro n hn
    rcases List.mem_cons.1 hn with rfl | hn
    · exact decide_eq_true (Nat.zero_le _)
    · have hle := le_of_mem_startsFrom hn
      exact decide_eq_true (by omega)
  have hafter : (startsFrom (byteLength before) after).countP (· ≤ byteLength before) = 0 := by
    rw [List.countP_eq_zero]
    intro n hn
    have hlt := lt_of_mem_startsFrom hn
    rw [decide_eq_true_eq]
    omega
  rw [linesUpTo, ofText_append, List.countP_append, hbefore, hafter, List.length_cons,
    length_startsFrom]

/-- The last of the line starts up to a boundary is where its line starts. -/
theorem exists_starts (before after : List Char) :
    ∃ upTo, (ofText (before ++ after)).starts =
        upTo ++ byteLength (linesAbove before) :: startsFrom (byteLength before) after ∧
      upTo.length = before.count '\n' ∧ ∀ n ∈ upTo, n ≤ byteLength before := by
  obtain ⟨upTo, hupTo⟩ := List.getLast?_eq_some_iff.1 (getLast?_starts before)
  refine ⟨upTo, ?_, ?_, ?_⟩
  · rw [ofText_append, hupTo, List.append_assoc, List.singleton_append]
  · have hlength := congrArg List.length hupTo
    rw [List.length_cons, length_startsFrom, List.length_append, List.length_singleton] at hlength
    omega
  · intro n hn
    have hmem : n ∈ 0 :: startsFrom 0 before := hupTo ▸ List.mem_append_left _ hn
    rcases List.mem_cons.1 hmem with rfl | hmem
    · exact Nat.zero_le _
    · have hle := le_of_mem_startsFrom hmem
      omega

theorem sliceBytes_lastLine (before after : List Char) :
    sliceBytes (byteLength (linesAbove before)) (byteLength before) (before ++ after) =
      some (lastLine before) := by
  have hbefore := linesAbove_append_lastLine before
  apply sliceBytes_eq_some_iff.2
  refine ⟨linesAbove before, after, by rw [hbefore], rfl, ?_⟩
  rw [← byteLength_append, hbefore]

/-- The position of an offset whose greatest boundary is the end of `before`. -/
theorem pos_eq {before after : List Char} {n : Nat}
    (h : floorBoundary n (before ++ after) = byteLength before) :
    (ofText (before ++ after)).pos (before ++ after) n =
      ⟨before.count '\n' + 1, (lastLine before).length + 1, byteLength before⟩ := by
  obtain ⟨upTo, hstarts, hlength, -⟩ := exists_starts before after
  have hstart : (ofText (before ++ after)).starts.getD (before.count '\n') 0 =
      byteLength (linesAbove before) := by
    rw [hstarts, List.getD_eq_getElem?_getD, List.getElem?_append_right (by omega), hlength,
      Nat.sub_self]
    rfl
  unfold pos
  dsimp only
  rw [h, linesUpTo_append, Nat.add_sub_cancel, hstart, sliceBytes_lastLine, Option.getD_some]

/-- The position of a boundary: one more than the line feeds before it, and one more than the
characters behind the last of them. -/
theorem pos_append (before after : List Char) :
    (ofText (before ++ after)).pos (before ++ after) (byteLength before) =
      ⟨before.count '\n' + 1, (lastLine before).length + 1, byteLength before⟩ :=
  pos_eq (floorBoundary_append before after)

theorem line_pos (before after : List Char) :
    ((ofText (before ++ after)).pos (before ++ after) (byteLength before)).line =
      before.count '\n' + 1 := by
  rw [pos_append]

theorem byte_pos (before after : List Char) :
    ((ofText (before ++ after)).pos (before ++ after) (byteLength before)).byte =
      byteLength before := by
  rw [pos_append]

theorem pos_floorBoundary (text : List Char) (n : Nat) :
    (ofText text).pos text (floorBoundary n text) = (ofText text).pos text n := by
  unfold pos
  rw [floorBoundary_of_isBoundary (isBoundary_floorBoundary n text)]

/-- Positions in a text are told apart by their offsets. -/
theorem pos_eq_of_byte_eq {text : List Char} {m n : Nat}
    (h : ((ofText text).pos text m).byte = ((ofText text).pos text n).byte) :
    (ofText text).pos text m = (ofText text).pos text n := by
  have hfloor : floorBoundary m text = floorBoundary n text := h
  rw [← pos_floorBoundary text m, hfloor, pos_floorBoundary]

theorem line_pos_ne_zero (text : List Char) (n : Nat) : ((ofText text).pos text n).line ≠ 0 := by
  obtain ⟨before, after, rfl, hbefore⟩ := isBoundary_floorBoundary n text
  rw [pos_eq hbefore.symm]
  exact Nat.succ_ne_zero _

/-- The position of any offset of a text is that of the greatest boundary at or below it. The line
starts fall into those up to it and those behind it, there is one up to it, and what the last of
these starts is a part of the text. -/
theorem pos_ofText (text : List Char) (n : Nat) :
    ∃ before after, text = before ++ after ∧
      IsGreatest {m | IsBoundary text m ∧ m ≤ min n (byteLength text)} (byteLength before) ∧
      (ofText text).pos text n =
        ⟨1 + before.count '\n', 1 + (before.rtakeWhile (· ≠ '\n')).length, byteLength before⟩ ∧
      ∃ upTo start behind, (ofText text).starts = upTo ++ start :: behind ∧
        (∀ m ∈ upTo, m ≤ byteLength before) ∧ start ≤ byteLength before ∧
        (∀ m ∈ behind, byteLength before < m) ∧
        (ofText text).linesUpTo (byteLength before) = upTo.length + 1 ∧
        sliceBytes start (byteLength before) text = some (before.rtakeWhile (· ≠ '\n')) := by
  obtain ⟨before, after, rfl, hbefore⟩ := isBoundary_floorBoundary n text
  obtain ⟨upTo, hstarts, hlength, hupTo⟩ := exists_starts before after
  refine ⟨before, after, rfl, ?_, ?_, upTo, _, _, hstarts, hupTo, ?_, ?_, ?_,
    sliceBytes_lastLine before after⟩
  · rw [hbefore]
    exact isGreatest_floorBoundary n (before ++ after)
  · rw [pos_eq hbefore.symm, Nat.add_comm 1, Nat.add_comm 1]
    rfl
  · have hlines := congrArg byteLength (linesAbove_append_lastLine before)
    rw [byteLength_append] at hlines
    omega
  · intro m hm
    exact lt_of_mem_startsFrom hm
  · rw [linesUpTo_append, hlength]

/-! ## The order of positions -/

theorem compare_pos_of_lt {text : List Char} {m n : Nat}
    (h : floorBoundary m text < floorBoundary n text) :
    ((ofText text).pos text m).compare ((ofText text).pos text n) = .lt := by
  obtain ⟨before, mid, after, rfl, hbefore, hmid⟩ := exists_part (isBoundary_floorBoundary m text)
    (isBoundary_floorBoundary n text) h.le
  rw [← hbefore, ← hmid, byteLength_append] at h
  have hstop := pos_eq hmid.symm
  rw [List.append_assoc] at hbefore hstop ⊢
  rw [pos_eq hbefore.symm, hstop, Pos.compare_eq_lt_iff]
  dsimp only
  rw [List.count_append]
  by_cases hfeed : '\n' ∈ mid
  · have hcount := List.count_pos_iff.2 hfeed
    exact Or.inl (by omega)
  · -- On one line there are more characters before the second offset.
    have hcount : mid.count '\n' = 0 := List.count_eq_zero.2 hfeed
    have hmore : mid ≠ [] := by
      rintro rfl
      rw [byteLength_nil] at h
      omega
    have hlength := List.length_pos_iff.2 hmore
    rw [lastLine_append hfeed, List.length_append]
    exact Or.inr (by omega)

/-- Positions are in the order of the boundaries that they stand for. -/
theorem compare_pos (text : List Char) (m n : Nat) :
    ((ofText text).pos text m).compare ((ofText text).pos text n) =
      compare (floorBoundary m text) (floorBoundary n text) := by
  rcases Nat.lt_trichotomy (floorBoundary m text) (floorBoundary n text) with hlt | heq | hgt
  · rw [compare_pos_of_lt hlt, Nat.compare_eq_lt.2 hlt]
  · have hpos : (ofText text).pos text m = (ofText text).pos text n := by
      unfold pos
      rw [heq]
    rw [hpos, Pos.compare_self, heq, Nat.compare_eq_eq.2 rfl]
  · rw [← Pos.compare_swap, compare_pos_of_lt hgt, Nat.compare_eq_gt.2 hgt]
    rfl

theorem notAfter_pos_iff {text : List Char} {m n : Nat} :
    ((ofText text).pos text m).notAfter ((ofText text).pos text n) = true ↔
      floorBoundary m text ≤ floorBoundary n text := by
  unfold Pos.notAfter
  rw [compare_pos, bne_iff_ne, Ne, Nat.compare_eq_gt, Nat.not_lt]

end LineIndex

end TerraLint
