import Mathlib.Data.List.DropRight
import TerraLint.Text.Blank

/-!
# Trimmed texts

Trimming takes a run of blanks off an end of a text and nothing else. The lemmas below split a text
into its blanks and the rest, and say what trimming does to a text that is put together.

* `exists_trimStart`, `exists_trimEnd`, `exists_lead`: a text is its trimmed form and blanks.
* `trimEnd_append`, `trim_append_blank`: trimming a text that is put together.
* `trim_eq_nil_iff`: only blank texts are trimmed to nothing.
-/

namespace TerraLint.Text

theorem trimEnd_eq_rdropWhile (cs : List Char) : trimEnd cs = cs.rdropWhile isBlank := rfl

/-! ## Blank texts -/

theorem allBlank_iff {cs : List Char} : allBlank cs = true ↔ ∀ c ∈ cs, isBlank c = true := by
  simp [allBlank]

@[simp] theorem allBlank_nil : allBlank [] = true := rfl

@[simp] theorem allBlank_cons (c : Char) (cs : List Char) :
    allBlank (c :: cs) = (isBlank c && allBlank cs) := by
  simp [allBlank]

@[simp] theorem allBlank_append (a b : List Char) :
    allBlank (a ++ b) = (allBlank a && allBlank b) := by
  simp [allBlank]

theorem allBlank_spaces (n : Nat) : allBlank (List.replicate n ' ') = true := by
  rw [allBlank_iff]
  intro c hc
  rw [List.eq_of_mem_replicate hc]
  decide

theorem squeeze_eq_nil_iff {cs : List Char} : squeeze cs = [] ↔ allBlank cs = true := by
  simp [squeeze, allBlank]

/-! ## The two ends -/

theorem exists_trimStart (cs : List Char) :
    ∃ b, allBlank b = true ∧ cs = b ++ trimStart cs :=
  ⟨cs.takeWhile isBlank, allBlank_iff.2 fun _ hc => List.mem_takeWhile_imp hc,
    List.takeWhile_append_dropWhile.symm⟩

theorem exists_trimEnd (cs : List Char) : ∃ b, allBlank b = true ∧ cs = trimEnd cs ++ b :=
  ⟨cs.rtakeWhile isBlank, allBlank_iff.2 fun _ hc => List.mem_rtakeWhile_imp hc,
    List.rdropWhile_append_rtakeWhile.symm⟩

theorem trimStart_blank_append {b : List Char} (hb : allBlank b = true) (cs : List Char) :
    trimStart (b ++ cs) = trimStart cs :=
  List.dropWhile_append_of_pos (allBlank_iff.1 hb)

theorem trimEnd_append_blank {b : List Char} (hb : allBlank b = true) (cs : List Char) :
    trimEnd (cs ++ b) = trimEnd cs := by
  unfold trimEnd
  rw [List.reverse_append, List.dropWhile_append_of_pos]
  intro c hc
  exact allBlank_iff.1 hb c (List.mem_reverse.1 hc)

theorem trimStart_cons {c : Char} (hc : isBlank c = false) (cs : List Char) :
    trimStart (c :: cs) = c :: cs := by
  simp [trimStart, hc]

theorem trimStart_append {a : List Char} (h : trimStart a ≠ []) (b : List Char) :
    trimStart (a ++ b) = trimStart a ++ b := by
  unfold trimStart at h ⊢
  rw [List.dropWhile_append, if_neg (by simpa using h)]

/-- What stands before a text that is not blank does not matter to its end. -/
theorem trimEnd_append {b : List Char} (h : trimEnd b ≠ []) (a : List Char) :
    trimEnd (a ++ b) = a ++ trimEnd b := by
  unfold trimEnd at h ⊢
  have h' : (b.reverse.dropWhile isBlank).isEmpty ≠ true := by simpa using h
  rw [List.reverse_append, List.dropWhile_append, if_neg h', List.reverse_append,
    List.reverse_reverse]

theorem trimEnd_eq_nil_iff {cs : List Char} : trimEnd cs = [] ↔ allBlank cs = true := by
  rw [trimEnd_eq_rdropWhile, List.rdropWhile_eq_nil_iff, allBlank_iff]

theorem trimStart_eq_nil_iff {cs : List Char} : trimStart cs = [] ↔ allBlank cs = true := by
  simp [trimStart, allBlank]

@[simp] theorem trimEnd_trimEnd (cs : List Char) : trimEnd (trimEnd cs) = trimEnd cs :=
  List.rdropWhile_idempotent isBlank cs

@[simp] theorem trimStart_trimStart (cs : List Char) : trimStart (trimStart cs) = trimStart cs :=
  List.dropWhile_idempotent isBlank cs

theorem trimEnd_concat {c : Char} (hc : isBlank c = false) (cs : List Char) :
    trimEnd (cs ++ [c]) = cs ++ [c] := by
  rw [trimEnd_eq_rdropWhile, List.rdropWhile_concat_neg]
  simp [hc]

theorem length_trimEnd_le (cs : List Char) : (trimEnd cs).length ≤ cs.length :=
  (List.rdropWhile_prefix isBlank cs).length_le

/-- A part that a trimmed text ends with is trimmed. -/
theorem trimEnd_of_append {a b : List Char} (h : trimEnd (a ++ b) = a ++ b) : trimEnd b = b := by
  obtain ⟨c, hc, hb⟩ := exists_trimEnd b
  have hle : (a ++ b).length ≤ (a ++ trimEnd b).length := by
    rw [← h, show a ++ b = a ++ trimEnd b ++ c by rw [List.append_assoc, ← hb],
      trimEnd_append_blank hc]
    exact length_trimEnd_le _
  have hlen := congrArg List.length hb
  simp only [List.length_append] at hle hlen
  have hnil : c = [] := List.eq_nil_of_length_eq_zero (by omega)
  rw [hnil, List.append_nil] at hb
  exact hb.symm

/-! ## Both ends -/

theorem trim_eq_nil_iff {cs : List Char} : trim cs = [] ↔ allBlank cs = true := by
  obtain ⟨b, hb, h⟩ := exists_trimStart cs
  rw [trim_eq, trimEnd_eq_nil_iff]
  constructor
  · intro hs
    rw [h, allBlank_append, hb, hs, Bool.and_self]
  · intro hcs
    rw [h, allBlank_append] at hcs
    exact (Bool.and_eq_true_iff.1 hcs).2

/-- The first character of a trimmed text is not blank. -/
theorem isBlank_head_trimStart {cs rest : List Char} {c : Char} (h : trimStart cs = c :: rest) :
    isBlank c = false := by
  have := List.head?_dropWhile_not isBlank cs
  rw [show cs.dropWhile isBlank = c :: rest from h] at this
  simpa using this

/-- Trimming the end of a text leaves its first character, unless the text is blank. -/
theorem trimStart_trimEnd_comm (cs : List Char) : trimStart (trimEnd cs) = trimEnd (trimStart cs) := by
  obtain ⟨b, hb, h⟩ := exists_trimStart cs
  by_cases hs : allBlank cs = true
  · rw [trimEnd_eq_nil_iff.2 hs, trimStart_eq_nil_iff.2 hs, trimStart_nil, trimEnd_nil]
  · have hne : trimEnd (trimStart cs) ≠ [] := fun h' => hs (trim_eq_nil_iff.1 h')
    conv_lhs => rw [h, trimEnd_append hne, trimStart_blank_append hb]
    cases hst : trimStart cs with
    | nil => rfl
    | cons c rest =>
      have hc := isBlank_head_trimStart hst
      cases ht : trimEnd (c :: rest) with
      | nil => rfl
      | cons d u =>
        obtain ⟨b', -, hb'⟩ := exists_trimEnd (c :: rest)
        rw [ht, List.cons_append, List.cons.injEq] at hb'
        rw [← hb'.1, trimStart_cons hc]

theorem trim_trimEnd (cs : List Char) : trim (trimEnd cs) = trim cs := by
  rw [trim_eq, trimStart_trimEnd_comm, trimEnd_trimEnd, trim_eq]

@[simp] theorem trim_trim (cs : List Char) : trim (trim cs) = trim cs := by
  rw [trim_eq, trim_eq, trimStart_trimEnd_comm, trimStart_trimStart, trimEnd_trimEnd]

@[simp] theorem trimStart_trim (cs : List Char) : trimStart (trim cs) = trim cs := by
  rw [trim_eq, trimStart_trimEnd_comm, trimStart_trimStart]

@[simp] theorem trimEnd_trim (cs : List Char) : trimEnd (trim cs) = trim cs := by
  rw [trim_eq, trimEnd_trimEnd]

theorem trim_blank_append {b : List Char} (hb : allBlank b = true) (cs : List Char) :
    trim (b ++ cs) = trim cs := by
  rw [trim_eq, trimStart_blank_append hb, trim_eq]

theorem trim_append_blank {b : List Char} (hb : allBlank b = true) (cs : List Char) :
    trim (cs ++ b) = trim cs := by
  rw [← trim_trimEnd, trimEnd_append_blank hb, trim_trimEnd]

/-- A text is its trimmed form between blanks. -/
theorem exists_trim (cs : List Char) :
    ∃ a b, allBlank a = true ∧ allBlank b = true ∧ cs = a ++ trim cs ++ b := by
  obtain ⟨a, ha, h₁⟩ := exists_trimStart cs
  obtain ⟨b, hb, h₂⟩ := exists_trimEnd (trimStart cs)
  refine ⟨a, b, ha, hb, ?_⟩
  rw [List.append_assoc, trim_eq, ← h₂, ← h₁]

/-- The same with the blanks of a blank text at its end. -/
theorem exists_lead (cs : List Char) :
    ∃ lead trail, allBlank lead = true ∧ allBlank trail = true ∧ cs = lead ++ trim cs ++ trail ∧
      trimEnd cs = lead ++ trim cs := by
  obtain ⟨lead, hlead, h₁⟩ := exists_trimStart (trimEnd cs)
  obtain ⟨trail, htrail, h₂⟩ := exists_trimEnd cs
  rw [trimStart_trimEnd_comm, ← trim_eq] at h₁
  refine ⟨lead, trail, hlead, htrail, ?_, h₁⟩
  rw [← h₁, ← h₂]

theorem trimStart_of_lead {cs lead trail : List Char} (hlead : allBlank lead = true)
    (h : cs = lead ++ trim cs ++ trail) (hcs : allBlank cs = false) :
    trimStart cs = trim cs ++ trail := by
  have hne : trimStart (trim cs) ≠ [] := by
    rw [trimStart_trim]
    intro hnil
    rw [trim_eq_nil_iff.1 hnil] at hcs
    cases hcs
  calc trimStart cs = trimStart (lead ++ (trim cs ++ trail)) := by rw [← List.append_assoc, ← h]
    _ = trimStart (trim cs ++ trail) := trimStart_blank_append hlead _
    _ = trim cs ++ trail := by rw [trimStart_append hne, trimStart_trim]

end TerraLint.Text
