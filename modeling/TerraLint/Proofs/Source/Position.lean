import TerraLint.Source.File
import TerraLint.Proofs.Source.Lookup
import TerraLint.Proofs.Text.Lines

/-!
# Positions of a part of a text

A part of a text that neither starts nor ends with a blank is the text of its own span, and the lines
of that span are read off the line feeds before its ends.

* `SourceFile.Shows`: a range shows such a part.
* `SourceFile.range_between`: the range of a part stands at its text without the blanks around it.
* `SourceFile.shows_part`: the range of a part shows it without the blanks that end it.
* `SourceFile.rangeOf_line`: the lines of a part.
* `SourceFile.slice_rangeOf`: the text of a part.
-/

namespace TerraLint

open Text Hcl

namespace SourceFile

variable {name : String} {before mid after : List Char}

/-- A range in a file shows a part of its text that neither starts nor ends with a blank. -/
def Shows (file : SourceFile) (range : SourceRange) (mid : List Char) : Prop :=
  Upright mid ∧ ∃ before after, file.text = before ++ mid ++ after ∧
    range = ⟨file.name, file.pos (byteLength before), file.pos (byteLength (before ++ mid))⟩

theorem line_range_pos (name : String) (text : List Char) (start stop : Nat) :
    0 < ((parse name text).range start stop).start.line :=
  Nat.pos_of_ne_zero (LineIndex.line_pos_ne_zero text _)

/-- The range of a part is that of its text without the blanks around it; a blank part has an empty
range at its start. -/
theorem range_between {lead trail : List Char} (hlead : allBlank lead = true)
    (hmid : mid = lead ++ trim mid ++ trail) (hend : trimEnd mid = lead ++ trim mid) :
    (parse name (before ++ mid ++ after)).range (byteLength before) (byteLength (before ++ mid)) =
      ⟨name, (parse name (before ++ mid ++ after)).pos (byteLength (before ++ lead)),
        (parse name (before ++ mid ++ after)).pos (byteLength (before ++ lead ++ trim mid))⟩ := by
  have hslice : sliceBytes (byteLength before) (byteLength (before ++ mid))
      (before ++ mid ++ after) = some mid :=
    sliceBytes_eq_some_iff.2 ⟨before, after, rfl, rfl, (byteLength_append before mid).symm⟩
  have htext : (parse name (before ++ mid ++ after)).text = before ++ mid ++ after := rfl
  have hstop : min (byteLength (before ++ mid)) (byteLength (before ++ mid ++ after)) =
      byteLength (before ++ mid) := by
    rw [byteLength_append (before ++ mid)]
    omega
  have hstart : min (byteLength before) (byteLength (before ++ mid)) = byteLength before := by
    rw [byteLength_append]
    omega
  have hlast : byteLength before + byteLength (trimEnd mid) =
      byteLength (before ++ lead ++ trim mid) := by
    rw [hend, List.append_assoc, byteLength_append before]
  have hfirst : min (byteLength before + (byteLength mid - byteLength (trimStart mid)))
      (byteLength before + byteLength (trimEnd mid)) = byteLength (before ++ lead) := by
    rw [byteLength_append]
    by_cases hblank : allBlank mid = true
    · rw [trimEnd_eq_nil_iff.2 hblank] at hend ⊢
      obtain ⟨rfl, -⟩ := List.append_eq_nil_iff.1 hend.symm
      rw [byteLength_nil]
      omega
    · have hstart := trimStart_of_lead hlead hmid (Bool.eq_false_iff.2 hblank)
      have hlength := congrArg byteLength hmid
      rw [hstart, hend]
      simp only [byteLength_append] at hlength ⊢
      omega
  unfold range
  dsimp only
  rw [htext, hstop, hstart, hslice, Option.getD_some, hfirst, hlast]
  rfl

/-- The range of a part that does not start with a blank, without the blanks that end it. -/
theorem range_part (h : trimStart mid = mid) :
    (parse name (before ++ mid ++ after)).range (byteLength before) (byteLength (before ++ mid)) =
      ⟨name, (parse name (before ++ mid ++ after)).pos (byteLength before),
        (parse name (before ++ mid ++ after)).pos (byteLength (before ++ trimEnd mid))⟩ := by
  obtain ⟨trail, -, hmid⟩ := exists_trimEnd mid
  have htrim : trim mid = trimEnd mid := by rw [trim_eq, h]
  have hrange := @range_between name before mid after [] trail rfl (by rw [htrim]; exact hmid)
    htrim.symm
  rw [List.append_nil, htrim] at hrange
  exact hrange

/-- The range of a part shows it without the blanks that end it. -/
theorem shows_part (h : trimStart mid = mid) (hne : allBlank mid = false) :
    (parse name (before ++ mid ++ after)).Shows
      ((parse name (before ++ mid ++ after)).range (byteLength before)
        (byteLength (before ++ mid))) (trimEnd mid) := by
  obtain ⟨blank, -, hblank⟩ := exists_trimEnd mid
  refine ⟨⟨⟨fun hnil => ?_, trimEnd_trimEnd mid⟩, ?_⟩, before, blank ++ after, ?_, range_part h⟩
  · rw [trimEnd_eq_nil_iff.1 hnil] at hne
    cases hne
  · rw [trimStart_trimEnd_comm, h]
  · have htext : (parse name (before ++ mid ++ after)).text = before ++ mid ++ after := rfl
    rw [htext, List.append_assoc before (trimEnd mid), ← List.append_assoc (trimEnd mid), ← hblank,
      List.append_assoc]

/-- The range of a part that neither starts nor ends with a blank. -/
theorem rangeOf_part (h : Upright mid) :
    (parse name (before ++ mid ++ after)).rangeOf
        ⟨byteLength before, byteLength (before ++ mid)⟩ =
      ⟨name, (parse name (before ++ mid ++ after)).pos (byteLength before),
        (parse name (before ++ mid ++ after)).pos (byteLength (before ++ mid))⟩ := by
  have hpart := @range_part name before mid after h.trimStart
  rw [h.trimEnd] at hpart
  exact hpart

theorem line_part (name : String) (before mid after : List Char) :
    ((parse name (before ++ mid ++ after)).pos (byteLength before)).line = before.count '\n' + 1 ∧
      ((parse name (before ++ mid ++ after)).pos (byteLength (before ++ mid))).line =
        (before ++ mid).count '\n' + 1 := by
  have hstart := LineIndex.line_pos before (mid ++ after)
  rw [← List.append_assoc] at hstart
  exact ⟨hstart, LineIndex.line_pos (before ++ mid) after⟩

theorem rangeOf_line (h : Upright mid) :
    ((parse name (before ++ mid ++ after)).rangeOf
        ⟨byteLength before, byteLength (before ++ mid)⟩).start.line = before.count '\n' + 1 ∧
      ((parse name (before ++ mid ++ after)).rangeOf
        ⟨byteLength before, byteLength (before ++ mid)⟩).stop.line =
          (before ++ mid).count '\n' + 1 := by
  rw [rangeOf_part h]
  exact line_part name before mid after

theorem byte_part (name : String) (before mid after : List Char) :
    ((parse name (before ++ mid ++ after)).pos (byteLength before)).byte = byteLength before ∧
      ((parse name (before ++ mid ++ after)).pos (byteLength (before ++ mid))).byte =
        byteLength (before ++ mid) := by
  have hstart := LineIndex.byte_pos before (mid ++ after)
  rw [← List.append_assoc] at hstart
  exact ⟨hstart, LineIndex.byte_pos (before ++ mid) after⟩

theorem slice_part (name : String) (before mid after : List Char) :
    (parse name (before ++ mid ++ after)).slice
      ⟨name, (parse name (before ++ mid ++ after)).pos (byteLength before),
        (parse name (before ++ mid ++ after)).pos (byteLength (before ++ mid))⟩ = mid := by
  obtain ⟨hstart, hstop⟩ := byte_part name before mid after
  have hslice : sliceBytes (byteLength before) (byteLength (before ++ mid))
      (before ++ mid ++ after) = some mid :=
    sliceBytes_eq_some_iff.2 ⟨before, after, rfl, rfl, (byteLength_append before mid).symm⟩
  unfold slice
  dsimp only
  rw [hstart, hstop]
  dsimp only [parse]
  rw [hslice, Option.getD_some]

/-- The text of the range of a part is that part without the blanks around it. -/
theorem slice_range (name : String) (before mid after : List Char) :
    (parse name (before ++ mid ++ after)).slice ((parse name (before ++ mid ++ after)).range
      (byteLength before) (byteLength (before ++ mid))) = trim mid := by
  obtain ⟨lead, trail, hlead, -, hmid, hend⟩ := exists_lead mid
  have htext : before ++ mid ++ after = before ++ lead ++ trim mid ++ (trail ++ after) := by
    conv_lhs => rw [hmid]
    simp
  rw [range_between hlead hmid hend, htext]
  exact slice_part name (before ++ lead) (trim mid) (trail ++ after)

theorem slice_rangeOf (h : Upright mid) :
    (parse name (before ++ mid ++ after)).slice
      ((parse name (before ++ mid ++ after)).rangeOf
        ⟨byteLength before, byteLength (before ++ mid)⟩) = mid := by
  rw [rangeOf_part h]
  exact slice_part name before mid after

end SourceFile

end TerraLint
