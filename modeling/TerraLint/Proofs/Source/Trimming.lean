import TerraLint.Proofs.Source.Position

/-!
# Ranges of any two offsets

A range is made of any two offsets: reversed ones, ones behind the end of the text and ones inside a
character. It stands at the text between them without the blanks around it, and at an empty text
where there is none.

* `SourceFile.exists_trimmed`: every range stands at a part without blanks around it.
* `SourceFile.range_trims`: which part that is, and that its range is the range itself.
-/

namespace TerraLint

open Text

namespace SourceFile

variable {name : String} {text : List Char} {start stop : Nat}

/-- Offsets count up to the end of the text, and the first of them up to the second. -/
theorem range_clip (name : String) (text : List Char) (start stop : Nat) :
    (parse name text).range start stop =
      (parse name text).range (min start (min stop (byteLength text)))
        (min stop (byteLength text)) := by
  have htext : (parse name text).text = text := rfl
  have hstop : min (min stop (byteLength text)) (byteLength text) = min stop (byteLength text) := by
    omega
  have hstart : min (min start (min stop (byteLength text))) (min stop (byteLength text)) =
      min start (min stop (byteLength text)) := by
    omega
  unfold range
  dsimp only
  rw [htext, hstop, hstart]

/-- A bound inside a character gives an empty range. -/
theorem range_of_not_isBoundary (h : ¬(IsBoundary text (min start (min stop (byteLength text))) ∧
      IsBoundary text (min stop (byteLength text)))) :
    (parse name text).range start stop =
      ⟨name, (parse name text).pos (min start (min stop (byteLength text))),
        (parse name text).pos (min start (min stop (byteLength text)))⟩ := by
  have htext : (parse name text).text = text := rfl
  unfold range
  dsimp only
  rw [htext, sliceBytes_eq_none h, Option.getD_none, trimStart_nil, trimEnd_nil, byteLength_nil,
    Nat.sub_self, Nat.add_zero, Nat.min_self]
  rfl

theorem range_trimmed {before mid after : List Char} (h : trim mid = mid) :
    (parse name (before ++ mid ++ after)).range (byteLength before) (byteLength (before ++ mid)) =
      ⟨name, (parse name (before ++ mid ++ after)).pos (byteLength before),
        (parse name (before ++ mid ++ after)).pos (byteLength (before ++ mid))⟩ := by
  have hend : trimEnd mid = mid := by rw [← h, trimEnd_trim]
  have hrange := @range_between name before mid after [] [] rfl (by simp [h]) (by simp [h, hend])
  rwa [List.append_nil, h] at hrange

/-- What stands between two boundaries, and its range. -/
theorem exists_between (hstart : IsBoundary text (min start (min stop (byteLength text))))
    (hstop : IsBoundary text (min stop (byteLength text))) :
    ∃ before mid after lead trail, text = before ++ mid ++ after ∧
      byteLength before = min start (min stop (byteLength text)) ∧
      byteLength (before ++ mid) = min stop (byteLength text) ∧
      mid = lead ++ trim mid ++ trail ∧ allBlank lead = true ∧ allBlank trail = true ∧
      trimEnd mid = lead ++ trim mid ∧
      (parse name text).range start stop =
        ⟨name, (parse name text).pos (byteLength (before ++ lead)),
          (parse name text).pos (byteLength (before ++ lead ++ trim mid))⟩ := by
  obtain ⟨before, mid, after, htext, hbefore, hmid⟩ := exists_part hstart hstop (by omega)
  obtain ⟨lead, trail, hlead, htrail, hparts, hend⟩ := exists_lead mid
  refine ⟨before, mid, after, lead, trail, htext, hbefore, hmid, hparts, hlead, htrail, hend, ?_⟩
  rw [range_clip, ← hbefore, ← hmid]
  subst htext
  exact range_between hlead hparts hend

/-- Every range stands at a part of the text that has no blanks around it. -/
theorem exists_trimmed (name : String) (text : List Char) (start stop : Nat) :
    ∃ before mid after, text = before ++ mid ++ after ∧ trim mid = mid ∧
      (parse name text).range start stop =
        ⟨name, (parse name text).pos (byteLength before),
          (parse name text).pos (byteLength (before ++ mid))⟩ := by
  by_cases h : IsBoundary text (min start (min stop (byteLength text))) ∧
      IsBoundary text (min stop (byteLength text))
  · obtain ⟨before, mid, after, lead, trail, htext, -, -, hparts, -, -, -, hrange⟩ :=
      @exists_between name text start stop h.1 h.2
    refine ⟨before ++ lead, trim mid, trail ++ after, ?_, trim_trim mid, hrange⟩
    conv_lhs => rw [htext, hparts]
    simp only [List.append_assoc]
  · obtain ⟨before, after, htext, hbefore⟩ :=
      isBoundary_floorBoundary (min start (min stop (byteLength text))) text
    have hpos : (parse name text).pos (byteLength before) =
        (parse name text).pos (min start (min stop (byteLength text))) := by
      rw [hbefore]
      exact LineIndex.pos_floorBoundary text _
    refine ⟨before, [], after, by rw [List.append_nil, htext], rfl, ?_⟩
    rw [List.append_nil, hpos]
    exact range_of_not_isBoundary h

/-- Every range stands somewhere in the text, and its own range is the range itself. -/
theorem range_range (name : String) (text : List Char) (start stop : Nat) :
    ((parse name text).range start stop).start.byte ≤
        ((parse name text).range start stop).stop.byte ∧
      ((parse name text).range start stop).stop.byte ≤ byteLength text ∧
      (parse name text).range ((parse name text).range start stop).start.byte
        ((parse name text).range start stop).stop.byte = (parse name text).range start stop := by
  obtain ⟨before, mid, after, rfl, hmid, hrange⟩ := exists_trimmed name text start stop
  obtain ⟨hstart, hstop⟩ := byte_part name before mid after
  rw [hrange]
  dsimp only
  rw [hstart, hstop]
  refine ⟨?_, ?_, range_trimmed hmid⟩
  · rw [byteLength_append]
    omega
  · rw [byteLength_append (before ++ mid)]
    omega

/-- The range of two offsets, clipped to the text, stands at the text between them without the
blanks around it, if both are boundaries, and at the first of them if there are blanks only. If one
of them is none, the range is empty and stands at the boundary at or below the first. It stands
somewhere in the text, and its own range is the range itself. -/
theorem range_trims (name : String) (text : List Char) (start stop : Nat) :
    let file := parse name text
    let hi := min stop (byteLength text)
    let lo := min start hi
    let range := file.range start stop
    (IsBoundary text lo → IsBoundary text hi →
      ∃ mid lead trail, sliceBytes lo hi text = some mid ∧ file.slice range = trim mid ∧
        mid = lead ++ trim mid ++ trail ∧ allBlank lead = true ∧ allBlank trail = true ∧
        (allBlank mid = true → lead = []) ∧
        range = ⟨name, file.pos (lo + byteLength lead), file.pos (lo + byteLength (lead ++ trim mid))⟩ ∧
        range.start.byte = lo + byteLength lead ∧
        range.stop.byte = lo + byteLength (lead ++ trim mid)) ∧
    (¬(IsBoundary text lo ∧ IsBoundary text hi) →
      range = ⟨name, file.pos (floorBoundary lo text), file.pos (floorBoundary lo text)⟩ ∧
        range.start.byte = floorBoundary lo text) ∧
    range.start.byte ≤ range.stop.byte ∧ range.stop.byte ≤ byteLength text ∧
    range.isNull = false ∧ file.range range.start.byte range.stop.byte = range := by
  intro file hi lo range
  refine ⟨?_, ?_, ?_⟩
  · intro hlo hhi
    obtain ⟨before, mid, after, lead, trail, htext, hbefore, hmid, hparts, hlead, htrail, hend,
      hrange⟩ := @exists_between name text start stop hlo hhi
    have hsplit : before ++ lead ++ trim mid ++ (trail ++ after) = text := by
      conv_rhs => rw [htext, hparts]
      simp only [List.append_assoc]
    have hbytes := byte_part name (before ++ lead) (trim mid) (trail ++ after)
    have hslice := slice_part name (before ++ lead) (trim mid) (trail ++ after)
    rw [hsplit] at hbytes hslice
    rw [← hrange] at hslice
    have hfirst : byteLength (before ++ lead) = lo + byteLength lead := by
      rw [byteLength_append, hbefore]
    have hlast : byteLength (before ++ lead ++ trim mid) = lo + byteLength (lead ++ trim mid) := by
      rw [List.append_assoc, byteLength_append, hbefore]
    rw [hfirst, hlast] at hbytes hrange
    refine ⟨mid, lead, trail, ?_, hslice, hparts, hlead, htrail, ?_, hrange, ?_, ?_⟩
    · apply sliceBytes_eq_some_iff.2
      refine ⟨before, after, htext, hbefore, ?_⟩
      rw [← byteLength_append, hmid]
    · intro hblank
      rw [trimEnd_eq_nil_iff.2 hblank] at hend
      exact (List.append_eq_nil_iff.1 hend.symm).1
    · exact (congrArg (·.start.byte) hrange).trans hbytes.1
    · exact (congrArg (·.stop.byte) hrange).trans hbytes.2
  · intro h
    have hpos : file.pos (floorBoundary lo text) = file.pos lo := LineIndex.pos_floorBoundary text lo
    have hrange : range = ⟨name, file.pos lo, file.pos lo⟩ := range_of_not_isBoundary h
    rw [hpos]
    exact ⟨hrange, congrArg (·.start.byte) hrange⟩
  · obtain ⟨hle, hlength, hsame⟩ := range_range name text start stop
    have hline := line_range_pos name text start stop
    exact ⟨hle, hlength, SourceRange.isNull_of_line hline, hsame⟩

/-- A text with blanks at both ends and a character of two bytes. -/
def padded : List Char := " é = 1 \n".toList

/-- Offsets up to behind the end of the text, and from inside a character, in a file without a
name. -/
theorem range_trims_padded :
    (IsBoundary padded 0 ∧ IsBoundary padded 9 ∧
      (∃ mid lead trail, sliceBytes 0 9 padded = some mid ∧
        (parse "" padded).slice ((parse "" padded).range 0 100) = trim mid ∧
        mid = lead ++ trim mid ++ trail ∧ allBlank lead = true ∧ allBlank trail = true ∧
        (allBlank mid = true → lead = []) ∧
        (parse "" padded).range 0 100 = ⟨"", (parse "" padded).pos (0 + byteLength lead),
          (parse "" padded).pos (0 + byteLength (lead ++ trim mid))⟩ ∧
        ((parse "" padded).range 0 100).start.byte = 0 + byteLength lead ∧
        ((parse "" padded).range 0 100).stop.byte = 0 + byteLength (lead ++ trim mid)) ∧
      ((parse "" padded).range 0 100).isNull = false) ∧
    ¬(IsBoundary padded 2 ∧ IsBoundary padded 9) ∧
      (parse "" padded).range 2 100 = ⟨"", (parse "" padded).pos (floorBoundary 2 padded),
        (parse "" padded).pos (floorBoundary 2 padded)⟩ ∧
      ((parse "" padded).range 2 100).start.byte = floorBoundary 2 padded := by
  have hlo : IsBoundary padded 0 := by decide +kernel
  have hhi : IsBoundary padded 9 := by decide +kernel
  have hinside : ¬(IsBoundary padded 2 ∧ IsBoundary padded 9) := by decide +kernel
  have hlength : byteLength padded = 9 := by decide +kernel
  have hwhole := range_trims "" padded 0 100
  have hcut := range_trims "" padded 2 100
  simp only [hlength] at hwhole hcut
  exact ⟨⟨hlo, hhi, hwhole.1 hlo hhi, hwhole.2.2.2.2.1⟩, hinside, hcut.2.1 hinside⟩

end SourceFile

end TerraLint
