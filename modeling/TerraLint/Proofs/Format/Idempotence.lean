import TerraLint.Proofs.Format.Rows

/-!
# The normal layout is stable

A text in its normal layout is its own normal layout. Read again, each line has the kind, the
balance, the level and the assignment that it had before, so the widths are the same and each row is
laid out as before. Rows at the end that were dropped hold no assignment, and align with no row
before them.
-/

namespace TerraLint

open Text

namespace Format

/-- Other text for the line of a row that is laid out as the line itself is. -/
def LaidAlike (line : Line) (out : List Char) : Prop :=
  ∀ level width, (Row.ofLine (line.withRaw out) level).render width =
    (Row.ofLine line level).render width

/-- Rows whose text is exchanged for text that is laid out alike are laid out as before. -/
theorem render_laidAlike {ls : List Line} {outs : List (List Char)}
    (h : List.Forall₂ LaidAlike ls outs) {levels : List Nat} (hl : levels.length = ls.length)
    (ws : List Nat) :
    List.zipWith (fun row width => Row.render width row)
        (List.zipWith Row.ofLine (List.zipWith Line.withRaw ls outs) levels) ws =
      List.zipWith (fun row width => Row.render width row)
        (List.zipWith Row.ofLine ls levels) ws := by
  induction h generalizing levels ws with
  | nil => rfl
  | cons hout houts ih =>
    cases levels with
    | nil => cases hl
    | cons level levels =>
      cases ws with
      | nil => simp
      | cons w ws => simp only [List.zipWith_cons_cons, hout level w, ih (Nat.succ.inj hl)]

/-- The number of lines that are left of some lines in their normal layout. -/
def keptLines (raws : List (List Char)) : Nat := (dropBlankEnd (layLines raws)).length

theorem keptLines_le (raws : List (List Char)) : keptLines raws ≤ (lineRows raws).length := by
  rw [length_lineRows, ← length_layLines]
  exact (dropBlankEnd_isPrefix _).length_le

theorem dropBlankEnd_eq_take (raws : List (List Char)) :
    dropBlankEnd (layLines raws) = (layLines raws).take (keptLines raws) :=
  List.prefix_iff_eq_take.1 (dropBlankEnd_isPrefix _)

theorem allBlank_of_mem_drop {raws : List (List Char)} {out : List Char}
    (h : out ∈ (layLines raws).drop (keptLines raws)) : allBlank out = true := by
  have hsplit := List.rdropWhile_append_rtakeWhile (p := allBlank) (l := layLines raws)
  have hdrop : (layLines raws).drop (keptLines raws) = (layLines raws).rtakeWhile allBlank := by
    conv_lhs => rw [← hsplit]
    exact List.drop_left
  rw [hdrop] at h
  exact List.mem_rtakeWhile_imp h

theorem isAligned_ofLine {line : Line} (h : line.kind ≠ .code) (level : Nat) :
    (Row.ofLine line level).isAligned = false := by
  simp [Row.isAligned, Row.ofLine, h]

theorem exists_ofLine {ls : List Line} {levels : List Nat} {row : Row}
    (h : row ∈ List.zipWith Row.ofLine ls levels) :
    ∃ line ∈ ls, ∃ level, row = Row.ofLine line level := by
  rw [← List.map_uncurry_zip_eq_zipWith] at h
  obtain ⟨⟨line, level⟩, hmem, rfl⟩ := List.mem_map.1 h
  exact ⟨line, (List.of_mem_zip hmem).1, level, rfl⟩

theorem forall₂_renderRows (rs : List Row) :
    List.Forall₂ (fun row out => ∃ width, out = Row.render width row) rs (renderRows rs) := by
  rw [renderRows_eq, List.forall₂_iff_get]
  refine ⟨by simp, fun i hi ho => ?_⟩
  simp only [List.get_eq_getElem, List.getElem_zipWith]
  exact ⟨_, rfl⟩

/-- A row whose normal layout is blank holds no code. -/
theorem isAligned_of_mem_drop {raws : List (List Char)} {row : Row}
    (h : row ∈ (lineRows raws).drop (keptLines raws)) : row.isAligned = false := by
  have hdrop := List.forall₂_drop (keptLines raws) (forall₂_renderRows (lineRows raws))
  obtain ⟨out, hout, width, rfl⟩ := exists_of_mem_forall₂ hdrop h
  obtain ⟨line, hline, level, rfl⟩ := exists_ofLine (List.mem_of_mem_drop h)
  have hkind := Progress.run_kind hline
  have hrel : Relaid line ((Row.ofLine line level).render width) := ⟨level, width, rfl⟩
  have hraw : allBlank line.raw = true := by
    rw [← allBlank_congr (hrel.core_eq hkind.1)]
    exact allBlank_of_mem_drop hout
  refine isAligned_ofLine (fun hcode => ?_) level
  rw [hkind.2 hcode] at hraw
  cases hraw

/-- Lines in their normal layout have the kinds and the levels that they had. -/
theorem lineRows_take (raws : List (List Char)) :
    lineRows ((layLines raws).take (keptLines raws)) = List.zipWith Row.ofLine
      (List.zipWith Line.withRaw ((Progress.start.run raws).2.take (keptLines raws))
        ((layLines raws).take (keptLines raws)))
      ((indentLevels (Progress.start.run raws).2).take (keptLines raws)) := by
  have hrun : (Progress.start.run ((layLines raws).take (keptLines raws))).2 =
      List.zipWith Line.withRaw ((Progress.start.run raws).2.take (keptLines raws))
        ((layLines raws).take (keptLines raws)) := by
    rw [Progress.run_take, Progress.run_congr Progress.valid_start (core_of_layLines raws),
      List.take_zipWith]
  have hlen : ((layLines raws).take (keptLines raws)).length =
      ((Progress.start.run raws).2.take (keptLines raws)).length :=
    (List.forall₂_take _ (relaid_layLines raws)).length_eq.symm
  rw [lineRows, hrun]
  unfold indentLevels
  rw [indentFrom_withRaw [] hlen, indentFrom_take]

theorem layLines_take (raws : List (List Char)) :
    layLines ((layLines raws).take (keptLines raws)) = (layLines raws).take (keptLines raws) := by
  have hlen : ((indentLevels (Progress.start.run raws).2).take (keptLines raws)).length =
      ((Progress.start.run raws).2.take (keptLines raws)).length := by
    simp [length_indentLevels]
  have hplaces := places_withRaw (List.forall₂_take (keptLines raws) (core_layLines raws)) hlen
  have hrender := render_laidAlike
    ((List.forall₂_take (keptLines raws) (relaid_layLines raws)).imp fun _ _ h => h.render) hlen
  have hrows : List.zipWith Row.ofLine ((Progress.start.run raws).2.take (keptLines raws))
      ((indentLevels (Progress.start.run raws).2).take (keptLines raws)) =
        (lineRows raws).take (keptLines raws) :=
    List.take_zipWith.symm
  simp only [← lineRows_take, hrows] at hplaces hrender
  -- The rows that were dropped do not change the widths of those that were kept.
  have hsplit : widths (lineRows raws) = widths ((lineRows raws).take (keptLines raws)) ++
      widths ((lineRows raws).drop (keptLines raws)) := by
    conv_lhs => rw [← List.take_append_drop (keptLines raws) (lineRows raws)]
    exact widths_append fun row h => isAligned_of_mem_drop h
  have hwidths : widths (lineRows ((layLines raws).take (keptLines raws))) =
      (widths (lineRows raws)).take (keptLines raws) := by
    have hkept : (widths ((lineRows raws).take (keptLines raws))).length = keptLines raws := by
      rw [length_widths, List.length_take, Nat.min_eq_left (keptLines_le raws)]
    rw [hsplit, List.take_left' hkept]
    exact congrArg placeWidths hplaces
  rw [layLines, renderRows_eq, hrender, hwidths, ← List.take_zipWith, ← renderRows_eq]
  rfl

end Format

open Format

/-- A text in its normal layout is its own normal layout. -/
theorem format_format (text : List Char) : format (format text) = format text := by
  have hlay : layLines (dropBlankEnd (layLines (lines text))) =
      dropBlankEnd (layLines (lines text)) := by
    rw [dropBlankEnd_eq_take, layLines_take]
  rw [format_eq (format text), lines_format, hlay, format_eq]
  exact congrArg unlines (List.rdropWhile_idempotent allBlank _)

/-- Laying out a string twice is laying it out once. -/
theorem formatString_idempotent (text : String) :
    formatString (formatString text) = formatString text := by
  unfold formatString
  rw [String.toList_ofList, format_format]

end TerraLint
