import Mathlib.Data.List.SplitBy
import TerraLint.Proofs.Data.Forall
import TerraLint.Proofs.Text.Lines
import TerraLint.Proofs.Format.Relayout

/-!
# Rows of a text in normal layout

The widths of the key columns depend on the levels and keys of the aligned rows alone, so each row
is laid out by itself once the widths are known.

* `renderRows_eq`: the rows are laid out one by one.
* `Progress.run_congr`: reading lines with the same cores.
* `format_eq`, `lines_format`: the lines of a text in its normal layout.
-/

namespace TerraLint

open Text

namespace Format

/-! ## Widths -/

/-- The level and the length of the key of a row that takes part in alignment. -/
def Row.place (row : Row) : Option (Nat × Nat) :=
  if row.isAligned then some (row.level, row.keyLength) else none

/-- Whether rows with two places belong to one run. -/
def linked : Option (Nat × Nat) → Option (Nat × Nat) → Bool
  | some (l, _), some (m, _) => l == m
  | _, _ => false

/-- The longest key among some places. -/
def placeWidth (places : List (Option (Nat × Nat))) : Nat :=
  ((places.filterMap id).map (·.2)).foldl max 0

/-- The width of the key column for each place. -/
def placeWidths (places : List (Option (Nat × Nat))) : List Nat :=
  (places.splitBy linked).flatMap fun run => List.replicate run.length (placeWidth run)

/-- The width of the key column for each row. -/
def widths (rows : List Row) : List Nat := placeWidths (rows.map Row.place)

theorem linked_place (a b : Row) : linked a.place b.place = a.sameRun b := by
  unfold Row.place Row.sameRun
  cases a.isAligned <;> cases b.isAligned <;> rfl

theorem placeWidth_map (run : List Row) : placeWidth (run.map Row.place) = runWidth run := by
  have h : (run.map Row.place).filterMap id =
      (run.filter Row.isAligned).map fun row => (row.level, row.keyLength) := by
    induction run with
    | nil => rfl
    | cons row run ih =>
      rw [List.map_cons, List.filterMap_cons, List.filter_cons, ih]
      by_cases hr : row.isAligned = true <;> simp [Row.place, hr]
  unfold placeWidth runWidth
  rw [h, List.map_map]
  rfl

theorem splitBy_map {α β : Type} (f : α → β) (r : β → β → Bool) (l : List α) :
    (l.map f).splitBy r = (l.splitBy fun a b => r (f a) (f b)).map (List.map f) := by
  rw [List.splitBy_eq_iff]
  refine ⟨?_, ?_, ?_, ?_⟩
  · rw [← List.map_flatten, List.flatten_splitBy]
  · intro hnil
    obtain ⟨run, hrun, he⟩ := List.mem_map.1 hnil
    exact List.ne_nil_of_mem_splitBy hrun (List.map_eq_nil_iff.1 he)
  · intro run hrun
    obtain ⟨run', hrun', rfl⟩ := List.mem_map.1 hrun
    exact (List.isChain_map f).2 (List.isChain_of_mem_splitBy hrun')
  · rw [List.isChain_map]
    refine (List.isChain_getLast_head_splitBy _ l).imp ?_
    rintro a b ⟨ha, hb, hab⟩
    exact ⟨by simpa using ha, by simpa using hb, by simpa using hab⟩

theorem length_placeWidths (places : List (Option (Nat × Nat))) :
    (placeWidths places).length = places.length := by
  have h := congrArg List.length (List.flatten_splitBy linked places)
  rw [List.length_flatten] at h
  simpa [placeWidths, List.length_flatMap] using h

@[simp] theorem length_widths (rows : List Row) : (widths rows).length = rows.length := by
  simp [widths, length_placeWidths]

theorem renderRuns_eq (runs : List (List Row)) :
    (runs.flatMap fun run => run.map (Row.render (runWidth run))) =
      List.zipWith (fun row width => Row.render width row) runs.flatten
        (runs.flatMap fun run => List.replicate run.length (runWidth run)) := by
  induction runs with
  | nil => rfl
  | cons run runs ih =>
    have hrun : run.map (Row.render (runWidth run)) = List.zipWith
        (fun row width => Row.render width row) run (List.replicate run.length (runWidth run)) := by
      generalize runWidth run = w
      induction run with
      | nil => rfl
      | cons row run ih => simp [List.replicate_succ, ih]
    rw [List.flatMap_cons, List.flatten_cons, List.flatMap_cons, ih, hrun,
      List.zipWith_append (by simp)]

/-- The rows are laid out one by one, each with the width of its run. -/
theorem renderRows_eq (rows : List Row) :
    renderRows rows = List.zipWith (fun row width => Row.render width row) rows (widths rows) := by
  have hsplit : (rows.map Row.place).splitBy linked =
      (rows.splitBy Row.sameRun).map (List.map Row.place) := by
    rw [splitBy_map]
    simp only [linked_place]
  unfold renderRows widths placeWidths
  rw [renderRuns_eq, List.flatten_splitBy, hsplit, List.flatMap_map]
  simp only [List.length_map, placeWidth_map]

@[simp] theorem length_renderRows (rows : List Row) : (renderRows rows).length = rows.length := by
  simp [renderRows_eq]

/-- Rows that share no run with those behind them have the widths that they have by themselves. -/
theorem widths_append_of_apart {a b : List Row}
    (h : ∀ x ∈ a.getLast?, ∀ y ∈ b.head?, x.sameRun y = false) :
    widths (a ++ b) = widths a ++ widths b := by
  unfold widths placeWidths
  rw [List.map_append, List.splitBy_append, List.flatMap_append]
  intro x hx y hy
  rw [List.getLast?_map] at hx
  rw [List.head?_map] at hy
  obtain ⟨last, hlast, rfl⟩ := Option.map_eq_some_iff.1 hx
  obtain ⟨head, hhead, rfl⟩ := Option.map_eq_some_iff.1 hy
  rw [linked_place]
  exact h last hlast head hhead

/-- Rows behind which none is aligned have the widths that they have by themselves. -/
theorem widths_append {a b : List Row} (h : ∀ row ∈ b, row.isAligned = false) :
    widths (a ++ b) = widths a ++ widths b := by
  refine widths_append_of_apart fun x _ y hy => ?_
  simp [Row.sameRun, h y (List.mem_of_mem_head? hy)]

/-! ## Reading lines -/

namespace Progress

theorem run_cons (p : Progress) (raw : List Char) (raws : List (List Char)) :
    p.run (raw :: raws) =
      (((p.step raw).1.run raws).1, (p.step raw).2 :: ((p.step raw).1.run raws).2) := rfl

theorem run_raw (p : Progress) (raws : List (List Char)) :
    (p.run raws).2.map Line.raw = raws := by
  induction raws generalizing p with
  | nil => rfl
  | cons raw raws ih => rw [run_cons, List.map_cons, step_raw, ih]

theorem length_run (p : Progress) (raws : List (List Char)) :
    (p.run raws).2.length = raws.length := by
  conv_rhs => rw [← run_raw p raws, List.length_map]

theorem run_take (p : Progress) (n : Nat) (raws : List (List Char)) :
    (p.run (raws.take n)).2 = (p.run raws).2.take n := by
  induction raws generalizing p n with
  | nil => simp [run]
  | cons raw raws ih =>
    cases n with
    | zero => rfl
    | succ n => rw [List.take_succ_cons, run_cons, run_cons, List.take_succ_cons, ih]

/-- Lines without a character that is not blank are blank or verbatim, never code. -/
theorem run_kind {p : Progress} {raws : List (List Char)} {line : Line}
    (h : line ∈ (p.run raws).2) :
    (line.kind = .blank → allBlank line.raw = true) ∧
      (line.kind = .code → allBlank line.raw = false) := by
  induction raws generalizing p with
  | nil => simp [run] at h
  | cons raw raws ih =>
    rw [run_cons] at h
    rcases List.mem_cons.1 h with rfl | h
    · rw [step_raw]
      exact ⟨step_blank, step_code⟩
    · exact ih h

/-- Reading lines with the same cores gives the same lines with other text. -/
theorem run_congr {p : Progress} (hp : p.Valid) {raws raws' : List (List Char)}
    (h : List.Forall₂ (fun raw raw' => core raw' = core raw) raws raws') :
    p.run raws' = ((p.run raws).1, List.zipWith Line.withRaw (p.run raws).2 raws') := by
  induction h generalizing p with
  | nil => rfl
  | @cons raw raw' raws raws' hraw _ ih =>
    rw [run_cons p raw', step_congr hp hraw, ih (step_valid hp raw), run_cons]
    rfl

end Progress

/-! ## Levels -/

theorem indentLine_withRaw (stack : List Nat) (line : Line) (raw : List Char) :
    indentLine stack (line.withRaw raw) = indentLine stack line := rfl

theorem indentFrom_withRaw (stack : List Nat) {lines : List Line} {outs : List (List Char)}
    (h : outs.length = lines.length) :
    indentFrom stack (List.zipWith Line.withRaw lines outs) = indentFrom stack lines := by
  induction lines generalizing stack outs with
  | nil => rfl
  | cons line lines ih =>
    cases outs with
    | nil => cases h
    | cons out outs =>
      simp only [List.zipWith_cons_cons, indentFrom, indentLine_withRaw]
      rw [ih _ (by simpa using h)]

theorem indentFrom_take (stack : List Nat) (n : Nat) (lines : List Line) :
    indentFrom stack (lines.take n) = (indentFrom stack lines).take n := by
  induction lines generalizing stack n with
  | nil => simp [indentFrom]
  | cons line lines ih =>
    cases n with
    | zero => rfl
    | succ n => simp only [List.take_succ_cons, indentFrom, ih]

theorem length_indentFrom (stack : List Nat) (lines : List Line) :
    (indentFrom stack lines).length = lines.length := by
  induction lines generalizing stack with
  | nil => rfl
  | cons line lines ih => simp [indentFrom, ih]

theorem length_indentLevels (lines : List Line) : (indentLevels lines).length = lines.length :=
  length_indentFrom [] lines

/-! ## The rows of a text -/

theorem place_ofLine {line : Line} {raw : List Char} (h : core raw = core line.raw) (level : Nat) :
    (Row.ofLine (line.withRaw raw) level).place = (Row.ofLine line level).place := by
  unfold Row.place Row.isAligned Row.keyLength
  rw [Row.ofLine_assignment h]
  rfl

/-- Rows with the same cores stand in the same places. -/
theorem places_withRaw {ls : List Line} {raws : List (List Char)}
    (h : List.Forall₂ (fun line raw => core raw = core line.raw) ls raws) {levels : List Nat}
    (hl : levels.length = ls.length) :
    (List.zipWith Row.ofLine (List.zipWith Line.withRaw ls raws) levels).map Row.place =
      (List.zipWith Row.ofLine ls levels).map Row.place := by
  induction h generalizing levels with
  | nil => rfl
  | cons hraw _ ih =>
    cases levels with
    | nil => cases hl
    | cons level levels =>
      simp only [List.zipWith_cons_cons, List.map_cons, place_ofLine hraw, ih (Nat.succ.inj hl)]

/-- The rows of some lines. -/
def lineRows (raws : List (List Char)) : List Row :=
  List.zipWith Row.ofLine (Progress.start.run raws).2 (indentLevels (Progress.start.run raws).2)

/-- Some lines in their normal layout. -/
def layLines (raws : List (List Char)) : List (List Char) := renderRows (lineRows raws)

theorem length_classify (text : List Char) : (classify text).length = (lines text).length :=
  Progress.length_run _ _

@[simp] theorem length_lineRows (raws : List (List Char)) :
    (lineRows raws).length = raws.length := by
  simp [lineRows, length_indentLevels, Progress.length_run]

@[simp] theorem length_layLines (raws : List (List Char)) :
    (layLines raws).length = raws.length := by
  simp [layLines]

theorem forall₂_relaid {lines : List Line} {levels ws : List Nat}
    (hl : levels.length = lines.length) (hw : ws.length = lines.length) :
    List.Forall₂ Relaid lines (List.zipWith (fun row width => Row.render width row)
      (List.zipWith Row.ofLine lines levels) ws) := by
  induction lines generalizing levels ws with
  | nil => exact List.Forall₂.nil
  | cons line lines ih =>
    cases levels with
    | nil => cases hl
    | cons level levels =>
      cases ws with
      | nil => cases hw
      | cons w ws => exact List.Forall₂.cons ⟨level, w, rfl⟩ (ih (by simpa using hl) (by simpa using hw))

/-- Each line is laid out at its level. -/
theorem relaid_layLines (raws : List (List Char)) :
    List.Forall₂ Relaid (Progress.start.run raws).2 (layLines raws) := by
  rw [layLines, renderRows_eq]
  refine forall₂_relaid (length_indentLevels _) ?_
  rw [length_widths, length_lineRows, Progress.length_run]

/-- Each line keeps its core. -/
theorem core_layLines (raws : List (List Char)) :
    List.Forall₂ (fun line raw => core raw = core line.raw) (Progress.start.run raws).2
      (layLines raws) := by
  have hrel := (List.forall₂_and_left _ _).2
    ⟨fun line hline => (Progress.run_kind hline).1, relaid_layLines raws⟩
  exact hrel.imp fun line out h => h.2.core_eq h.1

theorem core_of_layLines (raws : List (List Char)) :
    List.Forall₂ (fun raw raw' => core raw' = core raw) raws (layLines raws) := by
  have h := core_layLines raws
  conv => arg 2; rw [← Progress.run_raw .start raws]
  rw [List.forall₂_map_left_iff]
  exact h

/-- Each line is laid out at its level, with the width of its run. -/
theorem getElem?_layLines {raws : List (List Char)} {i : Nat} {line : Line}
    (h : (Progress.start.run raws).2[i]? = some line) :
    ∃ level width, (indentLevels (Progress.start.run raws).2)[i]? = some level ∧
      (widths (lineRows raws))[i]? = some width ∧
      (layLines raws)[i]? = some ((Row.ofLine line level).render width) := by
  obtain ⟨hi, rfl⟩ := List.getElem?_eq_some_iff.1 h
  have hl : i < (indentLevels (Progress.start.run raws).2).length := by rwa [length_indentLevels]
  have hr : i < (lineRows raws).length := by rwa [length_lineRows, ← Progress.length_run .start]
  have hw : i < (widths (lineRows raws)).length := by rwa [length_widths]
  refine ⟨_, _, List.getElem?_eq_getElem hl, List.getElem?_eq_getElem hw, ?_⟩
  rw [layLines, renderRows_eq, List.getElem?_zipWith, List.getElem?_eq_getElem hr,
    List.getElem?_eq_getElem hw]
  simp [lineRows]

/-- Lines with the same cores have the same kinds, levels and widths. So they are laid out alike,
unless they are verbatim. -/
theorem layLines_congr {raws raws' : List (List Char)}
    (h : List.Forall₂ (fun raw raw' => core raw' = core raw) raws raws') {i : Nat}
    {raw raw' out out' : List Char} (hraw : raws[i]? = some raw) (hraw' : raws'[i]? = some raw')
    (hout : (layLines raws)[i]? = some out) (hout' : (layLines raws')[i]? = some out') :
    out' = out ∨ out = trimEnd raw ∧ out' = trimEnd raw' := by
  obtain ⟨ls, hls⟩ : ∃ ls, (Progress.start.run raws).2 = ls := ⟨_, rfl⟩
  have hmap : ls.map Line.raw = raws := by rw [← hls, Progress.run_raw]
  have hcore : List.Forall₂ (fun line raw => core raw = core line.raw) ls raws' := by
    rwa [← hmap, List.forall₂_map_left_iff] at h
  have hrun : (Progress.start.run raws').2 = List.zipWith Line.withRaw ls raws' := by
    rw [Progress.run_congr Progress.valid_start h, hls]
  have hlevels : indentLevels (List.zipWith Line.withRaw ls raws') = indentLevels ls :=
    indentFrom_withRaw [] hcore.length_eq.symm
  have hwidths : widths (lineRows raws') = widths (lineRows raws) := by
    have hplaces := places_withRaw hcore (length_indentLevels ls)
    unfold widths lineRows
    rw [hrun, hls, hlevels, hplaces]
  obtain ⟨line, hline, hlineRaw⟩ : ∃ line, ls[i]? = some line ∧ line.raw = raw := by
    rw [← hmap, List.getElem?_map] at hraw
    exact Option.map_eq_some_iff.1 hraw
  have hline' : (Progress.start.run raws').2[i]? = some (line.withRaw raw') := by
    rw [hrun, List.getElem?_zipWith, hline, hraw']
  obtain ⟨level, width, hlevel, hwidth, hlay⟩ := getElem?_layLines (hls ▸ hline)
  obtain ⟨level', width', hlevel', hwidth', hlay'⟩ := getElem?_layLines hline'
  rw [hrun, hlevels, ← hls, hlevel] at hlevel'
  rw [hwidths, hwidth] at hwidth'
  obtain rfl := Option.some.inj hlevel'
  obtain rfl := Option.some.inj hwidth'
  obtain rfl := Option.some.inj (hlay.symm.trans hout)
  obtain rfl := Option.some.inj (hlay'.symm.trans hout')
  have hcores : core raw' = core line.raw := by
    obtain ⟨hi, rfl⟩ := List.getElem?_eq_some_iff.1 hraw
    obtain ⟨hi', rfl⟩ := List.getElem?_eq_some_iff.1 hraw'
    rw [hlineRaw]
    exact h.get hi hi'
  have hk' : (line.withRaw raw').kind = line.kind := rfl
  cases hk : line.kind with
  | blank =>
    left
    rw [Row.render_blank hk, Row.render_blank (hk'.trans hk)]
  | code =>
    left
    rw [Row.render_code hk, Row.render_code (hk'.trans hk), Line.withRaw_raw, codeText_congr hcores]
  | verbatim =>
    right
    rw [Row.render_verbatim hk, Row.render_verbatim (hk'.trans hk), Line.withRaw_raw, hlineRaw]
    exact ⟨rfl, rfl⟩

theorem exists_relaid {raws : List (List Char)} {out : List Char} (h : out ∈ layLines raws) :
    ∃ line ∈ (Progress.start.run raws).2, Relaid line out :=
  exists_of_mem_forall₂ (relaid_layLines raws).flip h

/-- The normal layout of lines has no characters of its own but spaces. -/
theorem exists_mem_layLines {raws : List (List Char)} {out : List Char} (h : out ∈ layLines raws)
    {c : Char} (hc : c ∈ out) : (∃ raw ∈ raws, c ∈ raw) ∨ c = ' ' := by
  obtain ⟨line, hline, hrel⟩ := exists_relaid h
  refine (hrel.mem hc).imp_left fun hmem => ⟨line.raw, ?_, hmem⟩
  rw [← Progress.run_raw .start raws]
  exact List.mem_map_of_mem hline

theorem not_mem_layLines {raws : List (List Char)} (hn : ∀ raw ∈ raws, '\n' ∉ raw)
    {out : List Char} (h : out ∈ layLines raws) : '\n' ∉ out := by
  intro hc
  rcases exists_mem_layLines h hc with ⟨raw, hraw, hmem⟩ | heq
  · exact hn raw hraw hmem
  · exact absurd heq (by decide)

theorem trimEnd_of_mem_layLines {raws : List (List Char)} {out : List Char}
    (h : out ∈ layLines raws) : trimEnd out = out := by
  obtain ⟨line, hline, hrel⟩ := exists_relaid h
  exact hrel.trimEnd_eq (Progress.run_kind hline).2

end Format

open Format

/-- The normal layout is the rows in their normal layout without the blank ones at the end. -/
theorem format_eq (text : List Char) :
    format text = unlines (dropBlankEnd (layLines (lines text))) :=
  trimEnd_unlines fun _ h => trimEnd_of_mem_layLines h

/-- These rows are the lines of the text in its normal layout. -/
theorem lines_format (text : List Char) :
    lines (format text) = dropBlankEnd (layLines (lines text)) := by
  have hsub : ∀ l ∈ dropBlankEnd (layLines (lines text)), l ∈ layLines (lines text) :=
    fun l h => (dropBlankEnd_isPrefix _).subset h
  rw [format_eq]
  refine lines_unlines (fun l h => not_mem_layLines (fun _ => not_mem_of_mem_lines) (hsub l h))
    (fun l h => trimEnd_of_mem_layLines (hsub l h)) fun l h hnil => ?_
  have := getLast_dropBlankEnd h
  rw [hnil, allBlank_nil] at this
  cases this

end TerraLint
