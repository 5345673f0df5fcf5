import TerraLint.Proofs.Format.Idempotence

/-!
# The normal layout changes blanks only

The lines of a text in its normal layout are the lines of the text, less the blank ones at its end,
each with other blanks: verbatim lines lose those at their end, blank lines all, and code lines have
their indentation and the blanks around the sign of an assignment replaced by spaces.

* `LaidOut`: what becomes of a line of each kind.
* `lines_format_of_solid`: a text that ends in a character keeps its last line.
* `format_lines`: what becomes of the lines of a text.
-/

namespace TerraLint

open Text

namespace Format

/-- What becomes of a line at a level. -/
inductive LaidOut (level : Nat) : Line → List Char → Prop
  /-- A verbatim line loses the blanks at its end. -/
  | verbatim (raw : List Char) (net : Int) : LaidOut level ⟨raw, .verbatim, net⟩ (trimEnd raw)
  /-- Nothing is left of a blank line. -/
  | blank (raw : List Char) (net : Int) : LaidOut level ⟨raw, .blank, net⟩ []
  /-- Any other line that does not assign is trimmed and indented. -/
  | code (raw : List Char) (net : Int) (h : Assignment.parse? (trim raw) = none) :
    LaidOut level ⟨raw, .code, net⟩ (List.replicate (2 * level) ' ' ++ trim raw)
  /-- A line that assigns is its key, blanks, the sign, blanks and its value; it is indented, and its
  blanks become spaces before the sign and one space before a value that is not empty. -/
  | assignment (raw : List Char) (net : Int) (key b₁ b₂ value : List Char) (n : Nat)
    (h : Assignment.parse? (trim raw) = some ⟨key, value⟩)
    (hb₁ : allBlank b₁ = true) (hb₂ : allBlank b₂ = true) (hv : trim value = value)
    (hraw : trim raw = key ++ b₁ ++ '=' :: b₂ ++ value) :
    LaidOut level ⟨raw, .code, net⟩ (List.replicate (2 * level) ' ' ++ key ++
      List.replicate (n + 1) ' ' ++ '=' :: (if value = [] then [] else ' ' :: value))

theorem laidOut_render (line : Line) (level width : Nat) :
    LaidOut level line ((Row.ofLine line level).render width) := by
  obtain ⟨raw, kind, net⟩ := line
  cases kind with
  | blank =>
    rw [Row.render_blank rfl]
    exact .blank raw net
  | verbatim =>
    rw [Row.render_verbatim rfl]
    exact .verbatim raw net
  | code =>
    rw [Row.render_code rfl]
    unfold codeText
    cases h : Assignment.parse? (trim raw) with
    | none => exact .code raw net h
    | some a =>
      obtain ⟨b₁, b₂, hb₁, hb₂, hraw, -⟩ := Assignment.eq_of_parse? h (trimEnd_trim raw)
      have hlaid : LaidOut level ⟨raw, .code, net⟩ _ :=
        .assignment raw net a.key b₁ b₂ a.value (width - a.key.length) h hb₁ hb₂
          (Assignment.trim_value h) (by simpa using hraw)
      have hvalue : (if a.value = [] then [] else [' ']) ++ a.value =
          if a.value = [] then [] else ' ' :: a.value := by
        split <;> simp_all
      simpa [Assignment.render_eq, ← hvalue] using hlaid

/-! ## All lines -/

theorem length_dropBlankEnd (ls : List (List Char)) :
    (dropBlankEnd ls).length = ((ls.map allBlank).rdropWhile id).length := by
  unfold dropBlankEnd List.rdropWhile
  rw [← List.map_reverse, List.dropWhile_map, List.length_reverse, List.length_reverse,
    List.length_map]
  rfl

theorem map_squeeze_layLines (text : List Char) :
    (layLines (lines text)).map squeeze = (lines text).map squeeze := by
  have hmap : List.Forall₂ Eq ((lines text).map squeeze) ((layLines (lines text)).map squeeze) := by
    rw [List.forall₂_map_left_iff, List.forall₂_map_right_iff]
    exact (core_of_layLines (lines text)).imp fun raw raw' h => (squeeze_congr h).symm
  rw [List.forall₂_eq_eq_eq] at hmap
  rw [hmap]

theorem keptLines_eq (text : List Char) : keptLines (lines text) = (dropBlankEnd (lines text)).length := by
  have hblank : allBlank = fun l => (squeeze l).isEmpty := by
    funext l
    rw [Bool.eq_iff_iff, ← squeeze_eq_nil_iff, List.isEmpty_iff]
  have hmap : (layLines (lines text)).map allBlank = (lines text).map allBlank := by
    have h := congrArg (List.map List.isEmpty) (map_squeeze_layLines text)
    rw [List.map_map, List.map_map] at h
    rw [hblank]
    exact h
  rw [keptLines, length_dropBlankEnd, hmap, ← length_dropBlankEnd]

theorem squeeze_format (text : List Char) : squeeze (format text) = squeeze text := by
  have hrows : Format.renderRows (rows text) = layLines (lines text) := rfl
  unfold format
  rw [hrows, squeeze_trimEnd, squeeze_unlines, List.flatMap_def, map_squeeze_layLines,
    ← List.flatMap_def, ← squeeze_unlines, squeeze_unlines_lines]

end Format

open Format

/-- A text that ends in a character keeps its last line. -/
theorem lines_format_of_solid {text : List Char} (h : Solid text) :
    lines (format text) = layLines (lines text) := by
  obtain ⟨ps, last, -, hlast, hlines⟩ := h.exists_last
  have hcore := core_of_layLines (lines text)
  rw [lines_format]
  obtain ⟨outs, hout⟩ : ∃ outs, layLines (lines text) = outs := ⟨_, rfl⟩
  rw [hout] at hcore ⊢
  rw [hlines] at hcore
  obtain ⟨outs, b, rfl, -, hb⟩ := exists_append_of_forall₂ hcore
  obtain ⟨out, rfl, hcores⟩ := exists_singleton_of_forall₂ hb
  have hnot : ¬allBlank out = true := by
    rw [allBlank_congr hcores, hlast.allBlank]
    decide
  exact List.rdropWhile_concat_neg _ _ _ hnot

theorem solid_format {text : List Char} (h : Solid text) : Solid (format text) where
  ne_nil hnil := by
    have hsq := squeeze_format text
    have hblank : squeeze text = [] := by rw [← hsq, hnil]; rfl
    rw [squeeze_eq_nil_iff, h.allBlank] at hblank
    cases hblank
  trimEnd := by
    unfold format
    exact trimEnd_trimEnd _

/-- The first line is not indented. -/
theorem indentLine_nil (line : Line) : (indentLine [] line).1 = 0 := by
  unfold indentLine
  split
  · split
    · rfl
    · cases (-line.net).toNat <;> rfl
  · rfl

/-- A line without an indentation starts with a character if it did before. -/
theorem trimStart_render {line : Line} (h : trimStart line.raw = line.raw) (width : Nat) :
    trimStart ((Row.ofLine line 0).render width) = (Row.ofLine line 0).render width := by
  cases hk : line.kind with
  | blank =>
    rw [Row.render_blank hk]
    rfl
  | verbatim => rw [Row.render_verbatim hk, trimStart_trimEnd_comm, h]
  | code =>
    rw [Row.render_code hk, Nat.mul_zero, List.replicate_zero, List.nil_append, ← trim_codeText,
      trimStart_trim]

/-- Normal layout does not move the start of a text. -/
theorem upright_format {text : List Char} (h : Upright text) : Upright (format text) where
  toSolid := solid_format h.toSolid
  trimStart := by
    have hlines := lines_format_of_solid h.toSolid
    have hcore := core_of_layLines (lines text)
    obtain ⟨line, rest, hrun⟩ : ∃ line rest, (Progress.start.run (lines text)).2 = line :: rest := by
      refine List.exists_cons_of_ne_nil fun hnil => ?_
      have hraw := Progress.run_raw .start (lines text)
      obtain ⟨ps, last, -, -, hlast⟩ := h.toSolid.exists_last
      rw [hnil, hlast] at hraw
      simp at hraw
    obtain ⟨ls, hls⟩ : ∃ ls, lines text = line.raw :: ls := by
      have hraw := Progress.run_raw .start (lines text)
      rw [hrun, List.map_cons] at hraw
      exact ⟨_, hraw.symm⟩
    have hhead : line.raw ∈ (lines text).head? := by rw [hls]; rfl
    obtain ⟨level, width, hlevel, -, hout⟩ := @getElem?_layLines (lines text) 0 line (by rw [hrun]; rfl)
    obtain rfl : level = 0 := by
      rw [hrun] at hlevel
      exact (Option.some.inj hlevel).symm.trans (indentLine_nil line)
    obtain ⟨f, hf⟩ : ∃ f, f = (Row.ofLine line 0).render width := ⟨_, rfl⟩
    have hstart := trimStart_render (h.trimStart_head hhead) width
    rw [← hf] at hout hstart
    rw [← hlines, ← List.head?_eq_getElem?] at hout
    have hblank : allBlank f = false := by
      obtain ⟨gs, hgs⟩ := List.head?_eq_some_iff.1 hout
      rw [← hlines, hgs, hls] at hcore
      cases hcore with
      | cons hc _ => rw [allBlank_congr hc, h.allBlank_head hhead]
    obtain ⟨more, hmore⟩ := head_lines_isPrefix hout
    cases f with
    | nil => cases hblank
    | cons c cs =>
      rw [← hmore]
      exact trimStart_cons (isBlank_head_trimStart hstart) _

/-- The normal layout changes nothing but blanks, line by line: it has the lines of the text less the
blank ones at its end, and each of them is laid out as its kind says. -/
theorem format_lines (text : List Char) :
    (lines (format text)).length = (dropBlankEnd (lines text)).length ∧
      (∀ i : Fin (dropBlankEnd (lines text)).length,
        ∃ line level out, (classify text)[i.val]? = some line ∧
          line.raw = (dropBlankEnd (lines text)).get i ∧
          (indentLevels (classify text))[i.val]? = some level ∧
          (lines (format text))[i.val]? = some out ∧ LaidOut level line out) ∧
      squeeze (format text) = squeeze text := by
  refine ⟨?_, ?_, squeeze_format text⟩
  · rw [lines_format, ← keptLines_eq]
    rfl
  · rintro ⟨i, hlt⟩
    have hi : i < keptLines (lines text) := by rwa [keptLines_eq]
    have hline : (lines text)[i]? = some ((dropBlankEnd (lines text)).get ⟨i, hlt⟩) := by
      obtain ⟨rest, hrest⟩ := dropBlankEnd_isPrefix (lines text)
      conv_lhs => rw [← hrest, List.getElem?_append_left hlt, List.getElem?_eq_getElem hlt]
      rfl
    have hmap : ((classify text).map Line.raw)[i]? = (lines text)[i]? := by
      rw [show (classify text).map Line.raw = lines text from Progress.run_raw .start _]
    rw [hline, List.getElem?_map] at hmap
    obtain ⟨line, hline, hraw⟩ := Option.map_eq_some_iff.1 hmap
    obtain ⟨level, width, hlevel, -, hout⟩ := getElem?_layLines hline
    refine ⟨line, level, _, hline, hraw, hlevel, ?_, laidOut_render line level width⟩
    rw [lines_format, dropBlankEnd_eq_take, List.getElem?_take_of_lt hi, hout]

end TerraLint
