import TerraLint.Proofs.Format.Conservation

/-!
# A part of a text laid out first

When nothing is open before some lines of a text, they may be laid out by themselves before the text
as a whole is: their kinds, balances and assignments stay the same, so the text is laid out as if
that had not been done. So a section of a block may be laid out before the block.

* `layLines_of_alike`: lines that keep their cores, the verbatim ones also their leading blanks.
* `run_endedLines`: a line end leaves nothing open that was closed.
* `formatString_nested`: a part of a text laid out first.
-/

namespace TerraLint

open Text

namespace Text

/-- The lines of a text that a line end follows. -/
def endedLines (text : List Char) : List (List Char) := (text.splitOn '\n').map chompReturn

theorem lines_append_lineFeed (a b : List Char) :
    lines (a ++ '\n' :: b) = endedLines a ++ lines b := by
  obtain ⟨qs, last, hqs⟩ := exists_splitOn b
  have hsplit : (a ++ '\n' :: b).splitOn '\n' = (a.splitOn '\n' ++ qs) ++ [last] := by
    rw [List.splitOn_append_cons_self, hqs, List.append_assoc]
  rw [lines_of_splitOn hsplit, lines_of_splitOn hqs, endedLines, List.map_append, List.append_assoc]

theorem trim_chompReturn (l : List Char) : trim (chompReturn l) = trim l := by
  obtain ⟨b, hb, h⟩ := exists_chompReturn l
  conv_rhs => rw [h, trim_append_blank hb]

end Text

namespace Format

/-! ## Lines in other layout -/

/-- Other text for a line that its layout does not tell from the line itself: it has the same core,
and in a verbatim line the same blanks at its start. -/
structure Alike (line : Line) (raw : List Char) : Prop where
  core : core raw = core line.raw
  verbatim : line.kind = .verbatim → trimEnd raw = trimEnd line.raw

theorem Alike.laidAlike {line : Line} {raw : List Char} (h : Alike line raw) :
    LaidAlike line raw := by
  intro level width
  have hk' : (line.withRaw raw).kind = line.kind := rfl
  cases hk : line.kind with
  | blank => rw [Row.render_blank hk, Row.render_blank (hk'.trans hk)]
  | verbatim =>
    rw [Row.render_verbatim hk, Row.render_verbatim (hk'.trans hk), Line.withRaw_raw,
      h.verbatim hk]
  | code =>
    rw [Row.render_code hk, Row.render_code (hk'.trans hk), Line.withRaw_raw,
      codeText_congr h.core]

theorem alike_refl (lines : List Line) : List.Forall₂ Alike lines (lines.map Line.raw) := by
  rw [List.forall₂_map_right_iff, List.forall₂_same]
  exact fun line _ => ⟨rfl, fun _ => rfl⟩

/-- A line in its normal layout is not told from the line itself. -/
theorem alike_layLines (raws : List (List Char)) :
    List.Forall₂ Alike (Progress.start.run raws).2 (layLines raws) := by
  have hrel := (List.forall₂_and_left _ _).2
    ⟨fun line hline => (Progress.run_kind hline).1, relaid_layLines raws⟩
  refine hrel.imp fun line out h => ⟨h.2.core_eq h.1, fun hk => ?_⟩
  obtain ⟨level, width, rfl⟩ := h.2
  rw [Row.render_verbatim hk, trimEnd_trimEnd]

/-- Lines that are not told from others are laid out as these are. -/
theorem layLines_of_alike {raws raws' : List (List Char)}
    (h : List.Forall₂ Alike (Progress.start.run raws).2 raws') : layLines raws' = layLines raws := by
  obtain ⟨ls, hls⟩ : ∃ ls, (Progress.start.run raws).2 = ls := ⟨_, rfl⟩
  have hmap : ls.map Line.raw = raws := by rw [← hls, Progress.run_raw]
  rw [hls] at h
  have hcore : List.Forall₂ (fun line raw => core raw = core line.raw) ls raws' :=
    h.imp fun _ _ h => h.core
  have hrun : (Progress.start.run raws').2 = List.zipWith Line.withRaw ls raws' := by
    rw [Progress.run_congr Progress.valid_start, hls]
    rwa [← hmap, List.forall₂_map_left_iff]
  have hlevels : indentLevels (List.zipWith Line.withRaw ls raws') = indentLevels ls :=
    indentFrom_withRaw [] h.length_eq.symm
  have hrows : lineRows raws' = List.zipWith Row.ofLine (List.zipWith Line.withRaw ls raws')
      (indentLevels ls) := by
    rw [lineRows, hrun, hlevels]
  have hwidths : widths (lineRows raws') = widths (lineRows raws) := by
    unfold widths
    rw [hrows, places_withRaw hcore (length_indentLevels ls), lineRows, hls]
  rw [layLines, renderRows_eq, hwidths, hrows,
    render_laidAlike (h.imp fun _ _ h => h.laidAlike) (length_indentLevels ls), layLines,
    renderRows_eq, lineRows, hls]

/-! ## Reading lines one part after the other -/

namespace Progress

theorem run_append (p : Progress) (raws raws' : List (List Char)) :
    p.run (raws ++ raws') =
      (((p.run raws).1.run raws').1, (p.run raws).2 ++ ((p.run raws).1.run raws').2) := by
  induction raws generalizing p with
  | nil => rfl
  | cons raw raws ih => rw [List.cons_append, run_cons, ih, run_cons, List.cons_append]

/-- The line end of the last line leaves nothing open. -/
theorem run_endedLines {text : List Char} (h : (start.run (lines text)).1.isClosed = true) :
    (start.run (endedLines text)).1 = start := by
  have hclosed : (start.run (lines text)).1 = start := by simpa [isClosed] using h
  obtain ⟨ps, last, hps⟩ := exists_splitOn text
  have hended : endedLines text = ps.map chompReturn ++ [chompReturn last] := by
    rw [endedLines, hps, List.map_append, List.map_singleton]
  rw [lines_of_splitOn hps] at hclosed
  by_cases hlast : last = []
  · -- The line that the line end adds is empty.
    subst hlast
    have hblank : (start.run [chompReturn []]).1 = start := rfl
    have hfilter : ([[]] : List (List Char)).filter (fun l => !l.isEmpty) = [] := rfl
    rw [hfilter, List.append_nil] at hclosed
    rw [hended, run_append, hclosed, hblank]
  · have hfilter : [last].filter (fun l => !l.isEmpty) = [last] := by simp [hlast]
    have hinit : List.Forall₂ (fun raw raw' => core raw' = core raw)
        (ps.map chompReturn) (ps.map chompReturn) := List.forall₂_same.2 fun _ _ => rfl
    have hend : List.Forall₂ (fun raw raw' => core raw' = core raw) [last] [chompReturn last] :=
      .cons (core_eq_of_trim (trim_chompReturn last)) .nil
    rw [hfilter] at hclosed
    rw [hended, run_congr valid_start (List.rel_append hinit hend), hclosed]

end Progress

/-- Lines that are laid out by themselves, with nothing open before them. -/
theorem layLines_nested {before : List (List Char)} (h : (Progress.start.run before).1 = .start)
    (inner after : List (List Char)) :
    layLines (before ++ (layLines inner ++ after)) = layLines (before ++ (inner ++ after)) := by
  refine layLines_of_alike ?_
  rw [Progress.run_append, Progress.run_append, h]
  have hsame : ∀ (p : Progress) (raws : List (List Char)),
      List.Forall₂ Alike (p.run raws).2 raws := by
    intro p raws
    have hrefl := alike_refl (p.run raws).2
    rwa [Progress.run_raw] at hrefl
  exact List.rel_append (hsame _ before) (List.rel_append (alike_layLines inner) (hsame _ after))

end Format

open Format

/-- A part of a text that does not end with a blank may be laid out by itself first, if nothing is
open before it. -/
theorem format_nested {a b : List Char} (ha : (Progress.start.run (lines a)).1.isClosed = true)
    (hb : trimEnd b = b) (c : List Char) :
    format (a ++ '\n' :: (format b ++ '\n' :: c)) = format (a ++ '\n' :: (b ++ '\n' :: c)) := by
  by_cases hnil : b = []
  · subst hnil
    rfl
  · have hsolid : Solid b := ⟨hnil, hb⟩
    rw [format_eq (a ++ '\n' :: (format b ++ '\n' :: c)), format_eq (a ++ '\n' :: (b ++ '\n' :: c)),
      lines_append_lineFeed a, lines_append_lineFeed a, (solid_format hsolid).lines_append,
      hsolid.lines_append, lines_format_of_solid hsolid,
      layLines_nested (Progress.run_endedLines ha)]

/-- The same for strings, with the parts on lines of their own. -/
theorem formatString_nested {a b : String}
    (ha : (Progress.start.run (lines a.toList)).1.isClosed = true)
    (hb : trimEnd b.toList = b.toList) (c : String) :
    formatString (a ++ "\n" ++ formatString b ++ "\n" ++ c) =
      formatString (a ++ "\n" ++ b ++ "\n" ++ c) := by
  have hfeed : "\n".toList = ['\n'] := rfl
  have hnested := format_nested ha hb c.toList
  unfold formatString
  simp only [String.toList_append, String.toList_ofList, hfeed, List.append_assoc,
    List.cons_append, List.nil_append]
  rw [hnested]

/-- A part with more closing than opening brackets, and with a heredoc, after a line in a block. -/
theorem formatString_nested_closing :
    (Progress.start.run (lines "a \x7b".toList)).1.isClosed = true ∧
      trimEnd "x = <<E\n  y\nE\nlong=1\n\x7d".toList = "x = <<E\n  y\nE\nlong=1\n\x7d".toList ∧
      formatString ("a \x7b" ++ "\n" ++ formatString "x = <<E\n  y\nE\nlong=1\n\x7d" ++ "\n" ++ "b=2") =
        formatString ("a \x7b" ++ "\n" ++ "x = <<E\n  y\nE\nlong=1\n\x7d" ++ "\n" ++ "b=2") :=
  have ha : (Progress.start.run (lines "a \x7b".toList)).1.isClosed = true := by decide +kernel
  have hb : trimEnd "x = <<E\n  y\nE\nlong=1\n\x7d".toList = "x = <<E\n  y\nE\nlong=1\n\x7d".toList := by
    decide +kernel
  ⟨ha, hb, formatString_nested ha hb "b=2"⟩

end TerraLint
