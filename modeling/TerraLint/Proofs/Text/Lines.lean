import TerraLint.Text.Line
import TerraLint.Proofs.Text.Trim

/-!
# Lines of a text and texts of lines

`lines` and `unlines` are inverse to each other on lines that hold no line end and do not end in a
carriage return, up to an empty line at the end of the text.

* `lines_unlines`: reading what was joined.
* `squeeze_unlines_lines`: joining what was read changes line ends only.
* `trimEnd_unlines`: trimming a text of trimmed lines drops the blank lines at its end.
-/

namespace TerraLint.Text

/-- The lines without the blank ones at the end. -/
def dropBlankEnd (ls : List (List Char)) : List (List Char) := ls.rdropWhile allBlank

/-! ## Joining lines -/

theorem unlines_cons {ls : List (List Char)} (h : ls ≠ []) (l : List Char) :
    unlines (l :: ls) = l ++ '\n' :: unlines ls := by
  rw [unlines, List.intercalate_cons_of_ne_nil h, List.append_assoc, List.singleton_append]
  rfl

theorem unlines_append {a b : List (List Char)} (ha : a ≠ []) (hb : b ≠ []) :
    unlines (a ++ b) = unlines a ++ '\n' :: unlines b := by
  induction a with
  | nil => exact absurd rfl ha
  | cons l ls ih =>
    by_cases hls : ls = []
    · subst hls
      rw [List.singleton_append, unlines_cons hb, unlines_singleton]
    · rw [List.cons_append, unlines_cons (by simp [hls]), ih hls, unlines_cons hls,
        List.append_assoc, List.cons_append]

theorem mem_unlines {ls : List (List Char)} {l : List Char} (hl : l ∈ ls) {c : Char} (hc : c ∈ l) :
    c ∈ unlines ls := by
  obtain ⟨a, b, rfl⟩ := List.append_of_mem hl
  have hrest : c ∈ unlines (l :: b) := by
    cases b with
    | nil => rwa [unlines_singleton]
    | cons l' b =>
      rw [unlines_cons (List.cons_ne_nil _ _)]
      exact List.mem_append_left _ hc
  by_cases ha : a = []
  · rwa [ha, List.nil_append]
  · rw [unlines_append ha (List.cons_ne_nil _ _)]
    exact List.mem_append_right _ (List.mem_cons_of_mem _ hrest)

theorem squeeze_unlines (ls : List (List Char)) : squeeze (unlines ls) = ls.flatMap squeeze := by
  induction ls with
  | nil => rfl
  | cons l ls ih =>
    by_cases hls : ls = []
    · subst hls
      simp
    · have hn : squeeze ('\n' :: unlines ls) = squeeze (unlines ls) := by
        simp [squeeze, show isBlank '\n' = true by decide]
      rw [unlines_cons hls, squeeze_append, hn, ih, List.flatMap_cons]

/-! ## Reading lines -/

theorem not_mem_splitOn {text piece : List Char} {sep : Char} (h : piece ∈ text.splitOn sep) :
    sep ∉ piece := by
  induction text generalizing piece with
  | nil => simp_all
  | cons c cs ih =>
    rw [List.splitOn_cons_eq_if_modifyHead] at h
    obtain ⟨p, ps, hps⟩ := List.exists_cons_of_ne_nil (List.splitOn_ne_nil sep cs)
    split at h
    · rcases List.mem_cons.1 h with rfl | h
      · simp
      · exact ih h
    · rename_i hc
      rw [hps, List.modifyHead_cons] at h
      rcases List.mem_cons.1 h with rfl | h
      · have hp : sep ∉ p := ih (hps ▸ List.mem_cons_self)
        have hc' : c ≠ sep := by simpa using hc
        simp [hp, Ne.symm hc']
      · exact ih (hps ▸ List.mem_cons_of_mem _ h)

/-- A line of a text, with what stands before it. -/
theorem exists_line {text : List Char} {i : Nat} (hi : i ≤ text.count '\n') :
    ∃ before line after, (text.splitOn '\n')[i]? = some line ∧ text = before ++ line ++ after ∧
      before.count '\n' = i ∧ (i = 0 → before = []) := by
  induction text generalizing i with
  | nil =>
    obtain rfl : i = 0 := by simpa using hi
    exact ⟨[], [], [], by simp, rfl, rfl, fun _ => rfl⟩
  | cons c cs ih =>
    rw [List.splitOn_cons_eq_if_modifyHead]
    by_cases hc : c = '\n'
    · rw [if_pos (by simp [hc])]
      cases i with
      | zero => exact ⟨[], [], c :: cs, rfl, rfl, rfl, fun _ => rfl⟩
      | succ i =>
        obtain ⟨before, line, after, hline, rfl, hcount, -⟩ := ih (i := i) (by
          rw [hc, List.count_cons_self] at hi
          omega)
        exact ⟨c :: before, line, after, hline, rfl, by rw [hc, List.count_cons_self, hcount], by simp⟩
    · rw [if_neg (by simpa using hc)]
      have hcount : List.count '\n' (c :: cs) = List.count '\n' cs :=
        List.count_cons_of_ne hc
      rw [hcount] at hi
      obtain ⟨before, line, after, hline, rfl, hbefore, hfirst⟩ := ih hi
      obtain ⟨p, ps, hps⟩ := List.exists_cons_of_ne_nil (List.splitOn_ne_nil '\n' (before ++ line ++ after))
      rw [hps] at hline ⊢
      cases i with
      | zero =>
        obtain rfl : p = line := Option.some.inj hline
        rw [hfirst rfl]
        exact ⟨[], c :: p, after, rfl, rfl, rfl, fun _ => rfl⟩
      | succ i =>
        exact ⟨c :: before, line, after, hline, rfl, by rw [List.count_cons_of_ne hc, hbefore], by simp⟩

theorem exists_splitOn (text : List Char) : ∃ ps last, text.splitOn '\n' = ps ++ [last] :=
  ⟨_, _, (List.dropLast_append_getLast (List.splitOn_ne_nil '\n' text)).symm⟩

theorem lines_of_splitOn {text last : List Char} {ps : List (List Char)}
    (h : text.splitOn '\n' = ps ++ [last]) :
    lines text = ps.map chompReturn ++ [last].filter fun l => !l.isEmpty := by
  unfold lines
  simp [h]

theorem exists_chompReturn (l : List Char) : ∃ b, allBlank b = true ∧ l = chompReturn l ++ b := by
  unfold chompReturn
  split
  · rename_i h
    obtain ⟨ys, rfl⟩ := List.getLast?_eq_some_iff.1 h
    exact ⟨['\r'], by decide, by simp⟩
  · exact ⟨[], rfl, by simp⟩

theorem not_mem_of_mem_lines {text l : List Char} (h : l ∈ lines text) : '\n' ∉ l := by
  unfold lines at h
  rcases List.mem_append.1 h with h | h
  · obtain ⟨piece, hp, rfl⟩ := List.mem_map.1 h
    obtain ⟨b, -, hb⟩ := exists_chompReturn piece
    have := not_mem_splitOn ((List.dropLast_sublist _).subset hp)
    rw [hb, List.mem_append, not_or] at this
    exact this.1
  · obtain ⟨hl, -⟩ := List.mem_filter.1 h
    exact not_mem_splitOn (List.mem_of_getLast? (Option.mem_toList.1 hl))

theorem squeeze_chompReturn (l : List Char) : squeeze (chompReturn l) = squeeze l := by
  obtain ⟨b, hb, h⟩ := exists_chompReturn l
  conv_rhs => rw [h, squeeze_append, squeeze_eq_nil_iff.2 hb, List.append_nil]

theorem squeeze_unlines_lines (text : List Char) : squeeze (unlines (lines text)) = squeeze text := by
  obtain ⟨ps, last, hps⟩ := exists_splitOn text
  have hlines := lines_of_splitOn hps
  have hlast : ([last].filter fun l => !l.isEmpty).flatMap squeeze = squeeze last := by
    cases last <;> simp [squeeze]
  have htext : squeeze text = (ps ++ [last]).flatMap squeeze := by
    rw [← hps, ← squeeze_unlines, unlines, List.intercalate_splitOn]
  rw [squeeze_unlines, hlines, htext, List.flatMap_append, hlast, List.flatMap_append,
    List.flatMap_map]
  simp [squeeze_chompReturn]

/-! ## Reading what was joined -/

theorem chompReturn_of_trimEnd {l : List Char} (h : trimEnd l = l) : chompReturn l = l := by
  unfold chompReturn
  rw [if_neg]
  intro hl
  obtain ⟨ys, rfl⟩ := List.getLast?_eq_some_iff.1 hl
  rw [trimEnd_append_blank (by decide)] at h
  obtain ⟨b, -, hb⟩ := exists_trimEnd ys
  have h' := congrArg List.length h
  have hb' := congrArg List.length hb
  simp only [List.length_append, List.length_singleton] at h' hb'
  omega

/-- Trimmed lines without line ends, the last one not empty, are read as they were joined. -/
theorem lines_unlines {ls : List (List Char)} (hn : ∀ l ∈ ls, '\n' ∉ l)
    (ht : ∀ l ∈ ls, trimEnd l = l) (hlast : ∀ l ∈ ls.getLast?, l ≠ []) :
    lines (unlines ls) = ls := by
  by_cases hls : ls = []
  · subst hls
    rfl
  · obtain ⟨ps, last, rfl⟩ : ∃ ps last, ls = ps ++ [last] :=
      ⟨_, _, (List.dropLast_append_getLast hls).symm⟩
    have hsplit : (unlines (ps ++ [last])).splitOn '\n' = ps ++ [last] :=
      List.splitOn_intercalate '\n' hn hls
    have hne : last ≠ [] := hlast last (by simp)
    have hps : ps.map chompReturn = ps := by
      conv_rhs => rw [← List.map_id ps]
      exact List.map_congr_left fun l hl =>
        chompReturn_of_trimEnd (ht l (List.mem_append_left _ hl))
    unfold lines
    rw [hsplit]
    simp [hps, hne]

/-! ## The end of a text of lines -/

theorem dropBlankEnd_isPrefix (ls : List (List Char)) : dropBlankEnd ls <+: ls :=
  List.rdropWhile_prefix allBlank ls

theorem getLast_dropBlankEnd {ls : List (List Char)} {l : List Char}
    (h : l ∈ (dropBlankEnd ls).getLast?) : allBlank l = false := by
  obtain ⟨ys, hys⟩ := List.getLast?_eq_some_iff.1 h
  have hne : ls.rdropWhile allBlank ≠ [] := by
    rw [show ls.rdropWhile allBlank = ys ++ [l] from hys]
    simp
  have := List.rdropWhile_last_not allBlank ls hne
  simp only [show ls.rdropWhile allBlank = ys ++ [l] from hys, List.getLast_append_singleton] at this
  simpa using this

theorem trimEnd_unlines {ls : List (List Char)} (ht : ∀ l ∈ ls, trimEnd l = l) :
    trimEnd (unlines ls) = unlines (dropBlankEnd ls) := by
  induction ls using List.reverseRecOn with
  | nil => rfl
  | append_singleton ls l ih =>
    have hl : trimEnd l = l := ht l (by simp)
    have ih := ih fun l' hl' => ht l' (List.mem_append_left _ hl')
    unfold dropBlankEnd at ih ⊢
    by_cases hb : allBlank l = true
    · rw [List.rdropWhile_concat_pos _ _ _ hb, ← ih]
      by_cases hls : ls = []
      · subst hls
        simp [trimEnd_eq_nil_iff.2 hb]
      · rw [unlines_append hls (by simp), unlines_singleton]
        exact trimEnd_append_blank (by simp [hb, show isBlank '\n' = true by decide]) _
    · rw [List.rdropWhile_concat_neg _ _ _ hb]
      have hne : trimEnd l ≠ [] := fun h => hb (trimEnd_eq_nil_iff.1 h)
      by_cases hls : ls = []
      · subst hls
        simp [hl]
      · have hnl : trimEnd ('\n' :: l) = '\n' :: l := by
          have := trimEnd_append hne ['\n']
          rwa [hl] at this
        rw [unlines_append hls (by simp), unlines_singleton, trimEnd_append (by simp [hnl]), hnl]

/-! ## Texts that end in a character -/

/-- The text is not empty and does not end with a blank. -/
structure Solid (text : List Char) : Prop where
  ne_nil : text ≠ []
  trimEnd : trimEnd text = text

namespace Solid

variable {a : List Char}

theorem append (h : Solid a) (b : List Char) : Solid (b ++ a) where
  ne_nil := by simp [h.ne_nil]
  trimEnd := by rw [trimEnd_append (by rw [h.trimEnd]; exact h.ne_nil), h.trimEnd]

theorem allBlank (h : Solid a) : allBlank a = false := by
  rw [Bool.eq_false_iff]
  intro hb
  exact h.ne_nil (by rw [← h.trimEnd, trimEnd_eq_nil_iff.2 hb])

/-- What ends with a character is kept when blanks behind it are cut off. -/
theorem prefix_trimEnd (h : Solid a) {cs : List Char} (ha : a <+: cs) : a <+: Text.trimEnd cs := by
  obtain ⟨b, rfl⟩ := ha
  by_cases hb : Text.trimEnd b = []
  · exact ⟨[], by rw [trimEnd_append_blank (trimEnd_eq_nil_iff.1 hb), h.trimEnd, List.append_nil]⟩
  · rw [trimEnd_append hb]
    exact List.prefix_append _ _

/-- The last line of such a text is such a text. -/
theorem exists_last (h : Solid a) :
    ∃ ps last, a.splitOn '\n' = ps ++ [last] ∧ Solid last ∧
      lines a = ps.map chompReturn ++ [last] := by
  obtain ⟨ps, last, hps⟩ := exists_splitOn a
  have ha : a = unlines (ps ++ [last]) := by rw [← hps, unlines, List.intercalate_splitOn]
  have hlast : Solid last := by
    obtain ⟨b, hb⟩ : ∃ b, a = b ++ last := by
      by_cases hnil : ps = []
      · exact ⟨[], by simpa [hnil] using ha⟩
      · refine ⟨unlines ps ++ ['\n'], ?_⟩
        rw [ha, unlines_append hnil (by simp), unlines_singleton]
        simp
    refine ⟨fun hnil => ?_, trimEnd_of_append (hb ▸ h.trimEnd)⟩
    -- An empty last line has a line end before it, unless the text is empty.
    subst hnil
    by_cases hnil : ps = []
    · exact h.ne_nil (by simpa [hnil] using ha)
    · rw [unlines_append hnil (by simp), unlines_singleton] at ha
      have hend := h.trimEnd
      rw [ha, trimEnd_append_blank (by decide)] at hend
      have hle := length_trimEnd_le (unlines ps)
      rw [hend, List.length_append, List.length_singleton] at hle
      omega
  refine ⟨ps, last, hps, hlast, ?_⟩
  rw [lines_of_splitOn hps]
  simp [hlast.ne_nil]

theorem lines_append (h : Solid a) (b : List Char) : lines (a ++ '\n' :: b) = lines a ++ lines b := by
  obtain ⟨ps, last, hps, hlast, ha⟩ := h.exists_last
  obtain ⟨qs, last', hqs⟩ := exists_splitOn b
  have hsplit : (a ++ '\n' :: b).splitOn '\n' = (ps ++ last :: qs) ++ [last'] := by
    rw [List.splitOn_append_cons_self, hps, hqs]
    simp
  rw [ha, lines_of_splitOn hsplit, lines_of_splitOn hqs]
  simp [chompReturn_of_trimEnd hlast.trimEnd]

end Solid

theorem solid_unlines_concat (ls : List (List Char)) {last : List Char} (h : Solid last) :
    Solid (unlines (ls ++ [last])) := by
  by_cases hnil : ls = []
  · simpa [hnil] using h
  · rw [unlines_append hnil (by simp), unlines_singleton]
    have := h.append (unlines ls ++ ['\n'])
    simpa using this

/-- The text is not empty and neither starts nor ends with a blank. -/
structure Upright (text : List Char) : Prop extends Solid text where
  trimStart : trimStart text = text

/-- The first line starts the text. -/
theorem head_lines_isPrefix {text l : List Char} (h : l ∈ (lines text).head?) : l <+: text := by
  have htext : text = unlines (text.splitOn '\n') := (List.intercalate_splitOn '\n').symm
  obtain ⟨ps, last, hps⟩ := exists_splitOn text
  rw [lines_of_splitOn hps] at h
  rw [hps] at htext
  cases ps with
  | nil =>
    obtain rfl : last = l := by
      cases last with
      | nil => simp at h
      | cons c cs => simpa using h
    rw [htext]
    simp
  | cons p ps =>
    obtain rfl : chompReturn p = l := by simpa using h
    obtain ⟨b, -, hb⟩ := exists_chompReturn p
    rw [htext, List.cons_append, unlines_cons (by simp)]
    refine List.IsPrefix.trans ⟨b, hb.symm⟩ (List.prefix_append _ _)

theorem Upright.trimStart_head {text l : List Char} (h : Upright text) (hl : l ∈ (lines text).head?) :
    Text.trimStart l = l := by
  obtain ⟨rest, hrest⟩ := head_lines_isPrefix hl
  cases l with
  | nil => rfl
  | cons c cs =>
    have hstart := h.trimStart
    rw [← hrest, List.cons_append] at hstart
    exact trimStart_cons (isBlank_head_trimStart hstart) cs

/-- The first line of a text that starts with a character is not blank. -/
theorem Upright.allBlank_head {text l : List Char} (h : Upright text)
    (hl : l ∈ (lines text).head?) : allBlank l = false := by
  obtain ⟨c, cs, rfl⟩ := List.exists_cons_of_ne_nil h.ne_nil
  have hc := isBlank_head_trimStart h.trimStart
  obtain ⟨qs, last, hsplit⟩ := exists_splitOn (c :: cs)
  have htext : unlines (qs ++ [last]) = c :: cs := by
    rw [← hsplit]
    exact List.intercalate_splitOn '\n'
  rw [lines_of_splitOn hsplit] at hl
  rw [Bool.eq_false_iff]
  intro hblank
  cases qs with
  | nil =>
    rw [List.nil_append, unlines_singleton] at htext
    rw [htext] at hl
    obtain rfl : c :: cs = l := Option.some.inj hl
    rw [allBlank_cons, hc] at hblank
    cases hblank
  | cons q qs =>
    obtain rfl : chompReturn q = l := Option.some.inj hl
    obtain ⟨b, hb, hq⟩ := exists_chompReturn q
    have hqb : allBlank q = true := by rw [hq, allBlank_append, hblank, hb]; rfl
    rw [List.cons_append, unlines_cons (by simp)] at htext
    cases q with
    | nil =>
      obtain ⟨rfl, -⟩ := List.cons.inj htext
      exact absurd hc (by decide)
    | cons d q =>
      obtain ⟨rfl, -⟩ := List.cons.inj htext
      rw [allBlank_cons, hc] at hqb
      cases hqb

theorem lines_lineFeed_cons (b : List Char) : lines ('\n' :: b) = [] :: lines b := by
  obtain ⟨qs, last, hqs⟩ := exists_splitOn b
  have hsplit : ('\n' :: b).splitOn '\n' = ([] :: qs) ++ [last] := by
    have h := List.splitOn_append_cons_self (a := '\n') [] b
    rwa [List.nil_append, List.splitOn_nil, hqs] at h
  rw [lines_of_splitOn hsplit, lines_of_splitOn hqs]
  rfl

theorem lines_of_not_mem {l : List Char} (hn : '\n' ∉ l) (hne : l ≠ []) : lines l = [l] := by
  unfold lines
  rw [List.splitOn_eq_singleton hn]
  simp [hne]

theorem lines_unlines_of_solid {texts : List (List Char)} (h : ∀ text ∈ texts, Solid text) :
    lines (unlines texts) = texts.flatMap lines := by
  induction texts with
  | nil => rfl
  | cons text texts ih =>
    have ih := ih fun t ht => h t (List.mem_cons_of_mem _ ht)
    by_cases hnil : texts = []
    · simp [hnil]
    · rw [unlines_cons hnil, (h text List.mem_cons_self).lines_append, ih, List.flatMap_cons]

theorem solid_unlines {texts : List (List Char)} (h : ∀ text ∈ texts, Solid text)
    (hne : texts ≠ []) : Solid (unlines texts) := by
  induction texts with
  | nil => exact absurd rfl hne
  | cons text texts ih =>
    by_cases hnil : texts = []
    · simpa [hnil] using h text List.mem_cons_self
    · rw [unlines_cons hnil]
      have := (ih (fun t ht => h t (List.mem_cons_of_mem _ ht)) hnil).append (text ++ ['\n'])
      simpa using this

end TerraLint.Text
