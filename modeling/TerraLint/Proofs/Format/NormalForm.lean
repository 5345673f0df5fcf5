import Mathlib.Order.Bounds.Basic
import TerraLint.Proofs.Format.Conservation

/-!
# The normal form of a text

What the lines of a text in its normal layout look like: how far they are indented, where the signs
of their assignments stand, and that no blank ends them.

* `IsRun`: neighbouring rows that are aligned with each other, as many as possible.
* `IsRun.widths_eq`: the key column of a run is as wide as its longest key.
* `Row.isNormal_render`: a row that is laid out is in normal form.
* `format_normal`: the normal form of a whole text.
-/

namespace TerraLint

open Text

namespace Format

/-! ## Runs of aligned rows -/

/-- Whether a row takes part in alignment at a level. -/
def Row.AlignedAt (level : Nat) (row : Row) : Prop := row.isAligned = true ∧ row.level = level

instance (level : Nat) : DecidablePred (Row.AlignedAt level) := fun row =>
  inferInstanceAs (Decidable (row.isAligned = true ∧ row.level = level))

/-- Neighbouring rows that are all aligned at a level, while the rows next to them are not. -/
structure IsRun (level : Nat) (before run after : List Row) : Prop where
  ne_nil : run ≠ []
  /-- All rows are aligned at the level. -/
  aligned : ∀ row ∈ run, row.AlignedAt level
  /-- The run starts as early as possible. -/
  start : ∀ row ∈ before.getLast?, ¬row.AlignedAt level
  /-- The run stops as late as possible. -/
  stop : ∀ row ∈ after.head?, ¬row.AlignedAt level

theorem sameRun_iff {a b : Row} :
    a.sameRun b = true ↔ ∃ level, a.AlignedAt level ∧ b.AlignedAt level := by
  unfold Row.sameRun Row.AlignedAt
  constructor
  · intro h
    simp only [Bool.and_eq_true, beq_iff_eq] at h
    exact ⟨b.level, ⟨h.1.1, h.2⟩, h.1.2, rfl⟩
  · rintro ⟨level, ⟨ha, rfl⟩, hb, hlevel⟩
    simp [ha, hb, hlevel]

/-- A row that is aligned at one level is in a run with no row that is not. -/
theorem sameRun_eq_false {a b : Row} {level : Nat} (ha : a.AlignedAt level)
    (hb : ¬b.AlignedAt level) : a.sameRun b = false ∧ b.sameRun a = false := by
  simp only [← Bool.not_eq_true, sameRun_iff]
  constructor
  · rintro ⟨l, hal, hbl⟩
    obtain rfl : level = l := ha.2.symm.trans hal.2
    exact hb hbl
  · rintro ⟨l, hbl, hal⟩
    obtain rfl : level = l := ha.2.symm.trans hal.2
    exact hb hbl

/-- Each row that is aligned at a level is part of a run. -/
theorem exists_isRun {level : Nat} {row : Row} (h : row.AlignedAt level) (before after : List Row) :
    ∃ outer inner inner' outer', before = outer ++ inner ∧ after = inner' ++ outer' ∧
      IsRun level outer (inner ++ row :: inner') outer' := by
  refine ⟨_, _, _, _, (List.rdropWhile_append_rtakeWhile (p := Row.AlignedAt level)).symm,
    (List.takeWhile_append_dropWhile (p := Row.AlignedAt level)).symm, ?_⟩
  exact {
    ne_nil := by simp
    aligned := by
      intro other hother
      rcases List.mem_append.1 hother with hbefore | hafter
      · simpa using List.mem_rtakeWhile_imp hbefore
      rcases List.mem_cons.1 hafter with rfl | hafter
      · exact h
      · simpa using List.mem_takeWhile_imp hafter
    start := by
      intro other hother
      obtain ⟨hne, rfl⟩ := List.mem_getLast?_eq_getLast hother
      simpa using List.rdropWhile_last_not _ _ hne
    stop := by
      intro other hother
      have hne := List.ne_nil_of_mem (List.mem_of_mem_head? hother)
      obtain rfl : (after.dropWhile _).head hne = other :=
        (List.head_eq_iff_head?_eq_some hne).2 hother
      simpa using List.head_dropWhile_not _ hne }

theorem exists_isRun_of_getElem? {level : Nat} {rs : List Row} {i : Nat} {row : Row}
    (hrow : rs[i]? = some row) (h : row.AlignedAt level) :
    ∃ before run after j, rs = before ++ (run ++ after) ∧ IsRun level before run after ∧
      i = before.length + j ∧ run[j]? = some row := by
  obtain ⟨hi, rfl⟩ := List.getElem?_eq_some_iff.1 hrow
  obtain ⟨outer, inner, inner', outer', hbefore, hafter, hrun⟩ :=
    exists_isRun h (rs.take i) (rs.drop (i + 1))
  refine ⟨outer, _, outer', inner.length, ?_, hrun, ?_, by simp⟩
  · rw [List.append_assoc, List.cons_append, ← hafter, ← List.append_assoc, ← hbefore,
      ← List.drop_eq_getElem_cons hi, List.take_append_drop]
  · have hlen := congrArg List.length hbefore
    rw [List.length_take_of_le hi.le, List.length_append] at hlen
    exact hlen

theorem isGreatest_foldl_max {ns : List Nat} (h : ns ≠ []) :
    IsGreatest {n | n ∈ ns} (ns.foldl max 0) := by
  obtain ⟨n, ns, rfl⟩ := List.exists_cons_of_ne_nil h
  have hmax : (n :: ns).max? = some ((n :: ns).foldl max 0) := by
    rw [List.max?_cons', List.foldl_cons, Nat.zero_max]
  exact List.max?_eq_some_iff.1 hmax

theorem isGreatest_runWidth {level : Nat} {run : List Row} (hne : run ≠ [])
    (h : ∀ row ∈ run, row.AlignedAt level) :
    IsGreatest {n | ∃ row ∈ run, row.keyLength = n} (runWidth run) := by
  have hfilter : run.filter Row.isAligned = run :=
    List.filter_eq_self.2 fun row hrow => (h row hrow).1
  have hmax : IsGreatest {n | n ∈ run.map Row.keyLength} _ :=
    isGreatest_foldl_max (by simpa using hne)
  simpa only [runWidth, hfilter, List.mem_map] using hmax

/-- Rows that are all aligned at one level have one key column. -/
theorem widths_of_aligned {level : Nat} {run : List Row} (hne : run ≠ [])
    (h : ∀ row ∈ run, row.AlignedAt level) :
    widths run = List.replicate run.length (runWidth run) := by
  have hchain : (run.map Row.place).IsChain fun x y => linked x y = true := by
    rw [List.isChain_map]
    refine List.Pairwise.isChain (List.pairwise_of_forall_mem_list fun a ha b hb => ?_)
    rw [linked_place, sameRun_iff]
    exact ⟨level, h a ha, h b hb⟩
  unfold widths placeWidths
  rw [List.splitBy_of_isChain (by simpa using hne) hchain, List.flatMap_singleton, placeWidth_map,
    List.length_map]

/-- The key column of a run is as wide as its longest key. -/
theorem IsRun.widths_eq {level : Nat} {before run after : List Row}
    (h : IsRun level before run after) :
    widths (before ++ (run ++ after)) =
      widths before ++ (List.replicate run.length (runWidth run) ++ widths after) := by
  rw [widths_append_of_apart, widths_append_of_apart, widths_of_aligned h.ne_nil h.aligned]
  · intro x hx y hy
    exact (sameRun_eq_false (h.aligned x (List.mem_of_mem_getLast? hx)) (h.stop y hy)).1
  · intro x hx y hy
    rw [List.head?_append_of_ne_nil _ h.ne_nil] at hy
    exact (sameRun_eq_false (h.aligned y (List.mem_of_mem_head? hy)) (h.start x hx)).2

/-- A row that is not aligned has no key column. -/
theorem widths_of_not_aligned {rs : List Row} {i : Nat} {row : Row} (h : rs[i]? = some row)
    (hrow : row.isAligned = false) : (widths rs)[i]? = some 0 := by
  obtain ⟨hi, rfl⟩ := List.getElem?_eq_some_iff.1 h
  have hsplit : rs = rs.take i ++ ([rs[i]] ++ rs.drop (i + 1)) := by
    rw [List.singleton_append, ← List.drop_eq_getElem_cons hi, List.take_append_drop]
  have hsingle : widths [rs[i]] = [0] := by
    have hplace : rs[i].place = none := by simp [Row.place, hrow]
    rw [widths, List.map_singleton, hplace]
    rfl
  have hlen : (widths (rs.take i)).length = i := by simp; omega
  conv_lhs => rw [hsplit]
  rw [widths_append_of_apart, widths_append_of_apart, hsingle,
    List.getElem?_append_right (by omega), hlen, Nat.sub_self]
  · rfl
  · intro x hx y _
    obtain rfl : rs[i] = x := by simpa using hx
    simp [Row.sameRun, hrow]
  · intro x _ y hy
    obtain rfl : rs[i] = y := by simpa [hi] using hy
    simp [Row.sameRun, hrow]

/-! ## Rows in normal form -/

/-- A line assigns at a level: its indentation, the key, spaces up to the sign at a column, counted
in characters, and a space before a value that is not empty. -/
def AssignsAt (a : Assignment) (level column : Nat) (out : List Char) : Prop :=
  ∃ gap, column = 2 * level + a.key.length + gap ∧
    out = List.replicate (2 * level) ' ' ++ a.key ++ List.replicate gap ' ' ++
      '=' :: (if a.value = [] then [] else ' ' :: a.value)

/-- A line is a row in normal form. -/
structure Row.IsNormal (row : Row) (out : List Char) : Prop where
  trimEnd_eq : trimEnd out = out
  /-- Code is indented by two spaces for each level, and a character follows that is no blank. -/
  indented : row.line.kind = .code →
    ∃ rest, out = List.replicate (2 * row.level) ' ' ++ rest ∧ rest ≠ [] ∧ trimStart rest = rest
  /-- Both sides of an assignment are trimmed, and its sign stands behind at least one space. -/
  assigns : ∀ a, row.assignment = some a → trim a.key = a.key ∧ trim a.value = a.value ∧
    ∃ column, 2 * row.level + a.key.length < column ∧ AssignsAt a row.level column out
  /-- Just one space stands before the sign where the brackets do not balance. -/
  unaligned : ∀ a, row.assignment = some a → row.line.net ≠ 0 →
    AssignsAt a row.level (2 * row.level + a.key.length + 1) out

theorem assignsAt_render (a : Assignment) (level width : Nat) :
    AssignsAt a level (2 * level + max a.key.length width + 1)
      (List.replicate (2 * level) ' ' ++ a.render width) := by
  refine ⟨width - a.key.length + 1, by omega, ?_⟩
  rw [Assignment.render_eq]
  by_cases hv : a.value = [] <;> simp [hv]

/-- Only code assigns. -/
theorem Row.parse?_of_assignment {line : Line} {level : Nat} {a : Assignment}
    (h : (Row.ofLine line level).assignment = some a) :
    line.kind = .code ∧ Assignment.parse? (trim line.raw) = some a := by
  unfold Row.ofLine at h
  split at h
  · exact ⟨‹_›, h⟩
  · cases h

theorem Row.render_assignment {line : Line} {level : Nat} {a : Assignment}
    (h : (Row.ofLine line level).assignment = some a) (width : Nat) :
    (Row.ofLine line level).render width =
      List.replicate (2 * level) ' ' ++ a.render width := by
  obtain ⟨hcode, hparse⟩ := Row.parse?_of_assignment h
  rw [Row.render_code hcode, codeText, hparse]

theorem Assignment.trim_key {content : List Char} {a : Assignment}
    (h : Assignment.parse? content = some a) : trim a.key = a.key := by
  obtain ⟨b, value, hkey, -⟩ := Assignment.parse?_eq_some h
  obtain ⟨-, hstart, hend, -⟩ := Assignment.key?_eq_some hkey
  rw [trim_eq, hstart, hend]

/-- A row that is laid out is in normal form, if it has no key column where it is not aligned. -/
theorem Row.isNormal_render {line : Line} {level width : Nat}
    (hline : line.kind = .code → allBlank line.raw = false)
    (hwidth : (Row.ofLine line level).isAligned = false → width = 0) :
    (Row.ofLine line level).IsNormal ((Row.ofLine line level).render width) where
  trimEnd_eq := Relaid.trimEnd_eq ⟨level, width, rfl⟩ hline
  indented hcode := by
    refine ⟨codeText width line.raw, Row.render_code hcode level width, fun hnil => ?_, ?_⟩
    · have hblank := hline hcode
      rw [← Bool.not_eq_true, ← squeeze_eq_nil_iff, ← squeeze_codeText width, hnil] at hblank
      exact hblank rfl
    · have htrim := trim_codeText width line.raw
      rw [← htrim, trim_eq, trimStart_trimEnd_comm, trimStart_trimStart]
  assigns a ha := by
    obtain ⟨-, hparse⟩ := Row.parse?_of_assignment ha
    refine ⟨Assignment.trim_key hparse, Assignment.trim_value hparse, _, ?_,
      Row.render_assignment ha width ▸ assignsAt_render a level width⟩
    show 2 * level + _ < _
    omega
  unaligned a ha hnet := by
    have hzero : width = 0 := by
      refine hwidth ?_
      simp only [Row.isAligned, Bool.and_eq_false_iff, beq_eq_false_iff_ne]
      exact Or.inr hnet
    subst hzero
    have hassigns := assignsAt_render a level 0
    rw [Nat.max_zero, ← Row.render_assignment ha 0] at hassigns
    exact hassigns

end Format

open Format

/-- Each row of a text is laid out with the width of its key column. -/
theorem getElem?_rows {text : List Char} {i : Nat} {row : Row} (h : (rows text)[i]? = some row) :
    ∃ width, (widths (rows text))[i]? = some width ∧
      (layLines (lines text))[i]? = some (row.render width) ∧ row.IsNormal (row.render width) := by
  obtain ⟨line, level, hline, hlevel, rfl⟩ := List.getElem?_zipWith_eq_some.1 h
  obtain ⟨level', width, hlevel', hwidth, hout⟩ := getElem?_layLines hline
  obtain rfl : level = level' := Option.some.inj (hlevel.symm.trans hlevel')
  refine ⟨width, hwidth, hout, Row.isNormal_render ?_ fun hrow => ?_⟩
  · exact (Progress.run_kind (List.mem_of_getElem? hline)).2
  · exact Option.some.inj (hwidth.symm.trans (widths_of_not_aligned h hrow))

/-- The lines of a text in its normal layout are its rows as laid out. -/
theorem getElem?_lines_format {text : List Char} {i : Nat} {out : List Char}
    (h : (lines (format text))[i]? = some out) :
    (layLines (lines text))[i]? = some out := by
  rw [lines_format, dropBlankEnd_eq_take, List.getElem?_take] at h
  split at h
  · exact h
  · cases h

/-- No row of code is blank, so it is a line of the text in its normal layout. -/
theorem exists_out_of_code {text : List Char} {i : Nat} {row : Row}
    (h : (rows text)[i]? = some row) (hcode : row.line.kind = .code) :
    ∃ out, (lines (format text))[i]? = some out := by
  obtain ⟨width, -, hout, hnormal⟩ := getElem?_rows h
  obtain ⟨rest, hrest, hne, hstart⟩ := hnormal.indented hcode
  refine ⟨row.render width, ?_⟩
  rw [lines_format, dropBlankEnd_eq_take, List.getElem?_take]
  split
  · exact hout
  · rename_i hkept
    have hmem : row.render width ∈ (layLines (lines text)).drop (keptLines (lines text)) := by
      refine List.mem_of_getElem? (i := i - keptLines (lines text)) ?_
      rw [List.getElem?_drop, Nat.add_sub_cancel' (Nat.not_lt.1 hkept)]
      exact hout
    have hblank := allBlank_of_mem_drop hmem
    rw [hrest, allBlank_append, Bool.and_eq_true] at hblank
    exact absurd (hstart.symm.trans (trimStart_eq_nil_iff.2 hblank.2)) hne

/-- The sign of each row of a run stands one space behind the longest key. -/
theorem exists_assignsAt_of_run {text : List Char} {level : Nat} {before run after : List Row}
    (hrows : rows text = before ++ (run ++ after)) (hrun : IsRun level before run after) {j : Nat}
    {row : Row} (hrow : run[j]? = some row) :
    ∃ a out, row.assignment = some a ∧ (lines (format text))[before.length + j]? = some out ∧
      AssignsAt a level (2 * level + runWidth run + 1) out := by
  have hj : j < run.length := (List.getElem?_eq_some_iff.1 hrow).1
  have hmem : row ∈ run := List.mem_of_getElem? hrow
  have hat : (rows text)[before.length + j]? = some row := by
    rw [hrows, List.getElem?_append_right (by omega), Nat.add_sub_cancel_left,
      List.getElem?_append_left hj, hrow]
  have hwidthAt : (widths (rows text))[before.length + j]? = some (runWidth run) := by
    rw [hrows, hrun.widths_eq, List.getElem?_append_right (by simp), length_widths,
      Nat.add_sub_cancel_left, List.getElem?_append_left (by simpa using hj)]
    simp [hj]
  obtain ⟨haligned, rfl⟩ := hrun.aligned row hmem
  obtain ⟨a, ha⟩ : ∃ a, row.assignment = some a := by
    rw [Row.isAligned, Bool.and_eq_true] at haligned
    exact Option.isSome_iff_exists.1 haligned.1
  obtain ⟨line, -, level, rfl⟩ := exists_ofLine (List.mem_of_getElem? hat)
  obtain ⟨out, hout⟩ := exists_out_of_code hat (Row.parse?_of_assignment ha).1
  obtain ⟨width, hwidth, hlay, -⟩ := getElem?_rows hat
  obtain rfl := Option.some.inj (hwidth.symm.trans hwidthAt)
  refine ⟨a, out, ha, hout, ?_⟩
  -- The key is no longer than the longest of the run, so it is padded up to that.
  have hkey : a.key.length ≤ runWidth run := by
    refine (isGreatest_runWidth hrun.ne_nil hrun.aligned).2 ⟨_, hmem, ?_⟩
    rw [Row.keyLength, ha]
    rfl
  have hassigns := assignsAt_render a level (runWidth run)
  rw [← Row.render_assignment ha, Nat.max_eq_right hkey] at hassigns
  rwa [Option.some.inj ((getElem?_lines_format hout).symm.trans hlay)]

/-- The normal form of a text. No blank stands at the end of the text or of a line, each line is a
row in normal form, no code is lost, an assignment whose brackets balance is part of a run, and the
signs of a run stand in one column, one space behind the longest key. -/
theorem format_normal (text : List Char) :
    trimEnd (format text) = format text ∧
    (∀ (i : Nat) (out : List Char), (lines (format text))[i]? = some out →
      ∃ row, (rows text)[i]? = some row ∧ row.IsNormal out) ∧
    (∀ (i : Nat) (row : Row), (rows text)[i]? = some row → row.line.kind = .code →
      ∃ out, (lines (format text))[i]? = some out) ∧
    (∀ (i : Nat) (row : Row) (a : Assignment), (rows text)[i]? = some row →
      row.assignment = some a → row.line.net = 0 →
      ∃ before run after j, rows text = before ++ (run ++ after) ∧
        IsRun row.level before run after ∧ i = before.length + j ∧ run[j]? = some row) ∧
    ∀ (level : Nat) (before run after : List Row), rows text = before ++ (run ++ after) →
      IsRun level before run after →
      ∃ width, IsGreatest {n | ∃ row ∈ run, row.keyLength = n} width ∧
        ∀ (j : Nat) (row : Row), run[j]? = some row →
          ∃ a out, row.assignment = some a ∧ (lines (format text))[before.length + j]? = some out ∧
            AssignsAt a level (2 * level + width + 1) out := by
  refine ⟨trimEnd_trimEnd _, fun i out hout => ?_, fun i row => exists_out_of_code,
    fun i row a hrow ha hnet => ?_, fun level before run after hrows hrun => ?_⟩
  · have hlay := getElem?_lines_format hout
    have hi : i < (rows text).length := by
      have hlen := (List.getElem?_eq_some_iff.1 hlay).1
      rwa [length_layLines, ← length_lineRows] at hlen
    obtain ⟨width, -, hrender, hnormal⟩ := getElem?_rows (List.getElem?_eq_getElem hi)
    refine ⟨_, List.getElem?_eq_getElem hi, ?_⟩
    rwa [Option.some.inj (hlay.symm.trans hrender)]
  · have haligned : row.AlignedAt row.level := ⟨by simp [Row.isAligned, ha, hnet], rfl⟩
    exact exists_isRun_of_getElem? hrow haligned
  · exact ⟨runWidth run, isGreatest_runWidth hrun.ne_nil hrun.aligned, fun j row hrow =>
      exists_assignsAt_of_run hrows hrun hrow⟩

end TerraLint
