import Mathlib.Data.List.MinMax
import TerraLint.Layout.Tree
import TerraLint.Proofs.Source.Lookup

/-!
# The hull of a section

The range of a section grows with each argument that is added. It starts where the first argument
does that no other one starts above, and stops where the first one does that no other one stops below:
of the arguments on one line the one that was added first gives the column.

* `SourceRange.unionLines_of_line`: the lines of two ranges together, once something was seen.
* `Hull`: a range goes from the first such argument to the first such argument.
* `Hull.add`, `hull_ofArgs`: one argument more, and all arguments of a section.
* `range?_ofArgs_eq_none_iff`: a section without a range.
-/

namespace TerraLint

theorem SourceRange.unionLines_of_line {a : SourceRange} (h : 0 < a.start.line) (b : SourceRange) :
    a.unionLines b =
      ⟨a.file, if b.start.line < a.start.line then b.start else a.start,
        if a.stop.line < b.stop.line then b.stop else a.stop⟩ := by
  rw [unionLines, isNull_of_line h, if_neg Bool.false_ne_true]

namespace Layout

/-- A range starts with the first of the arguments that start on the least line, and stops with the
first of those that stop on the greatest line. -/
structure Hull (range : SourceRange) (args : List Arg) : Prop where
  file : ∃ a ∈ args, range.file = a.range.file
  start : ∃ a ∈ args.argmin (·.range.start.line), range.start = a.range.start
  stop : ∃ a ∈ args.argmax (·.range.stop.line), range.stop = a.range.stop

namespace Hull

variable {range : SourceRange} {args : List Arg}

theorem singleton (a : Arg) : Hull a.range [a] :=
  ⟨⟨a, List.mem_singleton_self a, rfl⟩, ⟨a, rfl, rfl⟩, ⟨a, rfl, rfl⟩⟩

theorem exists_start (h : Hull range args) :
    ∃ a ∈ args, range.start = a.range.start ∧
      ∀ b ∈ args, a.range.start.line ≤ b.range.start.line := by
  obtain ⟨a, ha, hstart⟩ := h.start
  refine ⟨a, List.argmin_mem ha, hstart, fun b hb => ?_⟩
  have hle := List.le_of_mem_argmin hb ha
  exact hle

theorem exists_stop (h : Hull range args) :
    ∃ a ∈ args, range.stop = a.range.stop ∧
      ∀ b ∈ args, b.range.stop.line ≤ a.range.stop.line := by
  obtain ⟨a, ha, hstop⟩ := h.stop
  refine ⟨a, List.argmax_mem ha, hstop, fun b hb => ?_⟩
  have hle := List.le_of_mem_argmax hb ha
  exact hle

theorem line_pos (h : Hull range args) (hline : ∀ a ∈ args, 0 < a.range.start.line) :
    0 < range.start.line := by
  obtain ⟨a, ha, hstart, -⟩ := h.exists_start
  rw [hstart]
  exact hline a ha

/-- One argument more moves a bound only if its line wins. -/
theorem add {s : Section} (h : Hull s.range args) (hline : ∀ a ∈ args, 0 < a.range.start.line)
    (a : Arg) : Hull (s.add a).range (args ++ [a]) := by
  obtain ⟨b, hb, hfile⟩ := h.file
  obtain ⟨first, hfirst, hstart⟩ := h.start
  obtain ⟨last, hlast, hstop⟩ := h.stop
  have hadd : (s.add a).range = s.range.unionLines a.range := rfl
  rw [hadd, SourceRange.unionLines_of_line (h.line_pos hline), hstart, hstop]
  refine ⟨⟨b, List.mem_append_left _ hb, hfile⟩, ?_, ?_⟩
  · rw [List.argmin_concat, Option.mem_def.1 hfirst]
    by_cases hlt : a.range.start.line < first.range.start.line
    · exact ⟨a, if_pos hlt, if_pos hlt⟩
    · exact ⟨first, if_neg hlt, if_neg hlt⟩
  · rw [List.argmax_concat, Option.mem_def.1 hlast]
    by_cases hlt : last.range.stop.line < a.range.stop.line
    · exact ⟨a, if_pos hlt, if_pos hlt⟩
    · exact ⟨last, if_neg hlt, if_neg hlt⟩

end Hull

namespace Section

theorem ofArgs_concat (kind : SectionKind) (args : List Arg) (a : Arg) :
    ofArgs kind (args ++ [a]) = (ofArgs kind args).add a := List.foldl_concat ..

variable {args : List Arg} (hline : ∀ a ∈ args, 0 < a.range.start.line) (kind : SectionKind)

include hline

theorem hull_ofArgs (hne : args ≠ []) : Hull (ofArgs kind args).range args := by
  induction args using List.reverseRecOn with
  | nil => exact absurd rfl hne
  | append_singleton args a ih =>
    rw [ofArgs_concat]
    by_cases hnil : args = []
    · -- The range of an empty section is the null range, so that it takes over the first one.
      subst hnil
      exact .singleton a
    · have hline' : ∀ b ∈ args, 0 < b.range.start.line :=
        fun b hb => hline b (List.mem_append_left _ hb)
      exact (ih hline' hnil).add hline' a

theorem range?_ofArgs (hne : args ≠ []) :
    (ofArgs kind args).range? = some (ofArgs kind args).range := by
  have hpos := (hull_ofArgs hline kind hne).line_pos hline
  rw [range?, SourceRange.isNull_of_line hpos, if_neg Bool.false_ne_true]

theorem range?_ofArgs_eq_none_iff : (ofArgs kind args).range? = none ↔ args = [] := by
  constructor
  · intro hnone
    by_contra hne
    rw [range?_ofArgs hline kind hne] at hnone
    cases hnone
  · rintro rfl
    rfl

theorem hull_of_range? {range : SourceRange} (h : (ofArgs kind args).range? = some range) :
    Hull range args := by
  have hne : args ≠ [] := by
    rintro rfl
    cases h
  rw [range?_ofArgs hline kind hne] at h
  obtain rfl := Option.some.inj h
  exact hull_ofArgs hline kind hne

end Section

end Layout

end TerraLint
