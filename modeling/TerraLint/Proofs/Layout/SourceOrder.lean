import TerraLint.Proofs.Layout.Sections

/-!
# The order of the source

Positions in one file compare as their offsets do, so the arguments of a section, sorted by where
they stand, come in the order of the offsets at which they start. In which order they were added a
section does not tell: its lines are the least and the greatest of its arguments, and arguments that
start at different positions have one order in the source, hence one canonical order. Columns and
shared positions can tell: of the arguments that win with the same line the first one gives the
column, and arguments at one position stay as they came.

* `standsIn_build`: the arguments of a layout tree stand in the file of the tree.
* `standsBefore_iff`: which of two arguments stands before the other.
* `sourceOrder_by_byte`: the order of positions, and of the arguments of a section.
* `line_range?_perm`, `sourceOrder_perm`: the arguments of a section added in another order.
* `range?_hull`: the range of a section, and what does not depend on the order of insertion.
-/

namespace TerraLint

open Text Hcl

theorem min?_eq_of_perm {xs ys : List Nat} (h : xs.Perm ys) : xs.min? = ys.min? := by
  refine Option.ext fun n => ?_
  simp only [List.min?_eq_some_iff, h.mem_iff]

theorem max?_eq_of_perm {xs ys : List Nat} (h : xs.Perm ys) : xs.max? = ys.max? := by
  refine Option.ext fun n => ?_
  simp only [List.max?_eq_some_iff, h.mem_iff]

namespace Layout

/-- The argument stands somewhere in a file. -/
def Arg.StandsIn (file : SourceFile) (a : Arg) : Prop :=
  ∃ start stop, a.range = file.range start stop

theorem Arg.StandsIn.line_pos {name : String} {text : List Char} {a : Arg}
    (h : a.StandsIn (.parse name text)) : 0 < a.range.start.line := by
  obtain ⟨start, stop, hrange⟩ := h
  rw [hrange]
  exact SourceFile.line_range_pos name text start stop

theorem Arg.StandsIn.file_eq {file : SourceFile} {a : Arg} (h : a.StandsIn file) :
    a.range.file = file.name := by
  obtain ⟨start, stop, hrange⟩ := h
  rw [hrange]
  rfl

/-- Every argument of a layout tree stands in the file that the tree was built from. -/
theorem Tree.standsIn_build {file : SourceFile} {cl : Classifier} {isRoot : Bool}
    {path : List String} {b : Block} {s : Section}
    (hs : s ∈ (Tree.build file cl isRoot path b).sections) : ∀ a ∈ s.args, a.StandsIn file := by
  obtain ⟨kind, labels, body, span⟩ := b
  rw [Tree.build] at hs
  obtain ⟨slot, -, rfl⟩ := List.mem_map.1 hs
  intro a ha
  rw [Section.ofArgs_args] at ha
  obtain ⟨arg, harg, rfl⟩ := List.mem_map.1 ha
  rcases List.mem_append.1 (List.mem_filter.1 harg).1 with harg | harg
  · obtain ⟨a, -, rfl⟩ := List.mem_map.1 harg
    exact ⟨a.span.start, a.span.stop, rfl⟩
  · rw [blockArgs_eq_map] at harg
    obtain ⟨b, -, heq⟩ := List.mem_map.1 harg
    have hrange := @itemArg_range file cl isRoot kind path (.block b)
    rw [heq] at hrange
    exact ⟨b.span.start, b.span.stop, hrange⟩

namespace Section

variable {name : String} {text : List Char}

theorem standsBefore_total (a b : Arg) : standsBefore a b = true ∨ standsBefore b a = true := by
  unfold standsBefore
  rw [Pos.notAfter_iff, Pos.notAfter_iff]
  omega

theorem standsBefore_trans (a b c : Arg) (hab : standsBefore a b = true)
    (hbc : standsBefore b c = true) : standsBefore a c = true := by
  unfold standsBefore at hab hbc ⊢
  rw [Pos.notAfter_iff] at hab hbc ⊢
  omega

/-- Of two arguments in one file the one that starts at the smaller offset stands before the
other. -/
theorem standsBefore_iff {a b : Arg} (ha : a.StandsIn (.parse name text))
    (hb : b.StandsIn (.parse name text)) :
    standsBefore a b = true ↔ a.range.start.byte ≤ b.range.start.byte := by
  obtain ⟨start, stop, hrange⟩ := ha
  obtain ⟨start', stop', hrange'⟩ := hb
  unfold standsBefore
  rw [hrange, hrange']
  exact LineIndex.notAfter_pos_iff

theorem pairwise_sourceOrder {s : Section} (h : ∀ a ∈ s.args, a.StandsIn (.parse name text)) :
    s.sourceOrder.Pairwise fun a b => a.range.start.byte ≤ b.range.start.byte := by
  have hsorted := pairwise_sortBy standsBefore_total standsBefore_trans s.args
  refine hsorted.imp_of_mem ?_
  intro a b ha hb hab
  exact (standsBefore_iff (h a (mem_sortBy.1 ha)) (h b (mem_sortBy.1 hb))).1 hab

end Section

/-- Positions in a text compare as the boundaries that they stand for, so that only the positions of
one byte are equal. The arguments of a section that all stand in one file come, as they stand in the
source, in ascending order of the offsets at which they start; the sections of a layout tree are
such. -/
theorem sourceOrder_by_byte (name : String) (text : List Char) :
    (∀ m n, ((SourceFile.parse name text).pos m).compare ((SourceFile.parse name text).pos n) =
        compare (floorBoundary m text) (floorBoundary n text) ∧
      (((SourceFile.parse name text).pos m).compare ((SourceFile.parse name text).pos n) = .eq ↔
        floorBoundary m text = floorBoundary n text)) ∧
    (∀ (cl : Classifier) (isRoot : Bool) (path : List String) (b : Block),
      ∀ s ∈ (Tree.build (.parse name text) cl isRoot path b).sections,
        ∀ a ∈ s.args, a.StandsIn (.parse name text)) ∧
    ∀ s : Section, (∀ a ∈ s.args, a.StandsIn (.parse name text)) →
      s.sourceOrder.Perm s.args ∧
      (s.sourceOrder.Pairwise fun a b => a.range.start.byte ≤ b.range.start.byte) ∧
      ((s.args.Pairwise fun a b => a.range.start.byte ≠ b.range.start.byte) →
        s.sourceOrder.Pairwise fun a b => a.range.start.byte < b.range.start.byte) := by
  refine ⟨?_, ?_, ?_⟩
  · intro m n
    have hcompare := LineIndex.compare_pos text m n
    exact ⟨hcompare, by rw [← Nat.compare_eq_eq, ← hcompare]; rfl⟩
  · intro cl isRoot path b s hs
    exact Tree.standsIn_build hs
  · intro s h
    have hperm : s.sourceOrder.Perm s.args := sortBy_perm s.args
    have hle := Section.pairwise_sourceOrder h
    refine ⟨hperm, hle, ?_⟩
    intro hne
    have hne' := (hperm.pairwise_iff fun hab => hab.symm).2 hne
    exact hle.imp₂ (fun a b hab hab' => Nat.lt_of_le_of_ne hab hab') hne'

/-- Two words on one line, of two bytes each, and one on the next. -/
def threeWords : List Char := "é é\nz".toList

/-- A section with the three words, the last one first. -/
def shuffled : Section :=
  .ofArgs .attributes ([(6, 7), (0, 2), (3, 5)].map fun (start, stop) =>
    ⟨"", (SourceFile.parse "main.tf" threeWords).range start stop, 0, .attr []⟩)

theorem sourceOrder_by_byte_shuffled :
    (∀ a ∈ shuffled.args, a.StandsIn (.parse "main.tf" threeWords)) ∧
      (shuffled.args.Pairwise fun a b => a.range.start.byte ≠ b.range.start.byte) ∧
      shuffled.sourceOrder.Perm shuffled.args ∧
      (shuffled.sourceOrder.Pairwise fun a b => a.range.start.byte ≤ b.range.start.byte) ∧
      shuffled.sourceOrder.Pairwise fun a b => a.range.start.byte < b.range.start.byte := by
  have hin : ∀ a ∈ shuffled.args, a.StandsIn (.parse "main.tf" threeWords) := by
    intro a ha
    rw [shuffled, Section.ofArgs_args] at ha
    obtain ⟨⟨start, stop⟩, -, rfl⟩ := List.mem_map.1 ha
    exact ⟨start, stop, rfl⟩
  have hne : shuffled.args.Pairwise fun a b => a.range.start.byte ≠ b.range.start.byte := by
    decide +kernel
  obtain ⟨hperm, hle, hlt⟩ := (sourceOrder_by_byte "main.tf" threeWords).2.2 shuffled hin
  exact ⟨hin, hne, hperm, hle, hlt hne⟩

/-! ## The order of insertion -/

namespace Hull

variable {range : SourceRange} {args : List Arg} (h : Hull range args)

include h

theorem min?_line : (args.map (·.range.start.line)).min? = some range.start.line := by
  obtain ⟨a, ha, hstart, hle⟩ := h.exists_start
  rw [List.min?_eq_some_iff, hstart]
  exact ⟨List.mem_map_of_mem ha, List.forall_mem_map.2 hle⟩

theorem max?_line : (args.map (·.range.stop.line)).max? = some range.stop.line := by
  obtain ⟨a, ha, hstop, hle⟩ := h.exists_stop
  rw [List.max?_eq_some_iff, hstop]
  exact ⟨List.mem_map_of_mem ha, List.forall_mem_map.2 hle⟩

end Hull

namespace Section

section Lines

variable {args args' : List Arg} (hline : ∀ a ∈ args, 0 < a.range.start.line) (kind : SectionKind)

include hline

/-- The lines of a section, or nothing if it has no arguments. -/
theorem line_range? :
    (ofArgs kind args).range?.map (·.start.line) = (args.map (·.range.start.line)).min? ∧
      (ofArgs kind args).range?.map (·.stop.line) = (args.map (·.range.stop.line)).max? := by
  by_cases hne : args = []
  · subst hne
    exact ⟨rfl, rfl⟩
  · have hull := hull_ofArgs hline kind hne
    rw [range?_ofArgs hline kind hne, hull.min?_line, hull.max?_line]
    exact ⟨rfl, rfl⟩

theorem line_range?_perm (hperm : args'.Perm args) :
    (ofArgs kind args').range?.map (·.start.line) = (ofArgs kind args).range?.map (·.start.line) ∧
      (ofArgs kind args').range?.map (·.stop.line) =
        (ofArgs kind args).range?.map (·.stop.line) := by
  have hline' : ∀ a ∈ args', 0 < a.range.start.line := fun a ha => hline a (hperm.mem_iff.1 ha)
  obtain ⟨hstart, hstop⟩ := line_range? hline kind
  obtain ⟨hstart', hstop'⟩ := line_range? hline' kind
  rw [hstart, hstop, hstart', hstop']
  exact ⟨min?_eq_of_perm (hperm.map _), max?_eq_of_perm (hperm.map _)⟩

end Lines

variable {name : String} {text : List Char} {args args' : List Arg}

/-- Two arguments that stand before each other start at one position. -/
theorem start_eq_of_standsBefore {a b : Arg} (ha : a.StandsIn (.parse name text))
    (hb : b.StandsIn (.parse name text)) (hab : standsBefore a b = true)
    (hba : standsBefore b a = true) : a.range.start = b.range.start := by
  have hbyte := Nat.le_antisymm ((standsBefore_iff ha hb).1 hab) ((standsBefore_iff hb ha).1 hba)
  obtain ⟨start, stop, hrange⟩ := ha
  obtain ⟨start', stop', hrange'⟩ := hb
  rw [hrange, hrange'] at hbyte ⊢
  exact LineIndex.pos_eq_of_byte_eq hbyte

theorem sourceOrder_perm (h : ∀ a ∈ args, a.StandsIn (.parse name text)) (hperm : args'.Perm args)
    (hdistinct : (args.map (·.range.start)).Nodup) (kind : SectionKind) :
    (ofArgs kind args').sourceOrder = (ofArgs kind args).sourceOrder := by
  rw [sourceOrder, sourceOrder, ofArgs_args, ofArgs_args]
  have hsorted := pairwise_sortBy standsBefore_total standsBefore_trans
  refine List.Perm.eq_of_pairwise (fun a b ha hb hab hba => ?_) (hsorted args') (hsorted args)
    (((sortBy_perm args').trans hperm).trans (sortBy_perm args).symm)
  have ha := hperm.mem_iff.1 (mem_sortBy.1 ha)
  have hb := mem_sortBy.1 hb
  exact List.inj_on_of_nodup_map hdistinct ha hb
    (start_eq_of_standsBefore (h a ha) (h b hb) hab hba)

/-- The range of a section that was filled with arguments of one file. As long as it has no arguments
there is none. Otherwise the range stands in that file and goes from the start of an argument, on the
least line of all starts, to the stop of an argument, on the greatest line of all stops. The lines do
not depend on the order in which the arguments were added, and if no two of them start at one position
the canonical order and whether the section is in order do not either. -/
theorem range?_hull (h : ∀ a ∈ args, a.StandsIn (.parse name text)) (kind : SectionKind) :
    ((ofArgs kind args).range? = none ↔ args = []) ∧
    (∀ range, (ofArgs kind args).range? = some range → range.file = name ∧
      (args.map (·.range.start.line)).min? = some range.start.line ∧
      (args.map (·.range.stop.line)).max? = some range.stop.line ∧
      range.start ∈ args.map (·.range.start) ∧ range.stop ∈ args.map (·.range.stop)) ∧
    ∀ args', args'.Perm args →
      (ofArgs kind args').range?.map (·.start.line) =
          (ofArgs kind args).range?.map (·.start.line) ∧
      (ofArgs kind args').range?.map (·.stop.line) = (ofArgs kind args).range?.map (·.stop.line) ∧
      ((args.map (·.range.start)).Nodup →
        (ofArgs kind args').isOrdered = (ofArgs kind args).isOrdered ∧
        (ofArgs kind args').canonical = (ofArgs kind args).canonical) := by
  have hline : ∀ a ∈ args, 0 < a.range.start.line := fun a ha => (h a ha).line_pos
  refine ⟨range?_ofArgs_eq_none_iff hline kind, fun range hrange => ?_, fun args' hperm => ?_⟩
  · have hull := hull_of_range? hline kind hrange
    obtain ⟨c, hc, hfile⟩ := hull.file
    obtain ⟨a, ha, hstart, -⟩ := hull.exists_start
    obtain ⟨b, hb, hstop, -⟩ := hull.exists_stop
    refine ⟨hfile.trans (h c hc).file_eq, hull.min?_line, hull.max?_line, ?_, ?_⟩
    · rw [hstart]
      exact List.mem_map_of_mem ha
    · rw [hstop]
      exact List.mem_map_of_mem hb
  · obtain ⟨hstart, hstop⟩ := line_range?_perm hline kind hperm
    refine ⟨hstart, hstop, fun hdistinct => ?_⟩
    have hsource := sourceOrder_perm h hperm hdistinct kind
    rw [isOrdered, isOrdered, canonical, canonical, ofArgs_kind, ofArgs_kind, hsource]
    exact ⟨rfl, rfl⟩

/-- An attribute on the first three lines, and two on the next ones. -/
def scatteredText : List Char := "b = \x7b\n  x = 1\n\x7d\nc = 2\na = 3\n".toList

/-- The three attributes, the first one last. -/
def scatteredArgs : List Arg :=
  [("c", 16, 21), ("a", 22, 27), ("b", 0, 15)].map fun (key, start, stop) =>
    ⟨key, (SourceFile.parse "main.tf" scatteredText).range start stop, 0, .attr []⟩

theorem range?_hull_scattered :
    (∀ a ∈ scatteredArgs, a.StandsIn (.parse "main.tf" scatteredText)) ∧
      (scatteredArgs.map (·.range.start)).Nodup ∧
      scatteredArgs.reverse.Perm scatteredArgs ∧
      (ofArgs .attributes scatteredArgs).range? = some ⟨"main.tf", ⟨1, 1, 0⟩, ⟨5, 6, 27⟩⟩ ∧
      (scatteredArgs.map (·.range.start.line)).min? = some 1 ∧
      (scatteredArgs.map (·.range.stop.line)).max? = some 5 ∧
      (ofArgs .attributes scatteredArgs.reverse).isOrdered =
        (ofArgs .attributes scatteredArgs).isOrdered ∧
      (ofArgs .attributes scatteredArgs.reverse).canonical =
        (ofArgs .attributes scatteredArgs).canonical := by
  have hin : ∀ a ∈ scatteredArgs, a.StandsIn (.parse "main.tf" scatteredText) := by
    intro a ha
    obtain ⟨⟨key, start, stop⟩, -, rfl⟩ := List.mem_map.1 ha
    exact ⟨start, stop, rfl⟩
  have hdistinct : (scatteredArgs.map (·.range.start)).Nodup := by decide +kernel
  have hrange : (ofArgs .attributes scatteredArgs).range? =
      some ⟨"main.tf", ⟨1, 1, 0⟩, ⟨5, 6, 27⟩⟩ := by decide +kernel
  have hperm := List.reverse_perm scatteredArgs
  obtain ⟨-, hhull, hinvariant⟩ := range?_hull hin .attributes
  obtain ⟨-, hstart, hstop, -⟩ := hhull _ hrange
  exact ⟨hin, hdistinct, hperm, hrange, hstart, hstop, (hinvariant _ hperm).2.2 hdistinct⟩

end Section

end Layout

end TerraLint
