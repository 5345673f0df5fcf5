import Mathlib.Data.List.Infix
import TerraLint.Proofs.Hcl.Spacing
import TerraLint.Proofs.Layout.Agreement

/-!
# Lines between sections

The check of the order compares the lines of the sections and reads nothing of what stands between
them. For a block in order that is a gap with a whole line at least, and all its lines are blank but
those of comments: a comment passes for a blank line.

* `Section.range_ofArgs`: a section stands from its first argument to its last one.
* `blank_or_comment`: the lines of a gap.
* `Tree.exists_neighbours`: the last argument of a section and the first one of the next.
* `Tree.sections_separated`: what stands between two sections of a block in order.
-/

namespace TerraLint.Layout

open Text Hcl

/-! ## The lines of a gap -/

/-- A line of a text, counted from one, has no characters but blanks. -/
def BlankLine (text : List Char) (l : Nat) : Prop :=
  ∃ line, (text.splitOn '\n')[l - 1]? = some line ∧ allBlank line = true

/-- A comment that stands in a gap behind a text has a part on a line of the whole text. -/
def CommentLine (comments : List (List Char)) (before gap : List Char) (l : Nat) : Prop :=
  ∃ comment ∈ comments, ∃ start stop, gap = start ++ comment ++ stop ∧
    (before ++ start).count '\n' + 1 ≤ l ∧ l ≤ (before ++ start ++ comment).count '\n' + 1

/-- A character between the line feeds of a gap stands in the gap. -/
theorem exists_in_gap {before gap after front back : List Char} {c : Char}
    (h : before ++ gap ++ after = front ++ c :: back)
    (hfront : before.count '\n' < front.count '\n')
    (hback : front.count '\n' < (before ++ gap).count '\n') :
    ∃ lead trail, front = before ++ lead ∧ gap = lead ++ c :: trail := by
  rw [List.append_assoc] at h
  rcases List.append_eq_append_iff.1 h with ⟨lead, rfl, hrest⟩ | ⟨more, rfl, -⟩
  · refine ⟨lead, ?_⟩
    rcases List.append_eq_append_iff.1 hrest with ⟨more, rfl, -⟩ | ⟨trail, rfl, htrail⟩
    · simp only [List.count_append] at hback
      omega
    · cases trail with
      | nil =>
        simp only [List.append_nil] at hback
        omega
      | cons d trail =>
        obtain rfl := (List.cons.inj htrail).1
        exact ⟨trail, rfl, rfl⟩
  · rw [List.count_append] at hfront
    omega

/-- A line inside a gap is blank, or a comment stands on it. -/
theorem blank_or_comment {comments : List (List Char)} {before gap after : List Char}
    (hgap : Gap true comments gap) {l : Nat} (hfirst : before.count '\n' + 1 < l)
    (hlast : l < (before ++ gap).count '\n' + 1) :
    BlankLine (before ++ gap ++ after) l ∨ CommentLine comments before gap l := by
  have hl : l - 1 ≤ (before ++ gap ++ after).count '\n' := by
    rw [List.count_append]
    omega
  obtain ⟨front, line, back, hline, htext, hcount, -⟩ := exists_line hl
  by_cases hblank : allBlank line = true
  · exact .inl ⟨line, hline, hblank⟩
  · right
    obtain ⟨c, hc, hcblank⟩ : ∃ c ∈ line, isBlank c = false := by
      simpa [allBlank] using hblank
    have hfeed := not_mem_splitOn (List.mem_of_getElem? hline)
    obtain ⟨p, q, rfl⟩ := List.append_of_mem hc
    have hp : p.count '\n' = 0 := List.count_eq_zero.2 fun h => hfeed (List.mem_append_left _ h)
    have hfront : (front ++ p).count '\n' = l - 1 := by rw [List.count_append, hcount, hp]; omega
    have hat : before ++ gap ++ after = front ++ p ++ c :: (q ++ back) := by simp [htext]
    obtain ⟨lead, trail, hlead, hgaptext⟩ := exists_in_gap hat (by omega) (by omega)
    obtain ⟨start, comment, stop, hmem, hsplit, hstart, hstop⟩ :=
      hgap.exists_comment hgaptext hcblank
    refine ⟨comment, hmem, start, stop, hsplit, ?_, ?_⟩
    · have hle := hstart.sublist.count_le '\n'
      rw [hlead, List.count_append] at hfront
      rw [List.count_append]
      omega
    · have hle := ((List.prefix_append lead [c]).trans hstop).sublist.count_le '\n'
      rw [hlead, List.count_append] at hfront
      rw [List.append_assoc, List.count_append]
      omega

/-- Neighbours in a chain are related. -/
theorem rel_of_isChain {α : Type} {R : α → α → Prop} {xs : List α} {x y : α}
    (h : xs.IsChain R) (hxy : [x, y] <:+: xs) : R x y := by
  obtain ⟨lead, trail, rfl⟩ := hxy
  exact List.isChain_pair.1 h.left_of_append.right_of_append

/-! ## The ends of a section -/

/-- Arguments that stand below each other cover the lines from the first to the last one. -/
theorem Section.range_ofArgs {args : List Arg} (h : Lined args) {first last : Arg}
    (hfirst : args.head? = some first) (hlast : args.getLast? = some last) (kind : SectionKind) :
    (Section.ofArgs kind args).range.start = first.range.start ∧
      (Section.ofArgs kind args).range.stop = last.range.stop := by
  have hf := List.mem_of_mem_head? hfirst
  have hl := List.mem_of_getLast? hlast
  have hull := hull_ofArgs h.somewhere kind (List.ne_nil_of_mem hf)
  obtain ⟨a, ha, hstart, hle⟩ := hull.exists_start
  obtain ⟨b, hb, hstop, hle'⟩ := hull.exists_stop
  rw [hstart, hstop]
  constructor
  · obtain ⟨rest, rfl⟩ := List.head?_eq_some_iff.1 hfirst
    rcases List.mem_cons.1 ha with rfl | hrest
    · rfl
    · -- A later argument starts on a later line.
      have hbelow := (List.pairwise_cons.1 h.start_lt).1 a hrest
      have hleast := hle first hf
      omega
  · obtain ⟨rest, rfl⟩ := List.getLast?_eq_some_iff.1 hlast
    rcases List.mem_append.1 hb with hrest | hb
    · -- The last argument stands below an earlier one.
      have hbelow := (List.pairwise_append.1 h.below).2.2 b hrest last (List.mem_singleton_self _)
      have hforward := h.forward last hl
      have hgreatest := hle' last hl
      omega
    · rw [List.mem_singleton.1 hb]

section

variable {name : String} {text : List Char} {body : Body} {b : Block} {cl : Classifier}
  {isRoot : Bool} {path : List String} {s s' : Section}

/-- A section of a block that has arguments, and its range. -/
theorem exists_range (hlined : Lined s.args) (hs : s = Section.ofArgs s.kind s.args)
    (hne : s.args ≠ []) : ∃ range first last, s.range? = some range ∧ s.args.head? = some first ∧
      s.args.getLast? = some last ∧ range.start = first.range.start ∧
      range.stop = last.range.stop := by
  obtain ⟨first, hfirst⟩ := Option.ne_none_iff_exists'.1 (mt List.head?_eq_none_iff.1 hne)
  obtain ⟨last, hlast⟩ := Option.ne_none_iff_exists'.1 (mt List.getLast?_eq_none_iff.1 hne)
  obtain ⟨hstart, hstop⟩ := Section.range_ofArgs hlined hfirst hlast s.kind
  have hrange := Section.range?_ofArgs hlined.somewhere s.kind hne
  rw [← hs] at hstart hstop hrange
  exact ⟨s.range, first, last, hrange, hfirst, hlast, hstart, hstop⟩

/-- A block in order has its arguments in the source as its sections hold them, with a line free
between two sections. -/
theorem Tree.args_of_isOrdered (hparse : parseBody text = some body) (hb : Inside (.block b) body)
    (hordered : (Tree.build (.parse name text) cl isRoot path b).isOrdered = true) :
    (filled (Tree.build (.parse name text) cl isRoot path b).sections).flatMap (·.args) =
        sourceArgs (.parse name text) cl isRoot path b ∧
      (filled (Tree.build (.parse name text) cl isRoot path b).sections).IsChain Section.Clear ∧
      ∀ s ∈ (Tree.build (.parse name text) cl isRoot path b).sections,
        s = Section.ofArgs s.kind s.args ∧ Lined s.args := by
  obtain ⟨c, d, hc, hstack⟩ := exists_stack_of_inside hparse hb
  have hstart := hstack.pairwise_start
  have hlined := @lined_sourceArgs name text c d b hc hstack cl isRoot path
  have hperm := @args_build_perm (.parse name text) cl isRoot path b hstart
  have hsections : ∀ s ∈ (Tree.build (.parse name text) cl isRoot path b).sections,
      s = Section.ofArgs s.kind s.args ∧ Lined s.args := by
    intro s hs
    rw [sections_build hstart] at hs
    obtain ⟨slot, -, rfl⟩ := List.mem_map.1 hs
    rw [Section.ofArgs_kind, Section.ofArgs_args]
    exact ⟨rfl, hlined.sublist (slotArgs_sublist slot)⟩
  obtain ⟨-, -, hclear⟩ := (sectionsOrdered_iff (fun s hs => (hsections s hs).1)
    (fun s hs => (hsections s hs).2.somewhere) none).1 hordered
  refine ⟨?_, hclear, hsections⟩
  rw [flatMap_filled fun s hs => hs]
  exact (lined_of_clear (fun s hs => (hsections s hs).2) hclear).eq_of_perm hlined hperm

/-- The last argument of a section and the first one of the next are neighbours in the source. -/
theorem Tree.exists_neighbours (hparse : parseBody text = some body) (hb : Inside (.block b) body)
    (hordered : (Tree.build (.parse name text) cl isRoot path b).isOrdered = true)
    (hss : [s, s'] <:+: filled (Tree.build (.parse name text) cl isRoot path b).sections) :
    ∃ range range' x y, s.range? = some range ∧ s'.range? = some range' ∧
      range.stop.line + 2 ≤ range'.start.line ∧ Follows (.ofText text) x y ∧
      range.stop = ((SourceFile.parse name text).rangeOf x.span).stop ∧
      range'.start = ((SourceFile.parse name text).rangeOf y.span).start := by
  obtain ⟨hargs, hchain, hsections⟩ := Tree.args_of_isOrdered hparse hb hordered
  have hmem : ∀ t ∈ [s, s'], ∃ range first last, t.range? = some range ∧
      t.args.head? = some first ∧ t.args.getLast? = some last ∧ range.start = first.range.start ∧
      range.stop = last.range.stop := by
    intro t ht
    obtain ⟨hin, hne⟩ := List.mem_filter.1 (hss.subset ht)
    exact exists_range (hsections t hin).2 (hsections t hin).1 (by simpa using hne)
  obtain ⟨range, -, last, hrange, -, hlast, -, hstop⟩ := hmem s (by simp)
  obtain ⟨range', first, -, hrange', hfirst, -, hstart, -⟩ := hmem s' (by simp)
  have hclear : s.Clear s' := rel_of_isChain hchain hss
  have hgap := hclear last (List.mem_of_getLast? hlast) first (List.mem_of_mem_head? hfirst)
  -- The arguments of the two sections stand in a row, so that these two are next to each other.
  obtain ⟨lead, hlead⟩ := List.getLast?_eq_some_iff.1 hlast
  obtain ⟨trail, htrail⟩ := List.head?_eq_some_iff.1 hfirst
  have hrow : [last, first] <:+: sourceArgs (.parse name text) cl isRoot path b := by
    rw [← hargs]
    refine List.IsInfix.trans ⟨lead, trail, ?_⟩ (hss.flatMap (·.args))
    simp [hlead, htrail]
  obtain ⟨items, hitems, hmap⟩ := List.infix_map_iff.1 hrow
  obtain ⟨x, items, rfl, hx, hmap⟩ := List.map_eq_cons_iff.1 hmap.symm
  obtain ⟨y, items, rfl, hy, hmap⟩ := List.map_eq_cons_iff.1 hmap
  obtain rfl := List.map_eq_nil_iff.1 hmap
  refine ⟨range, range', x, y, hrange, hrange', by rw [hstop, hstart]; exact hgap,
    rel_of_isChain (isChain_follows hparse hb) hitems, ?_, ?_⟩
  · rw [hstop, ← hx, itemArg_range]
  · rw [hstart, ← hy, itemArg_range]

end

/-- Two sections of a block in order, one after the other among those with arguments: at least one
whole line stands between them, in a gap of blanks and comments, and each such line is blank or
belongs to a comment. Without comments all of them are blank. -/
theorem Tree.sections_separated {name : String} {text : List Char} {body : Body}
    (hparse : parseBody text = some body) {b : Block} (hb : Inside (.block b) body)
    {cl : Classifier} {isRoot : Bool} {path : List String}
    (hordered : (Tree.build (.parse name text) cl isRoot path b).isOrdered = true) {s s' : Section}
    (hss : [s, s'] <:+: filled (Tree.build (.parse name text) cl isRoot path b).sections) :
    ∃ range range' comments before gap after,
      s.range? = some range ∧ s'.range? = some range' ∧
      range.stop.line + 2 ≤ range'.start.line ∧
      text = before ++ gap ++ after ∧ Gap true comments gap ∧
      range.stop = (SourceFile.parse name text).pos (byteLength before) ∧
      range'.start = (SourceFile.parse name text).pos (byteLength (before ++ gap)) ∧
      (∀ l, range.stop.line < l → l < range'.start.line →
        BlankLine text l ∨ CommentLine comments before gap l) ∧
      (comments = [] → ∃ l, range.stop.line < l ∧ l < range'.start.line ∧ BlankLine text l) := by
  obtain ⟨range, range', x, y, hrange, hrange', hline, ⟨c₁, d₁, c₂, d₂, hc₁, hx, hapart, hy⟩,
    hstop, hstart⟩ := Tree.exists_neighbours hparse hb hordered hss
  obtain ⟨comments, gap, hgap, hrest, hbyte⟩ := hapart
  have hd₁ := hc₁.trans hx.closes.reaches
  have hc₂ : Reaches (.ofText text) c₂ := hd₁.trans ⟨gap, hrest, hbyte⟩
  obtain ⟨before, htext, hbefore⟩ := SourceFile.exists_of_reaches hd₁
  rw [SourceFile.rangeOf_stands hc₁ hx] at hstop
  rw [SourceFile.rangeOf_stands hc₂ hy] at hstart
  rw [hrest, ← List.append_assoc] at htext
  have hbyte' : c₂.byte = byteLength (before ++ gap) := by rw [hbyte, hbefore, byteLength_append]
  dsimp only at hstop hstart
  rw [hbefore] at hstop
  rw [hbyte'] at hstart
  have hstopline : range.stop.line = before.count '\n' + 1 := by
    have hpos := LineIndex.line_pos before (gap ++ c₂.rest)
    rw [← List.append_assoc, ← htext] at hpos
    rw [hstop]
    exact hpos
  have hstartline : range'.start.line = (before ++ gap).count '\n' + 1 := by
    have hpos := LineIndex.line_pos (before ++ gap) c₂.rest
    rw [← htext] at hpos
    rw [hstart]
    exact hpos
  have hlines : ∀ l, range.stop.line < l → l < range'.start.line →
      BlankLine text l ∨ CommentLine comments before gap l := by
    intro l hfirst hlast
    rw [htext]
    exact blank_or_comment hgap (by omega) (by omega)
  refine ⟨range, range', comments, before, gap, c₂.rest, hrange, hrange', hline, htext, hgap, hstop,
    hstart, hlines, ?_⟩
  rintro rfl
  refine ⟨range.stop.line + 1, by omega, by omega, ?_⟩
  rcases hlines (range.stop.line + 1) (by omega) (by omega) with hblank | ⟨comment, hmem, -⟩
  · exact hblank
  · cases hmem

/-- Two sections with a comment between them. -/
def commented : List Char :=
  "resource \"a\" \"b\" \x7b\n  count = 1\n  # the name\n  name = 2\n\x7d\n".toList

/-- The block is in order, though no line between its two sections is blank. -/
theorem Tree.sections_separated_commented : ∃ body b s s', parseBody commented = some body ∧
    Inside (.block b) body ∧
    (Tree.root (.parse "main.tf" commented) .terraform b).isOrdered = true ∧
    [s, s'] <:+: filled (Tree.root (.parse "main.tf" commented) .terraform b).sections ∧
    ∃ range range' comments before gap after, s.range? = some range ∧ s'.range? = some range' ∧
      commented = before ++ gap ++ after ∧ Gap true comments gap ∧ comments ≠ [] ∧
      range.stop.line + 2 ≤ range'.start.line ∧
      ∀ l, range.stop.line < l → l < range'.start.line → ¬BlankLine commented l := by
  have hread : ((parseBody commented).bind fun body => body.blocks.head?.map fun b =>
      ((Tree.root (.parse "main.tf" commented) .terraform b).isOrdered,
        (filled (Tree.root (.parse "main.tf" commented) .terraform b).sections).map fun s =>
          s.range?.map fun range => (range.start.line, range.stop.line))) =
        some (true, [some (2, 2), some (4, 4)]) := by
    decide +kernel
  obtain ⟨body, hbody, hread⟩ := Option.bind_eq_some_iff.1 hread
  obtain ⟨b, hb, hread⟩ := Option.map_eq_some_iff.1 hread
  obtain ⟨hordered, hsections⟩ := Prod.mk.inj hread
  obtain ⟨s, rest, hfilled, hs, hrest⟩ := List.map_eq_cons_iff.1 hsections
  obtain ⟨s', rest, rfl, hs', hrest⟩ := List.map_eq_cons_iff.1 hrest
  obtain rfl := List.map_eq_nil_iff.1 hrest
  have hinside : Inside (.block b) body := .here (mem_of_mem_blocks (List.mem_of_mem_head? hb))
  have hss : [s, s'] <:+: filled (Tree.root (.parse "main.tf" commented) .terraform b).sections :=
    hfilled ▸ List.infix_rfl
  obtain ⟨range, range', comments, before, gap, after, hrange, hrange', hline, htext, hgap, -, -, -,
    hclean⟩ := Tree.sections_separated hbody hinside hordered hss
  rw [hrange, Option.map_some, Option.some.injEq, Prod.mk.injEq] at hs
  rw [hrange', Option.map_some, Option.some.injEq, Prod.mk.injEq] at hs'
  have hcommented : ∀ l, range.stop.line < l → l < range'.start.line → ¬BlankLine commented l := by
    rintro l hfirst hlast ⟨line, hline, hblank⟩
    obtain rfl : l = 3 := by omega
    have hthird : (commented.splitOn '\n')[3 - 1]? = some "  # the name".toList := by decide
    obtain rfl := Option.some.inj (hthird.symm.trans hline)
    exact absurd hblank (by decide)
  refine ⟨body, b, s, s', hbody, hinside, hordered, hss, range, range', comments, before, gap,
    after, hrange, hrange', htext, hgap, fun hnone => ?_, hline, hcommented⟩
  obtain ⟨l, hfirst, hlast, hblank⟩ := hclean hnone
  exact hcommented l hfirst hlast hblank

end TerraLint.Layout
