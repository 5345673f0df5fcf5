import TerraLint.Proofs.Hcl.Placement
import TerraLint.Proofs.Source.Position

/-!
# Ranges of what stands in a text

The structures of a body that was read from a text have ranges that follow each other line by line,
and the range of a text that starts with a token shows it.

* `SourceFile.rangeOf_stands`, `SourceFile.textOf_stands`: the range of a structure, and its text.
* `SourceFile.pairwise_stack`: each structure ends on a line before that on which the next starts.
* `SourceFile.shows_reads`: the range of a text that was read.
-/

namespace TerraLint

open Text Hcl

namespace SourceFile

variable {name : String} {text : List Char} {c d : Cursor}

theorem exists_of_reaches (h : Reaches (.ofText text) c) :
    ∃ before, text = before ++ c.rest ∧ c.byte = byteLength before := by
  obtain ⟨before, hrest, hbyte⟩ := h
  exact ⟨before, hrest, hbyte.trans (Nat.zero_add _)⟩

/-! ## Lines -/

theorem line_pos_reaches (hc : Reaches (.ofText text) c) {taken : List Char}
    (hrest : c.rest = taken ++ d.rest) (hbyte : d.byte = c.byte + byteLength taken) :
    ((parse name text).pos d.byte).line =
      ((parse name text).pos c.byte).line + taken.count '\n' := by
  obtain ⟨before, htext, hbefore⟩ := exists_of_reaches hc
  have hstart := LineIndex.line_pos before c.rest
  have hstop := LineIndex.line_pos (before ++ taken) d.rest
  rw [← htext, ← hbefore] at hstart
  rw [List.append_assoc, ← hrest, ← htext, byteLength_append, ← hbefore, ← hbyte,
    List.count_append] at hstop
  unfold pos
  dsimp only [parse]
  rw [hstart, hstop]
  omega

theorem line_pos_le (hc : Reaches (.ofText text) c) (h : Reaches c d) :
    ((parse name text).pos c.byte).line ≤ ((parse name text).pos d.byte).line := by
  obtain ⟨taken, hrest, hbyte⟩ := h
  rw [line_pos_reaches hc hrest hbyte]
  omega

theorem line_pos_lt (hc : Reaches (.ofText text) c) (h : Breaks c d) :
    ((parse name text).pos c.byte).line < ((parse name text).pos d.byte).line := by
  obtain ⟨taken, hrest, hbyte, hmem⟩ := h
  have hcount := List.count_pos_iff.2 hmem
  rw [line_pos_reaches hc hrest hbyte]
  omega

/-! ## Structures -/

/-- The text of a structure has no blanks around it. -/
theorem exists_upright_of_stands {item : Item} (h : Stands c d item) :
    ∃ mid, Upright mid ∧ c.rest = mid ++ d.rest ∧ d.byte = c.byte + byteLength mid := by
  obtain ⟨mid, hsolid, hrest, hbyte⟩ := h.closes
  obtain ⟨ch, rest, hch, hblank⟩ := h.start
  refine ⟨mid, ⟨hsolid, ?_⟩, hrest, hbyte⟩
  obtain ⟨first, more, rfl⟩ := List.exists_cons_of_ne_nil hsolid.ne_nil
  obtain rfl : first = ch := by
    rw [hrest, List.cons_append] at hch
    exact (List.cons.inj hch).1
  exact trimStart_cons hblank more

theorem rangeOf_stands (hc : Reaches (.ofText text) c) {item : Item} (h : Stands c d item) :
    (parse name text).rangeOf item.span =
      ⟨name, (parse name text).pos c.byte, (parse name text).pos d.byte⟩ := by
  obtain ⟨before, rfl, hbefore⟩ := exists_of_reaches hc
  obtain ⟨mid, hupright, hrest, hbyte⟩ := exists_upright_of_stands h
  have hpart := @rangeOf_part name before mid d.rest hupright
  rw [byteLength_append, List.append_assoc, ← hrest, ← hbefore, ← hbyte] at hpart
  rw [h.span]
  exact hpart

/-- The text of a structure is what stands between its two cursors. -/
theorem textOf_stands (hc : Reaches (.ofText text) c) {item : Item} (h : Stands c d item) :
    Upright ((parse name text).textOf item.span) ∧
      c.rest = (parse name text).textOf item.span ++ d.rest := by
  obtain ⟨before, rfl, hbefore⟩ := exists_of_reaches hc
  obtain ⟨mid, hupright, hrest, hbyte⟩ := exists_upright_of_stands h
  have hslice := @slice_rangeOf name before mid d.rest hupright
  rw [byteLength_append, List.append_assoc, ← hrest, ← hbefore, ← hbyte, ← h.span] at hslice
  rw [textOf, hslice]
  exact ⟨hupright, hrest⟩

theorem upright_textOf {text : List Char} {body : Body} (h : parseBody text = some body)
    (name : String) {it : Item} (hit : Inside it body) : Upright ((parse name text).textOf it.span) := by
  obtain ⟨d, hstack⟩ := stack_of_parseBody h
  obtain ⟨c₁, d₁, hreach, hstands⟩ := hstack.exists_of_inside hit
  exact (textOf_stands hreach hstands).1

theorem line_le_of_stands (hc : Reaches (.ofText text) c) {item : Item} (h : Stands c d item) :
    ((parse name text).rangeOf item.span).start.line ≤
      ((parse name text).rangeOf item.span).stop.line := by
  rw [rangeOf_stands hc h]
  exact line_pos_le hc h.closes.reaches

/-- Each structure of a body ends on a line before that on which the next one starts. -/
theorem pairwise_stack {items : List Item} (hc : Reaches (.ofText text) c) (h : Stack c d items) :
    items.Pairwise fun a b => ((parse name text).rangeOf a.span).stop.line <
      ((parse name text).rangeOf b.span).start.line := by
  induction items generalizing c with
  | nil => exact .nil
  | cons first items ih =>
    cases h with
    | single h hfirst hend => exact List.pairwise_singleton _ _
    | cons h hfirst hbreak hrest =>
      have hstart := hc.trans h
      have hstop := hstart.trans hfirst.closes.reaches
      have hbelow := hstop.trans hbreak.reaches
      refine List.pairwise_cons.2 ⟨fun later hlater => ?_, ih hbelow hrest⟩
      obtain ⟨c', d', hreach, hstands⟩ := hrest.exists_of_mem hlater
      rw [rangeOf_stands hstart hfirst, rangeOf_stands (hbelow.trans hreach) hstands]
      have hlt := @line_pos_lt name text _ _ hstop hbreak
      have hle := @line_pos_le name text _ _ hbelow hreach
      exact Nat.lt_of_lt_of_le hlt hle

/-! ## Texts that were read -/

theorem byte_pos_reaches (hc : Reaches (.ofText text) c) :
    ((parse name text).pos c.byte).byte = c.byte := by
  obtain ⟨before, htext, hbefore⟩ := exists_of_reaches hc
  have hbyte := LineIndex.byte_pos before c.rest
  rw [← htext, ← hbefore] at hbyte
  exact hbyte

/-- The range of a text that was read shows it without the blanks that end it. -/
theorem shows_reads (hc : Reaches (.ofText text) c) {mid : List Char} (h : Reads c d mid) :
    (parse name text).Shows ((parse name text).range c.byte d.byte) (trimEnd mid) := by
  obtain ⟨before, rfl, hbefore⟩ := exists_of_reaches hc
  obtain ⟨ch, more, rfl, hblank⟩ := h.token
  have hshows := @shows_part name before (ch :: more) d.rest (trimStart_cons hblank more)
    (by simp [allBlank, hblank])
  rw [byteLength_append, List.append_assoc, ← h.rest, ← hbefore, ← h.byte] at hshows
  exact hshows

theorem start_byte_of_reads (hc : Reaches (.ofText text) c) {mid : List Char} (h : Reads c d mid) :
    ((parse name text).range c.byte d.byte).start.byte = c.byte := by
  obtain ⟨before, rfl, hbefore⟩ := exists_of_reaches hc
  obtain ⟨ch, more, rfl, hblank⟩ := h.token
  have hpart := @range_part name before (ch :: more) d.rest (trimStart_cons hblank more)
  rw [byteLength_append, List.append_assoc, ← h.rest, ← hbefore, ← h.byte] at hpart
  rw [hpart]
  exact byte_pos_reaches hc

end SourceFile

end TerraLint
