import TerraLint.Proofs.Hcl.Cursor
import TerraLint.Proofs.Layout.Eased

/-!
# Canonical texts taken apart

The lines of a canonical text are those of its parts, laid out. Read off the text again, an
attribute has the lines that it was given there, without the indentation of the first one.

* `Reprinted`: what a canonical form is when it is read off laid out lines.
* `lines_reprinted`: an attribute is read off its laid out lines with these lines.
* `exists_reprinted`: laid out lines can be taken apart.
-/

namespace TerraLint.Layout

open Text Format Hcl

/-- A line as it stands in a canonical text. -/
structure Tidy (f : List Char) : Prop where
  trimEnd : trimEnd f = f
  lineFeed : '\n' ∉ f

/-- A line and what it is in a canonical text. -/
def Kept (l f : List Char) : Prop := Eased l f ∧ Tidy f

theorem tidy_of_kept {ls fs : List (List Char)} (h : List.Forall₂ Kept ls fs) :
    ∀ f ∈ fs, Tidy f := by
  intro f hf
  obtain ⟨l, -, hk⟩ := exists_of_mem_forall₂ h.flip hf
  exact hk.2

/-- A type and labels that are written as they stand. -/
structure Headed (kind : String) (labels : List String) : Prop where
  name : Cursor.IsName kind.toList
  labels : ∀ label ∈ labels, Unescaped label

/-! ## Headers -/

theorem headerText_append (kind : String) (labels : List String) (rest : List Char) :
    headerText kind labels ++ ' ' :: rest =
      kind.toList ++ ' ' :: (Cursor.labelsText labels ++ rest) := by
  unfold headerText
  induction labels generalizing kind with
  | nil => rfl
  | cons label labels ih =>
    rw [List.foldl_cons, ih]
    simp [Cursor.labelsText, Cursor.labelText]

theorem parse?_eq_none {content key rest : List Char}
    (hkey : Assignment.key? content = some (key, rest))
    (hne : ∀ value, trimStart rest ≠ '=' :: value) : Assignment.parse? content = none := by
  unfold Assignment.parse?
  simp only [hkey, Option.bind_eq_bind, Option.bind_some]
  split
  · rename_i heq
    exact absurd heq (hne _)
  · rename_i heq
    exact absurd heq (hne _)
  · rename_i heq
    exact absurd heq (hne _)
  · rfl

theorem parse?_header {kind : String} (h : Cursor.IsName kind.toList) {d : Char}
    (hd : isBlank d = false ∧ d ≠ '=') (rest : List Char) :
    Assignment.parse? (kind.toList ++ ' ' :: d :: rest) = none := by
  obtain ⟨⟨c, cs, hkind, hc⟩, hrest⟩ := h
  rw [hkind] at hrest ⊢
  have hquote : c ≠ '"' := by
    rintro rfl
    revert hc
    decide
  have hkey : Assignment.key? (c :: cs ++ ' ' :: d :: rest) =
      if Scan.isWordStart c then
        some (c :: (cs ++ ' ' :: d :: rest).takeWhile Scan.isWordRest,
          (cs ++ ' ' :: d :: rest).dropWhile Scan.isWordRest)
      else none := by
    rw [List.cons_append, Assignment.key?]
    simpa using hquote
  by_cases hword : Scan.isWordStart c = true
  · rw [if_pos hword] at hkey
    refine parse?_eq_none hkey fun value hvalue => ?_
    -- What follows the key is the rest of the type, or the space behind it.
    rw [List.dropWhile_append] at hvalue
    split at hvalue
    · rw [List.dropWhile_cons_of_neg (by decide), ← List.singleton_append,
        trimStart_blank_append (by decide), trimStart_cons hd.1] at hvalue
      exact hd.2 (List.cons.inj hvalue).1
    · rename_i hne
      obtain ⟨e, es, hes⟩ : ∃ e es, cs.dropWhile Scan.isWordRest = e :: es := by
        cases hdrop : cs.dropWhile Scan.isWordRest with
        | nil => simp [hdrop] at hne
        | cons e es => exact ⟨e, es, rfl⟩
      have he := hrest e (List.mem_cons_of_mem _
        ((List.dropWhile_suffix _).subset (hes ▸ List.mem_cons_self)))
      rw [hes, List.cons_append, trimStart_cons (Cursor.not_isBlank_of_isNameRest he)] at hvalue
      obtain rfl := (List.cons.inj hvalue).1
      revert he
      decide
  · rw [if_neg hword] at hkey
    rw [Assignment.parse?, hkey]
    rfl

/-- Blanks that stand at the start of a line of a canonical text. -/
def Spaced (indent : List Char) : Prop := ∀ c ∈ indent, isSpacing c = true

/-- A line without an assignment is only moved. -/
theorem exists_indent {line f : List Char} (hline : trim line = line)
    (hparse : Assignment.parse? line = none) (h : Eased line f) (ht : Tidy f) :
    ∃ indent, Spaced indent ∧ f = indent ++ line := by
  have hnone : Assignment.parse? (trim line) = none := by rw [hline]; exact hparse
  have hcore := h.core
  rw [core_of_none hnone, hline] at hcore
  have htrim : trim f = line := by
    have hparse' := parse?_congr h.core
    rw [hline, hparse] at hparse'
    rw [core_of_none hparse'] at hcore
    exact (Prod.mk.inj hcore).2
  have hstart : trimStart f = line := by
    rw [← htrim, trim_eq, ← trimStart_trimEnd_comm, ht.trimEnd]
  have hflush : Flush line := by
    intro c hc
    rw [takeWhile_isBlank_of_trimStart (by rw [← hline, trimStart_trim])] at hc
    cases hc
  refine ⟨f.takeWhile isBlank, h.flush hflush, ?_⟩
  rw [← hstart]
  exact (List.takeWhile_append_dropWhile).symm

theorem eq_nil_of_eased {f : List Char} (h : Eased [] f) (ht : Tidy f) : f = [] := by
  have hblank : allBlank f = true := by rw [allBlank_congr h.core]; rfl
  rw [← ht.trimEnd]
  exact trimEnd_eq_nil_iff.2 hblank

/-- The lines of a block whose header and closing brace are indented. -/
def indentedLines (before after : List Char) (kind : String) (labels : List String)
    (sections : List (List (List Char))) : List (List Char) :=
  if sections.isEmpty then [before ++ (headerText kind labels ++ [' ', '{', '}'])]
  else (before ++ (headerText kind labels ++ [' ', '{'])) :: joinLines sections ++ [after ++ ['}']]

/-- A part of a canonical text: its lines there, and what is read off them. -/
abbrev Piece := List (List Char) × Canon

/-- The lines of the sections that pieces make up. -/
def pieceSections (pieces : Slot → List Piece) : List (List (List Char)) :=
  ((Slot.all true).map fun slot => (pieces slot).flatMap (·.1)).filter fun ls => !ls.isEmpty

/-- A canonical form, the lines that it was given, and what is read off these lines. -/
inductive Reprinted : Canon → Piece → Prop
  | attr {key : String} {text f : List Char} {fs : List (List Char)}
    (hkept : List.Forall₂ Kept (lines text) (f :: fs)) :
    Reprinted (.attr key text) (f :: fs, .attr key (unlines (trimStart f :: fs)))
  | block {kind : String} {labels : List String} {slots : Slot → List Canon}
    {pieces : Slot → List Piece} {before after : List Char} (hbefore : Spaced before)
    (hafter : Spaced after) (hpieces : ∀ slot, List.Forall₂ Reprinted (slots slot) (pieces slot)) :
    Reprinted (.block kind labels slots)
      (indentedLines before after kind labels (pieceSections pieces),
        .block kind labels fun slot => (pieces slot).map (·.2))

/-! ## Attributes read off laid out lines -/

section Attribute

variable {text f : List Char} {fs : List (List Char)}

theorem Tidy.trimStart (h : Tidy f) : Tidy (trimStart f) where
  trimEnd := by rw [← trimStart_trimEnd_comm, h.trimEnd]
  lineFeed hmem := h.lineFeed ((List.dropWhile_suffix _).subset hmem)

/-- The last line of an attribute is not blank, nor is it when it is laid out. -/
theorem exists_last_of_kept (hs : Solid text) (hkept : List.Forall₂ Kept (lines text) (f :: fs)) :
    ∃ gs g, trimStart f :: fs = gs ++ [g] ∧ Solid g := by
  have htidy := tidy_of_kept hkept
  obtain ⟨ps, last, -, hlast, hlines⟩ := hs.exists_last
  rw [hlines] at hkept
  obtain ⟨gs, rest, hfs, -, hrest⟩ := exists_append_of_forall₂ hkept
  obtain ⟨g, rfl, hg⟩ := exists_singleton_of_forall₂ hrest
  have hblank : allBlank g = false := by rw [allBlank_congr hg.1.core, hlast.allBlank]
  cases gs with
  | nil =>
    obtain ⟨rfl, rfl⟩ := List.cons.inj hfs
    refine ⟨[], trimStart f, rfl, fun hnil => ?_, hg.2.trimStart.trimEnd⟩
    rw [trimStart_eq_nil_iff.1 hnil] at hblank
    cases hblank
  | cons f' gs =>
    rw [List.cons_append] at hfs
    obtain ⟨rfl, rfl⟩ := List.cons.inj hfs
    refine ⟨trimStart f :: gs, g, rfl, fun hnil => ?_, hg.2.trimEnd⟩
    rw [hnil] at hblank
    cases hblank

theorem lines_reprinted (hs : Solid text) (hkept : List.Forall₂ Kept (lines text) (f :: fs)) :
    lines (unlines (trimStart f :: fs)) = trimStart f :: fs := by
  have htidy := tidy_of_kept hkept
  have htidy' : ∀ g ∈ trimStart f :: fs, Tidy g := by
    intro g hg
    rcases List.mem_cons.1 hg with rfl | hg
    · exact (htidy f List.mem_cons_self).trimStart
    · exact htidy g (List.mem_cons_of_mem _ hg)
  refine lines_unlines (fun l hl => (htidy' l hl).lineFeed) (fun l hl => (htidy' l hl).trimEnd) ?_
  obtain ⟨gs, g, hfs, hg⟩ := exists_last_of_kept hs hkept
  intro l hl
  rw [hfs, List.getLast?_concat] at hl
  obtain rfl := Option.some.inj hl
  exact hg.ne_nil

end Attribute

/-! ## Taking laid out lines apart -/

theorem exists_joinLines {sections : List (List (List Char))} {fs : List (List Char)}
    (h : List.Forall₂ Kept (joinLines sections) fs) :
    ∃ sections', List.Forall₂ (List.Forall₂ Kept) sections sections' ∧ fs = joinLines sections' := by
  induction sections generalizing fs with
  | nil =>
    cases h
    exact ⟨[], .nil, rfl⟩
  | cons s sections ih =>
    by_cases hnil : sections = []
    · subst hnil
      exact ⟨[fs], .cons (by simpa [joinLines] using h) .nil, by simp [joinLines]⟩
    · rw [joinLines_cons hnil] at h
      obtain ⟨gs, rest, rfl, hs, hrest⟩ := exists_append_of_forall₂ h
      cases hrest with
      | cons hblank hrest =>
        obtain rfl := eq_nil_of_eased hblank.1 hblank.2
        obtain ⟨sections', hsections, rfl⟩ := ih hrest
        have hne : sections' ≠ [] := by
          rintro rfl
          exact hnil (List.forall₂_nil_right_iff.1 hsections)
        exact ⟨gs :: sections', .cons hs hsections, (joinLines_cons hne gs).symm⟩

theorem Headed.line {kind : String} {labels : List String} (h : Headed kind labels)
    (cs : List Char) (hcs : Solid ('{' :: cs)) :
    trim (headerText kind labels ++ ' ' :: '{' :: cs) = headerText kind labels ++ ' ' :: '{' :: cs ∧
      Assignment.parse? (headerText kind labels ++ ' ' :: '{' :: cs) = none := by
  obtain ⟨⟨c, rest, hkind, hc⟩, -⟩ := h.name
  have hcb := Cursor.not_isBlank_of_isNameRest (Cursor.isNameRest_of_isNameStart hc)
  have hsolid := hcs.append (headerText kind labels ++ [' '])
  rw [List.append_assoc, List.singleton_append, headerText_append] at hsolid
  rw [headerText_append]
  refine ⟨?_, ?_⟩
  · rw [trim_eq, ← trimStart_trimEnd_comm, hsolid.trimEnd, hkind]
    exact trimStart_cons hcb _
  · cases labels with
    | nil => exact parse?_header h.name (d := '{') (by decide) cs
    | cons label labels => exact parse?_header h.name (d := '"') (by decide) _

theorem exists_indentedLines {kind : String} {labels : List String} (hh : Headed kind labels)
    {sections : List (List (List Char))} {fs : List (List Char)}
    (h : List.Forall₂ Kept (blockLines kind labels sections) fs) :
    ∃ before after sections', Spaced before ∧ Spaced after ∧
      List.Forall₂ (List.Forall₂ Kept) sections sections' ∧
        fs = indentedLines before after kind labels sections' := by
  unfold blockLines at h
  split at h
  · rename_i hempty
    obtain rfl : sections = [] := List.isEmpty_iff.1 hempty
    obtain ⟨f, rfl, hf⟩ := exists_singleton_of_forall₂ h
    obtain ⟨htrim, hparse⟩ := hh.line ['}'] ⟨by simp, by decide⟩
    obtain ⟨indent, hindent, rfl⟩ := exists_indent htrim hparse hf.1 hf.2
    exact ⟨indent, [], [], hindent, by simp [Spaced], .nil, rfl⟩
  · rename_i hne
    rw [List.cons_append] at h
    cases h with
    | cons hf hrest =>
      obtain ⟨gs, last, rfl, hgs, hlast⟩ := exists_append_of_forall₂ hrest
      obtain ⟨g, rfl, hg⟩ := exists_singleton_of_forall₂ hlast
      obtain ⟨htrim, hparse⟩ := hh.line [] ⟨by simp, by decide⟩
      obtain ⟨before, hbefore, rfl⟩ := exists_indent htrim hparse hf.1 hf.2
      obtain ⟨after, hafter, rfl⟩ := exists_indent (by decide) (by decide) hg.1 hg.2
      obtain ⟨sections', hsections, rfl⟩ := exists_joinLines hgs
      refine ⟨before, after, sections', hbefore, hafter, hsections, ?_⟩
      have hne' : sections'.isEmpty = false := by
        cases hsections with
        | nil => exact absurd rfl hne
        | cons _ _ => rfl
      rw [indentedLines, hne']
      rfl

theorem exists_slotLines {slots : List Slot} (hnodup : slots.Nodup)
    {ls : Slot → List (List Char)} {sections : List (List (List Char))}
    (h : List.Forall₂ (List.Forall₂ Kept) ((slots.map ls).filter fun ls => !ls.isEmpty) sections) :
    ∃ fs : Slot → List (List Char), (∀ slot ∈ slots, List.Forall₂ Kept (ls slot) (fs slot)) ∧
      sections = (slots.map fs).filter fun ls => !ls.isEmpty := by
  induction slots generalizing sections with
  | nil =>
    cases h
    exact ⟨fun _ => [], by simp, rfl⟩
  | cons slot slots ih =>
    obtain ⟨hslot, hnodup⟩ := List.nodup_cons.1 hnodup
    obtain ⟨g, sections', hg, hsections, hrest⟩ : ∃ g sections', List.Forall₂ Kept (ls slot) g ∧
        sections = (if !g.isEmpty then [g] else []) ++ sections' ∧
          List.Forall₂ (List.Forall₂ Kept) ((slots.map ls).filter fun ls => !ls.isEmpty) sections' := by
      rw [List.map_cons, List.filter_cons] at h
      split at h
      · rename_i hne
        cases h with
        | @cons _ g _ sections' hg hrest =>
          refine ⟨g, sections', hg, ?_, hrest⟩
          have hg' : (!g.isEmpty) = true := by
            cases g with
            | nil =>
              rw [List.forall₂_nil_right_iff.1 hg] at hne
              cases hne
            | cons _ _ => rfl
          rw [if_pos hg']
          rfl
      · rename_i he
        have hnil : ls slot = [] := by simpa using he
        exact ⟨[], sections, by rw [hnil]; exact .nil, rfl, h⟩
    obtain ⟨fs, hfs, rfl⟩ := ih hnodup hrest
    refine ⟨fun s => if s = slot then g else fs s, fun s hs => ?_, ?_⟩
    · by_cases heq : s = slot
      · subst heq
        simpa using hg
      · simpa [heq] using hfs s ((List.mem_cons.1 hs).resolve_left heq)
    · have hmap : slots.map (fun s => if s = slot then g else fs s) = slots.map fs :=
        List.map_congr_left fun s hs => if_neg (fun heq : s = slot => hslot (heq ▸ hs))
      rw [hsections, List.map_cons, if_pos rfl, hmap, List.filter_cons]
      split <;> rfl

theorem exists_pieces {cs : List Canon}
    (ih : ∀ c ∈ cs, ∀ fs, List.Forall₂ Kept c.flat fs → ∃ c', Reprinted c (fs, c'))
    {fs : List (List Char)} (h : List.Forall₂ Kept (Canon.allLinesWith id cs) fs) :
    ∃ pieces : List Piece, List.Forall₂ Reprinted cs pieces ∧ fs = pieces.flatMap (·.1) := by
  induction cs generalizing fs with
  | nil =>
    cases h
    exact ⟨[], .nil, rfl⟩
  | cons c cs ihcs =>
    obtain ⟨gs, rest, rfl, hgs, hrest⟩ := exists_append_of_forall₂ h
    obtain ⟨c', hc'⟩ := ih c List.mem_cons_self gs hgs
    obtain ⟨pieces, hpieces, rfl⟩ := ihcs (fun d hd => ih d (List.mem_cons_of_mem _ hd)) hrest
    exact ⟨(gs, c') :: pieces, .cons hc' hpieces, rfl⟩

/-- Lines that a canonical form was given can be taken apart into the lines of its parts. -/
theorem exists_reprinted {c : Canon} (hc : c.Holds (fun _ text => Solid text) Headed)
    {fs : List (List Char)} (h : List.Forall₂ Kept c.flat fs) : ∃ c', Reprinted c (fs, c') := by
  induction c using Canon.induct generalizing fs with
  | attr key text =>
    cases hc with
    | attr hsolid =>
      obtain ⟨ps, last, -, -, hlines⟩ := hsolid.exists_last
      cases fs with
      | nil =>
        have hnil := List.forall₂_nil_right_iff.1 h
        rw [Canon.flat, Canon.linesWith, hlines] at hnil
        simp at hnil
      | cons f fs => exact ⟨_, .attr h⟩
  | block kind labels slots ih =>
    cases hc with
    | block hheaded hslots =>
      obtain ⟨before, after, sections, hbefore, hafter, hsections, rfl⟩ :=
        exists_indentedLines hheaded h
      obtain ⟨gs, hgs, rfl⟩ := exists_slotLines (by decide) hsections
      have hpieces : ∀ slot, ∃ pieces : List Piece,
          List.Forall₂ Reprinted (slots slot) pieces ∧ gs slot = pieces.flatMap (·.1) := by
        intro slot
        exact exists_pieces (fun c hc _ => ih slot c hc (hslots slot c hc))
          (hgs slot (slot_mem_all slot))
      choose pieces hpieces hlines using hpieces
      have hgs' : gs = fun slot => (pieces slot).flatMap (·.1) := funext hlines
      subst hgs'
      exact ⟨_, .block hbefore hafter hpieces⟩

end TerraLint.Layout
