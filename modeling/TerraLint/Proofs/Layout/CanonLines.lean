import TerraLint.Proofs.Format.Conservation
import TerraLint.Proofs.Layout.Canon

/-!
# Canonical texts line by line

A section is laid out by itself, then its block, then the section that the block stands in, and so
on. Each time the lines stay the lines, so the lines of a canonical text are those of its parts, laid
out once for each section and block around them.

* `Canon.linesWith`: the lines of a canonical form, with something done to each section and block.
* `Canon.lines_render`: the lines of a canonical text.
-/

namespace TerraLint

open Text Format

namespace Layout

/-! ## The lines of a canonical form -/

/-- Sections with an empty line between each two. -/
def joinLines (sections : List (List (List Char))) : List (List Char) := [[]].intercalate sections

/-- The lines of a block whose sections have some lines. -/
def blockLines (kind : String) (labels : List String) (sections : List (List (List Char))) :
    List (List Char) :=
  if sections.isEmpty then [headerText kind labels ++ [' ', '{', '}']]
  else (headerText kind labels ++ [' ', '{']) :: joinLines sections ++ [['}']]

namespace Canon

variable (lay : List (List Char) → List (List Char))

mutual

/-- The lines of a canonical form, with something done to the lines of each section and block. -/
def linesWith : Canon → List (List Char)
  | .attr _ text => lines text
  | .block kind labels slots =>
    lay (blockLines kind labels
      (((Slot.all true).map fun slot => lay (allLinesWith (slots slot))).filter
        fun ls => !ls.isEmpty))

/-- The lines of canonical forms one after the other. -/
def allLinesWith : List Canon → List (List Char)
  | [] => []
  | c :: cs => linesWith c ++ allLinesWith cs

end

theorem allLinesWith_eq_flatMap (cs : List Canon) :
    allLinesWith lay cs = cs.flatMap (linesWith lay) := by
  induction cs with
  | nil => rfl
  | cons c cs ih => rw [allLinesWith, ih, List.flatMap_cons]

/-- The lines of the text of a canonical form. -/
def laid : Canon → List (List Char) := linesWith layLines

/-- The lines that the text of a canonical form is made of. -/
def flat : Canon → List (List Char) := linesWith id

/-- A canonical form whose attributes and blocks have some properties. -/
inductive Holds (P : String → List Char → Prop) (Q : String → List String → Prop) : Canon → Prop
  | attr {key : String} {text : List Char} (h : P key text) : Holds P Q (.attr key text)
  | block {kind : String} {labels : List String} {slots : Slot → List Canon} (h : Q kind labels)
    (hslots : ∀ slot, ∀ c ∈ slots slot, Holds P Q c) : Holds P Q (.block kind labels slots)

end Canon

/-! ## The lines of a canonical text -/

theorem joinSections_cons {texts : List (List Char)} (h : texts ≠ []) (text : List Char) :
    joinSections (text :: texts) = text ++ '\n' :: '\n' :: joinSections texts := by
  rw [joinSections, List.intercalate_cons_of_ne_nil h, List.append_assoc]
  rfl

theorem joinLines_cons {sections : List (List (List Char))} (h : sections ≠ [])
    (ls : List (List Char)) : joinLines (ls :: sections) = ls ++ [] :: joinLines sections := by
  rw [joinLines, List.intercalate_cons_of_ne_nil h, List.append_assoc]
  rfl

theorem lines_joinSections {texts : List (List Char)} (h : ∀ text ∈ texts, Solid text)
    (hne : texts ≠ []) :
    Solid (joinSections texts) ∧ lines (joinSections texts) = joinLines (texts.map lines) := by
  induction texts with
  | nil => exact absurd rfl hne
  | cons text texts ih =>
    have htext := h text List.mem_cons_self
    by_cases hnil : texts = []
    · subst hnil
      simpa [joinSections, joinLines] using htext
    · obtain ⟨hsolid, hlines⟩ := ih (fun t ht => h t (List.mem_cons_of_mem _ ht)) hnil
      rw [joinSections_cons hnil]
      refine ⟨?_, ?_⟩
      · have := hsolid.append (text ++ ['\n', '\n'])
        simpa using this
      · rw [htext.lines_append, lines_lineFeed_cons, hlines, List.map_cons,
          joinLines_cons (by simpa using hnil)]

theorem lines_braced {kind : String} {labels : List String} (hn : '\n' ∉ headerText kind labels)
    {texts : List (List Char)} (h : ∀ text ∈ texts, Solid text) :
    Solid (braced (headerText kind labels) (joinSections texts)) ∧
      lines (braced (headerText kind labels) (joinSections texts)) =
        blockLines kind labels (texts.map lines) := by
  by_cases hnil : texts = []
  · subst hnil
    have hsolid : Solid [' ', '{', '}'] := ⟨by simp, by decide⟩
    have hbraced : braced (headerText kind labels) (joinSections []) =
        headerText kind labels ++ [' ', '{', '}'] := rfl
    rw [hbraced]
    exact ⟨hsolid.append _, lines_of_not_mem (by simpa using hn) (by simp)⟩
  · obtain ⟨hsolid, hlines⟩ := lines_joinSections h hnil
    have hopen : Solid (headerText kind labels ++ [' ', '{']) :=
      (⟨by simp, by decide⟩ : Solid [' ', '{']).append _
    have hopenLines : lines (headerText kind labels ++ [' ', '{']) =
        [headerText kind labels ++ [' ', '{']] := lines_of_not_mem (by simpa using hn) (by simp)
    have hclose : Solid ['}'] := ⟨by simp, by decide⟩
    have hbraced : braced (headerText kind labels) (joinSections texts) =
        (headerText kind labels ++ [' ', '{']) ++ '\n' :: (joinSections texts ++ '\n' :: ['}']) := by
      rw [braced, hsolid.allBlank]
      simp
    rw [hbraced]
    refine ⟨?_, ?_⟩
    · have := hclose.append
        ((headerText kind labels ++ [' ', '{']) ++ '\n' :: (joinSections texts ++ ['\n']))
      simpa using this
    · rw [hopen.lines_append, hsolid.lines_append, hopenLines, hlines, blockLines, if_neg (by simpa using hnil)]
      rfl

namespace Canon

/-- A canonical form that can be written line by line: attributes end in a character, and headers
stand in one line. -/
def Printable : Canon → Prop :=
  Holds (fun _ text => Solid text) fun kind labels => '\n' ∉ headerText kind labels

/-- Sections without text have no lines. -/
theorem lines_filter (slots : List Slot) {f : Slot → List Char} {g : Slot → List (List Char)}
    (h : ∀ slot, f slot = [] ∧ g slot = [] ∨ Solid (f slot) ∧ lines (f slot) = g slot) :
    (∀ text ∈ (slots.map f).filter fun text => !text.isEmpty, Solid text) ∧
      ((slots.map f).filter fun text => !text.isEmpty).map lines =
        (slots.map g).filter fun ls => !ls.isEmpty := by
  induction slots with
  | nil => simp
  | cons slot slots ih =>
    rcases h slot with ⟨hf, hg⟩ | ⟨hsolid, hlines⟩
    · simpa [hf, hg] using ih
    · have hne : (!(f slot).isEmpty) = true := by simpa using hsolid.ne_nil
      obtain ⟨ps, last, -, -, hlast⟩ := hsolid.exists_last
      have hne' : (!(g slot).isEmpty) = true := by rw [← hlines, hlast]; simp
      rw [List.map_cons, List.map_cons, List.filter_cons, if_pos hne, List.filter_cons, if_pos hne',
        List.map_cons, hlines, ih.2]
      refine ⟨fun text ht => ?_, rfl⟩
      rcases List.mem_cons.1 ht with rfl | ht
      · exact hsolid
      · exact ih.1 text ht

/-- The lines of a canonical text are the lines of its canonical form. -/
theorem lines_render (c : Canon) (h : c.Printable) : Solid c.render ∧ lines c.render = c.laid := by
  induction c using induct with
  | attr key text =>
    cases h with
    | attr h => exact ⟨h, rfl⟩
  | block kind labels slots ih =>
    cases h with
    | block hn hslots =>
      have hsolid : ∀ slot, ∀ text ∈ renderAll (slots slot), Solid text := by
        intro slot text ht
        rw [renderAll_eq_map] at ht
        obtain ⟨c, hc, rfl⟩ := List.mem_map.1 ht
        exact (ih slot c hc (hslots slot c hc)).1
      have hlines : ∀ slot, (renderAll (slots slot)).flatMap lines =
          allLinesWith layLines (slots slot) := by
        intro slot
        rw [renderAll_eq_map, allLinesWith_eq_flatMap, List.flatMap_map]
        exact List.flatMap_congr fun c hc => (ih slot c hc (hslots slot c hc)).2
      have hsection : ∀ slot,
          sectionText (renderAll (slots slot)) = [] ∧
              layLines (allLinesWith layLines (slots slot)) = [] ∨
            Solid (sectionText (renderAll (slots slot))) ∧
              lines (sectionText (renderAll (slots slot))) =
                layLines (allLinesWith layLines (slots slot)) := by
        intro slot
        by_cases hnil : slots slot = []
        · left
          rw [hnil]
          exact ⟨rfl, rfl⟩
        · right
          have hne : renderAll (slots slot) ≠ [] := by simpa [renderAll_eq_map] using hnil
          have hjoin : Solid (unlines (renderAll (slots slot))) := solid_unlines (hsolid slot) hne
          rw [sectionText, if_neg (by simpa using hne), ← hlines,
            ← lines_unlines_of_solid (hsolid slot)]
          exact ⟨solid_format hjoin, lines_format_of_solid hjoin⟩
      obtain ⟨htexts, hmap⟩ := lines_filter (Slot.all true) hsection
      obtain ⟨hbraced, hblock⟩ := lines_braced hn htexts
      rw [render, blockText, laid, linesWith]
      refine ⟨solid_format hbraced, ?_⟩
      rw [lines_format_of_solid hbraced, hblock, hmap]

end Canon

end Layout

end TerraLint
