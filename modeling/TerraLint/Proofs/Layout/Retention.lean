import TerraLint.Proofs.Format.Conservation
import TerraLint.Proofs.Layout.Sections

/-!
# The canonical form keeps everything

The canonical form of a block holds each of its arguments once and nothing else: up to blanks it is
the header and, in braces, what was written for the arguments, section by section in canonical order.
Arguments with equal keys keep the order of the source.

* `Arg.ink`: what an argument contributes to the canonical form, without blanks.
* `Tree.squeeze_render`: the canonical form of a layout tree without blanks.
* `Tree.build_retains`: the arguments of a block are shared out, ordered and written.
-/

namespace TerraLint.Layout

open Text Hcl

/-- What an argument contributes to the canonical form of its block, without blanks: the text of an
attribute in the source, or the canonical form of a block. -/
def Arg.ink (file : SourceFile) (arg : Arg) : List Char :=
  match arg.content with
  | .attr _ => squeeze (file.slice arg.range)
  | .block tree => squeeze tree.render

/-! ## What is written, without blanks -/

theorem squeeze_joinSections (texts : List (List Char)) :
    squeeze (joinSections texts) = texts.flatMap squeeze := by
  unfold joinSections
  induction texts with
  | nil => rfl
  | cons text texts ih =>
    by_cases hnil : texts = []
    · subst hnil
      simp
    · rw [List.intercalate_cons_of_ne_nil hnil, squeeze_append, squeeze_append, ih,
        List.flatMap_cons, List.append_assoc]
      rfl

theorem squeeze_braced (header body : List Char) :
    squeeze (braced header body) = squeeze header ++ '{' :: squeeze body ++ ['}'] := by
  unfold braced
  split
  · rename_i hblank
    have hempty : squeeze [' ', '{', '}'] = ['{', '}'] := by decide
    rw [squeeze_eq_nil_iff.2 hblank, squeeze_append, hempty]
    simp
  · simp only [squeeze_append]
    have hopen : squeeze [' ', '{', '\n'] = ['{'] := by decide
    have hclose : squeeze ['\n', '}'] = ['}'] := by decide
    rw [hopen, hclose]
    simp

/-- A section is written in canonical order. -/
theorem renderSorted_eq_sectionText (s : Section) :
    renderSorted s.kind (s.args.map fun arg => (arg, arg.content.render)) =
      sectionText (s.canonical.map fun arg => arg.content.render) := by
  have hsorted : sortBy (fun a b => Section.precedes s.kind a.1 b.1)
        (sortBy (fun a b => Section.standsBefore a.1 b.1)
          (s.args.map fun arg => (arg, arg.content.render))) =
      s.canonical.map fun arg => (arg, arg.content.render) := by
    have hsource : (sortBy Section.standsBefore s.args).map (fun arg => (arg, arg.content.render)) =
        sortBy (fun a b => Section.standsBefore a.1 b.1)
          (s.args.map fun arg => (arg, arg.content.render)) := by
      apply map_sortBy
      exact fun _ _ => rfl
    rw [← hsource]
    symm
    apply map_sortBy
    exact fun _ _ => rfl
  unfold renderSorted sectionText
  dsimp only
  rw [hsorted, List.isEmpty_map, List.isEmpty_map, List.map_map]
  rfl

theorem squeeze_renderSorted (s : Section) :
    squeeze (renderSorted s.kind (s.args.map fun arg => (arg, arg.content.render))) =
      s.canonical.flatMap fun arg => squeeze arg.content.render := by
  rw [renderSorted_eq_sectionText, sectionText]
  split
  · rename_i hempty
    have hnil : s.canonical = [] := by simpa using hempty
    rw [hnil]
    rfl
  · rw [Format.squeeze_format, squeeze_unlines, List.flatMap_map]

theorem flatMap_squeeze_filter (texts : List (List Char)) :
    (texts.filter fun text => !text.isEmpty).flatMap squeeze = texts.flatMap squeeze := by
  induction texts with
  | nil => rfl
  | cons text texts ih =>
    cases text with
    | nil => exact ih
    | cons c cs => exact congrArg (squeeze (c :: cs) ++ ·) ih

/-- Without blanks, the canonical form is the header and the arguments in canonical order. -/
theorem Tree.squeeze_render (t : Tree) :
    squeeze t.render = squeeze t.header.toList ++
      '{' :: (t.sections.flatMap fun s =>
        s.canonical.flatMap fun arg => squeeze arg.content.render) ++ ['}'] := by
  obtain ⟨name, sortField, path, range, defRange, header, sections⟩ := t
  rw [Tree.render, Format.squeeze_format, squeeze_braced, squeeze_joinSections,
    flatMap_squeeze_filter, renderSections_eq_map, List.flatMap_map]
  simp only [squeeze_renderSorted]

/-! ## Blocks read from a text -/

section

variable {file : SourceFile} {cl : Classifier} {isRoot : Bool} {path : List String} {b : Block}

theorem squeeze_render_arg {arg : Arg} (h : arg ∈ sourceArgs file cl isRoot path b) :
    squeeze arg.content.render = arg.ink file := by
  obtain ⟨item, -, rfl⟩ := List.mem_map.1 h
  cases item with
  | attr a => rfl
  | block child => rfl

theorem header_build : (Tree.build file cl isRoot path b).header = b.header := by
  obtain ⟨kind, labels, body, span⟩ := b
  rw [Tree.build]

end

/-- Of a block at any depth of a body that was read from a text, each argument is in one section, the
canonical form is made of them and of the header alone, and each section has its arguments sorted,
those with equal keys as they stand in the source. -/
theorem Tree.build_retains {name : String} {text : List Char} {body : Body}
    (hparse : parseBody text = some body) {b : Block} (hb : Inside (.block b) body)
    (cl : Classifier) (isRoot : Bool) (path : List String) :
    (Tree.build (.parse name text) cl isRoot path b).args.Perm
        (sourceArgs (.parse name text) cl isRoot path b) ∧
      (Tree.build (.parse name text) cl isRoot path b).args.Nodup ∧
      squeeze (Tree.build (.parse name text) cl isRoot path b).render =
        squeeze b.header.toList ++
          '{' :: ((Tree.build (.parse name text) cl isRoot path b).sections.flatMap fun s =>
            s.canonical.flatMap (Arg.ink (.parse name text))) ++ ['}'] ∧
      ∀ s ∈ (Tree.build (.parse name text) cl isRoot path b).sections,
        s.canonical.Perm s.args ∧ s.canonical.Pairwise fun a a' =>
          Section.precedes s.kind a a' = true ∧ (Section.precedes s.kind a' a = true →
            [a, a'].Sublist (sourceArgs (.parse name text) cl isRoot path b)) := by
  obtain ⟨c, d, hc, hstack⟩ := exists_stack_of_inside hparse hb
  have hstart := hstack.pairwise_start
  have hlined := @lined_sourceArgs name text c d b hc hstack cl isRoot path
  have hperm := @args_build_perm (.parse name text) cl isRoot path b hstart
  refine ⟨hperm, hperm.nodup_iff.2 hlined.nodup, ?_, fun s hs => ⟨s.canonical_perm, ?_⟩⟩
  · rw [Tree.squeeze_render, header_build]
    have hink : (Tree.build (.parse name text) cl isRoot path b).sections.flatMap (fun s =>
          s.canonical.flatMap fun arg => squeeze arg.content.render) =
        (Tree.build (.parse name text) cl isRoot path b).sections.flatMap fun s =>
          s.canonical.flatMap (Arg.ink (.parse name text)) := by
      refine List.flatMap_congr fun s hs => List.flatMap_congr fun arg harg => ?_
      have hmem : arg ∈ (Tree.build (.parse name text) cl isRoot path b).args :=
        List.mem_flatMap.2 ⟨s, hs, s.canonical_perm.subset harg⟩
      exact squeeze_render_arg (hperm.subset hmem)
    rw [hink]
  · rw [sections_build hstart] at hs
    obtain ⟨slot, -, rfl⟩ := List.mem_map.1 hs
    have hsub := @slotArgs_sublist (.parse name text) cl isRoot path b slot
    have hsorted := (Section.ofArgs slot.kind
      (slotArgs (.parse name text) cl isRoot path b slot)).pairwise_canonical
    refine hsorted.and ?_
    -- Sorting is stable, and what was sorted is a part of the source.
    rw [Section.canonical, (hlined.sublist hsub).sourceOrder_eq, Section.ofArgs_kind]
    refine stable_sortBy (List.pairwise_iff_forall_sublist.2 fun hpair => ?_)
    exact hpair.trans hsub

/-- A block inside a block. -/
def nestedText : List Char :=
  "r \x7b\n  s \x7b\n    b = x\n    a = y\n  \x7d\n\x7d\n".toList

/-- A nested block is kept as a whole. -/
theorem Tree.build_retains_nested :
    ∃ body b, parseBody nestedText = some body ∧ Inside (.block b) body ∧
      (Tree.build (.parse "main.tf" nestedText) .terraform false ["r", "s"] b).args.Perm
        (sourceArgs (.parse "main.tf" nestedText) .terraform false ["r", "s"] b) := by
  have hread : ((parseBody nestedText).bind fun body =>
      body.blocks.head?.bind fun r => r.blocks.head?).isSome = true := by
    decide +kernel
  obtain ⟨b, hread⟩ := Option.isSome_iff_exists.1 hread
  obtain ⟨body, hbody, hread⟩ := Option.bind_eq_some_iff.1 hread
  obtain ⟨r, hr, hb⟩ := Option.bind_eq_some_iff.1 hread
  have hinside : Inside (.block b) body :=
    .nested (mem_of_mem_blocks (List.mem_of_mem_head? hr))
      (.here (mem_of_mem_blocks (List.mem_of_mem_head? hb)))
  exact ⟨body, b, hbody, hinside,
    (Tree.build_retains hbody hinside .terraform false ["r", "s"]).1⟩

end TerraLint.Layout
