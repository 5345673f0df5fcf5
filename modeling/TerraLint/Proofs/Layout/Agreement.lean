import TerraLint.Proofs.Layout.Sections

/-!
# Checking and writing agree on the order

Whether a block is in order is decided on the lines that its sections cover, while its canonical form
is written by sorting. For a block that was read from a text both say the same: it is in order just
when its arguments already stand as they are written, with a line free between two sections.

* `Lined.sectionIsOrdered_iff`: a section is in order just when sorting leaves it as it is.
* `Tree.isOrdered_iff`: a block is in order just when writing leaves its arguments where they are.
-/

namespace TerraLint.Layout

open Text Hcl

/-- Arguments that stand below each other are determined by their lines. -/
theorem Lined.eq_of_perm {args args' : List Arg} (h : Lined args) (h' : Lined args')
    (hperm : args.Perm args') : args = args' := by
  refine List.Perm.eq_of_pairwise ?_ h.start_lt h'.start_lt hperm
  intro a b _ _ hab hba
  omega

theorem Lined.sectionIsOrdered_iff {args : List Arg} (h : Lined args) (kind : SectionKind) :
    (Section.ofArgs kind args).isOrdered = true ↔ (Section.ofArgs kind args).canonical = args := by
  have hsorted := (Section.ofArgs kind args).pairwise_canonical
  rw [Section.isOrdered, Section.canonical, h.sourceOrder_eq, Section.ofArgs_kind,
    inOrder_iff_pairwise (Section.precedes_trans kind)]
  refine ⟨sortBy_of_pairwise, fun heq => ?_⟩
  rw [Section.canonical, h.sourceOrder_eq, Section.ofArgs_kind, heq] at hsorted
  exact hsorted

/-- Sections that each leave a line free before the next leave one before all later ones. -/
theorem pairwise_clear {sections : List Section} (hfilled : ∀ s ∈ sections, s.args ≠ [])
    (hlined : ∀ s ∈ sections, Lined s.args) (h : sections.IsChain Section.Clear) :
    sections.Pairwise Section.Clear := by
  induction sections with
  | nil => exact .nil
  | cons s sections ih =>
    obtain ⟨-, hfilled⟩ := List.forall_mem_cons.1 hfilled
    obtain ⟨-, hlined⟩ := List.forall_mem_cons.1 hlined
    obtain ⟨hnext, hchain⟩ := List.isChain_cons.1 h
    have hrest := ih hfilled hlined hchain
    refine List.pairwise_cons.2 ⟨fun later hlater => ?_, hrest⟩
    cases sections with
    | nil => cases hlater
    | cons next sections =>
      have hclear : s.Clear next := hnext next rfl
      rcases List.mem_cons.1 hlater with rfl | hlater
      · exact hclear
      · -- The next section has an argument, which stands between the two.
        intro a ha a' ha'
        obtain ⟨b, hb⟩ := List.exists_mem_of_ne_nil _ (hfilled next List.mem_cons_self)
        have hab := hclear a ha b hb
        have hba := (List.pairwise_cons.1 hrest).1 later hlater b hb a' ha'
        have hle := (hlined next List.mem_cons_self).forward b hb
        omega

theorem flatMap_filled {β : Type} {f : Section → List β} (hf : ∀ s, s.args = [] → f s = [])
    (sections : List Section) : (filled sections).flatMap f = sections.flatMap f := by
  induction sections with
  | nil => rfl
  | cons s sections ih =>
    by_cases hnil : s.args = []
    · have hskip : filled (s :: sections) = filled sections := by simp [filled, hnil]
      rw [hskip, ih, List.flatMap_cons, hf s hnil, List.nil_append]
    · have hkeep : filled (s :: sections) = s :: filled sections := by simp [filled, hnil]
      rw [hkeep, List.flatMap_cons, List.flatMap_cons, ih]

/-- Sections with a line free between each two stand below each other as a whole. -/
theorem lined_of_clear {sections : List Section} (hlined : ∀ s ∈ sections, Lined s.args)
    (h : (filled sections).IsChain Section.Clear) : Lined (sections.flatMap (·.args)) := by
  have hmem : ∀ a ∈ sections.flatMap (·.args), ∃ s ∈ sections, a ∈ s.args :=
    fun a ha => List.mem_flatMap.1 ha
  refine ⟨?_, fun a ha => ?_, fun a ha => ?_⟩
  · have hclear := pairwise_clear
      (fun s hs => by simpa using (List.mem_filter.1 hs).2)
      (fun s hs => hlined s (List.mem_filter.1 hs).1) h
    rw [← flatMap_filled fun s hs => hs, List.pairwise_flatMap]
    refine ⟨fun s hs => (hlined s (List.mem_filter.1 hs).1).below, hclear.imp fun hss a ha b hb => ?_⟩
    have hgap := hss a ha b hb
    omega
  · obtain ⟨s, hs, ha⟩ := hmem a ha
    exact (hlined s hs).forward a ha
  · obtain ⟨s, hs, ha⟩ := hmem a ha
    exact (hlined s hs).somewhere a ha

/-- Sections that share out arguments which stand below each other are in order just when the
arguments already stand in canonical order, with a line free between two sections. -/
theorem sectionsOrdered_iff_canonical {sections : List Section} {args : List Arg}
    (hsections : ∀ s ∈ sections, s = Section.ofArgs s.kind s.args)
    (hsub : ∀ s ∈ sections, s.args.Sublist args) (hperm : (sections.flatMap (·.args)).Perm args)
    (hargs : Lined args) :
    sectionsOrdered none sections = true ↔
      args = sections.flatMap Section.canonical ∧ (filled sections).IsChain Section.Clear := by
  have hlined : ∀ s ∈ sections, Lined s.args := fun s hs => hargs.sublist (hsub s hs)
  have hordered : ∀ s ∈ sections, s.isOrdered = true ↔ s.canonical = s.args := by
    intro s hs
    have hiff := (hlined s hs).sectionIsOrdered_iff s.kind
    rwa [← hsections s hs] at hiff
  rw [sectionsOrdered_iff hsections fun s hs => (hlined s hs).somewhere]
  constructor
  · rintro ⟨hall, -, hclear⟩
    have hcanonical : sections.flatMap Section.canonical = sections.flatMap (·.args) :=
      List.flatMap_congr fun s hs => (hordered s hs).1 (hall s hs)
    refine ⟨?_, hclear⟩
    rw [hcanonical]
    exact hargs.eq_of_perm (lined_of_clear hlined hclear) hperm.symm
  · rintro ⟨heq, hclear⟩
    refine ⟨fun s hs => (hordered s hs).2 ?_, by simp, hclear⟩
    -- A section in canonical order is a part of the source, where lines ascend.
    have hcanonical : s.canonical.Sublist args := by
      rw [heq, List.flatMap_def]
      exact List.sublist_flatten_of_mem (List.mem_map_of_mem hs)
    exact (hargs.sublist hcanonical).eq_of_perm (hlined s hs) s.canonical_perm

/-- A block at any depth of a body that was read from a text is in order just when its arguments
stand in the source as its canonical form writes them, section after section, and each section that
has arguments starts at least two lines after the one before it ends. -/
theorem Tree.isOrdered_iff {name : String} {text : List Char} {body : Body}
    (hparse : parseBody text = some body) {b : Block} (hb : Inside (.block b) body)
    (cl : Classifier) (isRoot : Bool) (path : List String) :
    (Tree.build (.parse name text) cl isRoot path b).isOrdered = true ↔
      sourceArgs (.parse name text) cl isRoot path b =
          (Tree.build (.parse name text) cl isRoot path b).sections.flatMap Section.canonical ∧
        (filled (Tree.build (.parse name text) cl isRoot path b).sections).IsChain
          Section.Clear := by
  obtain ⟨c, d, hc, hstack⟩ := exists_stack_of_inside hparse hb
  have hstart := hstack.pairwise_start
  refine sectionsOrdered_iff_canonical (fun s hs => ?_) (fun s hs => ?_) (args_build_perm hstart)
    (lined_sourceArgs hc hstack cl isRoot path)
  · rw [sections_build hstart] at hs
    obtain ⟨slot, -, rfl⟩ := List.mem_map.1 hs
    rw [Section.ofArgs_kind, Section.ofArgs_args]
  · rw [sections_build hstart] at hs
    obtain ⟨slot, -, rfl⟩ := List.mem_map.1 hs
    rw [Section.ofArgs_args]
    exact slotArgs_sublist slot

/-- A block with two attributes that stand the wrong way round. -/
def swapped : List Char := "r \x7b\n  b = x\n  a = y\n\x7d\n".toList

/-- Attributes that stand the wrong way round are not as they are written. -/
theorem Tree.not_canonical_swapped :
    ∃ body b, parseBody swapped = some body ∧ Inside (.block b) body ∧
      ¬(sourceArgs (.parse "main.tf" swapped) .terraform true ["r"] b =
          (Tree.build (.parse "main.tf" swapped) .terraform true ["r"] b).sections.flatMap
            Section.canonical ∧
        (filled (Tree.build (.parse "main.tf" swapped) .terraform true ["r"] b).sections).IsChain
          Section.Clear) := by
  have hread : ((parseBody swapped).bind fun body => body.blocks.head?.map fun b =>
      (Tree.build (.parse "main.tf" swapped) .terraform true ["r"] b).isOrdered) = some false := by
    decide +kernel
  obtain ⟨body, hbody, hread⟩ := Option.bind_eq_some_iff.1 hread
  obtain ⟨b, hb, hunordered⟩ := Option.map_eq_some_iff.1 hread
  have hinside : Inside (.block b) body := .here (mem_of_mem_blocks (List.mem_of_mem_head? hb))
  refine ⟨body, b, hbody, hinside, fun hcanonical => ?_⟩
  have hordered := (Tree.isOrdered_iff hbody hinside .terraform true ["r"]).2 hcanonical
  rw [hunordered] at hordered
  cases hordered

end TerraLint.Layout
