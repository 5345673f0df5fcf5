import TerraLint.Proofs.Data.Forall
import TerraLint.Proofs.Rule.Declarations
import TerraLint.Proofs.Session.Outcome

/-!
# The required version comes first

Where things stand in a file is compared by line and column of what is left of a span without the
blanks around it. The structures of a body start with a name, so this is the order of their offsets,
and a block is in order just when the required version starts before everything else in it.

* `Hcl.Block.StartsWith`: the first structure of a block assigns a key.
* `TerraformBlock.precededBy_iff`: when something stands before the required version.
* `Session.required_version_first`: the issues of a module, block by block.
-/

namespace TerraLint

open Text Hcl

/-- The first structure of a block, in source order, assigns a key. -/
def Hcl.Block.StartsWith (b : Block) (key : String) : Prop :=
  ∃ a ∈ b.attributes, a.key = key ∧ ∀ item ∈ b.body, a.span.start ≤ item.span.start

instance (b : Block) (key : String) : Decidable (b.StartsWith key) :=
  inferInstanceAs (Decidable (∃ a ∈ b.attributes, a.key = key ∧
    ∀ item ∈ b.body, a.span.start ≤ item.span.start))

namespace SourceFile

variable {name : String} {text : List Char} {body : Body} {d : Cursor} {x y : Item}

/-- A structure starts where its span does. -/
theorem rangeOf_start_inside (h : Stack (.ofText text) d body) (hx : Inside x body) :
    ((parse name text).rangeOf x.span).start = (parse name text).pos x.span.start ∧
      floorBoundary x.span.start text = x.span.start := by
  obtain ⟨c', d', hreach, hstands⟩ := h.exists_of_inside hx
  obtain ⟨before, htext, hbefore⟩ := exists_of_reaches hreach
  rw [rangeOf_stands hreach hstands, hstands.span]
  refine ⟨rfl, ?_⟩
  dsimp only
  rw [hbefore, htext]
  exact floorBoundary_append before c'.rest

/-- Of two structures of a file the one before the other starts at the smaller offset. -/
theorem before_iff_of_inside (h : Stack (.ofText text) d body) (hx : Inside x body)
    (hy : Inside y body) :
    ((parse name text).rangeOf x.span).start.before ((parse name text).rangeOf y.span).start =
      true ↔ x.span.start < y.span.start := by
  obtain ⟨hxstart, hxfloor⟩ := @rangeOf_start_inside name _ _ _ _ h hx
  obtain ⟨hystart, hyfloor⟩ := @rangeOf_start_inside name _ _ _ _ h hy
  have hcompare := LineIndex.compare_pos text x.span.start y.span.start
  rw [hxfloor, hyfloor] at hcompare
  rw [hxstart, hystart, Pos.before, beq_iff_eq, ← Nat.compare_eq_lt, ← hcompare]
  rfl

end SourceFile

namespace TerraformBlock

/-- What an issue of the rule says. -/
def versionMessage : String :=
  "The `required_version` field should be declared at the beginning of `terraform` block"

variable {name : String} {text : List Char} {body : Body} {d : Cursor} {b : Block} {v : Attribute}

/-- Something stands before the required version just when a structure starts before it. -/
theorem precededBy_iff (h : Stack (.ofText text) d body) (hb : Inside (.block b) body)
    (hv : v ∈ b.attributes) (hunique : ∀ a ∈ b.attributes, a.key = "required_version" → a = v) :
    precededBy (.parse name text) b ((SourceFile.parse name text).rangeOf v.span).start = true ↔
      ∃ item ∈ b.body, item.span.start < v.span.start := by
  have hvItem : .attr v ∈ b.body := mem_of_mem_attributes hv
  have hbefore : ∀ item ∈ b.body,
      ((SourceFile.parse name text).rangeOf item.span).start.before
          ((SourceFile.parse name text).rangeOf v.span).start = true ↔
        item.span.start < v.span.start := fun item hitem =>
    @SourceFile.before_iff_of_inside name text body d item (.attr v) h (hb.within hitem)
      (hb.within hvItem)
  unfold precededBy
  rw [List.any_eq_true]
  constructor
  · rintro ⟨span, hspan, hlt⟩
    rcases List.mem_append.1 hspan with hspan | hspan
    · obtain ⟨a, ha, rfl⟩ := List.mem_map.1 hspan
      have hitem := mem_of_mem_attributes (List.mem_of_mem_filter ha)
      exact ⟨.attr a, hitem, (hbefore _ hitem).1 hlt⟩
    · obtain ⟨child, hchild, rfl⟩ := List.mem_map.1 hspan
      have hitem := mem_of_mem_blocks hchild
      exact ⟨.block child, hitem, (hbefore _ hitem).1 hlt⟩
  · rintro ⟨item, hitem, hlt⟩
    refine ⟨item.span, ?_, (hbefore _ hitem).2 hlt⟩
    cases item with
    | attr a =>
      have ha : a ∈ b.attributes := List.mem_filterMap.2 ⟨.attr a, hitem, rfl⟩
      -- The required version does not start before itself.
      have hkey : a.key ≠ "required_version" := by
        intro hkey
        rw [hunique a ha hkey] at hlt
        exact absurd hlt (Nat.lt_irrefl _)
      exact List.mem_append_left _
        (List.mem_map_of_mem (List.mem_filter.2 ⟨ha, bne_iff_ne.2 hkey⟩))
    | block child =>
      have hchild : child ∈ b.blocks := List.mem_filterMap.2 ⟨.block child, hitem, rfl⟩
      exact List.mem_append_right _ (List.mem_map_of_mem hchild)

/-- What is found in one block: nothing if the required version comes first, else one issue, at the
key of the required version or, without one, at the block. -/
theorem checkVersion_spec (h : parseBody text = some body) (name : String)
    (hb : b ∈ body.blocksOf "terraform") :
    (checkVersion (.parse name text) b = [] ↔ b.StartsWith "required_version") ∧
    (∀ v ∈ b.attributes, v.key = "required_version" → ¬b.StartsWith "required_version" →
      checkVersion (.parse name text) b =
        [.issue versionMessage ((SourceFile.parse name text).keyRange v)]) ∧
    ((∀ a ∈ b.attributes, a.key ≠ "required_version") →
      checkVersion (.parse name text) b =
        [.issue versionMessage ((SourceFile.parse name text).defRange b)]) := by
  obtain ⟨d, hstack⟩ := stack_of_parseBody h
  have hformed := formed_of_mem_blocksOf h hb
  have hinside : Inside (.block b) body := .here (mem_of_mem_blocks (List.mem_of_mem_filter hb))
  cases hversion : b.attribute? "required_version" with
  | none =>
    have hnone := Block.attribute?_eq_none_iff.1 hversion
    have hcheck : checkVersion (.parse name text) b =
        [.issue versionMessage ((SourceFile.parse name text).defRange b)] := by
      simp only [checkVersion, hversion, versionMessage]
    refine ⟨?_, fun v hv hkey => absurd hkey (hnone v hv), fun _ => hcheck⟩
    rw [hcheck]
    refine iff_of_false (List.cons_ne_nil _ _) ?_
    rintro ⟨a, ha, hkey, -⟩
    exact hnone a ha hkey
  | some v =>
    obtain ⟨hv, hkey⟩ := (Block.attribute?_eq_some_iff hformed).1 hversion
    have hunique : ∀ a ∈ b.attributes, a.key = "required_version" → a = v := by
      intro a ha hakey
      have hfound := (Block.attribute?_eq_some_iff hformed).2 ⟨ha, hakey⟩
      exact Option.some.inj (hfound.symm.trans hversion)
    have hstarts : b.StartsWith "required_version" ↔
        ¬∃ item ∈ b.body, item.span.start < v.span.start := by
      constructor
      · rintro ⟨a, ha, hakey, hfirst⟩ ⟨item, hitem, hlt⟩
        rw [hunique a ha hakey] at hfirst
        exact absurd hlt (Nat.not_lt.2 (hfirst item hitem))
      · intro hnone
        exact ⟨v, hv, hkey, fun item hitem => Nat.not_lt.1 fun hlt => hnone ⟨item, hitem, hlt⟩⟩
    have hpreceded := @precededBy_iff name text body d b v hstack hinside hv hunique
    by_cases hfirst : b.StartsWith "required_version"
    · have hcheck : checkVersion (.parse name text) b = [] := by
        have hprec := Bool.eq_false_iff.2 (mt hpreceded.1 (hstarts.1 hfirst))
        simp only [checkVersion, hversion, hprec, Bool.false_eq_true, if_false]
      exact ⟨iff_of_true hcheck hfirst, fun _ _ _ hnot => absurd hfirst hnot,
        fun hnone => absurd hkey (hnone v hv)⟩
    · have hcheck : checkVersion (.parse name text) b =
          [.issue versionMessage ((SourceFile.parse name text).keyRange v)] := by
        have hprec := hpreceded.2 (not_not.1 (mt hstarts.2 hfirst))
        simp only [checkVersion, hversion, hprec, if_true, versionMessage]
      refine ⟨?_, fun a ha hakey _ => hunique a ha hakey ▸ hcheck,
        fun hnone => absurd hkey (hnone v hv)⟩
      rw [hcheck]
      exact iff_of_false (List.cons_ne_nil _ _) hfirst

theorem failures_checkVersion (file : SourceFile) (b : Block) :
    failures (checkVersion file b) = [] := by
  unfold checkVersion
  dsimp only
  split
  · rfl
  · split <;> rfl

end TerraformBlock

namespace Session

open TerraformBlock

/-- An issue of the rule at a range. -/
def versionIssue (range : SourceRange) : Issue :=
  ⟨"terraform_required_version_declaration", .notice, versionMessage, range⟩

/-- The issues of a block: none just when its first structure assigns the required version, else one,
at the key of the required version if that comes later, and at the block if there is none. -/
structure VersionIssues (file : SourceFile) (b : Block) (issues : List Issue) : Prop where
  first : issues = [] ↔ b.StartsWith "required_version"
  later : ∀ v ∈ b.attributes, v.key = "required_version" → ¬b.StartsWith "required_version" →
    issues = [versionIssue (file.keyRange v)]
  missing : (∀ a ∈ b.attributes, a.key ≠ "required_version") →
    issues = [versionIssue (file.defRange b)]

theorem versionIssues_checkVersion {text : List Char} {body : Body} {b : Block}
    (h : parseBody text = some body) (name : String) (hb : b ∈ body.blocksOf "terraform") :
    VersionIssues (.parse name text) b
      (Rule.requiredVersionDeclaration.issues (checkVersion (.parse name text) b)) := by
  obtain ⟨hnil, hlater, hmissing⟩ := checkVersion_spec h name hb
  refine ⟨?_, fun v hv hkey hnot => ?_, fun hnone => ?_⟩
  · rw [← hnil]
    cases hcheck : checkVersion (.parse name text) b with
    | nil => exact iff_of_true rfl rfl
    | cons f fs =>
      have hnone := failures_checkVersion (.parse name text) b
      rw [hcheck] at hnone
      cases f with
      | issue m r => exact iff_of_false (List.cons_ne_nil _ _) (List.cons_ne_nil _ _)
      | failure e => cases hnone
  · rw [hlater v hv hkey hnot]
    rfl
  · rw [hmissing hnone]
    rfl

/-- In a module of files with different names the rule succeeds, and records the issues of the
`terraform` blocks, one block after the other. -/
theorem required_version_first {files : List (String × String)}
    (hnames : (files.map (·.1)).Nodup) (filter : IgnoreFilter) :
    ((start files).check .requiredVersionDeclaration filter).2 = .ok () ∧
    ∃ found : List (List Issue),
      ((start files).check .requiredVersionDeclaration filter).1.issues = found.flatten ∧
      List.Forall₂ (fun p => VersionIssues p.1 p.2)
        ((start files).declared .requiredVersionDeclaration filter "terraform") found := by
  have hrule : Rule.requiredVersionDeclaration ∈ Rule.all := by simp [Rule.all]
  obtain ⟨hissues, hresult, -⟩ := @check_outcome files _ filter hnames hrule (by decide)
  have hfindings := @findings_eq_declared .requiredVersionDeclaration filter (start files) "terraform"
    checkVersion fun _ _ => rfl
  rw [hfindings] at hissues hresult
  refine ⟨?_, ((start files).declared .requiredVersionDeclaration filter "terraform").map
    (fun p => Rule.requiredVersionDeclaration.issues (checkVersion p.1 p.2)), ?_, ?_⟩
  · rw [hresult, ErrorList.collapse_eq_ok_iff]
    simp only [failures, List.filterMap_flatMap]
    exact List.flatMap_eq_nil_iff.2 fun p _ => failures_checkVersion p.1 p.2
  · rw [hissues, ← List.flatMap_def]
    exact List.filterMap_flatMap
  · rw [List.forall₂_map_right_iff, List.forall₂_same]
    rintro ⟨file, b⟩ hb
    obtain ⟨name, text, body, rfl, hbody, hb⟩ := exists_of_mem_declared hb
    exact versionIssues_checkVersion hbody name hb

/-- A block with the required version first, one with a block before it, and one without it. -/
def threeVersions : String :=
  "terraform \x7b\n  required_version = 1\n  a \x7b\x7d\n\x7d\n" ++
    "terraform \x7b\n  a \x7b\x7d\n  required_version = 1\n\x7d\nterraform \x7b\x7d\n"

/-- The second block has an issue at its key and the third one at its header. -/
theorem required_version_first_three : ∃ p₁ p₂ p₃ v,
    (start [("main.tf", threeVersions)]).declared .requiredVersionDeclaration .empty "terraform" =
      [p₁, p₂, p₃] ∧
    p₁.2.StartsWith "required_version" ∧ p₂.2.attributes = [v] ∧ p₃.2.attributes = [] ∧
    ((start [("main.tf", threeVersions)]).check .requiredVersionDeclaration .empty).1.issues =
      [versionIssue (p₂.1.keyRange v), versionIssue (p₃.1.defRange p₃.2)] := by
  have hread : ((start [("main.tf", threeVersions)]).declared .requiredVersionDeclaration .empty
      "terraform").map (fun p =>
        (decide (p.2.StartsWith "required_version"), p.2.attributes.map Attribute.key)) =
      [(true, ["required_version"]), (false, ["required_version"]), (false, [])] := by
    decide +kernel
  obtain ⟨p₁, rest, hblocks, h₁, hread⟩ := List.map_eq_cons_iff.1 hread
  obtain ⟨p₂, rest, rfl, h₂, hread⟩ := List.map_eq_cons_iff.1 hread
  obtain ⟨p₃, rest, rfl, h₃, hread⟩ := List.map_eq_cons_iff.1 hread
  obtain rfl := List.map_eq_nil_iff.1 hread
  simp only [Prod.mk.injEq, decide_eq_true_eq, decide_eq_false_iff_not, List.map_eq_nil_iff]
    at h₁ h₂ h₃
  obtain ⟨v, rest, hv, hkey, hrest⟩ := List.map_eq_cons_iff.1 h₂.2
  obtain rfl := List.map_eq_nil_iff.1 hrest
  obtain ⟨-, found, hissues, hfound⟩ :=
    @required_version_first [("main.tf", threeVersions)] (by decide) .empty
  rw [hblocks] at hfound
  obtain ⟨i₁, found₂, hi₁, hfound₂, rfl⟩ := List.forall₂_cons_left_iff.1 hfound
  obtain ⟨i₂, found₃, hi₂, hfound₃, rfl⟩ := List.forall₂_cons_left_iff.1 hfound₂
  obtain ⟨i₃, rfl, hi₃⟩ := exists_singleton_of_forall₂ hfound₃
  rw [hi₁.first.2 h₁.1, hi₂.later v (hv ▸ List.mem_cons_self) hkey h₂.1,
    hi₃.missing (by simp [h₃.2])] at hissues
  exact ⟨p₁, p₂, p₃, v, hblocks, h₁.1, hv, h₃.2, hissues⟩

end Session

end TerraLint
