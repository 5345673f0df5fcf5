import TerraLint.Proofs.Rule.Declarations
import TerraLint.Proofs.Session.Rejection

/-!
# The outcome of a check

A check of a module looks at the files that can be read and are not ignored. For every rule but one
it hands over what the rule finds in them: each issue is recorded and each failure is kept, in order.

* `Session.looked`, `Session.declared`: the files that are looked at, and the blocks that they declare.
* `Session.check_outcome`: what a check records, and its errors.
-/

namespace TerraLint

open Hcl

namespace Session

/-- A file with what it writes, if the rule looks at it. -/
def read? (rule : Rule) (filter : IgnoreFilter) (file : SourceFile) : Option (SourceFile × Body) :=
  if filter.isIgnored file.name rule.name then none else file.body?.map fun body => (file, body)

/-- The files that a rule looks at, with what they write. -/
def looked (s : Session) (rule : Rule) (filter : IgnoreFilter) : List (SourceFile × Body) :=
  (s.inScope rule.scope).filterMap (read? rule filter)

/-- The blocks of one type that stand at the top of the files that a rule looks at. -/
def declared (s : Session) (rule : Rule) (filter : IgnoreFilter) (kind : String) :
    List (SourceFile × Block) :=
  (s.looked rule filter).flatMap fun (file, body) => (body.blocksOf kind).map fun b => (file, b)

variable {files : List (String × String)} {rule : Rule} {filter : IgnoreFilter}

theorem eq_of_read? {file : SourceFile} {f : SourceFile × Body} (h : read? rule filter file = some f) :
    f.1 = file ∧ file.body? = some f.2 := by
  unfold read? at h
  split at h
  · cases h
  · obtain ⟨body, hbody, rfl⟩ := Option.map_eq_some_iff.1 h
    exact ⟨rfl, hbody⟩

theorem findings_eq_looked (s : Session) :
    s.findings rule filter = (s.looked rule filter).flatMap fun (file, body) =>
      rule.findings file body := by
  unfold findings looked
  rw [List.filterMap_eq_flatMap_toList, List.flatMap_assoc]
  refine List.flatMap_congr fun file _ => ?_
  unfold findingsIn read?
  by_cases hignored : filter.isIgnored file.name rule.name = true
  · rw [if_pos hignored, if_pos hignored]
    rfl
  · rw [if_neg hignored, if_neg hignored]
    cases file.body? with
    | none => rfl
    | some body => exact (List.flatMap_singleton _ _).symm

/-- The findings of a rule that looks at blocks of one type. -/
theorem findings_eq_declared (s : Session) {kind : String} {find : SourceFile → Block → List Finding}
    (hfind : ∀ file body, rule.findings file body = (body.blocksOf kind).flatMap (find file)) :
    s.findings rule filter = (s.declared rule filter kind).flatMap fun (file, b) => find file b := by
  rw [findings_eq_looked, declared, List.flatMap_assoc]
  refine List.flatMap_congr fun f _ => ?_
  rw [List.flatMap_map]
  exact hfind f.1 f.2

theorem exists_of_mem_declared {kind : String} {file : SourceFile} {b : Block}
    (h : (file, b) ∈ (start files).declared rule filter kind) :
    ∃ name text body, file = .parse name text ∧ parseBody text = some body ∧
      b ∈ body.blocksOf kind := by
  obtain ⟨f, hlooked, hb⟩ := List.mem_flatMap.1 h
  obtain ⟨b', hb', heq⟩ := List.mem_map.1 hb
  obtain ⟨rfl, rfl⟩ := Prod.mk.inj heq
  obtain ⟨file, hfile, hread⟩ := List.mem_filterMap.1 hlooked
  obtain ⟨g, -, rfl⟩ := exists_of_mem_inScope hfile
  obtain ⟨hfirst, hbody⟩ := eq_of_read? hread
  exact ⟨g.1, g.2.toList, f.2, hfirst, hbody, hb'⟩

/-- The blocks of a file come in source order. -/
theorem pairwise_declared (hnames : (files.map (·.1)).Nodup) (rule : Rule) (filter : IgnoreFilter)
    (kind : String) : ((start files).declared rule filter kind).Pairwise fun p q =>
      p.1 = q.1 → p.2.span.start < q.2.span.start := by
  unfold declared
  rw [List.pairwise_flatMap]
  constructor
  · intro f hf
    obtain ⟨file, hfile, hf⟩ := List.mem_filterMap.1 hf
    obtain ⟨-, hbody⟩ := eq_of_read? hf
    obtain ⟨g, -, rfl⟩ := exists_of_mem_inScope hfile
    rw [List.pairwise_map]
    refine (pairwise_blocksOf_start hbody kind).imp ?_
    exact fun hlt _ => hlt
  · refine List.pairwise_filterMap.2 ((pairwise_name hnames rule.scope).imp ?_)
    intro file file' hne f hf f' hf' p hp q hq heq
    obtain ⟨b, -, rfl⟩ := List.mem_map.1 hp
    obtain ⟨b', -, rfl⟩ := List.mem_map.1 hq
    rw [(eq_of_read? hf).1, (eq_of_read? hf').1] at heq
    exact absurd (congrArg SourceFile.name heq) hne

/-- A rule that does not report variable names has all its issues recorded and all its failures
kept. -/
theorem check_outcome (hnames : (files.map (·.1)).Nodup) (hrule : rule ∈ Rule.all)
    (hname : rule.name ≠ "terraform_var_name_convention") :
    ((start files).check rule filter).1.issues = rule.issues ((start files).findings rule filter) ∧
      ((start files).check rule filter).2 =
        ErrorList.collapse ⟨failures ((start files).findings rule filter)⟩ ∧
      errorLeaves ((start files).check rule filter).2 =
        failures ((start files).findings rule filter) := by
  have horderly := Rule.orderly hrule
  have hnodup := (nodup_issues_iff horderly hnames).2
    (@nodup_unplaced files rule filter hrule hname)
  obtain ⟨hrecorded, hcomplaints⟩ := recorded_of_nodup hnodup fun _ _ => List.not_mem_nil
  obtain ⟨hissues, hresult, hleaves⟩ :=
    @check_eq rule (start files) filter (isSingle_failures horderly)
  have hempty : (start files).issues = [] := rfl
  rw [hempty, List.nil_append, hrecorded] at hissues
  rw [hempty, hcomplaints] at hresult hleaves
  exact ⟨hissues, hresult, hleaves⟩

end Session

end TerraLint
