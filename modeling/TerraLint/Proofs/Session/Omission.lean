import TerraLint.Proofs.Session.Concatenation

/-!
# Ignored files and files that are not there

A rule that looks at every file skips those that are ignored, so it finds in a module what it finds
in the module without them. The rule about `versions.tf` looks for one file first and asks then
whether that file is ignored: an ignored file hides the next one with its name.

* `unignored`: the files of a module without those that a rule skips.
* `Session.findings_everyFile_unignored`, `Session.findings_fileNamed_unignored`: what a rule finds
  in these files.
* `Session.check_unignored_iff`: when a check of a module is a check of the module without them.
-/

namespace TerraLint

open Text Hcl TerraformBlock

/-- The files of a module that a rule does not skip. -/
def unignored (rule : Rule) (filter : IgnoreFilter) (files : List (String × String)) :
    List (String × String) :=
  files.filter fun f => !filter.isIgnored f.1 rule.name

/-- Whether the path of a file ends with `versions.tf`. -/
def holdsVersions (f : String × String) : Bool := Path.endsWith f.1 "versions.tf"

namespace Session

variable {files : List (String × String)} {rule : Rule} {filter : IgnoreFilter}

theorem findingsIn_of_isIgnored {file : SourceFile}
    (h : filter.isIgnored file.name rule.name = true) : findingsIn rule filter file = [] :=
  if_pos h

theorem findingsIn_of_not_isIgnored {file : SourceFile}
    (h : filter.isIgnored file.name rule.name = false) :
    findingsIn rule filter file = findingsIn rule .empty file := by
  have hempty : IgnoreFilter.empty.isIgnored file.name rule.name = false := rfl
  unfold findingsIn
  rw [h, hempty]

theorem findings_everyFile (hscope : rule.scope = .everyFile) :
    (start files).findings rule filter =
      files.flatMap fun f => findingsIn rule filter (.parse f.1 f.2.toList) := by
  unfold findings inScope start
  rw [hscope]
  exact List.flatMap_map ..

theorem findings_everyFile_unignored (hscope : rule.scope = .everyFile) :
    (start files).findings rule filter =
      (start (unignored rule filter files)).findings rule .empty := by
  rw [findings_everyFile hscope, findings_everyFile hscope]
  unfold unignored
  induction files with
  | nil => rfl
  | cons f files ih =>
    rw [List.flatMap_cons, ih]
    cases hignored : filter.isIgnored f.1 rule.name with
    | true =>
      have hnone : findingsIn rule filter (.parse f.1 f.2.toList) = [] :=
        findingsIn_of_isIgnored hignored
      rw [List.filter_cons_of_neg (by simp [hignored]), hnone]
      rfl
    | false =>
      have hsame : findingsIn rule filter (.parse f.1 f.2.toList) = findingsIn rule .empty _ :=
        findingsIn_of_not_isIgnored hignored
      rw [List.filter_cons_of_pos (by simp [hignored]), hsame]
      rfl

theorem findings_fileNamed {name : String} (hscope : rule.scope = .fileNamed name) :
    (start files).findings rule filter =
      (files.find? fun f => Path.endsWith f.1 name).toList.flatMap fun f =>
        findingsIn rule filter (.parse f.1 f.2.toList) := by
  unfold findings inScope file? start
  rw [hscope]
  dsimp only
  rw [List.find?_map, Option.toList_map]
  exact List.flatMap_map ..

/-- A file that is found and not ignored is found among those that are not ignored. -/
theorem find?_unignored {named : String × String → Bool} {f : String × String}
    (hfind : files.find? named = some f) (hignored : filter.isIgnored f.1 rule.name = false) :
    (unignored rule filter files).find? named = some f := by
  obtain ⟨hnamed, before, after, rfl, hbefore⟩ := List.find?_eq_some_iff_append.1 hfind
  have hskipped : (unignored rule filter before).find? named = none := by
    refine List.find?_eq_none.2 fun g hg => ?_
    have hother := hbefore g (List.mem_filter.1 hg).1
    simpa using hother
  unfold unignored at hskipped ⊢
  rw [List.filter_append, List.find?_append, hskipped,
    List.filter_cons_of_pos (by simp [hignored]), List.find?_cons_of_pos hnamed]
  rfl

/-- The first file with the name is the only one that counts. When it is ignored, nothing is
found. -/
theorem findings_fileNamed_of_isIgnored {name : String} (hscope : rule.scope = .fileNamed name)
    {f : String × String} (hfind : files.find? (fun f => Path.endsWith f.1 name) = some f)
    (hignored : filter.isIgnored f.1 rule.name = true) :
    (start files).findings rule filter = [] := by
  have hnone : findingsIn rule filter (.parse f.1 f.2.toList) = [] :=
    findingsIn_of_isIgnored hignored
  rw [findings_fileNamed hscope, hfind, Option.toList_some, List.flatMap_singleton, hnone]

theorem findings_fileNamed_unignored {name : String} (hscope : rule.scope = .fileNamed name)
    (hfirst : ∀ f, files.find? (fun f => Path.endsWith f.1 name) = some f →
      filter.isIgnored f.1 rule.name = false) :
    (start files).findings rule filter =
      (start (unignored rule filter files)).findings rule .empty := by
  rw [findings_fileNamed hscope, findings_fileNamed hscope]
  cases hfind : files.find? fun f => Path.endsWith f.1 name with
  | none =>
    have hnone : (unignored rule filter files).find? (fun f => Path.endsWith f.1 name) = none :=
      List.find?_eq_none.2 fun g hg => List.find?_eq_none.1 hfind g (List.mem_filter.1 hg).1
    rw [hnone]
    rfl
  | some f =>
    have hignored := hfirst f hfind
    have hsame : findingsIn rule filter (.parse f.1 f.2.toList) = findingsIn rule .empty _ :=
      findingsIn_of_not_isIgnored hignored
    rw [find?_unignored hfind hignored, Option.toList_some, List.flatMap_singleton,
      List.flatMap_singleton, hsame]

/-! ## The file with the versions -/

theorem findingsIn_versionsFile_eq_nil_iff (name : String) (text : List Char) :
    findingsIn .versionsFile .empty (.parse name text) = [] ↔
      ∀ body, parseBody text = some body → isVersions body = true := by
  have hread : (SourceFile.parse name text).body? = parseBody text := rfl
  have hignored : IgnoreFilter.empty.isIgnored (SourceFile.parse name text).name
      Rule.versionsFile.name = false := rfl
  unfold findingsIn
  rw [hread, hignored, if_neg Bool.false_ne_true]
  cases parseBody text with
  | none => simp
  | some body =>
    have hbody : Rule.versionsFile.findings (.parse name text) body =
        if isVersions body then []
        else [.issue "`versions.tf` should have and only have 1 `terraform` block" .null] := rfl
    dsimp only
    rw [hbody]
    cases hversions : isVersions body <;> simp [hversions]

theorem findings_versionsFile_eq_nil_iff :
    (start files).findings .versionsFile .empty = [] ↔
      ∀ f, files.find? holdsVersions = some f →
        ∀ body, parseBody f.2.toList = some body → isVersions body = true := by
  have hscope : Rule.versionsFile.scope = .fileNamed "versions.tf" := rfl
  rw [findings_fileNamed hscope]
  unfold holdsVersions
  cases files.find? fun f => Path.endsWith f.1 "versions.tf" with
  | none => simp
  | some f =>
    rw [Option.toList_some, List.flatMap_singleton, findingsIn_versionsFile_eq_nil_iff]
    simp

theorem failures_versionsFile : failures ((start files).findings .versionsFile filter) = [] := by
  have hrule : Rule.versionsFile ∈ Rule.all := by simp [Rule.all]
  refine List.eq_nil_iff_forall_not_mem.2 fun e he => ?_
  have hname := (failures_findings (Rule.orderly hrule) he).1
  exact absurd hname (by decide)

/-- At most one issue is found, so it is recorded. -/
theorem check_versionsFile (files : List (String × String)) (filter : IgnoreFilter) :
    ((start files).check .versionsFile filter).1.issues =
        Rule.versionsFile.issues ((start files).findings .versionsFile filter) ∧
      ((start files).check .versionsFile filter).2 = .ok () := by
  have hsingle : ∀ e ∈ failures ((start files).findings .versionsFile filter),
      e.isSingle = true := by
    intro e he
    rw [failures_versionsFile] at he
    cases he
  have hnodup : (Rule.versionsFile.issues ((start files).findings .versionsFile filter)).Nodup := by
    have hle := List.length_filterMap_le Rule.versionsFile.issue?
      ((start files).findings .versionsFile filter)
    have hone := @length_findings_versionsFile filter (start files)
    exact nodup_of_length_le_one (hle.trans hone)
  obtain ⟨hissues, hresult, -⟩ := check_eq hsingle
  have hstart : (start files).issues = [] := rfl
  have hnew : ∀ i ∈ Rule.versionsFile.issues ((start files).findings .versionsFile filter),
      i ∉ ([] : List Issue) := fun _ _ => List.not_mem_nil
  obtain ⟨hrecorded, hcomplaints⟩ := recorded_of_nodup hnodup hnew
  rw [hissues, hresult, hstart, hrecorded, hcomplaints, failures_versionsFile]
  exact ⟨rfl, rfl⟩

theorem eq_versionsFile (hrule : rule ∈ Rule.all) (hname : rule.name = "terraform_versions_file") :
    rule = .versionsFile := by
  simp only [Rule.all, List.mem_cons, List.not_mem_nil, or_false] at hrule
  rcases hrule with rfl | rfl | rfl | rfl | rfl | rfl | rfl | rfl | rfl | rfl | rfl | rfl | rfl |
    rfl | rfl
  all_goals first | rfl | exact absurd hname (by decide)

/-- Modules in which a rule finds the same are checked alike. -/
theorem check_start_congr (hrule : rule ∈ Rule.all) {files' : List (String × String)}
    {filter' : IgnoreFilter}
    (h : (start files).findings rule filter = (start files').findings rule filter') :
    ((start files).check rule filter).1.issues = ((start files').check rule filter').1.issues ∧
      ((start files).check rule filter).2 = ((start files').check rule filter').2 := by
  have horderly := Rule.orderly hrule
  obtain ⟨hissues, hresult, -⟩ := @check_eq rule (start files) filter (isSingle_failures horderly)
  obtain ⟨hissues', hresult', -⟩ :=
    @check_eq rule (start files') filter' (isSingle_failures horderly)
  have hstart : (start files).issues = (start files').issues := rfl
  rw [hissues, hissues', hresult, hresult', h, hstart]
  exact ⟨rfl, rfl⟩

theorem issues_versionsFile_eq_nil_iff :
    ((start files).check .versionsFile .empty).1.issues = [] ↔
      ∀ f, files.find? holdsVersions = some f →
        ∀ body, parseBody f.2.toList = some body → isVersions body = true := by
  rw [(check_versionsFile files .empty).1, ← findings_versionsFile_eq_nil_iff]
  constructor
  · intro hissues
    refine List.eq_nil_iff_forall_not_mem.2 fun finding hfinding => ?_
    cases finding with
    | issue m r =>
      have hmem := (@Rule.issue_mem_issues .versionsFile m r _).2 hfinding
      rw [hissues] at hmem
      cases hmem
    | failure e =>
      have hmem := mem_failures.2 hfinding
      rw [failures_versionsFile] at hmem
      cases hmem
  · intro hnil
    rw [hnil]
    rfl

theorem issues_versionsFile_of_isIgnored {f : String × String}
    (hfind : files.find? holdsVersions = some f)
    (hignored : filter.isIgnored f.1 Rule.versionsFile.name = true) :
    ((start files).check .versionsFile filter).1.issues = [] := by
  have hscope : Rule.versionsFile.scope = .fileNamed "versions.tf" := rfl
  rw [(check_versionsFile files filter).1,
    findings_fileNamed_of_isIgnored hscope hfind hignored]
  rfl

/-- A rule skips an ignored file as if it were not there, but for the rule about `versions.tf`: when
the first file with that name is ignored, this rule looks at no other one and reports nothing. -/
theorem check_unignored_iff (hrule : rule ∈ Rule.all) (files : List (String × String))
    (filter : IgnoreFilter) :
    ((start files).check rule filter).2 =
        ((start (unignored rule filter files)).check rule .empty).2 ∧
    (((start files).check rule filter).1.issues =
        ((start (unignored rule filter files)).check rule .empty).1.issues ↔
      (rule.name = "terraform_versions_file" →
        (∀ f, files.find? holdsVersions = some f → filter.isIgnored f.1 rule.name = false) ∨
        ∀ f, (unignored rule filter files).find? holdsVersions = some f →
          ∀ body, parseBody f.2.toList = some body → isVersions body = true)) ∧
    (rule.name = "terraform_versions_file" →
      ∀ f, files.find? holdsVersions = some f → filter.isIgnored f.1 rule.name = true →
        ((start files).check rule filter).1.issues = []) := by
  rcases scope_eq hrule with hscope | ⟨hname, hscope⟩
  · have hother : rule.name ≠ "terraform_versions_file" := by
      intro hname
      rw [eq_versionsFile hrule hname] at hscope
      cases hscope
    obtain ⟨hissues, hresult⟩ :=
      check_start_congr hrule (@findings_everyFile_unignored files rule filter hscope)
    exact ⟨hresult, iff_of_true hissues fun hname => absurd hname hother,
      fun hname => absurd hname hother⟩
  · obtain rfl := eq_versionsFile hrule hname
    refine ⟨?_, ?_, fun _ f hfind => issues_versionsFile_of_isIgnored hfind⟩
    · rw [(check_versionsFile _ _).2, (check_versionsFile _ _).2]
    · by_cases hfirst : ∀ f, files.find? holdsVersions = some f →
          filter.isIgnored f.1 Rule.versionsFile.name = false
      · have hissues := (check_start_congr hrule (findings_fileNamed_unignored hscope hfirst)).1
        exact iff_of_true hissues fun _ => .inl hfirst
      · obtain ⟨f, hfind, hignored⟩ : ∃ f, files.find? holdsVersions = some f ∧
            filter.isIgnored f.1 Rule.versionsFile.name = true := by
          simpa using hfirst
        rw [issues_versionsFile_of_isIgnored hfind hignored, eq_comm,
          issues_versionsFile_eq_nil_iff]
        constructor
        · exact fun hversions _ => .inr hversions
        · exact fun hversions => (hversions rfl).resolve_left hfirst

/-- A module with two files that hold versions in different directories. -/
def nestedVersions : List (String × String) :=
  [("legacy/versions.tf", "provider \"a\" \x7b\x7d\n"),
    ("network/versions.tf", "provider \"b\" \x7b\x7d\n")]

/-- What an ignore configuration says when it skips one of these directories. -/
def legacyFilter : IgnoreFilter :=
  ((IgnoreFilter.parse Rule.names "test.ignore"
    "ignore \x7b\n  patterns = [\"^legacy/\"]\n\x7d\n".toList).toOption).getD .empty

/-- The second file is reported when the first one is not there, but not when it is ignored. -/
theorem check_unignored_ne_nested :
    ((start nestedVersions).check .versionsFile legacyFilter).1.issues ≠
      ((start (unignored .versionsFile legacyFilter nestedVersions)).check .versionsFile
        .empty).1.issues := by
  have hrule : Rule.versionsFile ∈ Rule.all := by simp [Rule.all]
  intro heq
  have hhidden := (check_unignored_iff hrule nestedVersions legacyFilter).2.1.1 heq rfl
  exact absurd hhidden (by decide +kernel)

end Session

end TerraLint
