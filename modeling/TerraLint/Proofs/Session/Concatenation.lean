import TerraLint.Proofs.Session.Rejection

/-!
# Modules and their files

A check of a module looks at its files one after the other, and a check of one file does the same
with that file alone. The two differ only in what was recorded before: an issue that stands nowhere
may have been recorded for another file.

* `walked`: the files of a module that a check looks into.
* `Session.findings_start_eq`: a module has the findings of its files.
* `recorded_flatMap`: what is recorded of findings that have no issue in common.
* `Session.check_start_eq_iff`: when a check of a module is the checks of its files.
-/

namespace TerraLint

open Text Hcl

/-! ## Findings without common issues -/

section

variable {α : Type} {rule : Rule} {F : α → List Finding}

/-- What is recorded of findings that have no issue in common. -/
theorem recorded_flatMap {seen : List Issue} {xs : List α}
    (hseen : ∀ x ∈ xs, ∀ i ∈ rule.issues (F x), i ∉ seen)
    (hpairs : xs.Pairwise fun x y => ∀ i ∈ rule.issues (F x), i ∉ rule.issues (F y)) :
    recorded rule seen (xs.flatMap F) = xs.flatMap (fun x => recorded rule [] (F x)) ∧
      complaints rule seen (xs.flatMap F) = xs.flatMap fun x => complaints rule [] (F x) := by
  induction xs generalizing seen with
  | nil => exact ⟨rfl, rfl⟩
  | cons x xs ih =>
    obtain ⟨hfirst, hrest⟩ := List.pairwise_cons.1 hpairs
    have hnew : ∀ i ∈ rule.issues (F x), i ∈ seen ↔ i ∈ ([] : List Issue) := by
      intro i hi
      exact iff_of_false (hseen x List.mem_cons_self i hi) List.not_mem_nil
    obtain ⟨hrecorded, hcomplaints⟩ := recorded_congr hnew
    have ih := @ih (seen ++ recorded rule seen (F x)) (fun y hy i hi => by
      rw [List.mem_append, not_or]
      refine ⟨hseen y (List.mem_cons_of_mem _ hy) i hi, fun hmem => ?_⟩
      exact hfirst y hy i (mem_recorded.1 hmem).1 hi) hrest
    rw [List.flatMap_cons, recorded_append, complaints_append, ih.1, ih.2, hrecorded, hcomplaints]
    exact ⟨rfl, rfl⟩

/-- Nothing is recorded twice, so findings that are recorded apart have no issue in common. -/
theorem pairwise_of_recorded_flatMap {xs : List α}
    (h : recorded rule [] (xs.flatMap F) = xs.flatMap fun x => recorded rule [] (F x)) :
    xs.Pairwise fun x y => ∀ i ∈ rule.issues (F x), i ∉ rule.issues (F y) := by
  have hnodup := @nodup_recorded rule [] (xs.flatMap F)
  rw [h, List.nodup_flatMap] at hnodup
  refine hnodup.2.imp fun hdisjoint i hi hi' => ?_
  exact List.disjoint_left.1 hdisjoint (mem_recorded.2 ⟨hi, List.not_mem_nil⟩)
    (mem_recorded.2 ⟨hi', List.not_mem_nil⟩)

end

/-! ## The files of a module -/

/-- The files of a module that can be read and are not ignored. -/
def walked (rule : Rule) (filter : IgnoreFilter) (files : List (String × String)) :
    List (String × String) :=
  files.filter fun f => (parseBody f.2.toList).isSome && !filter.isIgnored f.1 rule.name

section

variable {files : List (String × String)} {rule : Rule} {filter : IgnoreFilter}

theorem mem_walked {f : String × String} : f ∈ walked rule filter files ↔ f ∈ files ∧
    ((parseBody f.2.toList).isSome && !filter.isIgnored f.1 rule.name) = true := List.mem_filter

theorem mem_walked_singleton {f : String × String} (hf : f ∈ files) :
    f ∈ walked rule filter [f] ↔ f ∈ walked rule filter files := by
  rw [mem_walked, mem_walked]
  exact and_congr_left fun _ => iff_of_true (List.mem_singleton.2 rfl) hf

theorem pairwise_walked (hnames : (files.map (·.1)).Nodup) :
    (walked rule filter files).Pairwise fun f g => f.1 ≠ g.1 :=
  (List.pairwise_map.1 hnames).sublist List.filter_sublist

end

namespace Session

variable {files : List (String × String)} {rule : Rule} {filter : IgnoreFilter}

theorem mem_findings_start {f : String × String} {finding : Finding}
    (h : finding ∈ (start [f]).findings rule filter) :
    finding ∈ findingsIn rule filter (.parse f.1 f.2.toList) := by
  obtain ⟨file, hfile, hmem⟩ := List.mem_flatMap.1 h
  obtain ⟨g, hg, rfl⟩ := exists_of_mem_inScope hfile
  obtain rfl := List.mem_singleton.1 hg
  exact hmem

theorem findings_of_not_walked {f : String × String} (h : f ∉ walked rule filter [f]) :
    (start [f]).findings rule filter = [] := by
  have hnone : findingsIn rule filter (.parse f.1 f.2.toList) = [] := by
    unfold findingsIn
    split
    · rfl
    · rename_i hignored
      split
      · rename_i body hbody
        have hparsed : parseBody f.2.toList = some body := hbody
        have hlooked : filter.isIgnored f.1 rule.name = false := Bool.not_eq_true _ ▸ hignored
        refine absurd (mem_walked.2 ⟨List.mem_cons_self, ?_⟩) h
        rw [hparsed, hlooked]
        rfl
      · rfl
  refine List.eq_nil_iff_forall_not_mem.2 fun finding hfinding => ?_
  have hmem := mem_findings_start hfinding
  rw [hnone] at hmem
  cases hmem

theorem flatMap_walked {β : Type} {F : String × String → List β}
    (h : ∀ f ∈ files, f ∉ walked rule filter [f] → F f = []) :
    (walked rule filter files).flatMap F = files.flatMap F := by
  induction files with
  | nil => rfl
  | cons f files ih =>
    have ih := ih fun g hg => h g (List.mem_cons_of_mem _ hg)
    have hmem := @mem_walked [f] rule filter f
    rw [and_iff_right (List.mem_singleton.2 rfl)] at hmem
    rw [List.flatMap_cons, ← ih]
    by_cases hwalked : f ∈ walked rule filter [f]
    · have hcons : walked rule filter (f :: files) = f :: walked rule filter files :=
        List.filter_cons_of_pos (hmem.1 hwalked)
      rw [hcons, List.flatMap_cons]
    · have hcons : walked rule filter (f :: files) = walked rule filter files :=
        List.filter_cons_of_neg fun hyes => hwalked (hmem.2 hyes)
      rw [hcons, h f List.mem_cons_self hwalked]
      rfl

theorem file?_cons (name : String) (f : String × String) (files : List (String × String)) :
    (start (f :: files)).file? name =
      if Path.endsWith f.1 name = true then some (.parse f.1 f.2.toList)
      else (start files).file? name := by
  unfold file? start
  rw [List.map_cons, List.find?_cons]
  cases h : Path.endsWith f.1 name <;> simp [SourceFile.parse, h]

/-- Where one file at most has a name, it is found in the module as it is found alone. -/
theorem file?_start_eq (hnames : (files.map (·.1)).Nodup) {name : String}
    (hone : ∀ f ∈ files, ∀ g ∈ files,
      Path.endsWith f.1 name = true → Path.endsWith g.1 name = true → f = g) :
    ((start files).file? name).toList =
      files.flatMap fun f => ((start [f]).file? name).toList := by
  induction files with
  | nil => rfl
  | cons f files ih =>
    obtain ⟨hfirst, hrest⟩ := List.nodup_cons.1 hnames
    have ih := ih hrest fun g hg g' hg' =>
      hone g (List.mem_cons_of_mem _ hg) g' (List.mem_cons_of_mem _ hg')
    rw [List.flatMap_cons, ← ih, file?_cons, file?_cons]
    split
    · rename_i hends
      -- No other file has the name.
      have hnone : (start files).file? name = none := by
        refine List.find?_eq_none.2 fun file hfile => ?_
        obtain ⟨g, hg, rfl⟩ := List.mem_map.1 hfile
        intro hends'
        have heq := hone f List.mem_cons_self g (List.mem_cons_of_mem _ hg) hends hends'
        exact hfirst (List.mem_map.2 ⟨g, hg, congrArg Prod.fst heq.symm⟩)
      rw [hnone]
      rfl
    · rfl

theorem inScope_start_eq (hnames : (files.map (·.1)).Nodup) {scope : Scope}
    (hone : ∀ name, scope = .fileNamed name → ∀ f ∈ files, ∀ g ∈ files,
      Path.endsWith f.1 name = true → Path.endsWith g.1 name = true → f = g) :
    (start files).inScope scope = files.flatMap fun f => (start [f]).inScope scope := by
  cases scope with
  | everyFile => exact List.map_eq_flatMap
  | fileNamed name => exact file?_start_eq hnames (hone name rfl)

theorem scope_eq (hrule : rule ∈ Rule.all) : rule.scope = .everyFile ∨
    rule.name = "terraform_versions_file" ∧ rule.scope = .fileNamed "versions.tf" := by
  simp only [Rule.all, List.mem_cons, List.not_mem_nil, or_false] at hrule
  rcases hrule with rfl | rfl | rfl | rfl | rfl | rfl | rfl | rfl | rfl | rfl | rfl | rfl | rfl |
    rfl | rfl
  all_goals first | exact .inl rfl | exact .inr ⟨rfl, rfl⟩

/-- A module has the findings of its files. -/
theorem findings_start_eq (hnames : (files.map (·.1)).Nodup) (hrule : rule ∈ Rule.all)
    (hversions : rule.name = "terraform_versions_file" → ∀ f ∈ files, ∀ g ∈ files,
      Path.endsWith f.1 "versions.tf" = true → Path.endsWith g.1 "versions.tf" = true → f = g) :
    (start files).findings rule filter =
      (walked rule filter files).flatMap fun f => (start [f]).findings rule filter := by
  have hscope : ∀ name, rule.scope = .fileNamed name → ∀ f ∈ files, ∀ g ∈ files,
      Path.endsWith f.1 name = true → Path.endsWith g.1 name = true → f = g := by
    intro name hname
    rcases scope_eq hrule with hscope | ⟨hrule, hscope⟩
    · rw [hscope] at hname
      cases hname
    · rw [hscope] at hname
      obtain rfl := Scope.fileNamed.inj hname
      exact hversions hrule
  rw [flatMap_walked fun f _ hf => findings_of_not_walked hf]
  unfold findings
  rw [inScope_start_eq hnames hscope, List.flatMap_assoc]

theorem file_of_placed (h : rule.Orderly) {f : String × String} {m : String} {r : SourceRange}
    (hmem : .issue m r ∈ (start [f]).findings rule filter) (hnull : r ≠ .null) : r.file = f.1 := by
  have hplaced : (Finding.issue m r).isPlaced = true := bne_iff_ne.2 hnull
  obtain ⟨starts, hspread⟩ := exists_spread_findingsIn h filter f.1 f.2.toList
  obtain ⟨m', r', heq, hmarks, -⟩ :=
    hspread.within _ (List.mem_filter.2 ⟨mem_findings_start hmem, hplaced⟩)
  obtain ⟨-, rfl⟩ := Finding.issue.inj heq
  exact hmarks.file_eq

/-- Files with different names have an issue in common just when it stands nowhere. -/
theorem issues_disjoint_iff (h : rule.Orderly) {f g : String × String} (hne : f.1 ≠ g.1) :
    (∀ i ∈ rule.issues ((start [f]).findings rule filter),
        i ∉ rule.issues ((start [g]).findings rule filter)) ↔
      ∀ m ∈ unplaced ((start [f]).findings rule filter),
        m ∉ unplaced ((start [g]).findings rule filter) := by
  constructor
  · intro hissues m hm hm'
    refine hissues ⟨rule.name, rule.severity, m, .null⟩ ?_ ?_
    · exact Rule.issue_mem_issues.2 (mem_unplaced.1 hm)
    · exact Rule.issue_mem_issues.2 (mem_unplaced.1 hm')
  · intro hmessages i hi hi'
    obtain ⟨-, -, hi⟩ := Rule.mem_issues.1 hi
    obtain ⟨-, -, hi'⟩ := Rule.mem_issues.1 hi'
    by_cases hnull : i.range = .null
    · rw [hnull] at hi hi'
      exact hmessages _ (mem_unplaced.2 hi) (mem_unplaced.2 hi')
    · refine hne ((file_of_placed h hi hnull).symm.trans (file_of_placed h hi' hnull))

/-- Only one rule finds issues that stand nowhere in two files. -/
theorem pairwise_unplaced (hnames : (files.map (·.1)).Nodup) (hrule : rule ∈ Rule.all)
    (hversions : rule.name = "terraform_versions_file" → ∀ f ∈ files, ∀ g ∈ files,
      Path.endsWith f.1 "versions.tf" = true → Path.endsWith g.1 "versions.tf" = true → f = g)
    (hname : rule.name ≠ "terraform_var_name_convention") :
    (walked rule filter files).Pairwise fun f g =>
      ∀ m ∈ unplaced ((start [f]).findings rule filter),
        m ∉ unplaced ((start [g]).findings rule filter) := by
  -- A file with an issue that stands nowhere is the one with the versions.
  have hends : ∀ f : String × String, ∀ m ∈ unplaced ((start [f]).findings rule filter),
      rule.name = "terraform_versions_file" ∧ Path.endsWith f.1 "versions.tf" = true := by
    intro f m hm
    have hfinding := mem_unplaced.1 hm
    have hstray := stray_findings (Rule.orderly hrule) hfinding
      (bne_self_eq_false SourceRange.null)
    cases hstray with
    | misnamed => exact absurd rfl hname
    | versions =>
      refine ⟨rfl, ?_⟩
      obtain ⟨file, hfile, -⟩ := List.mem_flatMap.1 hfinding
      have hfound : file ∈ (start [f]).file? "versions.tf" := Option.mem_toList.1 hfile
      rw [file?_cons] at hfound
      by_contra hother
      rw [if_neg hother] at hfound
      cases hfound
  refine (pairwise_walked hnames).imp_of_mem fun {f g} hf hg hne m hm hm' => hne ?_
  obtain ⟨hrule, hendsf⟩ := hends f m hm
  obtain ⟨-, hendsg⟩ := hends g m hm'
  rw [hversions hrule f (mem_walked.1 hf).1 g (mem_walked.1 hg).1 hendsf hendsg]

/-- A check of a module records the issues of the checks of its files one after the other, and has
their errors, just when no two files have an issue in common that stands nowhere. Only one rule finds
such issues. Files that cannot be read or are ignored have neither issues nor errors. -/
theorem check_start_eq_iff (hnames : (files.map (·.1)).Nodup) (hrule : rule ∈ Rule.all)
    (hversions : rule.name = "terraform_versions_file" → ∀ f ∈ files, ∀ g ∈ files,
      Path.endsWith f.1 "versions.tf" = true → Path.endsWith g.1 "versions.tf" = true → f = g)
    (filter : IgnoreFilter) :
    (((start files).check rule filter).1.issues =
          (walked rule filter files).flatMap (fun f => ((start [f]).check rule filter).1.issues) ∧
        errorLeaves ((start files).check rule filter).2 =
          (walked rule filter files).flatMap (fun f =>
            errorLeaves ((start [f]).check rule filter).2) ↔
      (walked rule filter files).Pairwise fun f g =>
        ∀ m ∈ unplaced ((start [f]).findings rule filter),
          m ∉ unplaced ((start [g]).findings rule filter)) ∧
    (rule.name ≠ "terraform_var_name_convention" →
      (walked rule filter files).Pairwise fun f g =>
        ∀ m ∈ unplaced ((start [f]).findings rule filter),
          m ∉ unplaced ((start [g]).findings rule filter)) ∧
    ∀ f ∈ files, f ∉ walked rule filter files →
      (start [f]).check rule filter = (start [f], .ok ()) := by
  have horderly := Rule.orderly hrule
  have hcheck : ∀ files : List (String × String),
      ((start files).check rule filter).1.issues =
          recorded rule [] ((start files).findings rule filter) ∧
        errorLeaves ((start files).check rule filter).2 =
          complaints rule [] ((start files).findings rule filter) := by
    intro files
    obtain ⟨hissues, -, hleaves⟩ :=
      @check_eq rule (start files) filter (isSingle_failures horderly)
    exact ⟨hissues, hleaves⟩
  have hpairs : ((walked rule filter files).Pairwise fun f g =>
      ∀ i ∈ rule.issues ((start [f]).findings rule filter),
        i ∉ rule.issues ((start [g]).findings rule filter)) ↔
      (walked rule filter files).Pairwise fun f g =>
        ∀ m ∈ unplaced ((start [f]).findings rule filter),
          m ∉ unplaced ((start [g]).findings rule filter) := by
    have hne := @pairwise_walked files rule filter hnames
    constructor
    · exact fun h => hne.imp₂ (fun _ _ hne => (issues_disjoint_iff horderly hne).1) h
    · exact fun h => hne.imp₂ (fun _ _ hne => (issues_disjoint_iff horderly hne).2) h
  refine ⟨?_, pairwise_unplaced hnames hrule hversions, fun f hf hnot => ?_⟩
  · rw [← hpairs, (hcheck files).1, (hcheck files).2]
    simp only [hcheck]
    rw [findings_start_eq hnames hrule hversions]
    constructor
    · exact fun h => pairwise_of_recorded_flatMap h.1
    · exact fun h => recorded_flatMap (fun _ _ _ _ => List.not_mem_nil) h
  · rw [← mem_walked_singleton hf] at hnot
    unfold check
    rw [findings_of_not_walked hnot]
    rfl

/-- Two files in each of which a variable stands behind a prefix operator. -/
def negatedFiles : List (String × String) :=
  [("main.tf", "resource \"a\" \"b\" \x7b\n  enabled = !var.on\n\x7d\n"),
    ("other.tf", "resource \"a\" \"c\" \x7b\n  secure = -var.safe\n\x7d\n")]

/-- The second file's issue is refused in the module and recorded alone. -/
theorem check_start_ne_negated :
    ¬(((start negatedFiles).check .variableNameConvention .empty).1.issues =
        (walked .variableNameConvention .empty negatedFiles).flatMap (fun f =>
          ((start [f]).check .variableNameConvention .empty).1.issues) ∧
      errorLeaves ((start negatedFiles).check .variableNameConvention .empty).2 =
        (walked .variableNameConvention .empty negatedFiles).flatMap fun f =>
          errorLeaves ((start [f]).check .variableNameConvention .empty).2) := by
  have hrule : Rule.variableNameConvention ∈ Rule.all := by simp [Rule.all]
  have hversions : Rule.variableNameConvention.name = "terraform_versions_file" →
      ∀ f ∈ negatedFiles, ∀ g ∈ negatedFiles, Path.endsWith f.1 "versions.tf" = true →
        Path.endsWith g.1 "versions.tf" = true → f = g := fun h => absurd h (by decide)
  intro heq
  have hapart := (check_start_eq_iff (by decide) hrule hversions .empty).1.1 heq
  exact absurd hapart (by decide +kernel)

end Session

end TerraLint
