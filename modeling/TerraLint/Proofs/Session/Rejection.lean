import TerraLint.Proofs.Rule.Distinct
import TerraLint.Proofs.Session.Record

/-!
# Issues that are refused

In a module whose files have different names, the issues of a rule that stand somewhere are all
different. So an issue is refused only when another one says the same nowhere, and only one rule
reports more than one issue nowhere.

* `unplaced`: the messages of the issues that stand nowhere.
* `Session.nodup_issues_iff`: the issues of a module are different when these messages are.
* `Session.refused_iff`: when a check of a module refuses an issue, and what it records otherwise.
-/

namespace TerraLint

open Text Hcl

/-- The messages of the issues that stand nowhere. -/
def unplaced : List Finding → List String :=
  List.filterMap fun
    | .issue message range => if range = .null then some message else none
    | .failure _ => none

theorem mem_unplaced {m : String} {fs : List Finding} :
    m ∈ unplaced fs ↔ .issue m .null ∈ fs := by
  unfold unplaced
  rw [List.mem_filterMap]
  constructor
  · rintro ⟨f, hf, heq⟩
    cases f with
    | issue m' r =>
      obtain ⟨rfl, heq⟩ := Option.ite_none_right_eq_some.1 heq
      exact Option.some.inj heq ▸ hf
    | failure e => cases heq
  · exact fun hf => ⟨_, hf, if_pos rfl⟩

theorem unplaced_cons_null (m : String) (fs : List Finding) :
    unplaced (.issue m .null :: fs) = m :: unplaced fs := List.filterMap_cons_some (if_pos rfl)

theorem unplaced_cons_of_ne {r : SourceRange} (h : r ≠ .null) (m : String) (fs : List Finding) :
    unplaced (.issue m r :: fs) = unplaced fs := List.filterMap_cons_none (if_neg h)

theorem Rule.issue_mem_issues {rule : Rule} {m : String} {r : SourceRange} {fs : List Finding} :
    ⟨rule.name, rule.severity, m, r⟩ ∈ rule.issues fs ↔ .issue m r ∈ fs := by
  rw [Rule.mem_issues]
  exact ⟨fun h => h.2.2, fun h => ⟨rfl, rfl, h⟩⟩

/-- Where the issues that stand somewhere are different, only messages count for the others. -/
theorem Rule.nodup_issues_iff {rule : Rule} {fs : List Finding}
    (h : (fs.filter Finding.isPlaced).Nodup) :
    (rule.issues fs).Nodup ↔ (unplaced fs).Nodup := by
  induction fs with
  | nil => exact ⟨fun _ => .nil, fun _ => .nil⟩
  | cons f fs ih =>
    cases f with
    | issue m r =>
      have hcons : rule.issues (.issue m r :: fs) =
          ⟨rule.name, rule.severity, m, r⟩ :: rule.issues fs := rfl
      rw [hcons, List.nodup_cons, Rule.issue_mem_issues]
      by_cases hnull : r = .null
      · subst hnull
        rw [unplaced_cons_null, List.nodup_cons, mem_unplaced, ih h]
      · have hplaced : (Finding.issue m r).isPlaced = true := bne_iff_ne.2 hnull
        rw [List.filter_cons_of_pos hplaced, List.nodup_cons, List.mem_filter] at h
        have hnew : .issue m r ∉ fs := fun hmem => h.1 ⟨hmem, hplaced⟩
        rw [unplaced_cons_of_ne hnull, ih h.2]
        exact and_iff_right hnew
    | failure e => exact ih h

namespace Session

variable {files : List (String × String)} {rule : Rule} {filter : IgnoreFilter}

theorem inScope_sublist (s : Session) (scope : Scope) : (s.inScope scope).Sublist s.files := by
  cases scope with
  | everyFile => exact List.Sublist.refl _
  | fileNamed name =>
    rw [inScope]
    cases hfind : s.file? name with
    | none => exact List.nil_sublist _
    | some file => exact List.singleton_sublist.2 (List.mem_of_find?_eq_some hfind)

theorem exists_of_mem_inScope {scope : Scope} {file : SourceFile}
    (h : file ∈ (start files).inScope scope) : ∃ f ∈ files, .parse f.1 f.2.toList = file :=
  List.mem_map.1 ((inScope_sublist _ scope).subset h)

theorem pairwise_name (hnames : (files.map (·.1)).Nodup) (scope : Scope) :
    ((start files).inScope scope).Pairwise fun a b => a.name ≠ b.name := by
  refine List.Pairwise.sublist (inScope_sublist _ scope) ?_
  unfold start
  rw [List.pairwise_map]
  exact List.pairwise_map.1 hnames

/-! ## One file -/

theorem exists_spread_findingsIn (h : rule.Orderly) (filter : IgnoreFilter) (name : String)
    (text : List Char) : ∃ starts, Spread (SourceFile.parse name text).Marks starts
      ((findingsIn rule filter (.parse name text)).filter Finding.isPlaced) := by
  unfold findingsIn
  split
  · exact ⟨[], .nil⟩
  · split
    · rename_i body hbody
      exact h.placed hbody
    · exact ⟨[], .nil⟩

theorem stray_findingsIn (h : rule.Orderly) {name : String} {text : List Char} {f : Finding}
    (hf : f ∈ findingsIn rule filter (.parse name text)) (hplaced : f.isPlaced = false) :
    Stray rule f := by
  unfold findingsIn at hf
  split at hf
  · cases hf
  · split at hf
    · rename_i body hbody
      exact h.stray hbody f hf hplaced
    · cases hf

/-! ## All files -/

theorem stray_findings (h : rule.Orderly) {f : Finding}
    (hf : f ∈ (start files).findings rule filter) (hplaced : f.isPlaced = false) :
    Stray rule f := by
  obtain ⟨file, hfile, hf⟩ := List.mem_flatMap.1 hf
  obtain ⟨g, -, rfl⟩ := exists_of_mem_inScope hfile
  exact stray_findingsIn h hf hplaced

theorem nodup_placed (h : rule.Orderly) (hnames : (files.map (·.1)).Nodup) :
    (((start files).findings rule filter).filter Finding.isPlaced).Nodup := by
  unfold findings
  rw [List.filter_flatMap, List.nodup_flatMap]
  refine ⟨fun file hfile => ?_, (pairwise_name hnames rule.scope).imp_of_mem ?_⟩
  · obtain ⟨f, -, rfl⟩ := exists_of_mem_inScope hfile
    obtain ⟨starts, hspread⟩ := exists_spread_findingsIn h filter f.1 f.2.toList
    exact hspread.nodup
  · intro file file' hfile hfile' hne
    obtain ⟨f, -, rfl⟩ := exists_of_mem_inScope hfile
    obtain ⟨f', -, rfl⟩ := exists_of_mem_inScope hfile'
    obtain ⟨starts, hspread⟩ := exists_spread_findingsIn h filter f.1 f.2.toList
    obtain ⟨starts', hspread'⟩ := exists_spread_findingsIn h filter f'.1 f'.2.toList
    refine List.disjoint_left.2 fun g hg hg' => hne ?_
    obtain ⟨m, r, rfl, hmarks, -⟩ := hspread.within g hg
    obtain ⟨m', r', heq, hmarks', -⟩ := hspread'.within _ hg'
    obtain ⟨-, rfl⟩ := Finding.issue.inj heq
    exact hmarks.file_eq.symm.trans hmarks'.file_eq

theorem nodup_issues_iff (h : rule.Orderly) (hnames : (files.map (·.1)).Nodup) :
    (rule.issues ((start files).findings rule filter)).Nodup ↔
      (unplaced ((start files).findings rule filter)).Nodup :=
  Rule.nodup_issues_iff (nodup_placed h hnames)

theorem nodup_of_length_le_one {α : Type} {xs : List α} (h : xs.length ≤ 1) : xs.Nodup := by
  match xs with
  | [] => exact .nil
  | [x] => exact List.nodup_singleton x

/-- A file with versions is found once, and at most one issue is found in it. -/
theorem length_findings_versionsFile (s : Session) :
    (s.findings .versionsFile filter).length ≤ 1 := by
  have hfile : ∀ file, (findingsIn .versionsFile filter file).length ≤ 1 := by
    intro file
    unfold findingsIn Rule.versionsFile
    dsimp only
    split
    · exact Nat.zero_le _
    · split
      · split
        · exact Nat.zero_le _
        · exact Nat.le_refl _
      · exact Nat.zero_le _
  unfold findings inScope Rule.versionsFile
  dsimp only
  cases s.file? "versions.tf" with
  | none => exact Nat.zero_le _
  | some file =>
    rw [Option.toList_some, List.flatMap_singleton]
    exact hfile file

/-- Only one rule reports more than one issue nowhere. -/
theorem nodup_unplaced (hrule : rule ∈ Rule.all)
    (hname : rule.name ≠ "terraform_var_name_convention") :
    (unplaced ((start files).findings rule filter)).Nodup := by
  by_cases hversions : rule = .versionsFile
  · subst hversions
    have hlength := @length_findings_versionsFile filter (start files)
    have hle := List.length_filterMap_le (fun
      | Finding.issue message range => if range = .null then some message else none
      | .failure _ => none) ((start files).findings .versionsFile filter)
    exact nodup_of_length_le_one (hle.trans hlength)
  · have hnil : unplaced ((start files).findings rule filter) = [] := by
      refine List.eq_nil_iff_forall_not_mem.2 fun m hm => ?_
      have hstray := stray_findings (Rule.orderly hrule) (mem_unplaced.1 hm)
        (bne_self_eq_false SourceRange.null)
      cases hstray with
      | misnamed => exact hname rfl
      | versions => exact hversions rfl
    rw [hnil]
    exact .nil

theorem failures_findings (h : rule.Orderly) {e : LintError}
    (he : e ∈ failures ((start files).findings rule filter)) :
    rule.name = "terraform_sensitive_variable_no_default" ∧
      ∃ file key reason, e = .evaluation file key reason := by
  have hstray := stray_findings h (mem_failures.1 he) rfl
  cases hstray with
  | undecided file key reason => exact ⟨rfl, file, key, reason, rfl⟩

theorem isSingle_failures (h : rule.Orderly) :
    ∀ e ∈ failures ((start files).findings rule filter), e.isSingle = true := by
  intro e he
  obtain ⟨-, file, key, reason, rfl⟩ := failures_findings h he
  rfl

/-- The rules collect errors for each block, for each file and for the whole check. -/
theorem check_start_eq_of_grouped (h : rule.Orderly) {parts : List Grouped}
    (hparts : Grouped.findingsOf parts = (start files).findings rule filter) :
    (start files).check rule filter =
      ((Grouped.takeOverAll rule (start files, .empty) parts).1,
        (Grouped.takeOverAll rule (start files, .empty) parts).2.collapse) :=
  check_eq_of_grouped (isSingle_failures h) hparts

theorem emitRejected_mem_complaints (h : rule.Orderly) :
    (∃ name reason, .emitRejected name reason ∈
        complaints rule [] ((start files).findings rule filter)) ↔
      ¬(rule.issues ((start files).findings rule filter)).Nodup := by
  have hfailures : ∀ i : Issue, i.refusal ∉ failures ((start files).findings rule filter) := by
    intro i hi
    obtain ⟨-, file, key, reason, heq⟩ := failures_findings h hi
    cases heq
  rw [← exists_refusal_iff hfailures]
  constructor
  · rintro ⟨name, reason, he⟩
    rcases mem_complaints he with ⟨i, -, heq⟩ | he'
    · exact ⟨i, heq ▸ he⟩
    · obtain ⟨-, file, key, reason, heq⟩ := failures_findings h he'
      cases heq
  · rintro ⟨i, hi⟩
    exact ⟨_, _, hi⟩

/-- A check of a module refuses an issue just when two of the issues that stand nowhere say the
same, and only one rule reports such issues. Otherwise every issue found is recorded, all are
different, and errors come from values that cannot be computed, in one rule only. -/
theorem refused_iff (hnames : (files.map (·.1)).Nodup) (hrule : rule ∈ Rule.all)
    (filter : IgnoreFilter) :
    ((∃ name reason, .emitRejected name reason ∈
        errorLeaves ((start files).check rule filter).2) ↔
      ¬(unplaced ((start files).findings rule filter)).Nodup) ∧
    (rule.name ≠ "terraform_var_name_convention" →
      (unplaced ((start files).findings rule filter)).Nodup) ∧
    ((unplaced ((start files).findings rule filter)).Nodup →
      (rule.issues ((start files).findings rule filter)).Nodup ∧
      ((start files).check rule filter).1.issues =
        rule.issues ((start files).findings rule filter) ∧
      (∀ e ∈ errorLeaves ((start files).check rule filter).2,
        ∃ file key reason, e = .evaluation file key reason) ∧
      (rule.name ≠ "terraform_sensitive_variable_no_default" →
        ((start files).check rule filter).2 = .ok ())) := by
  have horderly := Rule.orderly hrule
  have hstart : (start files).issues = [] := rfl
  obtain ⟨hissues, hresult, hleaves⟩ :=
    @check_eq rule (start files) filter (isSingle_failures horderly)
  rw [hstart] at hissues hresult hleaves
  rw [hissues, hleaves, hresult]
  refine ⟨?_, nodup_unplaced hrule, fun hunplaced => ?_⟩
  · rw [emitRejected_mem_complaints horderly, nodup_issues_iff horderly hnames]
  · have hnodup := (nodup_issues_iff horderly hnames).2 hunplaced
    have hnew : ∀ i ∈ rule.issues ((start files).findings rule filter), i ∉ ([] : List Issue) :=
      fun _ _ => List.not_mem_nil
    obtain ⟨hrecorded, hcomplaints⟩ := recorded_of_nodup hnodup hnew
    rw [hrecorded, hcomplaints]
    refine ⟨hnodup, rfl, fun e he => (failures_findings horderly he).2, fun hname => ?_⟩
    refine ErrorList.collapse_eq_ok (List.eq_nil_iff_forall_not_mem.2 fun e he => ?_)
    exact hname (failures_findings horderly he).1

/-- Two variables behind prefix operators are both reported nowhere, with one message. -/
theorem refused_negated : ∃ name reason, .emitRejected name reason ∈ errorLeaves
    ((start [("main.tf",
        "resource \"a\" \"b\" \x7b\n  enabled = !var.on\n  secure = !var.safe\n\x7d\n")]).check
      .variableNameConvention .empty).2 := by
  have hrule : Rule.variableNameConvention ∈ Rule.all := by simp [Rule.all]
  exact (refused_iff (by decide) hrule _).1.2 (by decide +kernel)

end Session

end TerraLint
