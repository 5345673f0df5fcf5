import TerraLint.Proofs.Session.Rejection

/-!
# What is done to a session

Rules are checked and issues are emitted one after the other, and all of it writes to one list of
issues. A step may fail and record something all the same, since a check goes on after an error.

* `Session.Step`, `Session.step`, `Session.run`: the steps, what one of them does, and many.
* `Session.Extends`: a session with the files of another one and more issues.
* `Session.extends_step`, `Session.extends_run`: what a step keeps, and what a run keeps.
* `Session.run_keeps_issues`: the list of issues at any point of a run and after the next step.
-/

namespace TerraLint

namespace Session

variable {rule : Rule} {filter : IgnoreFilter} {s : Session}

/-- Something that is done to a session. -/
inductive Step where
  | check (rule : Rule)
  | emit (rule : Rule) (message : String) (range : SourceRange)

/-- The session after a step, and the result of the step. -/
def step (filter : IgnoreFilter) (s : Session) : Step → Session × Except LintError Unit
  | .check rule => s.check rule filter
  | .emit rule message range =>
    match s.emit rule message range with
    | .ok after => (after, .ok ())
    | .error e => (s, .error e)

/-- The session after some steps. -/
def run (filter : IgnoreFilter) (s : Session) (steps : List Step) : Session :=
  steps.foldl (fun s next => (s.step filter next).1) s

/-! ## Sessions that grow -/

/-- A session that another one may become: its files are the same, its issues come after those
before, and none is there twice unless it was before. -/
structure Extends (s after : Session) : Prop where
  files : after.files = s.files
  issues : s.issues <+: after.issues
  nodup : s.issues.Nodup → after.issues.Nodup

namespace Extends

theorem refl (s : Session) : Extends s s := ⟨rfl, List.prefix_rfl, id⟩

theorem trans {s₁ s₂ s₃ : Session} (h : Extends s₁ s₂) (h' : Extends s₂ s₃) : Extends s₁ s₃ where
  files := h'.files.trans h.files
  issues := h.issues.trans h'.issues
  nodup := fun hnodup => h'.nodup (h.nodup hnodup)

theorem append {new : List Issue} (hnodup : new.Nodup) (hnew : ∀ i ∈ new, i ∉ s.issues) :
    Extends s { s with issues := s.issues ++ new } where
  files := rfl
  issues := List.prefix_append _ _
  nodup := by
    intro hbefore
    refine List.Nodup.append hbefore hnodup ?_
    intro i hi hi'
    exact hnew i hi' hi

end Extends

/-! ## One step -/

theorem foldl_takeOver_fst (fs : List Finding) (s : Session) (errors : ErrorList) :
    (fs.foldl (takeOver rule) (s, errors)).1 =
      { s with issues := s.issues ++ recorded rule s.issues fs } := by
  induction fs generalizing s errors with
  | nil => simp [recorded]
  | cons f fs ih =>
    rw [List.foldl_cons]
    cases f with
    | issue m r =>
      rw [takeOver_issue, recorded]
      dsimp only
      split
      · exact ih s _
      · rw [ih]
        simp [List.append_assoc]
    | failure e => exact ih s _

/-- What a check makes of a session, whatever its errors are. -/
theorem step_check_fst (filter : IgnoreFilter) (s : Session) (rule : Rule) :
    (s.step filter (.check rule)).1 =
      { s with issues := s.issues ++ recorded rule s.issues (s.findings rule filter) } :=
  foldl_takeOver_fst _ _ _

theorem step_emit (filter : IgnoreFilter) (s : Session) (rule : Rule) (m : String)
    (r : SourceRange) :
    s.step filter (.emit rule m r) =
      let issue : Issue := ⟨rule.name, rule.severity, m, r⟩
      if issue ∈ s.issues then (s, .error issue.refusal)
      else ({ s with issues := s.issues ++ [issue] }, .ok ()) := by
  unfold step
  dsimp only
  rw [emit_eq]
  dsimp only
  by_cases hold : (⟨rule.name, rule.severity, m, r⟩ : Issue) ∈ s.issues
  · rw [if_pos hold, if_pos hold]
  · rw [if_neg hold, if_neg hold]

theorem extends_step (filter : IgnoreFilter) (s : Session) (next : Step) :
    Extends s (s.step filter next).1 := by
  cases next with
  | check rule =>
    rw [step_check_fst]
    apply Extends.append nodup_recorded
    intro i hi
    exact (mem_recorded.1 hi).2
  | emit rule m r =>
    rw [step_emit]
    dsimp only
    split
    · exact Extends.refl s
    · rename_i hnew
      apply Extends.append (List.nodup_singleton _)
      intro i hi
      rw [List.mem_singleton.1 hi]
      exact hnew

/-! ## Many steps -/

theorem extends_run (filter : IgnoreFilter) (s : Session) (steps : List Step) :
    Extends s (s.run filter steps) := by
  induction steps generalizing s with
  | nil => exact Extends.refl s
  | cons next steps ih => exact (extends_step filter s next).trans (ih _)

theorem findings_congr {after : Session} (h : after.files = s.files) :
    after.findings rule filter = s.findings rule filter := by
  unfold findings inScope file?
  rw [h]

/-- What a rule finds is recorded once the rule was checked. -/
theorem issues_subset_run {steps : List Step} (h : .check rule ∈ steps) :
    ∀ i ∈ rule.issues (s.findings rule filter), i ∈ (s.run filter steps).issues := by
  induction steps generalizing s with
  | nil => cases h
  | cons next steps ih =>
    intro i hi
    rcases List.mem_cons.1 h with rfl | h
    · have hmem : i ∈ (s.step filter (.check rule)).1.issues := by
        rw [step_check_fst, List.mem_append, mem_recorded]
        by_cases hold : i ∈ s.issues
        · exact .inl hold
        · exact .inr ⟨hi, hold⟩
      exact (extends_run filter _ steps).issues.subset hmem
    · apply ih h
      rw [findings_congr (extends_step filter s next).files]
      exact hi

/-! ## A check of what is recorded -/

theorem recorded_of_seen {seen : List Issue} {fs : List Finding}
    (h : ∀ i ∈ rule.issues fs, i ∈ seen) : recorded rule seen fs = [] := by
  refine List.eq_nil_iff_forall_not_mem.2 fun i hi => ?_
  obtain ⟨hfound, hnew⟩ := mem_recorded.1 hi
  exact hnew (h i hfound)

/-- Every finding is an error when all issues found are recorded before. -/
theorem length_complaints_of_seen {seen : List Issue} {fs : List Finding}
    (h : ∀ i ∈ rule.issues fs, i ∈ seen) : (complaints rule seen fs).length = fs.length := by
  induction fs with
  | nil => rfl
  | cons f fs ih =>
    cases f with
    | issue m r =>
      have hold := h _ List.mem_cons_self
      rw [complaints, if_pos hold, List.length_cons, List.length_cons,
        ih fun i hi => h i (List.mem_cons_of_mem _ hi)]
    | failure e => rw [complaints, List.length_cons, List.length_cons, ih h]

theorem check_error_iff_of_seen (hrule : rule ∈ Rule.all) (steps : List Step)
    {files : List (String × String)}
    (hseen : ∀ i ∈ rule.issues ((start files).findings rule filter),
      i ∈ ((start files).run filter steps).issues) :
    (∃ e, (((start files).run filter steps).step filter (.check rule)).2 = .error e) ↔
      (start files).findings rule filter ≠ [] := by
  have hfindings : ((start files).run filter steps).findings rule filter =
      (start files).findings rule filter :=
    findings_congr (extends_run filter (start files) steps).files
  have hsingle := @isSingle_failures files rule filter (Rule.orderly hrule)
  rw [← hfindings] at hsingle hseen ⊢
  have hresult : (((start files).run filter steps).step filter (.check rule)).2 =
      ErrorList.collapse ⟨_⟩ := (check_eq hsingle).2.1
  rw [hresult, ErrorList.exists_collapse_eq_error_iff, ← List.length_pos_iff, ← List.length_pos_iff,
    length_complaints_of_seen hseen]

theorem findings_ne_nil_iff (hrule : rule ∈ Rule.all) {files : List (String × String)} :
    (start files).findings rule filter ≠ [] ↔
      (∃ m r, .issue m r ∈ (start files).findings rule filter) ∨
        ∃ file key reason,
          .failure (.evaluation file key reason) ∈ (start files).findings rule filter := by
  constructor
  · intro hne
    obtain ⟨finding, hfinding⟩ := List.exists_mem_of_ne_nil _ hne
    cases finding with
    | issue m r => exact .inl ⟨m, r, hfinding⟩
    | failure e =>
      obtain ⟨-, file, key, reason, rfl⟩ :=
        failures_findings (Rule.orderly hrule) (mem_failures.2 hfinding)
      exact .inr ⟨file, key, reason, hfinding⟩
  · rintro (⟨m, r, hfinding⟩ | ⟨file, key, reason, hfinding⟩)
    · exact List.ne_nil_of_mem hfinding
    · exact List.ne_nil_of_mem hfinding

/-- At every point of a session, however it got there, no issue is recorded twice, and a step only
adds issues behind those there are. An issue is refused just when it is there, and then nothing
changes. A rule that was checked before adds nothing, and its check fails just when the rule finds
anything at all. -/
theorem run_keeps_issues (files : List (String × String)) (filter : IgnoreFilter)
    (before : List Step) :
    let s := (start files).run filter before
    s.issues.Nodup ∧
    (∀ next, s.issues <+: (s.step filter next).1.issues ∧ (s.step filter next).1.issues.Nodup) ∧
    (∀ (rule : Rule) (m : String) (r : SourceRange),
      let issue : Issue := ⟨rule.name, rule.severity, m, r⟩
      ((∃ e, (s.step filter (.emit rule m r)).2 = .error e) ↔ issue ∈ s.issues) ∧
      (issue ∈ s.issues → s.step filter (.emit rule m r) =
        (s, .error (.emitRejected rule.name ("duplicate issue at " ++ r.display)))) ∧
      (issue ∉ s.issues → (s.step filter (.emit rule m r)).1.issues = s.issues ++ [issue])) ∧
    ∀ rule ∈ Rule.all, .check rule ∈ before →
      (s.step filter (.check rule)).1 = s ∧
      ((∃ e, (s.step filter (.check rule)).2 = .error e) ↔
        (∃ m r, .issue m r ∈ (start files).findings rule filter) ∨
        ∃ file key reason,
          .failure (.evaluation file key reason) ∈ (start files).findings rule filter) := by
  intro s
  have hnodup : s.issues.Nodup := (extends_run filter (start files) before).nodup .nil
  refine ⟨hnodup, ?_, ?_, ?_⟩
  · intro next
    have hextends := extends_step filter s next
    exact ⟨hextends.issues, hextends.nodup hnodup⟩
  · intro rule m r issue
    rw [step_emit]
    by_cases hold : issue ∈ s.issues
    · simp [issue, hold, Issue.refusal]
    · simp [issue, hold]
  · intro rule hrule hchecked
    have hseen := @issues_subset_run rule filter (start files) before hchecked
    have hfindings : s.findings rule filter = (start files).findings rule filter :=
      findings_congr (extends_run filter (start files) before).files
    refine ⟨?_, ?_⟩
    · rw [step_check_fst, hfindings, recorded_of_seen hseen, List.append_nil]
    · rw [check_error_iff_of_seen hrule before hseen, findings_ne_nil_iff hrule]

/-- A module with a variable that says it is nullable. -/
def nullableFiles : List (String × String) :=
  [("main.tf", "variable \"a\" \x7b\n  nullable = true\n\x7d\n")]

/-- The variable is reported by the first check, and the second one is an error that changes
nothing. -/
theorem run_keeps_issues_nullable :
    let s := (start nullableFiles).run .empty
      [.check .variableNullableFalse, .emit .variableNullableFalse "note" .null]
    s.issues.length = 2 ∧ (s.step .empty (.check .variableNullableFalse)).1 = s ∧
      ∃ e, (s.step .empty (.check .variableNullableFalse)).2 = .error e := by
  intro s
  have hrule : Rule.variableNullableFalse ∈ Rule.all := by simp [Rule.all]
  have hfound : Rule.variableNullableFalse.issues
      ((start nullableFiles).findings .variableNullableFalse .empty) ≠ [] := by decide +kernel
  obtain ⟨i, hi⟩ := List.exists_mem_of_ne_nil _ hfound
  obtain ⟨-, -, hfinding⟩ := Rule.mem_issues.1 hi
  obtain ⟨hsame, herror⟩ := (run_keeps_issues nullableFiles .empty
    [.check .variableNullableFalse, .emit .variableNullableFalse "note" .null]).2.2.2 _ hrule
      List.mem_cons_self
  exact ⟨by decide +kernel, hsame, herror.2 (.inl ⟨_, _, hfinding⟩)⟩

end Session

end TerraLint
