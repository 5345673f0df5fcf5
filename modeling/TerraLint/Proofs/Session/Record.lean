import Mathlib.Data.List.Nodup
import TerraLint.Proofs.Error
import TerraLint.Session

/-!
# What a check records

A check takes over its findings one after the other. What it records and what it complains about are
read off the findings and the issues recorded before: an issue that is new is recorded, one that is
not is refused, and a failure is kept.

* `recorded`, `complaints`: the issues and the errors that some findings add.
* `Session.check_eq`: what a check does.
* `recorded_append`, `complaints_append`: findings one after the other.
* `Session.check_eq_of_grouped`: errors can be collected in groups, to any depth.
* `exists_refusal_iff`: when an issue is refused.
-/

namespace TerraLint

/-! ## Findings one by one -/

/-- The error by which an issue is refused. -/
def Issue.refusal (issue : Issue) : LintError :=
  .emitRejected issue.rule ("duplicate issue at " ++ issue.range.display)

namespace Rule

/-- The issue that a finding of a rule is. -/
def issue? (rule : Rule) : Finding → Option Issue
  | .issue message range => some ⟨rule.name, rule.severity, message, range⟩
  | .failure _ => none

/-- The issues among some findings of a rule. -/
def issues (rule : Rule) (fs : List Finding) : List Issue := fs.filterMap rule.issue?

end Rule

/-- The failures among some findings. -/
def failures : List Finding → List LintError :=
  List.filterMap fun
    | .issue _ _ => none
    | .failure e => some e

/-- The issues that are recorded of some findings where some issues are recorded already. -/
def recorded (rule : Rule) (seen : List Issue) : List Finding → List Issue
  | [] => []
  | .issue message range :: fs =>
    let issue : Issue := ⟨rule.name, rule.severity, message, range⟩
    if issue ∈ seen then recorded rule seen fs else issue :: recorded rule (seen ++ [issue]) fs
  | .failure _ :: fs => recorded rule seen fs

/-- The errors that are collected of some findings where some issues are recorded already. -/
def complaints (rule : Rule) (seen : List Issue) : List Finding → List LintError
  | [] => []
  | .issue message range :: fs =>
    let issue : Issue := ⟨rule.name, rule.severity, message, range⟩
    if issue ∈ seen then issue.refusal :: complaints rule seen fs
    else complaints rule (seen ++ [issue]) fs
  | .failure e :: fs => e :: complaints rule seen fs

@[simp] theorem failures_append (fs gs : List Finding) :
    failures (fs ++ gs) = failures fs ++ failures gs := List.filterMap_append

theorem mem_failures {e : LintError} {fs : List Finding} : e ∈ failures fs ↔ .failure e ∈ fs := by
  unfold failures
  rw [List.mem_filterMap]
  constructor
  · rintro ⟨f, hf, heq⟩
    cases f with
    | issue m r => cases heq
    | failure e' => exact Option.some.inj heq ▸ hf
  · exact fun hf => ⟨_, hf, rfl⟩

theorem Rule.mem_issues {rule : Rule} {i : Issue} {fs : List Finding} : i ∈ rule.issues fs ↔
    i.rule = rule.name ∧ i.severity = rule.severity ∧ .issue i.message i.range ∈ fs := by
  unfold Rule.issues
  rw [List.mem_filterMap]
  constructor
  · rintro ⟨f, hf, heq⟩
    cases f with
    | issue m r =>
      obtain rfl := Option.some.inj heq
      exact ⟨rfl, rfl, hf⟩
    | failure e => cases heq
  · rintro ⟨hrule, hseverity, hf⟩
    refine ⟨_, hf, ?_⟩
    obtain ⟨r, s, m, range⟩ := i
    obtain rfl : r = rule.name := hrule
    obtain rfl : s = rule.severity := hseverity
    rfl

variable {rule : Rule} {seen seen' : List Issue} {fs gs : List Finding}

namespace Session

theorem emit_eq (s : Session) (rule : Rule) (message : String) (range : SourceRange) :
    s.emit rule message range =
      let issue : Issue := ⟨rule.name, rule.severity, message, range⟩
      if issue ∈ s.issues then .error issue.refusal
      else .ok { s with issues := s.issues ++ [issue] } := by
  unfold emit record
  dsimp only
  by_cases hold : (⟨rule.name, rule.severity, message, range⟩ : Issue) ∈ s.issues
  · rw [if_pos (List.contains_iff_mem.2 hold), if_pos hold]
    rfl
  · rw [if_neg fun h => hold (List.contains_iff_mem.1 h), if_neg hold]

theorem takeOver_issue (s : Session) (errors : ErrorList) (message : String) (range : SourceRange) :
    takeOver rule (s, errors) (.issue message range) =
      let issue : Issue := ⟨rule.name, rule.severity, message, range⟩
      if issue ∈ s.issues then (s, ⟨errors.errors ++ [issue.refusal]⟩)
      else ({ s with issues := s.issues ++ [issue] }, errors) := by
  unfold takeOver
  dsimp only
  rw [emit_eq]
  dsimp only
  by_cases hold : (⟨rule.name, rule.severity, message, range⟩ : Issue) ∈ s.issues
  · rw [if_pos hold, if_pos hold]
    rfl
  · rw [if_neg hold, if_neg hold]

/-- What all findings together do to a session. -/
theorem foldl_takeOver (hsingle : ∀ e ∈ failures fs, e.isSingle = true) (s : Session)
    (errors : List LintError) :
    fs.foldl (takeOver rule) (s, ⟨errors⟩) =
      ({ s with issues := s.issues ++ recorded rule s.issues fs },
        ⟨errors ++ complaints rule s.issues fs⟩) := by
  induction fs generalizing s errors with
  | nil => simp [recorded, complaints]
  | cons f fs ih =>
    rw [List.foldl_cons]
    cases f with
    | issue message range =>
      have ih := ih fun e he => hsingle e he
      rw [takeOver_issue, recorded, complaints]
      dsimp only
      split
      · rw [ih, List.append_assoc]
        rfl
      · rw [ih]
        dsimp only
        rw [List.append_assoc]
        rfl
    | failure e =>
      have hpush := (ErrorList.mk errors).push_of_isSingle (hsingle e List.mem_cons_self)
      have ih := ih fun e he => hsingle e (List.mem_cons_of_mem _ he)
      rw [takeOver, hpush, ih, recorded, complaints, List.append_assoc]
      rfl

end Session

/-! ## The issues recorded -/

theorem mem_recorded {i : Issue} :
    i ∈ recorded rule seen fs ↔ i ∈ rule.issues fs ∧ i ∉ seen := by
  induction fs generalizing seen with
  | nil => simp [recorded, Rule.issues]
  | cons f fs ih =>
    cases f with
    | issue m r =>
      have hcons : rule.issues (.issue m r :: fs) =
          ⟨rule.name, rule.severity, m, r⟩ :: rule.issues fs := rfl
      rw [recorded, hcons, List.mem_cons]
      split
      · rename_i hold
        rw [ih]
        constructor
        · exact fun h => ⟨.inr h.1, h.2⟩
        · rintro ⟨rfl | h, hnew⟩
          · exact absurd hold hnew
          · exact ⟨h, hnew⟩
      · rename_i hnew
        rw [List.mem_cons, ih, List.mem_append, List.mem_singleton]
        by_cases heq : i = ⟨rule.name, rule.severity, m, r⟩
        · subst heq
          simp [hnew]
        · simp [heq]
    | failure e => exact ih

theorem nodup_recorded : (recorded rule seen fs).Nodup := by
  induction fs generalizing seen with
  | nil => exact .nil
  | cons f fs ih =>
    cases f with
    | issue m r =>
      rw [recorded]
      split
      · exact ih
      · refine List.nodup_cons.2 ⟨fun hmem => ?_, ih⟩
        exact (mem_recorded.1 hmem).2 (List.mem_append_right _ (List.mem_singleton.2 rfl))
    | failure e => exact ih

theorem recorded_append : recorded rule seen (fs ++ gs) =
    recorded rule seen fs ++ recorded rule (seen ++ recorded rule seen fs) gs := by
  induction fs generalizing seen with
  | nil => simp [recorded]
  | cons f fs ih =>
    cases f with
    | issue m r =>
      rw [List.cons_append, recorded, recorded]
      split
      · exact ih
      · rw [ih, List.append_assoc, List.cons_append]
        rfl
    | failure e => exact ih

theorem complaints_append : complaints rule seen (fs ++ gs) =
    complaints rule seen fs ++ complaints rule (seen ++ recorded rule seen fs) gs := by
  induction fs generalizing seen with
  | nil => simp [recorded, complaints]
  | cons f fs ih =>
    cases f with
    | issue m r =>
      rw [List.cons_append, complaints, complaints, recorded]
      split
      · rw [ih, List.cons_append]
      · rw [ih, List.append_assoc]
        rfl
    | failure e =>
      rw [List.cons_append, complaints, complaints, recorded, ih, List.cons_append]

/-- Only the issues that are found again count among those recorded before. -/
theorem recorded_congr (h : ∀ i ∈ rule.issues fs, i ∈ seen ↔ i ∈ seen') :
    recorded rule seen fs = recorded rule seen' fs ∧
      complaints rule seen fs = complaints rule seen' fs := by
  induction fs generalizing seen seen' with
  | nil => exact ⟨rfl, rfl⟩
  | cons f fs ih =>
    cases f with
    | issue m r =>
      have hfirst := h _ List.mem_cons_self
      have hrest : ∀ i ∈ rule.issues fs, i ∈ seen ↔ i ∈ seen' := fun i hi =>
        h i (List.mem_cons_of_mem _ hi)
      have hlater := @ih (seen ++ [⟨rule.name, rule.severity, m, r⟩])
        (seen' ++ [⟨rule.name, rule.severity, m, r⟩]) fun i hi => by
          rw [List.mem_append, List.mem_append, hrest i hi]
      rw [recorded, recorded, complaints, complaints]
      by_cases hold : (⟨rule.name, rule.severity, m, r⟩ : Issue) ∈ seen
      · obtain ⟨hrecorded, hcomplaints⟩ := ih hrest
        rw [if_pos hold, if_pos (hfirst.1 hold), if_pos hold, if_pos (hfirst.1 hold), hrecorded,
          hcomplaints]
        exact ⟨rfl, rfl⟩
      · have hold' := fun h => hold (hfirst.2 h)
        obtain ⟨hrecorded, hcomplaints⟩ := hlater
        rw [if_neg hold, if_neg hold', if_neg hold, if_neg hold', hrecorded, hcomplaints]
        exact ⟨rfl, rfl⟩
    | failure e =>
      obtain ⟨hrecorded, hcomplaints⟩ := ih h
      rw [recorded, recorded, complaints, complaints, hrecorded, hcomplaints]
      exact ⟨rfl, rfl⟩

/-! ## Refusals -/

/-- All issues are recorded when they are different from each other and from those before. -/
theorem recorded_of_nodup (hnodup : (rule.issues fs).Nodup) (hnew : ∀ i ∈ rule.issues fs, i ∉ seen) :
    recorded rule seen fs = rule.issues fs ∧ complaints rule seen fs = failures fs := by
  induction fs generalizing seen with
  | nil => exact ⟨rfl, rfl⟩
  | cons f fs ih =>
    cases f with
    | issue m r =>
      obtain ⟨hfirst, hrest⟩ := List.nodup_cons.1 hnodup
      have ih := @ih (seen ++ [⟨rule.name, rule.severity, m, r⟩]) hrest fun i hi => by
        rw [List.mem_append, List.mem_singleton]
        rintro (hold | rfl)
        · exact hnew i (List.mem_cons_of_mem _ hi) hold
        · exact hfirst hi
      have hfirstNew := hnew _ List.mem_cons_self
      rw [recorded, complaints]
      rw [if_neg hfirstNew, if_neg hfirstNew, ih.1, ih.2]
      exact ⟨rfl, rfl⟩
    | failure e =>
      obtain ⟨hrecorded, hcomplaints⟩ := ih hnodup hnew
      rw [recorded, complaints, hrecorded, hcomplaints]
      exact ⟨rfl, rfl⟩

theorem mem_complaints {e : LintError} (h : e ∈ complaints rule seen fs) :
    (∃ i ∈ rule.issues fs, e = i.refusal) ∨ e ∈ failures fs := by
  induction fs generalizing seen with
  | nil => cases h
  | cons f fs ih =>
    cases f with
    | issue m r =>
      rw [complaints] at h
      split at h
      · rcases List.mem_cons.1 h with rfl | h
        · exact .inl ⟨_, List.mem_cons_self, rfl⟩
        · exact (ih h).imp_left fun ⟨i, hi, heq⟩ => ⟨i, List.mem_cons_of_mem _ hi, heq⟩
      · exact (ih h).imp_left fun ⟨i, hi, heq⟩ => ⟨i, List.mem_cons_of_mem _ hi, heq⟩
    | failure e' =>
      rcases List.mem_cons.1 h with rfl | h
      · exact .inr List.mem_cons_self
      · exact (ih h).imp_right (List.mem_cons_of_mem _)

theorem new_of_no_refusal (h : ∀ i : Issue, i.refusal ∉ complaints rule seen fs) :
    (rule.issues fs).Nodup ∧ ∀ i ∈ rule.issues fs, i ∉ seen := by
  induction fs generalizing seen with
  | nil => exact ⟨.nil, fun i hi => absurd hi List.not_mem_nil⟩
  | cons f fs ih =>
    cases f with
    | issue m r =>
      rw [complaints] at h
      split at h
      · exact absurd List.mem_cons_self (h _)
      · rename_i hfirst
        obtain ⟨hnodup, hnew⟩ := ih h
        refine ⟨List.nodup_cons.2 ⟨fun hmem => ?_, hnodup⟩, fun i hi hold => ?_⟩
        · exact hnew _ hmem (List.mem_append_right _ (List.mem_singleton.2 rfl))
        · rcases List.mem_cons.1 hi with rfl | hi
          · exact hfirst hold
          · exact hnew i hi (List.mem_append_left _ hold)
    | failure e => exact ih fun i hi => h i (List.mem_cons_of_mem _ hi)

/-! ## A check -/

theorem isSingle_complaints (hsingle : ∀ e ∈ failures fs, e.isSingle = true) :
    ∀ e ∈ complaints rule seen fs, e.isSingle = true := by
  intro e he
  rcases mem_complaints he with ⟨i, -, rfl⟩ | he
  · rfl
  · exact hsingle e he

/-- What a check records, and what its result is made of. -/
theorem Session.check_eq {s : Session} {filter : IgnoreFilter}
    (hsingle : ∀ e ∈ failures (s.findings rule filter), e.isSingle = true) :
    (s.check rule filter).1.issues =
        s.issues ++ recorded rule s.issues (s.findings rule filter) ∧
      (s.check rule filter).2 =
        ErrorList.collapse ⟨complaints rule s.issues (s.findings rule filter)⟩ ∧
      errorLeaves (s.check rule filter).2 =
        complaints rule s.issues (s.findings rule filter) := by
  have hrun := @foldl_takeOver rule _ hsingle s []
  have hcheck : s.check rule filter =
      ({ s with issues := s.issues ++ recorded rule s.issues (s.findings rule filter) },
        ErrorList.collapse ⟨complaints rule s.issues (s.findings rule filter)⟩) := by
    unfold check ErrorList.empty
    rw [hrun, List.nil_append]
  rw [hcheck]
  exact ⟨rfl, rfl, ErrorList.errorLeaves_collapse (isSingle_complaints hsingle)⟩

/-! ## Findings in groups -/

/-- A finding, or findings whose errors are handed back together: those of a block to its file, those
of a file to the check. -/
inductive Grouped where
  | finding (f : Finding)
  | group (parts : List Grouped)

namespace Grouped

mutual

/-- The findings in a group, in order. -/
def findings : Grouped → List Finding
  | .finding f => [f]
  | .group parts => findingsOf parts

def findingsOf : List Grouped → List Finding
  | [] => []
  | part :: parts => part.findings ++ findingsOf parts

end

mutual

/-- Takes over a finding or a group. A group has a collection of its own, and the outer one absorbs
its result. -/
def takeOver (rule : Rule) : Session × ErrorList → Grouped → Session × ErrorList
  | before, .finding f => Session.takeOver rule before f
  | (s, errors), .group parts =>
    let (after, inner) := takeOverAll rule (s, .empty) parts
    (after, (errors.absorb inner.collapse).1)

def takeOverAll (rule : Rule) : Session × ErrorList → List Grouped → Session × ErrorList
  | before, [] => before
  | before, part :: parts => takeOverAll rule (part.takeOver rule before) parts

end

mutual

/-- A group does to a session what its findings do one by one. -/
theorem takeOver_eq_foldl : ∀ (part : Grouped),
    (∀ e ∈ failures part.findings, e.isSingle = true) → ∀ (s : Session) (errors : ErrorList),
    part.takeOver rule (s, errors) = part.findings.foldl (Session.takeOver rule) (s, errors)
  | .finding f, _, s, errors => by
    rw [takeOver, findings]
    rfl
  | .group parts, h, s, errors => by
    rw [findings] at h ⊢
    have hinner := takeOverAll_eq_foldl parts h s .empty
    have hcollected := @Session.foldl_takeOver rule _ h s
    rw [ErrorList.empty, hcollected, List.nil_append] at hinner
    have hflat : ErrorList.IsFlat ⟨complaints rule s.issues (findingsOf parts)⟩ :=
      isSingle_complaints h
    rw [takeOver, ErrorList.empty, hinner, hcollected errors.errors]
    exact congrArg _ (errors.absorb_collapse hflat)

theorem takeOverAll_eq_foldl : ∀ (parts : List Grouped),
    (∀ e ∈ failures (findingsOf parts), e.isSingle = true) → ∀ (s : Session) (errors : ErrorList),
    takeOverAll rule (s, errors) parts =
      (findingsOf parts).foldl (Session.takeOver rule) (s, errors)
  | [], _, s, errors => by
    rw [takeOverAll, findingsOf]
    rfl
  | part :: parts, h, s, errors => by
    rw [findingsOf] at h ⊢
    rw [failures_append] at h
    have hpart := part.takeOver_eq_foldl (fun e he => h e (List.mem_append_left _ he)) s errors
    rw [takeOverAll, hpart, List.foldl_append]
    exact takeOverAll_eq_foldl parts (fun e he => h e (List.mem_append_right _ he)) _ _

end

end Grouped

/-- However the findings are grouped, to any depth, a check has the same session and the same result. -/
theorem Session.check_eq_of_grouped {s : Session} {filter : IgnoreFilter}
    (hsingle : ∀ e ∈ failures (s.findings rule filter), e.isSingle = true) {parts : List Grouped}
    (h : Grouped.findingsOf parts = s.findings rule filter) :
    s.check rule filter =
      ((Grouped.takeOverAll rule (s, .empty) parts).1,
        (Grouped.takeOverAll rule (s, .empty) parts).2.collapse) := by
  rw [← h] at hsingle
  rw [Grouped.takeOverAll_eq_foldl parts hsingle, h]
  rfl

/-- An issue is refused just when two of the issues found are equal. -/
theorem exists_refusal_iff (hfailures : ∀ i : Issue, i.refusal ∉ failures fs) :
    (∃ i : Issue, i.refusal ∈ complaints rule [] fs) ↔ ¬(rule.issues fs).Nodup := by
  constructor
  · rintro ⟨i, hi⟩ hnodup
    have hnew : ∀ i ∈ rule.issues fs, i ∉ ([] : List Issue) := fun _ _ => List.not_mem_nil
    rw [(recorded_of_nodup hnodup hnew).2] at hi
    exact hfailures i hi
  · intro hnodup
    by_contra hnone
    exact hnodup (new_of_no_refusal fun i hi => hnone ⟨i, hi⟩).1

end TerraLint
