import TerraLint.Error

/-!
# Collections of errors

A check collects single errors and hands them back together. They can be read off its result.

A collection starts empty. Errors are pushed, results are absorbed, and the collection is handed back
as a result whose error starts the next collection. An error that is pushed may be such a result itself:
all errors of a collection with a history of its own, which may have been pushed results in turn, to any
depth. `push` opens one level only; that is enough, since no collection of any history holds another one.

* `LintError.leaves`, `errorLeaves`: the single errors of an error, and of a result.
* `ErrorList.errorLeaves_collapse`: the result of a collection has the errors of the collection.
* `ErrorList.collapse_eq_ok_iff`: only an empty collection is a success.
* `Pushed`, `Step`: what is pushed, and the steps of a history.
* `absorb_collapse`: what a collection has collected goes over to another one.
* `errors_apply`: what one step does to a collection of single errors.
* `run_collects`: after every history the collection holds the single errors pushed so far, in order.
-/

namespace TerraLint

namespace LintError

mutual

/-- The single errors that an error is made of. -/
def leaves : LintError → List LintError
  | .multiple errors => leavesOf errors
  | e => [e]

/-- The single errors that some errors are made of. -/
def leavesOf : List LintError → List LintError
  | [] => []
  | e :: rest => e.leaves ++ leavesOf rest

end

/-- Whether an error is no collection. -/
def isSingle : LintError → Bool
  | .multiple _ => false
  | _ => true

theorem leaves_of_isSingle {e : LintError} (h : e.isSingle = true) : e.leaves = [e] := by
  cases e with
  | multiple errors => cases h
  | _ => rw [leaves]; simp

theorem leavesOf_of_isSingle {errors : List LintError} (h : ∀ e ∈ errors, e.isSingle = true) :
    leavesOf errors = errors := by
  induction errors with
  | nil => rw [leavesOf]
  | cons e rest ih =>
    rw [leavesOf, leaves_of_isSingle (h e List.mem_cons_self),
      ih fun e he => h e (List.mem_cons_of_mem _ he)]
    rfl

end LintError

/-- The single errors of a result. -/
def errorLeaves : Except LintError Unit → List LintError
  | .ok _ => []
  | .error e => e.leaves

namespace ErrorList

theorem push_of_isSingle (list : ErrorList) {e : LintError} (h : e.isSingle = true) :
    list.push e = ⟨list.errors ++ [e]⟩ := by
  cases e with
  | multiple errors => cases h
  | _ => rfl

theorem errorLeaves_collapse {list : ErrorList} (h : ∀ e ∈ list.errors, e.isSingle = true) :
    errorLeaves list.collapse = list.errors := by
  obtain ⟨errors⟩ := list
  match errors with
  | [] => rfl
  | [e] => exact LintError.leaves_of_isSingle (h e List.mem_cons_self)
  | e :: e' :: rest =>
    unfold collapse errorLeaves
    dsimp only
    rw [LintError.leaves]
    exact LintError.leavesOf_of_isSingle h

theorem collapse_eq_ok {list : ErrorList} (h : list.errors = []) : list.collapse = .ok () := by
  unfold collapse
  rw [h]

theorem collapse_eq_ok_iff {list : ErrorList} : list.collapse = .ok () ↔ list.errors = [] := by
  refine ⟨fun h => ?_, collapse_eq_ok⟩
  obtain ⟨errors⟩ := list
  match errors with
  | [] => rfl
  | [e] => cases h
  | e :: e' :: rest => cases h

theorem collapse_eq_multiple {list : ErrorList} (h : 2 ≤ list.errors.length) :
    list.collapse = .error (.multiple list.errors) := by
  obtain ⟨errors⟩ := list
  match errors with
  | [] => simp at h
  | [e] => simp at h
  | e :: e' :: rest => rfl

theorem exists_collapse_eq_error_iff {list : ErrorList} :
    (∃ e, list.collapse = .error e) ↔ list.errors ≠ [] := by
  rw [ne_eq, ← collapse_eq_ok_iff]
  cases list.collapse <;> simp

/-! ## Histories -/

mutual

/-- An error that is pushed: a single one, or all errors of a collection together. -/
inductive Pushed : Type 1 where
  | single (e : LintError) (isSingle : e.isSingle = true)
  | collected (history : List Step)

/-- A step of a history. -/
inductive Step : Type 1 where
  | push (pushed : Pushed)
  /-- A success with a value of any type is absorbed. -/
  | absorbValue (α : Type) (value : α)
  /-- A failure is absorbed, where a value of some type was expected. -/
  | absorbError (α : Type) (pushed : Pushed)
  /-- The collection is handed back, and the error of the result starts a new one. -/
  | collapse

end

/-- The collection that the result of a collection starts. -/
def recollect (list : ErrorList) : ErrorList :=
  match list.collapse with
  | .ok _ => .empty
  | .error e => empty.push e

mutual

/-- The error that is pushed. -/
def Pushed.error : Pushed → LintError
  | .single e _ => e
  | .collected history => .multiple (applyAll history .empty).errors

/-- A collection after one more step. -/
def Step.apply : Step → ErrorList → ErrorList
  | .push pushed, list => list.push pushed.error
  | .absorbValue _ value, list => (list.absorb (.ok value)).1
  | .absorbError α pushed, list => (@absorb α list (.error pushed.error)).1
  | .collapse, list => list.recollect

/-- A collection after more steps. -/
def applyAll : List Step → ErrorList → ErrorList
  | [], list => list
  | step :: steps, list => applyAll steps (step.apply list)

end

/-- The collection with a history. -/
def run (history : List Step) : ErrorList := applyAll history .empty

mutual

/-- The single errors among what is pushed. -/
def Pushed.leaves : Pushed → List LintError
  | .single e _ => [e]
  | .collected history => leavesAll history

/-- The single errors that a step pushes. -/
def Step.leaves : Step → List LintError
  | .push pushed | .absorbError _ pushed => pushed.leaves
  | .absorbValue _ _ | .collapse => []

/-- The single errors that some steps push. -/
def leavesAll : List Step → List LintError
  | [] => []
  | step :: steps => step.leaves ++ leavesAll steps

end

theorem leavesAll_eq_flatMap (steps : List Step) : leavesAll steps = steps.flatMap Step.leaves := by
  induction steps with
  | nil => rw [leavesAll, List.flatMap_nil]
  | cons step steps ih => rw [leavesAll, ih, List.flatMap_cons]

/-! ## No collection holds another one -/

/-- A collection of single errors. -/
def IsFlat (list : ErrorList) : Prop := ∀ e ∈ list.errors, e.isSingle = true

theorem isFlat_empty : empty.IsFlat := fun _ he => absurd he List.not_mem_nil

mutual

theorem Pushed.isSingle_of_mem_leaves : ∀ (pushed : Pushed), ∀ e ∈ pushed.leaves, e.isSingle = true
  | .single e h, e', he' => by
    rw [Pushed.leaves, List.mem_singleton] at he'
    rwa [he']
  | .collected history, e', he' => by
    rw [Pushed.leaves] at he'
    exact isSingle_of_mem_leavesAll history e' he'

theorem Step.isSingle_of_mem_leaves : ∀ (step : Step), ∀ e ∈ step.leaves, e.isSingle = true
  | .push pushed, e, he => by
    rw [Step.leaves] at he
    exact pushed.isSingle_of_mem_leaves e he
  | .absorbError α pushed, e, he => by
    rw [Step.leaves] at he
    exact pushed.isSingle_of_mem_leaves e he
  | .absorbValue α value, e, he => by
    rw [Step.leaves] at he
    cases he
  | .collapse, e, he => by
    rw [Step.leaves] at he
    cases he

theorem isSingle_of_mem_leavesAll : ∀ (steps : List Step), ∀ e ∈ leavesAll steps, e.isSingle = true
  | [], e, he => by
    rw [leavesAll] at he
    cases he
  | step :: steps, e, he => by
    rw [leavesAll] at he
    rcases List.mem_append.1 he with he | he
    · exact step.isSingle_of_mem_leaves e he
    · exact isSingle_of_mem_leavesAll steps e he

end

/-- Absorbing the result of a collection of single errors adds them all, however many they are. -/
theorem absorb_collapse (list : ErrorList) {inner : ErrorList} (h : inner.IsFlat) :
    (list.absorb inner.collapse).1 = ⟨list.errors ++ inner.errors⟩ := by
  obtain ⟨errors⟩ := inner
  rcases errors with - | ⟨e, - | ⟨e', rest⟩⟩
  · simp [collapse, absorb]
  · exact push_of_isSingle list (h e List.mem_cons_self)
  · rfl

/-- A collection of single errors starts itself again. -/
theorem recollect_of_isFlat {list : ErrorList} (h : list.IsFlat) : list.recollect = list := by
  obtain ⟨errors⟩ := list
  rcases errors with - | ⟨e, - | ⟨e', rest⟩⟩
  · rfl
  · exact push_of_isSingle empty (h e List.mem_cons_self)
  · rfl

mutual

/-- A push adds the single errors among what is pushed. -/
theorem errors_push : ∀ (pushed : Pushed) (list : ErrorList),
    (list.push pushed.error).errors = list.errors ++ pushed.leaves
  | .single e h, list => by
    rw [Pushed.error, Pushed.leaves, push_of_isSingle list h]
  | .collected history, list => by
    have hinner := errors_applyAll history .empty isFlat_empty
    rw [Pushed.error, Pushed.leaves, push, hinner]
    rfl

/-- A step adds the single errors that it pushes. -/
theorem errors_apply : ∀ (step : Step) (list : ErrorList), list.IsFlat →
    (step.apply list).errors = list.errors ++ step.leaves
  | .push pushed, list, _ => by
    rw [Step.apply, Step.leaves]
    exact errors_push pushed list
  | .absorbError α pushed, list, _ => by
    rw [Step.apply, Step.leaves]
    exact errors_push pushed list
  | .absorbValue α value, list, _ => by
    rw [Step.apply, Step.leaves, List.append_nil]
    rfl
  | .collapse, list, h => by
    rw [Step.apply, Step.leaves, List.append_nil, recollect_of_isFlat h]

/-- So do all steps of a history, one after the other: what a step adds is single, so the collection
stays flat. -/
theorem errors_applyAll : ∀ (steps : List Step) (list : ErrorList), list.IsFlat →
    (applyAll steps list).errors = list.errors ++ leavesAll steps
  | [], list, _ => by
    rw [applyAll, leavesAll, List.append_nil]
  | step :: steps, list, h => by
    have hstep := errors_apply step list h
    have hflat : (step.apply list).IsFlat := by
      intro e he
      rw [hstep] at he
      exact (List.mem_append.1 he).elim (h e) (step.isSingle_of_mem_leaves e)
    rw [applyAll, leavesAll, errors_applyAll steps _ hflat, hstep, List.append_assoc]

end

theorem errors_run (history : List Step) : (run history).errors = history.flatMap Step.leaves := by
  rw [run, errors_applyAll history empty isFlat_empty, leavesAll_eq_flatMap]
  rfl

/-! ## What a collection shows -/

theorem collapse_eq_error_iff {list : ErrorList} {e : LintError} :
    list.collapse = .error e ↔
      list.errors = [e] ∨ 2 ≤ list.errors.length ∧ e = .multiple list.errors := by
  obtain ⟨errors⟩ := list
  rcases errors with - | ⟨e₁, - | ⟨e₂, rest⟩⟩
  · have hok : (ErrorList.mk []).collapse = .ok () := rfl
    simp [hok]
  · have hone : (ErrorList.mk [e₁]).collapse = .error e₁ := rfl
    simp [hone]
  · have hmany : 2 ≤ (e₁ :: e₂ :: rest).length := by simp
    rw [collapse_eq_multiple hmany]
    simp [eq_comm]

theorem entries_cons (e : LintError) (rest : List LintError) :
    LintError.entries (e :: rest) = "\n\t* " ++ e.message ++ LintError.entries rest := rfl

theorem entries_eq_join (errors : List LintError) :
    LintError.entries errors = String.join (errors.map fun e => "\n\t* " ++ e.message) := by
  induction errors with
  | nil => rfl
  | cons e rest ih => rw [entries_cons, ih, List.map_cons, String.join_cons]

/-- A collection is shown by its number and an entry for each error. -/
theorem message_eq (list : ErrorList) : list.message =
    toString list.errors.length ++ " errors occurred:" ++
      String.join (list.errors.map fun e => "\n\t* " ++ e.message) := by
  rw [← entries_eq_join]
  rfl

/-- After every history the collection holds the single errors that were pushed so far and no other
collection, shows their number and each of them, and its result is a success if there are none, the only
error if there is one, and else all of them. -/
theorem run_collects (history : List Step) :
    (∀ inner, .multiple inner ∉ (run history).errors) ∧
      (run history).errors = history.flatMap Step.leaves ∧
      (run history).message = toString (history.flatMap Step.leaves).length ++ " errors occurred:" ++
        String.join ((history.flatMap Step.leaves).map fun e => "\n\t* " ++ e.message) ∧
      ((run history).collapse = .ok () ↔ history.flatMap Step.leaves = []) ∧
      ∀ e, (run history).collapse = .error e ↔ history.flatMap Step.leaves = [e] ∨
        2 ≤ (history.flatMap Step.leaves).length ∧ e = .multiple (history.flatMap Step.leaves) := by
  have herrors := errors_run history
  refine ⟨fun inner hinner => ?_, herrors, ?_, ?_, fun e => ?_⟩
  · rw [herrors, ← leavesAll_eq_flatMap] at hinner
    have hsingle := isSingle_of_mem_leavesAll history _ hinner
    cases hsingle
  · rw [message_eq, herrors]
  · rw [collapse_eq_ok_iff, herrors]
  · rw [collapse_eq_error_iff, herrors]

end ErrorList

end TerraLint
