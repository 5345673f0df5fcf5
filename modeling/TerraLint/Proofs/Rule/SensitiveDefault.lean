import TerraLint.Proofs.Session.Outcome

/-!
# Default values of sensitive variables

Each variable with a default value is decided by itself: it is an issue if it is sensitive, and an
error if that has no value. So the issues and the errors of a module are those of its variables, one
after the other, and one variable never hides, repeats or changes what is found in another.

* `Hcl.Block.Presets`: the default value of a variable, unless it is there in name only.
* `Session.SensitiveOutcome`: the issue and the error of one variable.
* `Session.sensitive_defaults`: the issues and errors of a module, variable by variable.
-/

namespace TerraLint

open Hcl

/-- An attribute is the default value of a variable, and neither `null` nor an empty collection. -/
structure Hcl.Block.Presets (b : Block) (preset : Attribute) : Prop where
  mem : preset ∈ b.attributes
  key : preset.key = "default"
  ne_null : preset.value.form ≠ .null
  ne_array : ∀ closing, preset.value.form ≠ .array [] closing
  ne_object : ∀ gap, preset.value.form ≠ .object [] gap

theorem isEmptyDefault_eq_false_iff {e : Expr} : isEmptyDefault e = false ↔
    e.form ≠ .null ∧ (∀ closing, e.form ≠ .array [] closing) ∧ ∀ gap, e.form ≠ .object [] gap := by
  unfold isEmptyDefault
  split
  · rename_i h
    simp [h]
  · rename_i closing h
    simp [h]
  · rename_i gap h
    simp [h]
  · rename_i hnull harray hobject
    exact iff_of_true rfl ⟨hnull, harray, hobject⟩

theorem Hcl.Block.presets_iff {b : Block} (hb : Formed (.block b)) {preset : Attribute} :
    b.Presets preset ↔
      b.attribute? "default" = some preset ∧ isEmptyDefault preset.value = false := by
  rw [attribute?_eq_some_iff hb, isEmptyDefault_eq_false_iff]
  constructor
  · exact fun h => ⟨⟨h.mem, h.key⟩, h.ne_null, h.ne_array, h.ne_object⟩
  · rintro ⟨⟨hmem, hkey⟩, hnull, harray, hobject⟩
    exact ⟨hmem, hkey, hnull, harray, hobject⟩

theorem Hcl.Value.isTrue_iff {v : Value} : v.isTrue = true ↔ v = .bool true := by
  cases v <;> simp [isTrue]

theorem SourceFile.eq_evaluation_of_evaluate {file : SourceFile} {a : Attribute} {e : LintError}
    (h : file.evaluate a = .error e) : ∃ reason, e = .evaluation file.name a.key reason := by
  unfold evaluate at h
  split at h
  · cases h
  · exact ⟨_, (Except.error.inj h).symm⟩

/-- The attribute that says whether a variable is sensitive. -/
structure Hcl.Block.Marks (b : Block) (sensitive : Attribute) : Prop where
  mem : sensitive ∈ b.attributes
  key : sensitive.key = "sensitive"

theorem Hcl.Block.marks_iff {b : Block} (hb : Formed (.block b)) {sensitive : Attribute} :
    b.Marks sensitive ↔ b.attribute? "sensitive" = some sensitive := by
  rw [attribute?_eq_some_iff hb]
  exact ⟨fun h => ⟨h.mem, h.key⟩, fun h => ⟨h.1, h.2⟩⟩

/-- What is found in a variable with a default value is decided by its sensitivity. -/
inductive Decided (file : SourceFile) (b : Block) : List Finding → Prop
  | reported {preset sensitive : Attribute} (hpreset : b.Presets preset)
      (hsensitive : b.Marks sensitive) (hvalue : file.evaluate sensitive = .ok (.bool true)) :
      Decided file b [.issue ("Default value is not expected to be set for sensitive variable `" ++
        b.firstLabel ++ "`") (file.keyRange preset)]
  | undecided {preset sensitive : Attribute} {e : LintError} (hpreset : b.Presets preset)
      (hsensitive : b.Marks sensitive) (hvalue : file.evaluate sensitive = .error e) :
      Decided file b [.failure e]
  | passed (h : ∀ preset sensitive, b.Presets preset → b.Marks sensitive →
      ∃ v, file.evaluate sensitive = .ok v ∧ v ≠ .bool true) : Decided file b []

theorem decided_checkSensitive {b : Block} (hb : Formed (.block b)) (file : SourceFile) :
    Decided file b (checkSensitive file b) := by
  unfold checkSensitive
  split
  · rename_i preset sensitive hpreset hsensitive
    split
    · rename_i hempty
      refine .passed fun preset' sensitive' hpreset' _ => ?_
      obtain ⟨hfound, hfilled⟩ := (Block.presets_iff hb).1 hpreset'
      obtain rfl := Option.some.inj (hpreset.symm.trans hfound)
      exact absurd hempty (Bool.eq_false_iff.1 hfilled)
    · rename_i hfilled
      have hpresets := (Block.presets_iff hb).2 ⟨hpreset, Bool.eq_false_iff.2 hfilled⟩
      have hmarks := (Block.marks_iff hb).2 hsensitive
      split
      · rename_i e hvalue
        exact .undecided hpresets hmarks hvalue
      · rename_i v hvalue
        split
        · rename_i htrue
          exact .reported hpresets hmarks (Value.isTrue_iff.1 htrue ▸ hvalue)
        · rename_i hother
          refine .passed fun _ sensitive' _ hmarks' => ⟨v, ?_, mt Value.isTrue_iff.2 hother⟩
          obtain rfl := Option.some.inj (hsensitive.symm.trans ((Block.marks_iff hb).1 hmarks'))
          exact hvalue
  · rename_i hnone
    refine .passed fun preset sensitive hpresets hmarks => ?_
    exact (hnone preset sensitive ((Block.presets_iff hb).1 hpresets).1
      ((Block.marks_iff hb).1 hmarks)).elim

/-- The value of an attribute is that of its key and its own text. -/
theorem SourceFile.evaluate_congr {file file' : SourceFile} {a a' : Attribute}
    (hname : file.name = file'.name) (hkey : a.key = a'.key)
    (htext : file.textOf a.span = file'.textOf a'.span) : file.evaluate a = file'.evaluate a' := by
  simp only [evaluate, value?, hname, hkey, htext]

namespace Session

/-- The issue of a variable with a default value. -/
def sensitiveIssue (file : SourceFile) (b : Block) (preset : Attribute) : Issue :=
  ⟨"terraform_sensitive_variable_no_default", .warning,
    "Default value is not expected to be set for sensitive variable `" ++ b.firstLabel ++ "`",
    file.keyRange preset⟩

/-- The issue and the error of a variable: with a default value that is not there in name only, an
issue if its sensitivity is the value `true`, and an error if its sensitivity has no value. -/
structure SensitiveOutcome (file : SourceFile) (b : Block) (o : Option Issue × Option LintError) :
    Prop where
  issue : ∀ i, o.1 = some i ↔ ∃ preset sensitive, b.Presets preset ∧ b.Marks sensitive ∧
    file.evaluate sensitive = .ok (.bool true) ∧ i = sensitiveIssue file b preset
  error : ∀ e, o.2 = some e ↔ ∃ preset sensitive, b.Presets preset ∧ b.Marks sensitive ∧
    file.evaluate sensitive = .error e
  evaluation : ∀ e, o.2 = some e → ∃ reason, e = .evaluation file.name "sensitive" reason

/-- Two variables declare the same: they stand in files of one name and have one name themselves,
both or neither have a default value, and the texts that say whether they are sensitive are equal. -/
structure SameVariable (p q : SourceFile × Block) : Prop where
  file : p.1.name = q.1.name
  label : p.2.firstLabel = q.2.firstLabel
  preset : (∃ a, p.2.Presets a) ↔ ∃ a, q.2.Presets a
  sensitive : (p.2.attribute? "sensitive").map (fun a => p.1.textOf a.span) =
    (q.2.attribute? "sensitive").map fun a => q.1.textOf a.span

/-- The issue and the error among what is found in a variable. -/
def outcomeOf (fs : List Finding) : Option Issue × Option LintError :=
  ((Rule.sensitiveVariableNoDefault.issues fs).head?, (failures fs).head?)

variable {file : SourceFile} {b : Block} {fs : List Finding}

/-- At most one thing is found in a variable. -/
theorem toList_outcomeOf (h : Decided file b fs) :
    (outcomeOf fs).1.toList = Rule.sensitiveVariableNoDefault.issues fs ∧
      (outcomeOf fs).2.toList = failures fs := by
  cases h <;> exact ⟨rfl, rfl⟩

theorem sensitiveOutcome_outcomeOf (hb : Formed (.block b)) (h : Decided file b fs) :
    SensitiveOutcome file b (outcomeOf fs) := by
  have hpresets : ∀ {a a'}, b.Presets a → b.Presets a' → a = a' := fun h h' =>
    Option.some.inj (((Block.presets_iff hb).1 h).1.symm.trans ((Block.presets_iff hb).1 h').1)
  have hmarks : ∀ {a a'}, b.Marks a → b.Marks a' → a = a' := fun h h' =>
    Option.some.inj (((Block.marks_iff hb).1 h).symm.trans ((Block.marks_iff hb).1 h'))
  cases h with
  | @reported preset sensitive hpreset hsensitive hvalue =>
    refine ⟨fun i => ⟨fun hi => ?_, ?_⟩, fun e => ⟨fun he => (nomatch he), ?_⟩,
      fun e he => (nomatch he)⟩
    · exact ⟨preset, sensitive, hpreset, hsensitive, hvalue, (Option.some.inj hi).symm⟩
    · rintro ⟨preset', -, hpreset', -, -, rfl⟩
      rw [← hpresets hpreset hpreset']
      rfl
    · rintro ⟨-, sensitive', -, hsensitive', hvalue'⟩
      rw [← hmarks hsensitive hsensitive', hvalue] at hvalue'
      cases hvalue'
  | @undecided preset sensitive e hpreset hsensitive hvalue =>
    refine ⟨fun i => ⟨fun hi => (nomatch hi), ?_⟩, fun e' => ⟨fun he => ?_, ?_⟩, fun e' he => ?_⟩
    · rintro ⟨-, sensitive', -, hsensitive', hvalue', -⟩
      rw [← hmarks hsensitive hsensitive', hvalue] at hvalue'
      cases hvalue'
    · exact ⟨preset, sensitive, hpreset, hsensitive, Option.some.inj he ▸ hvalue⟩
    · rintro ⟨-, sensitive', -, hsensitive', hvalue'⟩
      rw [← hmarks hsensitive hsensitive', hvalue] at hvalue'
      exact congrArg some (Except.error.inj hvalue')
    · obtain ⟨reason, rfl⟩ := SourceFile.eq_evaluation_of_evaluate hvalue
      exact ⟨reason, hsensitive.key ▸ (Option.some.inj he).symm⟩
  | passed h =>
    refine ⟨fun i => ⟨fun hi => (nomatch hi), ?_⟩, fun e => ⟨fun he => (nomatch he), ?_⟩,
      fun e he => (nomatch he)⟩
    · rintro ⟨preset, sensitive, hpreset, hsensitive, hvalue, -⟩
      obtain ⟨v, hvalue', hne⟩ := h preset sensitive hpreset hsensitive
      exact absurd (Except.ok.inj (hvalue'.symm.trans hvalue)) hne
    · rintro ⟨preset, sensitive, hpreset, hsensitive, hvalue⟩
      obtain ⟨v, hvalue', -⟩ := h preset sensitive hpreset hsensitive
      cases hvalue'.symm.trans hvalue

/-! ## One variable by itself -/

namespace SameVariable

variable {p q : SourceFile × Block} {o o' : Option Issue × Option LintError}

theorem symm (h : SameVariable p q) : SameVariable q p :=
  ⟨h.file.symm, h.label.symm, h.preset.symm, h.sensitive.symm⟩

theorem exists_marks (h : SameVariable p q) (hp : Formed (.block p.2)) (hq : Formed (.block q.2))
    {preset sensitive : Attribute} (hpreset : p.2.Presets preset) (hmarks : p.2.Marks sensitive) :
    ∃ preset' sensitive', q.2.Presets preset' ∧ q.2.Marks sensitive' ∧
      p.1.evaluate sensitive = q.1.evaluate sensitive' := by
  obtain ⟨preset', hpreset'⟩ := h.preset.1 ⟨preset, hpreset⟩
  have htext := h.sensitive
  rw [(Block.marks_iff hp).1 hmarks, Option.map_some] at htext
  obtain ⟨sensitive', hfound, htext⟩ := Option.map_eq_some_iff.1 htext.symm
  have hmarks' := (Block.marks_iff hq).2 hfound
  exact ⟨preset', sensitive', hpreset', hmarks', SourceFile.evaluate_congr h.file
    (hmarks.key.trans hmarks'.key.symm) htext.symm⟩

theorem message_mem (h : SameVariable p q) (hp : Formed (.block p.2)) (hq : Formed (.block q.2))
    (ho : SensitiveOutcome p.1 p.2 o) (ho' : SensitiveOutcome q.1 q.2 o') {m : String}
    (hm : o.1.map Issue.message = some m) : o'.1.map Issue.message = some m := by
  obtain ⟨i, hi, rfl⟩ := Option.map_eq_some_iff.1 hm
  obtain ⟨preset, sensitive, hpreset, hmarks, hvalue, rfl⟩ := (ho.issue i).1 hi
  obtain ⟨preset', sensitive', hpreset', hmarks', heq⟩ := h.exists_marks hp hq hpreset hmarks
  have hissue := (ho'.issue _).2 ⟨preset', sensitive', hpreset', hmarks', heq ▸ hvalue, rfl⟩
  refine Option.map_eq_some_iff.2 ⟨_, hissue, ?_⟩
  rw [sensitiveIssue, sensitiveIssue, h.label]

theorem error_mem (h : SameVariable p q) (hp : Formed (.block p.2)) (hq : Formed (.block q.2))
    (ho : SensitiveOutcome p.1 p.2 o) (ho' : SensitiveOutcome q.1 q.2 o') {e : LintError}
    (he : o.2 = some e) : o'.2 = some e := by
  obtain ⟨preset, sensitive, hpreset, hmarks, hvalue⟩ := (ho.error e).1 he
  obtain ⟨preset', sensitive', hpreset', hmarks', heq⟩ := h.exists_marks hp hq hpreset hmarks
  exact (ho'.error e).2 ⟨preset', sensitive', hpreset', hmarks', heq ▸ hvalue⟩

/-- Variables that declare the same have the same message or error. -/
theorem outcome_eq (h : SameVariable p q) (hp : Formed (.block p.2)) (hq : Formed (.block q.2))
    (ho : SensitiveOutcome p.1 p.2 o) (ho' : SensitiveOutcome q.1 q.2 o') :
    o.1.map Issue.message = o'.1.map Issue.message ∧ o.2 = o'.2 :=
  ⟨Option.ext fun _ => ⟨h.message_mem hp hq ho ho', h.symm.message_mem hq hp ho' ho⟩,
    Option.ext fun _ => ⟨h.error_mem hp hq ho ho', h.symm.error_mem hq hp ho' ho⟩⟩

end SameVariable

/-! ## All variables of a module -/

variable {files : List (String × String)}

theorem formed_of_mem_declared {rule : Rule} {filter : IgnoreFilter} {kind : String}
    {p : SourceFile × Block} (h : p ∈ (start files).declared rule filter kind) :
    Formed (.block p.2) := by
  obtain ⟨name, text, body, -, hbody, hb⟩ := exists_of_mem_declared h
  exact formed_of_mem_blocksOf hbody hb

/-- In a module of files with different names the issues and the errors are those of the variables,
one after the other and in source order. A variable has the message or the error that one with the
same declaration has in any other module. -/
theorem sensitive_defaults (hnames : (files.map (·.1)).Nodup) (filter : IgnoreFilter) :
    (∃ outcomes : List (Option Issue × Option LintError),
      List.Forall₂ (fun p => SensitiveOutcome p.1 p.2)
        ((start files).declared .sensitiveVariableNoDefault filter "variable") outcomes ∧
      ((start files).check .sensitiveVariableNoDefault filter).1.issues =
        outcomes.filterMap Prod.fst ∧
      errorLeaves ((start files).check .sensitiveVariableNoDefault filter).2 =
        outcomes.filterMap Prod.snd) ∧
    ((start files).declared .sensitiveVariableNoDefault filter "variable").Pairwise
      (fun p q => p.1 = q.1 → p.2.span.start < q.2.span.start) ∧
    ∀ files' filter', ∀ p ∈ (start files).declared .sensitiveVariableNoDefault filter "variable",
      ∀ q ∈ (start files').declared .sensitiveVariableNoDefault filter' "variable",
      SameVariable p q → ∀ o o', SensitiveOutcome p.1 p.2 o → SensitiveOutcome q.1 q.2 o' →
      o.1.map Issue.message = o'.1.map Issue.message ∧ o.2 = o'.2 := by
  refine ⟨?_, pairwise_declared hnames _ _ _, fun files' filter' p hp q hq hsame o o' =>
    hsame.outcome_eq (formed_of_mem_declared hp) (formed_of_mem_declared hq)⟩
  have hrule : Rule.sensitiveVariableNoDefault ∈ Rule.all := by simp [Rule.all]
  obtain ⟨hissues, -, hleaves⟩ := @check_outcome files _ filter hnames hrule (by decide)
  have hfindings := @findings_eq_declared .sensitiveVariableNoDefault filter (start files) "variable"
    checkSensitive fun _ _ => rfl
  rw [hfindings] at hissues hleaves
  have hdecided : ∀ p ∈ (start files).declared .sensitiveVariableNoDefault filter "variable",
      Decided p.1 p.2 (checkSensitive p.1 p.2) := fun p hp =>
    decided_checkSensitive (formed_of_mem_declared hp) p.1
  refine ⟨((start files).declared .sensitiveVariableNoDefault filter "variable").map
    (fun p => outcomeOf (checkSensitive p.1 p.2)), ?_, ?_, ?_⟩
  · rw [List.forall₂_map_right_iff, List.forall₂_same]
    exact fun p hp => sensitiveOutcome_outcomeOf (formed_of_mem_declared hp) (hdecided p hp)
  · rw [hissues, List.filterMap_map, List.filterMap_eq_flatMap_toList, Rule.issues,
      List.filterMap_flatMap]
    exact List.flatMap_congr fun p hp => (toList_outcomeOf (hdecided p hp)).1.symm
  · rw [hleaves, List.filterMap_map, List.filterMap_eq_flatMap_toList, failures,
      List.filterMap_flatMap]
    exact List.flatMap_congr fun p hp => (toList_outcomeOf (hdecided p hp)).2.symm

/-- A sensitive variable, one whose sensitivity has no value, and one with an empty default value. -/
def threeVariables : String :=
  "variable \"a\" \x7b\n  default = 1\n  sensitive = true\n\x7d\n" ++
    "variable \"b\" \x7b\n  default = 1\n  sensitive = var.c\n\x7d\n" ++
    "variable \"c\" \x7b\n  default = []\n  sensitive = true\n\x7d\n"

/-- The error of the second variable stands beside the issue of the first one. -/
theorem sensitive_defaults_three : ∃ outcomes : List (Option Issue × Option LintError),
    List.Forall₂ (fun p => SensitiveOutcome p.1 p.2)
      ((start [("main.tf", threeVariables)]).declared .sensitiveVariableNoDefault .empty "variable")
      outcomes ∧
    outcomes.length = 3 ∧
    (outcomes.filterMap Prod.fst).map Issue.message =
      ["Default value is not expected to be set for sensitive variable `a`"] ∧
    (outcomes.filterMap Prod.snd).length = 1 := by
  obtain ⟨⟨outcomes, houtcomes, hissues, hleaves⟩, -, -⟩ :=
    @sensitive_defaults [("main.tf", threeVariables)] (by decide) .empty
  refine ⟨outcomes, houtcomes, ?_, ?_, ?_⟩
  · rw [← houtcomes.length_eq]
    decide +kernel
  · rw [← hissues]
    decide +kernel
  · rw [← hleaves]
    decide +kernel

end Session

end TerraLint
