import TerraLint.Proofs.Session.Rejection

/-!
# Where the issues of a module point

Every issue points at a text in its own file, but for those at the null range: the issues about the
file with the versions as a whole, and those about variables whose expressions carry no span.

* `SourceFile.PointsAt`: a range that points at a text.
* `SourceFile.Shows.pointsAt`: the ranges of what was read do.
* `Session.issue_points`: where the issues of all rules point.
-/

namespace TerraLint

open Text Hcl

namespace SourceFile

/-- An offset lies between two characters of a file. -/
def IsBoundary (file : SourceFile) (byte : Nat) : Prop :=
  ∃ before after, file.text = before ++ after ∧ byteLength before = byte

/-- A range points at a text in a file that is not empty and has no blanks at its ends. -/
structure PointsAt (file : SourceFile) (range : SourceRange) : Prop where
  file_eq : range.file = file.name
  start_eq : range.start = file.pos range.start.byte
  stop_eq : range.stop = file.pos range.stop.byte
  lt : range.start.byte < range.stop.byte
  le : range.stop.byte ≤ byteLength file.text
  start_boundary : file.IsBoundary range.start.byte
  stop_boundary : file.IsBoundary range.stop.byte
  upright : Upright (file.slice range)

namespace Shows

variable {name : String} {text mid : List Char} {range : SourceRange}

theorem slice_eq (h : (parse name text).Shows range mid) : (parse name text).slice range = mid := by
  obtain ⟨hupright, before, after, htext, rfl⟩ := h
  obtain rfl : text = before ++ mid ++ after := htext
  have hpart := @rangeOf_part name before mid after hupright
  have hslice := @slice_rangeOf name before mid after hupright
  rw [hpart] at hslice
  exact hslice

theorem pointsAt (h : (parse name text).Shows range mid) : (parse name text).PointsAt range := by
  have hslice := h.slice_eq
  obtain ⟨hupright, before, after, htext, rfl⟩ := h
  obtain rfl : text = before ++ mid ++ after := htext
  obtain ⟨hstart, hstop⟩ := byte_part name before mid after
  have hpos : 0 < byteLength mid := by
    obtain ⟨c, more, rfl⟩ := List.exists_cons_of_ne_nil hupright.ne_nil
    rw [byteLength_cons]
    exact Nat.add_pos_left c.utf8Size_pos _
  exact {
    file_eq := rfl
    start_eq := congrArg (parse name (before ++ mid ++ after)).pos hstart.symm
    stop_eq := congrArg (parse name (before ++ mid ++ after)).pos hstop.symm
    lt := by
      dsimp only
      rw [hstart, hstop, byteLength_append]
      omega
    le := by
      dsimp only [parse]
      dsimp only [parse] at hstop
      rw [hstop, byteLength_append _ after]
      omega
    start_boundary := ⟨before, mid ++ after, List.append_assoc _ _ _, hstart.symm⟩
    stop_boundary := ⟨before ++ mid, after, rfl, hstop.symm⟩
    upright := by
      rw [hslice]
      exact hupright }

/-- A text without a line feed stands on one line. -/
theorem line_eq (h : (parse name text).Shows range mid) (hmid : '\n' ∉ mid) :
    range.start.line = range.stop.line := by
  obtain ⟨-, before, after, htext, rfl⟩ := h
  obtain rfl : text = before ++ mid ++ after := htext
  obtain ⟨hstart, hstop⟩ := line_part name before mid after
  rw [List.count_append, List.count_eq_zero.2 hmid] at hstop
  exact hstart.trans hstop.symm

end Shows

end SourceFile

/-! ## References without a span -/

namespace VariableName

theorem preorder_assigned_subset {e x : Expr} (hx : x ∈ assigned e) : x.preorder ⊆ e.preorder := by
  intro y hy
  unfold assigned at hx
  split at hx
  · rename_i cond yes no hform
    refine Expr.mem_preorder_of_child ?_ hy
    rw [Expr.children, hform]
    exact List.mem_cons_of_mem _ hx
  · obtain rfl := List.mem_singleton.1 hx
    exact hy
  · cases hx

/-- A reference to a variable is reported at the null range just when its first word has no span. -/
theorem span_eq_none_of_null {name : String} {text : List Char} {body : Body} {m : String}
    (h : .issue m .null ∈ Rule.variableNameConvention.findings (.parse name text) body) :
    ∃ a ∈ body.allAttributes, ∃ x ∈ a.value.preorder, x.form = .variable "var" ∧ x.span = none := by
  obtain ⟨a, ha, h⟩ := List.mem_flatMap.1 h
  have hall := (visited_blocks_sublist body isResource).subset ha
  unfold checkAttribute at h
  split at h
  · cases h
  obtain ⟨e, he, h⟩ := List.mem_flatMap.1 h
  unfold checkExpr at h
  split at h
  · rename_i r hr
    split at h
    · rename_i hvar
      have hmem : r ∈ e.references := by
        rw [hr]
        exact List.mem_singleton.2 rfl
      obtain ⟨hroot, hform⟩ := Expr.mem_references hmem
      refine ⟨a, hall, r.root, preorder_assigned_subset he hroot, hvar ▸ hform, ?_⟩
      have hrange : (SourceFile.parse name text).exprRange r.root = .null := by
        unfold checkReference at h
        grind
      cases hspan : r.root.span with
      | none => rfl
      | some span =>
        have hline := SourceFile.line_range_pos name text span.start span.stop
        unfold SourceFile.exprRange at hrange
        rw [hspan] at hrange
        have hnull : (SourceFile.parse name text).range span.start span.stop = .null := hrange
        rw [hnull] at hline
        cases hline
    · cases h
  · cases h

end VariableName

namespace Session

variable {rule : Rule}

/-- Where the issue of a rule points, if it stands somewhere. -/
theorem marks_of_placed (hrule : rule ∈ Rule.all) {name : String} {text : List Char} {body : Body}
    (hbody : parseBody text = some body) {m : String} {range : SourceRange}
    (h : .issue m range ∈ rule.findings (.parse name text) body) (hnull : range ≠ .null) :
    (SourceFile.parse name text).Marks range ∧
      (rule = .heredocUsage → (SourceFile.parse name text).MarksHeredoc range) ∧
      (rule = .variableNameConvention → (SourceFile.parse name text).MarksVar range) := by
  have hplaced : (Finding.issue m range).isPlaced = true := bne_iff_ne.2 hnull
  have hmem := List.mem_filter.2 ⟨h, hplaced⟩
  have hkind : ∀ {P : SourceRange → Prop} {starts : List Nat} {fs : List Finding},
      Spread P starts fs → .issue m range ∈ fs → P range := by
    intro P starts fs hspread hf
    obtain ⟨m', r', heq, hP, -⟩ := hspread.within _ hf
    obtain ⟨-, rfl⟩ := Finding.issue.inj heq
    exact hP
  obtain ⟨d, hstack⟩ := stack_of_parseBody hbody
  refine ⟨?_, ?_, ?_⟩
  · obtain ⟨starts, hspread⟩ := @Rule.Orderly.placed _ (Rule.orderly hrule) name text body hbody
    exact hkind hspread hmem
  · rintro rfl
    exact hkind (spread_heredocs hstack) h
  · rintro rfl
    obtain ⟨starts, hspread⟩ := @exists_spread_references name text d body hstack
    exact hkind hspread hmem

/-- Every issue of a rule in a file of a module points at a text of that file: for heredocs at their
first line, and for names of variables at the word that refers to a variable. Otherwise it stands at
the null range, and is about the file with the versions or about a variable without a span. -/
theorem issue_points (hrule : rule ∈ Rule.all) (files : List (String × String))
    (filter : IgnoreFilter) {file : SourceFile} (hfile : file ∈ (start files).files) {m : String}
    {range : SourceRange} (h : .issue m range ∈ findingsIn rule filter file) :
    (file.PointsAt range ∧
      (rule = .heredocUsage →
        range.start.line = range.stop.line ∧ ['<', '<'] <+: file.slice range) ∧
      (rule = .variableNameConvention → file.slice range = "var".toList)) ∨
    (range = .null ∧ (rule = .versionsFile ∨
      rule = .variableNameConvention ∧ ∃ body ∈ file.body?, ∃ a ∈ body.allAttributes,
        ∃ x ∈ a.value.preorder, x.form = .variable "var" ∧ x.span = none)) := by
  obtain ⟨⟨name, text⟩, -, rfl⟩ := List.mem_map.1 hfile
  dsimp only at h ⊢
  unfold findingsIn at h
  split at h
  · cases h
  split at h
  · rename_i body hbody
    by_cases hnull : range = .null
    · right
      subst hnull
      refine ⟨rfl, ?_⟩
      have hstray : Stray rule (.issue m .null) := (Rule.orderly hrule).stray hbody _ h rfl
      cases hstray with
      | misnamed => exact .inr ⟨rfl, body, hbody, VariableName.span_eq_none_of_null h⟩
      | versions => exact .inl rfl
    · left
      obtain ⟨⟨mid, hshows⟩, hdoc, hvar⟩ := marks_of_placed hrule hbody h hnull
      refine ⟨hshows.pointsAt, fun hrule => ?_, fun hrule => (hvar hrule).slice_eq⟩
      obtain ⟨line, hline, hfeed, hsign⟩ := hdoc hrule
      exact ⟨hline.line_eq hfeed, hline.slice_eq ▸ hsign⟩
  · cases h

/-- A heredoc with a value of JSON, and a variable behind a prefix operator. -/
theorem issue_points_mixed :
    (∃ m range, range ≠ .null ∧ .issue m range ∈ findingsIn .heredocUsage .empty
        (.parse "main.tf" "a = <<E\n  [1]\nE\n".toList) ∧
      ['<', '<'] <+: (SourceFile.parse "main.tf" "a = <<E\n  [1]\nE\n".toList).slice range) ∧
    ∃ m, .issue m .null ∈ findingsIn .variableNameConvention .empty
      (.parse "main.tf" "resource \"a\" \"b\" \x7b\n  enabled = !var.on\n\x7d\n".toList) := by
  have hrule : Rule.heredocUsage ∈ Rule.all := by simp [Rule.all]
  constructor
  · have hplaced : (findingsIn .heredocUsage .empty
        (.parse "main.tf" "a = <<E\n  [1]\nE\n".toList)).any Finding.isPlaced = true := by
      decide +kernel
    obtain ⟨f, hmem, hf⟩ := List.any_eq_true.1 hplaced
    cases f with
    | failure e => cases hf
    | issue m range =>
      have hnull : range ≠ .null := bne_iff_ne.1 hf
      have hfile : SourceFile.parse "main.tf" "a = <<E\n  [1]\nE\n".toList ∈
          (start [("main.tf", "a = <<E\n  [1]\nE\n")]).files := List.mem_singleton.2 rfl
      rcases issue_points hrule _ .empty hfile hmem with ⟨-, hdoc, -⟩ | ⟨hnull', -⟩
      · exact ⟨m, range, hnull, hmem, (hdoc rfl).2⟩
      · exact absurd hnull' hnull
  · have hunplaced : (unplaced (findingsIn .variableNameConvention .empty
        (.parse "main.tf" "resource \"a\" \"b\" \x7b\n  enabled = !var.on\n\x7d\n".toList))).isEmpty =
          false := by
      decide +kernel
    obtain ⟨m, hmem⟩ := List.exists_mem_of_ne_nil _ (by simpa using hunplaced)
    exact ⟨m, mem_unplaced.1 hmem⟩

end Session

end TerraLint
