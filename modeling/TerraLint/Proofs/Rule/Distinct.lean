import TerraLint.Proofs.Rule.Declarations
import TerraLint.Proofs.Rule.Terms
import TerraLint.Rule.Registry

/-!
# What all rules find

In one file, the issues of a rule that stand somewhere are all different and stand in that file.
What stands nowhere comes from three rules only: `Stray` lists it.

* `Rule.orderly`: this holds of every rule.
-/

namespace TerraLint

open Text Hcl

/-- The findings that stand nowhere, by rule. -/
inductive Stray : Rule → Finding → Prop
  /-- A variable is sensitive or not by an expression without a value. -/
  | undecided (file key reason : String) :
    Stray .sensitiveVariableNoDefault (.failure (.evaluation file key reason))
  /-- A reference without a span bears a wrong name. -/
  | misnamed (message : String) : Stray .variableNameConvention (.issue message .null)
  /-- The file with the versions as a whole holds something else. -/
  | versions (message : String) : Stray .versionsFile (.issue message .null)

namespace Rule

/-- The issues of a rule in a file are different where they stand somewhere. -/
structure Orderly (rule : Rule) : Prop where
  placed : ∀ {name text body}, parseBody text = some body → ∃ starts,
    Spread (SourceFile.parse name text).Marks starts
      ((rule.findings (.parse name text) body).filter Finding.isPlaced)
  stray : ∀ {name text body}, parseBody text = some body →
    ∀ f ∈ rule.findings (.parse name text) body, f.isPlaced = false → Stray rule f

variable {rule : Rule}

theorem Orderly.of_spread (h : ∀ {name text body d}, Stack (.ofText text) d body → ∃ starts,
    Spread (SourceFile.parse name text).Marks starts (rule.findings (.parse name text) body)) :
    rule.Orderly := by
  refine ⟨fun hparse => ?_, fun hparse f hf hplaced => ?_⟩
  · obtain ⟨d, hstack⟩ := stack_of_parseBody hparse
    obtain ⟨starts, hspread⟩ := h hstack
    exact ⟨starts, hspread.sublist List.filter_sublist⟩
  · obtain ⟨d, hstack⟩ := stack_of_parseBody hparse
    obtain ⟨starts, hspread⟩ := h hstack
    rw [hspread.isPlaced hf] at hplaced
    cases hplaced

/-- A rule that looks at some blocks of a file one by one. -/
theorem exists_spread_blocks {P : SourceRange → Prop} {text : List Char} {body : Body} {d : Cursor}
    (h : Stack (.ofText text) d body) {bs : List Block} (hbs : bs.Sublist body.blocks)
    {f : Block → List Finding} (hf : ∀ b, Inside (.block b) body → Spread P b.starts (f b)) :
    ∃ starts, Spread P starts (bs.flatMap f) :=
  ⟨_, .blocks h hbs fun b hb => hf b (.here (mem_of_mem_blocks (hbs.subset hb)))⟩

theorem orderly_localsOrder : localsOrder.Orderly :=
  .of_spread fun h => exists_spread_blocks h List.filter_sublist fun _ => spread_checkLocals h

theorem orderly_argumentLayout : argumentLayout.Orderly :=
  .of_spread fun h => exists_spread_blocks h List.filter_sublist fun b hb =>
    spread_misplaced h _ _ b hb _ _

theorem orderly_variableNullableFalse : variableNullableFalse.Orderly :=
  .of_spread fun h => exists_spread_blocks h List.filter_sublist fun _ => spread_checkNullable h

theorem orderly_requiredVersionDeclaration : requiredVersionDeclaration.Orderly :=
  .of_spread fun h => exists_spread_blocks h List.filter_sublist fun _ => spread_checkVersion h

theorem orderly_requiredProvidersDeclaration : requiredProvidersDeclaration.Orderly :=
  .of_spread fun h => exists_spread_blocks h List.filter_sublist fun _ =>
    spread_checkRequiredProviders h

theorem orderly_moduleProviderDeclaration : moduleProviderDeclaration.Orderly := by
  refine .of_spread fun {name text body d} h => ?_
  have hbs : ((Body.blocksOf body "provider").filter fun b => !TerraformBlock.onlyAlias b).Sublist
      (Body.blocks body) := List.filter_sublist.trans List.filter_sublist
  have hspread := exists_spread_blocks h hbs fun b hb =>
    @spread_header name text _ _ b h hb
      "Provider block in terraform module is expected to have and only have `alias` declared"
  rw [← List.map_eq_flatMap] at hspread
  exact hspread

theorem orderly_sensitiveVariableNoDefault : sensitiveVariableNoDefault.Orderly := by
  refine ⟨fun {name text body} hparse => ?_, fun {name text body} _ f hf hplaced => ?_⟩
  · obtain ⟨d, h⟩ := stack_of_parseBody hparse
    unfold sensitiveVariableNoDefault
    dsimp only
    rw [List.filter_flatMap]
    exact exists_spread_blocks h List.filter_sublist fun _ => spread_checkSensitive h
  · obtain ⟨b, -, hf⟩ := List.mem_flatMap.1 hf
    cases f with
    | issue m r =>
      -- An issue stands at a key.
      obtain ⟨a, rfl⟩ : ∃ a, r = (SourceFile.parse name text).keyRange a := by
        unfold checkSensitive at hf
        grind
      have hline := SourceFile.line_range_pos name text a.keySpan.start a.keySpan.stop
      have hnull : (SourceFile.parse name text).keyRange a = .null := by
        simpa [Finding.isPlaced] using hplaced
      rw [SourceFile.keyRange, SourceFile.rangeOf] at hnull
      rw [hnull] at hline
      cases hline
    | failure e =>
      obtain ⟨a, he⟩ : ∃ a, (SourceFile.parse name text).evaluate a = .error e := by
        unfold checkSensitive at hf
        grind
      unfold SourceFile.evaluate at he
      split at he
      · cases he
      · obtain rfl := Except.error.inj he
        exact .undecided _ _ _

theorem orderly_versionsFile : versionsFile.Orderly := by
  refine ⟨fun {name text body} _ => ⟨[], ?_⟩, fun {name text body} _ f hf _ => ?_⟩
  · unfold versionsFile
    dsimp only
    split
    · exact .nil
    · exact .nil
  · unfold versionsFile at hf
    dsimp only at hf
    split at hf
    · cases hf
    · obtain rfl := List.mem_singleton.1 hf
      exact .versions _

theorem orderly_variableNameConvention : variableNameConvention.Orderly := by
  refine ⟨fun {name text body} hparse => ?_, fun {name text body} _ f hf hplaced => ?_⟩
  · obtain ⟨d, h⟩ := stack_of_parseBody hparse
    obtain ⟨starts, hspread⟩ := @exists_spread_references name text d body h
    exact ⟨starts, hspread.imp fun _ hword => ⟨_, hword⟩⟩
  · obtain ⟨a, -, hf⟩ := List.mem_flatMap.1 hf
    obtain ⟨m, r, rfl⟩ : ∃ m r, f = .issue m r := by
      unfold VariableName.checkAttribute VariableName.checkExpr VariableName.checkReference at hf
      grind
    have hnull : r = .null := by simpa [Finding.isPlaced] using hplaced
    rw [hnull]
    exact .misnamed m

/-- The issues of every rule in a file are different where they stand somewhere. -/
theorem orderly (hrule : rule ∈ all) : rule.Orderly := by
  simp only [all, List.mem_cons, List.not_mem_nil, or_false] at hrule
  rcases hrule with rfl | rfl | rfl | rfl | rfl | rfl | rfl | rfl | rfl | rfl | rfl | rfl | rfl |
    rfl | rfl
  · exact .of_spread fun h => exists_spread_checkBlocks h _ _ _
  · exact .of_spread fun h => exists_spread_checkSeparate h _ _
  · exact .of_spread fun h => exists_spread_checkBlocks h _ _ _
  · exact .of_spread fun h => exists_spread_checkSeparate h _ _
  · exact orderly_localsOrder
  · exact orderly_argumentLayout
  · exact .of_spread exists_spread_countIndexes
  · exact .of_spread fun h => ⟨_, (spread_heredocs h).imp fun _ => SourceFile.MarksHeredoc.marks⟩
  · exact orderly_sensitiveVariableNoDefault
  · exact orderly_variableNullableFalse
  · exact orderly_versionsFile
  · exact orderly_requiredVersionDeclaration
  · exact orderly_requiredProvidersDeclaration
  · exact orderly_moduleProviderDeclaration
  · exact orderly_variableNameConvention

end Rule

end TerraLint
