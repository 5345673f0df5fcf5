import TerraLint.Proofs.Hcl.Advance
import TerraLint.Proofs.Hcl.Grammar

/-!
# Phrases move forward

A phrase that is derived stands in the text: its second cursor comes after the first one. Most phrases
end with a token, so that no blank is left behind.

* `Phrase.Moves`: how far a phrase gets.
* `Derives.moves`: every derivation gets so far.
-/

namespace TerraLint.Hcl

open Text

namespace Closer

variable {closer : Closer} {c d : Cursor} {text : String}

theorem literalRun_iff : closer.literalRun c = .ok (text, d) ↔ closer.Runs [] c text d := by
  rw [← run_iff]
  cases closer with
  | quote => exact lift_eq_ok
  | terminator id =>
    dsimp only [literalRun, run]
    cases Cursor.heredocRun id [] c.byte c.rest <;> simp
  | endOfText => simp [literalRun, run]

/-- A run of literal text gets ahead, unless it would have to end where it starts. -/
theorem literalRun_moves (hne : startsSequence c.rest = false)
    (hend : closer.comesNext c.rest = false) (h : closer.literalRun c = .ok (text, d)) :
    Reaches c d ∧ d.rest.length < c.rest.length := by
  have hrun := literalRun_iff.1 h
  refine ⟨hrun.reaches, ?_⟩
  cases hrun with
  | stop hends =>
    cases hends with
    | sequence hseq => exact absurd hseq (Bool.eq_false_iff.1 hne)
    | closing hclose => exact absurd hclose (Bool.eq_false_iff.1 hend)
    | unknown => exact Nat.lt_succ_of_lt (Nat.lt_succ_self _)
  | take htakes hmore =>
    have hle := hmore.reaches.length_le
    have hpos := List.length_pos_iff.2 htakes.ne_nil.1
    dsimp only at hle
    rw [List.length_append]
    omega

end Closer

/-- How far a phrase gets. -/
def Phrase.Moves : Phrase → Cursor → Cursor → Prop
  | .operations _, c, d => d = c ∨ Closes c d
  | .heredocBody id, c, d => Solid id → Closes c d
  | .entry, c, d => Reaches c d ∧ d.rest.length < c.rest.length
  | .parts _, c, d | .directiveBody, c, d | .condition, c, d | .yielded _ _, c, d
  | .generator _ _, c, d | .comprehension _ _, c, d => Reaches c d
  | _, c, d => Closes c d

section

variable {c d : Cursor}

/-- A closing bracket ends a phrase. -/
theorem closes_bracket {ch : Char} (h : c.expect [ch] = some d) (hblank : isBlank ch = false) :
    Closes c d :=
  Cursor.closes_expect (solid_of_not_isBlank (by simp) (by simpa using hblank)) h

theorem closes_closing {call : Bool} {rest : List Char} (h : c.rest = closing call :: rest) :
    Closes c ⟨rest, c.byte + 1⟩ := by
  cases call
  all_goals exact closes_cons h rfl (by decide)

theorem reaches_drop {op : BinaryOp} {length : Nat} (h : operator? c.rest = some (op, length)) :
    Reaches c ⟨c.rest.drop length, c.byte + length⟩ ∧ 0 < length := by
  obtain ⟨cs, byte⟩ := c
  unfold operator? at h
  dsimp only at h ⊢
  split at h
  all_goals cases h
  all_goals refine ⟨?_, by decide⟩
  any_goals exact reaches_append [_, _] _ byte
  all_goals exact reaches_append [_] _ byte

end

open Cursor in
/-- Every derivation moves forward. -/
theorem Derives.moves {brief : Bool} {p : Phrase} {c d : Cursor} (h : Derives brief p c d) :
    p.Moves c d := by
  induction h with
  | expr _ _ ihterm ihops =>
    rcases ihops with rfl | ihops
    · exact ihterm
    · exact ihterm.reaches.closes ihops
  | stay _ _ => exact .inl rfl
  | dot hskip hrest _ hstep _ ihops =>
    have hdot := ((reaches_skip hskip).trans (reaches_cons hrest rfl)).closes (closes_dotStep hstep)
    rcases ihops with rfl | ihops
    · exact .inr hdot
    · exact .inr (hdot.reaches.closes ihops)
  | indexed hskip hrest _ _ ihindex ihops =>
    have hindex := ((reaches_skip hskip).trans (reaches_cons hrest rfl)).closes ihindex
    rcases ihops with rfl | ihops
    · exact .inr hindex
    · exact .inr (hindex.reaches.closes ihops)
  | conditional hskip hrest _ h₁ _ h₃ hcolon h₅ _ ihyes ihno =>
    have hyes := (((reaches_skip hskip).trans (reaches_cons hrest rfl)).trans
      (reaches_skip h₁)).trans ihyes.reaches
    have hcolon := ((hyes.trans (reaches_skip h₃)).trans (reaches_expect hcolon)).trans
      (reaches_skip h₅)
    exact .inr (hcolon.closes ihno)
  | binary hskip hop h₁ _ _ ihrhs ihops =>
    have hrhs := (((reaches_skip hskip).trans (reaches_drop hop).1).trans
      (reaches_skip h₁)).closes ihrhs
    rcases ihops with rfl | ihops
    · exact .inr hrhs
    · exact .inr (hrhs.reaches.closes ihops)
  | splat h₁ hrest h₂ hclose =>
    exact (((reaches_skip h₁).trans (reaches_cons hrest rfl)).trans (reaches_skip h₂)).closes
      (closes_bracket hclose (by decide))
  | index h₁ _ _ h₃ hclose ihkey =>
    exact (((reaches_skip h₁).trans ihkey.reaches).trans (reaches_skip h₃)).closes
      (closes_bracket hclose (by decide))
  | quoted hrest _ hclose ihparts =>
    exact ((reaches_cons hrest rfl).trans ihparts).closes (closes_bracket hclose (by decide))
  | arrayFor hrest hskip _ _ hclose ihform | objectFor hrest hskip _ _ hclose ihform =>
    exact (((reaches_cons hrest rfl).trans (reaches_skip hskip)).trans ihform).closes
      (closes_bracket hclose (by decide))
  | array hrest _ _ _ ihitems => exact (reaches_cons hrest rfl).closes ihitems
  | object hrest _ _ _ ihentries => exact (reaches_cons hrest rfl).closes ihentries
  | parens hrest h₁ _ h₃ hclose ihinner =>
    exact ((((reaches_cons hrest rfl).trans (reaches_skip h₁)).trans ihinner.reaches).trans
      (reaches_skip h₃)).closes (closes_bracket hclose (by decide))
  | heredocTerm _ _ ihdoc => exact ihdoc
  | not hrest _ ihoperand => exact (reaches_cons hrest rfl).closes ihoperand
  | negative hrest hskip hnumber =>
    exact ((reaches_cons hrest rfl).trans (reaches_skip hskip)).closes (closes_number hnumber)
  | neg hrest _ _ _ _ ihoperand => exact (reaches_cons hrest rfl).closes ihoperand
  | number hnumber => exact closes_number hnumber
  | wordTerm _ _ _ ihword => exact ihword
  | operand h₁ _ ihterm => exact (reaches_skip h₁).closes ihterm
  | word hname hnames _ _ _ =>
    rcases reaches_qualifiers hnames with rfl | hnames
    · exact closes_name hname
    · exact (closes_name hname).reaches.closes hnames
  | call hname hnames hskip hrest _ ihargs =>
    have hcall := (closes_name hname).reaches.trans (reaches_of_qualifiers hnames)
    exact ((hcall.trans (reaches_skip hskip)).trans (reaches_cons hrest rfl)).closes ihargs
  | elementsEnd hskip hrest => exact (reaches_skip hskip).closes (closes_closing hrest)
  | elementsLast hskip _ _ h₂ hrest ihelement =>
    exact (((reaches_skip hskip).trans ihelement.reaches).trans (reaches_skip h₂)).closes
      (closes_closing hrest)
  | elementsMore hskip _ _ h₂ hrest _ ihelement ihmore =>
    exact ((((reaches_skip hskip).trans ihelement.reaches).trans (reaches_skip h₂)).trans
      (reaches_cons hrest rfl)).closes ihmore
  | @elementsSpread _ _ _ _ c₂ _ _ rest hskip _ _ h₂ hrest h₃ hclose ihelement =>
    have hdots : Reaches c₂ ⟨rest, c₂.byte + 3⟩ := ⟨['.', '.', '.'], hrest, rfl⟩
    exact (((((reaches_skip hskip).trans ihelement.reaches).trans (reaches_skip h₂)).trans
      hdots).trans (reaches_skip h₃)).closes (closes_bracket hclose (by decide))
  | entriesEnd hskip hrest =>
    exact (reaches_skip hskip).closes (closes_cons hrest rfl (by decide))
  | entriesLast hskip _ _ hrest ihentry =>
    exact ((reaches_skip hskip).trans ihentry.1).closes (closes_cons hrest rfl (by decide))
  | entriesComma hskip _ _ hrest _ ihentry ihmore =>
    exact (((reaches_skip hskip).trans ihentry.1).trans (reaches_cons hrest rfl)).closes ihmore
  | entriesLine hskip _ _ hbreak _ ihentry ihmore =>
    exact (((reaches_skip hskip).trans ihentry.1).trans (reaches_lineBreak hbreak)).closes ihmore
  | entry _ h₂ hsign h₄ _ h₆ ihkey ihvalue =>
    have hsign : Reaches _ _ := hsign.elim reaches_expect reaches_expect
    have hrest := ((((reaches_skip h₂).trans hsign).trans (reaches_skip h₄)).trans
      ihvalue.reaches).trans (reaches_skip h₆)
    exact ⟨ihkey.reaches.trans hrest, Nat.lt_of_le_of_lt hrest.length_le ihkey.length_lt⟩
  | unfiltered _ _ ihgenerator => exact ihgenerator
  | filtered _ hif h₃ _ h₅ ihgenerator ihcond =>
    exact (((Reaches.trans ihgenerator (reaches_expect hif)).trans (reaches_skip h₃)).trans
      ihcond.reaches).trans (reaches_skip h₅)
  | generator hfor hnames h₃ _ h₅ hcolon h₇ _ ihcollection ihyielded =>
    have hnames := (reaches_expect hfor).trans (reaches_loopNames hnames)
    have hcollection := (hnames.trans (reaches_skip h₃)).trans ihcollection.reaches
    have hcolon := ((hcollection.trans (reaches_skip h₅)).trans (reaches_expect hcolon)).trans
      (reaches_skip h₇)
    exact hcolon.trans ihyielded
  | yieldedValue _ h₁ ihvalue => exact ihvalue.reaches.trans (reaches_skip h₁)
  | yieldedEntry _ h₂ harrow h₄ _ h₆ h₇ ihkey ihvalue =>
    have harrow := ((ihkey.reaches.trans (reaches_skip h₂)).trans (reaches_expect harrow)).trans
      (reaches_skip h₄)
    have hvalue := (harrow.trans ihvalue.reaches).trans (reaches_skip h₆)
    exact (hvalue.trans (reaches_skipIf _ _)).trans (reaches_skip h₇)
  | heredoc hstart _ ihbody =>
    obtain ⟨hid, hreach⟩ := isName_of_heredocStart hstart
    exact hreach.closes (ihbody hid.solid)
  | heredocBrief _ hstart hstop =>
    obtain ⟨hid, hreach⟩ := isName_of_heredocStart hstart
    exact hreach.closes (closes_heredocStop hid.solid hstop)
  | heredocBody _ _ hstop ihparts =>
    intro hid
    exact (Reaches.trans ihparts (reaches_lineBreakText _)).closes (closes_heredocStop hid hstop)
  | @interpolation _ c _ _ _ _ rest _ _ hrest hopen _ hclose _ ihinner ihmore =>
    have hstart : Reaches c ⟨rest, c.byte + 2⟩ := ⟨['$', '{'], hrest, rfl⟩
    exact (((hstart.trans (reaches_openSequence hopen)).trans ihinner.reaches).trans
      (closes_closeSequence hclose).reaches).trans ihmore
  | @choicePart _ c c₁ _ _ rest inner _ hrest hopen hinner _ _ ihpart ihmore =>
    have hstart : Reaches c ⟨rest, c.byte + 2⟩ := ⟨['%', '{'], hrest, rfl⟩
    have hword : Reaches c₁ ⟨inner, c₁.byte + 2⟩ := ⟨['i', 'f'], hinner, rfl⟩
    exact (((hstart.trans (reaches_openSequence hopen)).trans hword).trans ihpart.reaches).trans
      ihmore
  | @repetitionPart _ c c₁ _ _ rest inner _ hrest hopen hinner _ _ ihpart ihmore =>
    have hstart : Reaches c ⟨rest, c.byte + 2⟩ := ⟨['%', '{'], hrest, rfl⟩
    have hword : Reaches c₁ ⟨inner, c₁.byte + 3⟩ := ⟨['f', 'o', 'r'], hinner, rfl⟩
    exact (((hstart.trans (reaches_openSequence hopen)).trans hword).trans ihpart.reaches).trans
      ihmore
  | partsDirective _ _ _ => exact .refl _
  | partsEnd _ _ => exact .refl _
  | literal hne hend hrun _ ihmore => exact (Closer.literalRun_moves hne hend hrun).1.trans ihmore
  | choice _ _ hclose ihcond => exact Reaches.closes ihcond (closes_bareDirective hclose)
  | choiceElse _ helse _ hclose ihcond ihno =>
    exact ((Reaches.trans ihcond (closes_bareDirective helse).reaches).trans ihno).closes
      (closes_bareDirective hclose)
  | condition h₁ _ hclose _ ihcond ihyes =>
    exact (((reaches_skip h₁).trans ihcond.reaches).trans (closes_closeSequence hclose).reaches).trans
      ihyes
  | repetition hnames h₂ _ hopen _ hclose ihcollection ihbody =>
    have hcollection := ((reaches_loopNames hnames).trans (reaches_skip h₂)).trans
      ihcollection.reaches
    exact ((hcollection.trans (closes_closeSequence hopen).reaches).trans ihbody).closes
      (closes_bareDirective hclose)
  | directiveBody _ _ ihparts => exact ihparts

end TerraLint.Hcl
