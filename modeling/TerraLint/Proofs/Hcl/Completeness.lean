import TerraLint.Proofs.Hcl.Progress
import TerraLint.Proofs.Hcl.Steps

/-!
# What is derived is read

Every derivation without brief heredocs is found by the readers, as soon as their bound on the depth of
calls is large enough for the text that is left. A brief heredoc is read only if its body cannot be.

* `Found`: the reader of a phrase, with a bound, stops at the second cursor.
* `Derives.found`: what is derived is found under every bound that is large enough.
-/

namespace TerraLint.Hcl

open Text Cursor

/-- How many calls a reader makes at most before the text that is left gets shorter. -/
def Phrase.rank : Phrase → Nat
  | .operations _ | .word _ _ | .heredoc | .parts _ | .generator _ _ => 1
  | .term _ _ | .heredocBody _ | .directiveBody | .comprehension _ _ => 2
  | .expr _ | .operand _ _ | .entry | .condition => 3
  | .index | .elements _ _ | .entries | .yielded _ _ | .choice | .repetition => 4

/-- The reader of a phrase, with a bound, goes from the first cursor to the second. -/
def Found (n : Nat) : Phrase → Cursor → Cursor → Prop
  | .expr m, c, d => ∃ e, expr n m c = .ok (e, d)
  | .operations m, c, d => ∀ start e, ∃ e', operations n m start e c = .ok (e', d)
  | .index, c, d => ∀ start, ∃ step, indexStep n start c = .ok (step, d)
  | .term m a, c, d => ∃ form, term n m c = .ok (form, a, d)
  | .operand m a, c, d => ∀ op, ∃ form, prefixed n op m c = .ok (form, a, d)
  | .word m a, c, d => ∃ form, word n m c = .ok (form, a, d)
  | .elements true m, c, d =>
    ∀ args, ∃ args' spread closing, arguments n m args c = .ok (args', spread, closing, d)
  | .elements false m, c, d => ∀ es, ∃ es' closing, arrayItems n m es c = .ok (es', closing, d)
  | .entries, c, d => ∀ es, ∃ es' gap, objectEntries n es c = .ok (es', gap, d)
  | .entry, c, d => ∃ entry, EntryStep n c entry d
  | .comprehension m keyed, c, d => ∃ form, comprehension n m keyed c = .ok (form, d)
  | .generator m keyed, c, d => ∃ form, GeneratorStep n m keyed c form d
  | .yielded m keyed, c, d => ∃ key value grouped, yielded n m keyed c = .ok (key, value, grouped, d)
  | .heredoc, c, d => ∃ form, heredoc n c = .ok (form, d)
  | .heredocBody id, c, d => ∃ parts gap, heredocBody n id c = .ok (parts, gap, d)
  | .parts closer, c, d => ∀ ps, ∃ ps', templateParts n closer ps c = .ok (ps', d)
  | .choice, c, d => ∀ start before, ∃ part, choice n start before c = .ok (part, d)
  | .condition, c, d =>
    ∀ start before, ∃ opening cond yes, ConditionStep n start before c opening cond yes d
  | .repetition, c, d => ∀ start before, ∃ part, repetition n start before c = .ok (part, d)
  | .directiveBody, c, d => ∃ parts, directiveBody n c = .ok (parts, d)

/-- The parts of a function's name are found under every bound above the length of the text. -/
theorem qualifiers_of_lt {m : Bool} {k : Nat} {names names' : List String} {c d : Cursor}
    (h : c.qualifiers m k names = some (names', d)) {n : Nat} (hn : c.rest.length < n) :
    c.qualifiers m n names = some (names', d) := by
  induction k generalizing names c n with
  | zero => cases h
  | succ k ih =>
    obtain ⟨n, rfl⟩ : ∃ j, n = j + 1 := ⟨n - 1, by omega⟩
    unfold qualifiers at h ⊢
    obtain ⟨next, hskip, h⟩ := Option.bind_eq_some_iff.1 h
    simp only [Option.bind_eq_bind, hskip, Option.bind_some]
    split at h
    · exact h
    · rename_i c₁ hcolons
      obtain ⟨c₂, h₂, h⟩ := Option.bind_eq_some_iff.1 h
      obtain ⟨⟨name, c₃⟩, h₃, h⟩ := Option.bind_eq_some_iff.1 h
      simp only [h₂, h₃, Option.bind_some]
      have hreach := ((reaches_skip hskip).trans (reaches_expect hcolons)).trans (reaches_skip h₂)
      have hlt := (hreach.closes (closes_name h₃)).length_lt
      exact ih h (by omega)

theorem Phrase.rank_pos (p : Phrase) : 0 < p.rank := by
  cases p <;> exact Nat.succ_pos _

/-- It suffices to make one call. -/
theorem found_of_succ {p : Phrase} {c d : Cursor}
    (h : ∀ n, 4 * c.rest.length + p.rank ≤ n + 1 → Found (n + 1) p c d) (n : Nat)
    (hn : 4 * c.rest.length + p.rank ≤ n) : Found n p c d := by
  have hpos := p.rank_pos
  obtain ⟨n, rfl⟩ : ∃ k, n = k + 1 := ⟨n - 1, by omega⟩
  exact h n hn

theorem length_drop_lt {cs : List Char} {op : BinaryOp} {length : Nat}
    (h : operator? cs = some (op, length)) : (cs.drop length).length < cs.length := by
  have hpos := (reaches_drop (c := ⟨cs, 0⟩) h).2
  have hne : 0 < cs.length := List.length_pos_iff.2 (by rintro rfl; cases h)
  rw [List.length_drop]
  omega

theorem Derives.length_lt_of_generator {brief keyed : Bool} {m : Mode} {c d : Cursor}
    (h : Derives brief (.generator m keyed) c d) : d.rest.length < c.rest.length := by
  cases h with
  | generator hfor hnames h₃ hcollection h₅ hcolon h₇ hyielded =>
    have hcollection := ((reaches_loopNames hnames).trans (reaches_skip h₃)).trans
      (Closes.reaches hcollection.moves)
    have hcolon := ((hcollection.trans (reaches_skip h₅)).trans (reaches_expect hcolon)).trans
      (reaches_skip h₇)
    have hle := (hcolon.trans hyielded.moves).length_le
    have hlt := (closes_expect ⟨by simp, by decide⟩ hfor).length_lt
    omega

theorem Cursor.length_lt_of_heredocStart {c d : Cursor} {indented : Bool} {id : List Char}
    (h : c.heredocStart = some (indented, id, d)) : d.rest.length < c.rest.length := by
  unfold heredocStart at h
  obtain ⟨c₁, h₁, h⟩ := Option.bind_eq_some_iff.1 h
  obtain ⟨⟨name, c₂⟩, h₂, h⟩ := Option.bind_eq_some_iff.1 h
  have hlt := (closes_expect ⟨by simp, by decide⟩ h₁).length_lt
  have hle := ((reaches_skipIf ['-'] c₁).trans (closes_name h₂).reaches).trans
    (reaches_lineBreakText c₂)
  dsimp only at h
  split at h
  · cases h
  · obtain ⟨-, h⟩ := Prod.mk.inj (Option.some.inj h)
    obtain ⟨-, rfl⟩ := Prod.mk.inj h
    have hle := hle.length_le
    dsimp only at hle ⊢
    omega

theorem length_of_cons {c : Cursor} {x : Char} {rest : List Char} (h : c.rest = x :: rest) :
    c.rest.length = rest.length + 1 := by
  rw [h, List.length_cons]

/-- A term is an operand, whatever the operator in front of it. -/
theorem exists_operand_of_term {n : Nat} {m a : Mode} {c c₁ d : Cursor} {op : UnaryOp} {form : Form}
    (h₁ : c.skipInline = some c₁) (hterm : term (n + 1) m c₁ = .ok (form, a, d)) :
    ∃ form, prefixed (n + 2) op m c = .ok (form, a, d) := by
  simp only [operand_succ_iff]
  by_cases hnot : c₁.rest.head? = some '!'
  · obtain ⟨rest, hrest⟩ := List.head?_eq_some_iff.1 hnot
    exact ⟨form, .not h₁ hrest hterm⟩
  by_cases hneg : c₁.rest.head? = some '-'
  · obtain ⟨rest, hrest⟩ := List.head?_eq_some_iff.1 hneg
    cases term_succ_iff.1 hterm with
    | negative hrest hskip hnumber => exact ⟨_, .negative h₁ hrest hskip hnumber⟩
    | neg hrest hskip hnext hx => exact ⟨form, .neg h₁ hrest hskip hnext hx hterm⟩
    | number hnumber =>
      obtain ⟨x, xs, hdigit, hx⟩ := isDigit_of_number hnumber
      obtain ⟨rfl, -⟩ := List.cons.inj (hdigit.symm.trans hrest)
      cases hx
    | word hrest' hx =>
      obtain ⟨rfl, -⟩ := List.cons.inj (hrest'.symm.trans hrest)
      cases hx
    | _ hrest' => cases hrest'.symm.trans hrest
  · exact ⟨_, .term h₁ hnot hneg hterm⟩

/-- What is derived without brief heredocs is found under every bound that is large enough. -/
theorem Derives.found {p : Phrase} {c d : Cursor} (h : Derives false p c d) :
    ∀ n, 4 * c.rest.length + p.rank ≤ n → Found n p c d := by
  induction h with
  | expr hterm hops ihterm ihops =>
    refine found_of_succ fun n hn => ?_
    have hlt := Closes.length_lt hterm.moves
    dsimp only [Phrase.rank] at hn ihterm ihops
    obtain ⟨form, hform⟩ := ihterm n (by omega)
    obtain ⟨e, he⟩ := ihops n (by omega) _ _
    exact ⟨e, expr_succ_iff.2 ⟨form, _, _, hform, he⟩⟩
  | stay hskip hstay =>
    refine found_of_succ fun n hn start e => ?_
    exact ⟨e, operations_succ_iff.2 (.stay hskip hstay)⟩
  | dot hskip hrest hx hstep hops ihops =>
    refine found_of_succ fun n hn start e => ?_
    have hlt := ((reaches_skip hskip).trans (reaches_cons hrest rfl)).closes (closes_dotStep hstep)
    have hlt := hlt.length_lt
    dsimp only [Phrase.rank] at hn ihops
    obtain ⟨e', hops⟩ := ihops n (by omega) _ _
    exact ⟨e', operations_succ_iff.2 (.dot hskip hrest hx hstep hops)⟩
  | indexed hskip hrest hindex hops ihindex ihops =>
    refine found_of_succ fun n hn start e => ?_
    have hle := (reaches_skip hskip).length_le
    have hcons := length_of_cons hrest
    have hlt := ((reaches_cons hrest rfl).closes hindex.moves).length_lt
    dsimp only [Phrase.rank] at hn ihindex ihops
    obtain ⟨step, hstep⟩ := ihindex n (by omega) _
    obtain ⟨e', hops⟩ := ihops n (by omega) _ _
    exact ⟨e', operations_succ_iff.2 (.index hskip hrest hstep hops)⟩
  | conditional hskip hrest hmode h₁ hyes h₃ hcolon h₅ hno ihyes ihno =>
    refine found_of_succ fun n hn start e => ?_
    have hle := (reaches_skip hskip).length_le
    have hlt := (closes_cons hrest rfl (by decide)).length_lt
    have hle₁ := (reaches_skip h₁).length_le
    have hle₅ := ((((Closes.reaches hyes.moves).trans (reaches_skip h₃)).trans
      (reaches_expect hcolon)).trans (reaches_skip h₅)).length_le
    dsimp only [Phrase.rank] at hn ihyes ihno
    obtain ⟨yes, hyes⟩ := ihyes n (by omega)
    obtain ⟨no, hno⟩ := ihno n (by omega)
    exact ⟨_, operations_succ_iff.2 (.conditional hskip hrest hmode h₁ hyes h₃ hcolon h₅ hno)⟩
  | binary hskip hop h₁ hrhs hops ihrhs ihops =>
    refine found_of_succ fun n hn start e => ?_
    have hle := (reaches_skip hskip).length_le
    have hdrop := length_drop_lt hop
    have hle₁ := (reaches_skip h₁).length_le
    have hlt := Closes.length_lt hrhs.moves
    dsimp only [Phrase.rank] at hn ihrhs ihops hle₁
    obtain ⟨rhs, hrhs⟩ := ihrhs n (by omega)
    obtain ⟨e', hops⟩ := ihops n (by omega) _ _
    exact ⟨e', operations_succ_iff.2 (.binary hskip hop h₁ hrhs hops)⟩
  | splat h₁ hrest h₂ hclose =>
    refine found_of_succ fun n hn start => ?_
    exact ⟨_, index_succ_iff.2 (.splat h₁ hrest h₂ hclose)⟩
  | index h₁ hne hkey h₃ hclose ihkey =>
    refine found_of_succ fun n hn start => ?_
    have hle := (reaches_skip h₁).length_le
    dsimp only [Phrase.rank] at hn ihkey
    obtain ⟨key, hkey⟩ := ihkey n (by omega)
    exact ⟨_, index_succ_iff.2 (.key h₁ hne hkey h₃ hclose)⟩
  | quoted hrest hparts hclose ihparts =>
    refine found_of_succ fun n hn => ?_
    have hcons := length_of_cons hrest
    dsimp only [Phrase.rank] at hn ihparts
    obtain ⟨parts, hparts⟩ := ihparts n (by omega) []
    exact ⟨_, term_succ_iff.2 (.quoted hrest hparts hclose)⟩
  | arrayFor hrest hskip hfor hform hclose ihform =>
    refine found_of_succ fun n hn => ?_
    have hcons := length_of_cons hrest
    have hle := (reaches_skip hskip).length_le
    dsimp only [Phrase.rank] at hn ihform hle
    obtain ⟨form, hform⟩ := ihform n (by omega)
    exact ⟨_, term_succ_iff.2 (.arrayFor hrest hskip hfor hform hclose)⟩
  | array hrest hskip hfor hitems ihitems =>
    refine found_of_succ fun n hn => ?_
    have hcons := length_of_cons hrest
    dsimp only [Phrase.rank] at hn ihitems
    obtain ⟨es, closing, hitems⟩ := ihitems n (by omega) []
    exact ⟨_, term_succ_iff.2 (.array hrest hskip hfor hitems)⟩
  | objectFor hrest hskip hfor hform hclose ihform =>
    refine found_of_succ fun n hn => ?_
    have hcons := length_of_cons hrest
    have hle := (reaches_skip hskip).length_le
    dsimp only [Phrase.rank] at hn ihform hle
    obtain ⟨form, hform⟩ := ihform n (by omega)
    exact ⟨_, term_succ_iff.2 (.objectFor hrest hskip hfor hform hclose)⟩
  | object hrest hskip hfor hentries ihentries =>
    refine found_of_succ fun n hn => ?_
    have hcons := length_of_cons hrest
    dsimp only [Phrase.rank] at hn ihentries
    obtain ⟨es, gap, hentries⟩ := ihentries n (by omega) []
    exact ⟨_, term_succ_iff.2 (.object hrest hskip hfor hentries)⟩
  | parens hrest h₁ hinner h₃ hclose ihinner =>
    refine found_of_succ fun n hn => ?_
    have hcons := length_of_cons hrest
    have hle := (reaches_skip h₁).length_le
    dsimp only [Phrase.rank] at hn ihinner hle
    obtain ⟨inner, hinner⟩ := ihinner n (by omega)
    exact ⟨_, term_succ_iff.2 (.parens hrest h₁ hinner h₃ hclose)⟩
  | heredocTerm hrest hdoc ihdoc =>
    refine found_of_succ fun n hn => ?_
    dsimp only [Phrase.rank] at hn ihdoc
    obtain ⟨form, hdoc⟩ := ihdoc n (by omega)
    exact ⟨form, term_succ_iff.2 (.heredoc hrest hdoc)⟩
  | not hrest hoperand ihoperand =>
    refine found_of_succ fun n hn => ?_
    have hcons := length_of_cons hrest
    dsimp only [Phrase.rank] at hn ihoperand
    obtain ⟨form, hform⟩ := ihoperand n (by omega) .not
    exact ⟨form, term_succ_iff.2 (.not hrest hform)⟩
  | negative hrest hskip hnumber =>
    refine found_of_succ fun n hn => ?_
    exact ⟨_, term_succ_iff.2 (.negative hrest hskip hnumber)⟩
  | neg hrest hskip hnext hx hoperand ihoperand =>
    refine found_of_succ fun n hn => ?_
    have hcons := length_of_cons hrest
    dsimp only [Phrase.rank] at hn ihoperand
    obtain ⟨form, hform⟩ := ihoperand n (by omega) .neg
    exact ⟨form, term_succ_iff.2 (.neg hrest hskip hnext hx hform)⟩
  | number hnumber =>
    refine found_of_succ fun n hn => ?_
    exact ⟨_, term_succ_iff.2 (.number hnumber)⟩
  | wordTerm hrest hx hword ihword =>
    refine found_of_succ fun n hn => ?_
    dsimp only [Phrase.rank] at hn ihword
    obtain ⟨form, hform⟩ := ihword n (by omega)
    exact ⟨form, term_succ_iff.2 (.word hrest hx hform)⟩
  | operand h₁ hterm ihterm =>
    refine found_of_succ fun n hn op => ?_
    have hle := (reaches_skip h₁).length_le
    dsimp only [Phrase.rank] at hn ihterm
    obtain ⟨n, rfl⟩ : ∃ k, n = k + 1 := ⟨n - 1, by omega⟩
    obtain ⟨form, hform⟩ := ihterm (n + 1) (by omega)
    exact exists_operand_of_term h₁ hform
  | word hname hnames hskip hcall hone =>
    refine found_of_succ fun n hn => ?_
    have hlt := (closes_name hname).length_lt
    dsimp only [Phrase.rank] at hn
    exact ⟨_, word_succ_iff.2 (.bare hname (qualifiers_of_lt hnames (by omega)) hskip hcall hone)⟩
  | call hname hnames hskip hrest _ ihargs =>
    refine found_of_succ fun n hn => ?_
    have hlt := (closes_name hname).length_lt
    have hle := ((reaches_of_qualifiers hnames).trans (reaches_skip hskip)).length_le
    have hcons := length_of_cons hrest
    dsimp only [Phrase.rank] at hn ihargs
    obtain ⟨args, spread, closing, hargs⟩ := ihargs n (by omega) []
    exact ⟨_, word_succ_iff.2 (.call hname (qualifiers_of_lt hnames (by omega)) hskip hrest hargs)⟩
  | @elementsEnd call m c next rest hskip hrest =>
    refine found_of_succ fun n hn => ?_
    cases call with
    | true => exact fun args => ⟨_, _, _, arguments_succ_iff.2 (.stop hskip hrest)⟩
    | false => exact fun es => ⟨_, _, array_succ_iff.2 (.stop hskip hrest)⟩
  | @elementsLast call m c next c₁ c₂ rest hskip hne helement h₂ hrest ihelement =>
    refine found_of_succ fun n hn => ?_
    have hle := (reaches_skip hskip).length_le
    dsimp only [Phrase.rank] at hn ihelement
    obtain ⟨e, he⟩ := ihelement n (by omega)
    cases call with
    | true => exact fun args => ⟨_, _, _, arguments_succ_iff.2 (.last hskip hne he h₂ hrest)⟩
    | false => exact fun es => ⟨_, _, array_succ_iff.2 (.last hskip hne he h₂ hrest)⟩
  | @elementsMore call m c next c₁ c₂ d rest hskip hne helement h₂ hrest hmore ihelement ihmore =>
    refine found_of_succ fun n hn => ?_
    have hle := (reaches_skip hskip).length_le
    have hlt := Closes.length_lt helement.moves
    have hle₂ := (reaches_skip h₂).length_le
    have hcons := length_of_cons hrest
    dsimp only [Phrase.rank] at hn ihelement ihmore
    obtain ⟨e, he⟩ := ihelement n (by omega)
    have hmore := ihmore n (by omega)
    cases call with
    | true =>
      intro args
      obtain ⟨args', spread, closing, hmore⟩ := hmore (args ++ [e])
      exact ⟨_, _, _, arguments_succ_iff.2 (.more hskip hne he h₂ hrest hmore)⟩
    | false =>
      intro es
      obtain ⟨es', closing, hmore⟩ := hmore (es ++ [e])
      exact ⟨_, _, array_succ_iff.2 (.more hskip hne he h₂ hrest hmore)⟩
  | elementsSpread hskip hne helement h₂ hrest h₃ hclose ihelement =>
    refine found_of_succ fun n hn args => ?_
    have hle := (reaches_skip hskip).length_le
    dsimp only [Phrase.rank] at hn ihelement
    obtain ⟨e, he⟩ := ihelement n (by omega)
    exact ⟨_, _, _, arguments_succ_iff.2 (.spread hskip hne he h₂ hrest h₃ hclose)⟩
  | entriesEnd hskip hrest =>
    refine found_of_succ fun n hn es => ?_
    exact ⟨_, _, entries_succ_iff.2 (.stop hskip hrest)⟩
  | entriesLast hskip hne hentry hrest ihentry =>
    refine found_of_succ fun n hn es => ?_
    have hle := (reaches_skip hskip).length_le
    dsimp only [Phrase.rank] at hn ihentry
    obtain ⟨entry, hentry⟩ := ihentry n (by omega)
    exact ⟨_, _, entries_succ_iff.2 (.last hskip hne hentry hrest)⟩
  | entriesComma hskip hne hentry hrest hmore ihentry ihmore =>
    refine found_of_succ fun n hn es => ?_
    have hle := (reaches_skip hskip).length_le
    have hlt := (And.right hentry.moves : _ < _)
    have hcons := length_of_cons hrest
    dsimp only [Phrase.rank] at hn ihentry ihmore
    obtain ⟨entry, hentry⟩ := ihentry n (by omega)
    obtain ⟨es', gap, hmore⟩ := ihmore n (by omega) (insertEntry (entry .comma) es)
    exact ⟨es', gap, entries_succ_iff.2 (.comma hskip hne hentry hrest hmore)⟩
  | @entriesLine c next c₁ c₂ d hskip hne hentry hbreak hmore ihentry ihmore =>
    refine found_of_succ fun n hn es => ?_
    have hle := (reaches_skip hskip).length_le
    have hlt := (And.right hentry.moves : _ < _)
    have hle₁ := (reaches_lineBreak hbreak).length_le
    dsimp only [Phrase.rank] at hn ihentry ihmore
    obtain ⟨entry, hentry⟩ := ihentry n (by omega)
    obtain ⟨es', gap, hmore⟩ := ihmore n (by omega) (insertEntry (entry .newline) es)
    exact ⟨es', gap, entries_succ_iff.2 (.line hskip hne hentry hbreak hmore)⟩
  | entry hkey h₂ hsign h₄ hvalue h₆ ihkey ihvalue =>
    intro n hn
    have hkeyed : Reaches _ _ := (Closes.reaches hkey.moves).trans (reaches_skip h₂)
    have hsigned : Reaches _ _ := hsign.elim reaches_expect reaches_expect
    have hle := ((hkeyed.trans hsigned).trans (reaches_skip h₄)).length_le
    dsimp only [Phrase.rank] at hn ihkey ihvalue
    obtain ⟨key, hkey⟩ := ihkey n (by omega)
    obtain ⟨value, hvalue⟩ := ihvalue n (by omega)
    exact hsign.elim
      (fun hsign => ⟨.mk key value true, .mk hkey h₂ hsign h₄ hvalue h₆⟩)
      (fun hsign => ⟨.mk key value false, .mk hkey h₂ hsign h₄ hvalue h₆⟩)
  | unfiltered hgenerator hif ihgenerator =>
    refine found_of_succ fun n hn => ?_
    dsimp only [Phrase.rank] at hn ihgenerator
    obtain ⟨form, hgenerator⟩ := ihgenerator n (by omega)
    exact ⟨form none, comprehension_succ_iff.2 (.unfiltered hgenerator hif)⟩
  | filtered hgenerator hif h₃ hcond h₅ ihgenerator ihcond =>
    refine found_of_succ fun n hn => ?_
    have hlt := hgenerator.length_lt_of_generator
    have hle := ((reaches_expect hif).trans (reaches_skip h₃)).length_le
    dsimp only [Phrase.rank] at hn ihgenerator ihcond
    obtain ⟨cond, hcond⟩ := ihcond n (by omega)
    obtain ⟨form, hgenerator⟩ := ihgenerator n (by omega)
    exact ⟨form (some cond), comprehension_succ_iff.2 (.filtered hgenerator hif h₃ hcond h₅)⟩
  | generator hfor hnames h₃ hcollection h₅ hcolon h₇ hyielded ihcollection ihyielded =>
    intro n hn
    have hlt := (closes_expect ⟨by simp, by decide⟩ hfor).length_lt
    have hle := ((reaches_loopNames hnames).trans (reaches_skip h₃)).length_le
    have hle₇ := ((((Closes.reaches hcollection.moves).trans (reaches_skip h₅)).trans
      (reaches_expect hcolon)).trans (reaches_skip h₇)).length_le
    dsimp only [Phrase.rank] at hn ihcollection ihyielded
    obtain ⟨collection, hcollection⟩ := ihcollection n (by omega)
    obtain ⟨key, value, grouped, hyielded⟩ := ihyielded n (by omega)
    exact ⟨_, .mk hfor hnames h₃ hcollection h₅ hcolon h₇ hyielded⟩
  | yieldedValue hvalue h₁ ihvalue =>
    refine found_of_succ fun n hn => ?_
    dsimp only [Phrase.rank] at hn ihvalue
    obtain ⟨value, hvalue⟩ := ihvalue n (by omega)
    exact ⟨_, _, _, yielded_succ_iff.2 (.value hvalue h₁)⟩
  | yieldedEntry hkey h₂ harrow h₄ hvalue h₆ h₇ ihkey ihvalue =>
    refine found_of_succ fun n hn => ?_
    have hle := ((((Closes.reaches hkey.moves).trans (reaches_skip h₂)).trans
      (reaches_expect harrow)).trans (reaches_skip h₄)).length_le
    dsimp only [Phrase.rank] at hn ihkey ihvalue
    obtain ⟨key, hkey⟩ := ihkey n (by omega)
    obtain ⟨value, hvalue⟩ := ihvalue n (by omega)
    exact ⟨_, _, _, yielded_succ_iff.2 (.entry hkey h₂ harrow h₄ hvalue h₆ rfl h₇)⟩
  | heredoc hstart hbody ihbody =>
    refine found_of_succ fun n hn => ?_
    have hlt := length_lt_of_heredocStart hstart
    dsimp only [Phrase.rank] at hn ihbody
    obtain ⟨parts, gap, hbody⟩ := ihbody n (by omega)
    exact ⟨_, heredoc_succ_iff.2 (.body hstart hbody)⟩
  | heredocBrief hbrief => cases hbrief
  | heredocBody hparts hbreak hstop ihparts =>
    refine found_of_succ fun n hn => ?_
    dsimp only [Phrase.rank] at hn ihparts
    obtain ⟨parts, hparts⟩ := ihparts n (by omega) []
    exact ⟨_, _, heredocBody_succ_iff.2 (.mk hparts hbreak hstop)⟩
  | interpolation hrest hopen hinner hclose hmore ihinner ihmore =>
    refine found_of_succ fun n hn ps => ?_
    have hcons := congrArg List.length hrest
    have hle := (reaches_openSequence hopen).length_le
    have hlt := (Closes.length_lt hinner.moves).trans_le' (closes_closeSequence hclose).length_lt.le
    simp only [List.length_cons] at hcons
    dsimp only [Phrase.rank] at hn ihinner ihmore hle
    obtain ⟨e, hinner⟩ := ihinner n (by omega)
    obtain ⟨ps', hmore⟩ := ihmore n (by omega) _
    exact ⟨ps', parts_succ_iff.2 (.interpolation hrest hopen hinner hclose hmore)⟩
  | choicePart hrest hopen hinner hpart hmore ihpart ihmore =>
    refine found_of_succ fun n hn ps => ?_
    have hcons := congrArg List.length hrest
    have hle := (reaches_openSequence hopen).length_le
    have hcons₁ := congrArg List.length hinner
    have hlt := Closes.length_lt hpart.moves
    simp only [List.length_cons] at hcons hcons₁
    dsimp only [Phrase.rank] at hn ihpart ihmore hle hlt
    obtain ⟨part, hpart⟩ := ihpart n (by omega) _ _
    obtain ⟨ps', hmore⟩ := ihmore n (by omega) _
    exact ⟨ps', parts_succ_iff.2 (.choice hrest hopen hinner hpart hmore)⟩
  | repetitionPart hrest hopen hinner hpart hmore ihpart ihmore =>
    refine found_of_succ fun n hn ps => ?_
    have hcons := congrArg List.length hrest
    have hle := (reaches_openSequence hopen).length_le
    have hcons₁ := congrArg List.length hinner
    have hlt := Closes.length_lt hpart.moves
    simp only [List.length_cons] at hcons hcons₁
    dsimp only [Phrase.rank] at hn ihpart ihmore hle hlt
    obtain ⟨part, hpart⟩ := ihpart n (by omega) _ _
    obtain ⟨ps', hmore⟩ := ihmore n (by omega) _
    exact ⟨ps', parts_succ_iff.2 (.repetition hrest hopen hinner hpart hmore)⟩
  | partsDirective hrest hopen hinner =>
    refine found_of_succ fun n hn ps => ?_
    exact ⟨ps, parts_succ_iff.2 (.directive hrest hopen hinner)⟩
  | partsEnd hne hend =>
    refine found_of_succ fun n hn ps => ?_
    exact ⟨ps, parts_succ_iff.2 (.stop hne hend)⟩
  | literal hne hend hrun hmore ihmore =>
    refine found_of_succ fun n hn ps => ?_
    have hlt := (Closer.literalRun_moves hne hend hrun).2
    dsimp only [Phrase.rank] at hn ihmore
    obtain ⟨ps', hmore⟩ := ihmore n (by omega) _
    exact ⟨ps', parts_succ_iff.2 (.literal hne hend hrun hmore)⟩
  | choice hcond helse hclose ihcond =>
    refine found_of_succ fun n hn start before => ?_
    dsimp only [Phrase.rank] at hn ihcond
    obtain ⟨opening, cond, yes, hcond⟩ := ihcond n (by omega) start before
    exact ⟨_, choice_succ_iff.2 (.single hcond helse hclose)⟩
  | choiceElse hcond helse hno hclose ihcond ihno =>
    refine found_of_succ fun n hn start before => ?_
    have hle := (Reaches.trans hcond.moves (closes_bareDirective helse).reaches).length_le
    have hlt := (closes_bareDirective helse).length_lt
    have hle' := Reaches.length_le hcond.moves
    dsimp only [Phrase.rank] at hn ihcond ihno
    obtain ⟨opening, cond, yes, hcond⟩ := ihcond n (by omega) start before
    obtain ⟨no, hno⟩ := ihno n (by omega)
    exact ⟨_, choice_succ_iff.2 (.both hcond helse hno hclose)⟩
  | condition h₁ hcond hclose hyes ihcond ihyes =>
    intro n hn start before
    have hle := (reaches_skip h₁).length_le
    have hlt := Closes.length_lt hcond.moves
    have hle₃ := (closes_closeSequence hclose).length_lt
    dsimp only [Phrase.rank] at hn ihcond ihyes
    obtain ⟨cond, hcond⟩ := ihcond n (by omega)
    obtain ⟨yes, hyes⟩ := ihyes n (by omega)
    exact ⟨_, cond, yes, .mk h₁ hcond hclose hyes⟩
  | repetition hnames h₂ hcollection hopen hbody hclose ihcollection ihbody =>
    refine found_of_succ fun n hn start before => ?_
    have hle := ((reaches_loopNames hnames).trans (reaches_skip h₂)).length_le
    have hlt := Closes.length_lt hcollection.moves
    have hle₄ := (closes_closeSequence hopen).length_lt
    dsimp only [Phrase.rank] at hn ihcollection ihbody
    obtain ⟨collection, hcollection⟩ := ihcollection n (by omega)
    obtain ⟨body, hbody⟩ := ihbody n (by omega)
    exact ⟨_, repetition_succ_iff.2 (.mk hnames h₂ hcollection hopen hbody hclose)⟩
  | directiveBody hparts hne ihparts =>
    refine found_of_succ fun n hn => ?_
    dsimp only [Phrase.rank] at hn ihparts
    obtain ⟨parts, hparts⟩ := ihparts n (by omega) []
    exact ⟨parts, directiveBody_succ_iff.2 ⟨hparts, hne⟩⟩

end TerraLint.Hcl
