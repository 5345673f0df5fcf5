import Mathlib.Data.List.Infix
import TerraLint.Proofs.Hcl.Window

/-!
# Where phrases end before a text

A phrase that is read before a text `t` may look behind its end: an expression looks for another
operation, the parts of a template for what closes them, and a heredoc whose next line may close it
first tries all that follows as its body. Here stands what the end of each of them has to be like,
so that it is found without `t`.

* `Clear`: behind an expression no blank goes on into `t`.
* `Stops`: what closes a template comes next.
* `Unambiguous`: no text that is tried as the body of a heredoc has a template sequence.
* `heredocBody_unfinished`: so it is no body without `t` if it is none with it.
-/

namespace TerraLint.Hcl

open Text Cursor

variable {t : List Char} {m a : Mode} {c d : Cursor} {n : Nat}

/-! ## Where a phrase may end -/

/-- No blank or comment goes on from here into `t`, unless nothing is left before `t`. -/
def Clear (t : List Char) (c : Cursor) : Prop :=
  c.rest = [] ∨ ∃ e : Cursor, (c.ahead t).skipLines = some (e.ahead t)

theorem clear_of_skip {multiline : Bool} {e f : Cursor}
    (hskip : (c.ahead t).skip multiline = some (e.ahead t))
    (h : (e.ahead t).skipLines = some (f.ahead t)) : Clear t c :=
  .inr ⟨f, (skip_again (fun _ => rfl) hskip).trans h⟩

theorem clear_of_token {multiline : Bool} {e : Cursor} {x : Char} {rest : List Char}
    (hskip : (c.ahead t).skip multiline = some (e.ahead t)) (hrest : e.rest = x :: rest)
    (hx : endsBlanks x = true) : Clear t c := by
  have hrest' : (e.ahead t).rest = x :: (rest ++ t) := congrArg (· ++ t) hrest
  exact clear_of_skip hskip (skip_stop hrest' hx)

theorem skip_of_nil {multiline : Bool} (h : c.rest = []) : c.skip multiline = some c :=
  skip_iff.2 (.stop (h ▸ .nil))

/-- Blanks skipped before `t` and some of it are skipped without it. -/
theorem Clear.skip (h : Clear t c) {multiline : Bool} {next' : Cursor}
    (hskip : (c.ahead t).skip multiline = some next') :
    ∃ next, c.skip multiline = some next ∧ (next.rest = [] ∨ next' = next.ahead t) := by
  rcases h with hnil | ⟨e, he⟩
  · exact ⟨c, skip_of_nil hnil, .inl hnil⟩
  · have hreach : Reaches next' (e.ahead t) := by
      have hagain := (skip_again (fun _ => rfl) hskip).symm.trans he
      exact reaches_skip hagain
    obtain ⟨next, rfl⟩ := exists_ahead hreach
    exact ⟨next, skip_of_ahead hskip, .inr rfl⟩

theorem skipLines_of_operator {multiline : Bool} {op : BinaryOp} {length : Nat}
    (hskip : c.skip multiline = some d) (hop : operator? d.rest = some (op, length)) :
    d.skipLines = some d := by
  obtain ⟨ds, byte⟩ := d
  obtain ⟨m, hends⟩ := (skip_iff.1 hskip).ends
  dsimp only at hop hends
  unfold operator? at hop
  split at hop
  case h_7 | h_15 => cases hop
  case h_13 x rest hslash =>
    -- A slash divides, unless it starts a comment. Then blanks would not have ended before it.
    refine skip_iff.2 (.stop (.between fun w rest' s hcs htakes => ?_))
    cases htakes with
    | blank hc =>
      obtain ⟨rfl, -⟩ := List.cons.inj hcs
      exact absurd hc (by decide)
    | openLine hmark =>
      rcases hmark with rfl | rfl
      · exact absurd (List.cons.inj hcs).1 (by decide)
      · exact hslash (List.cons.inj (List.cons.inj hcs).2).1
    | openBlock =>
      cases hends with
      | between hnone => exact hnone _ _ _ hcs .openBlock
  all_goals exact skip_stop rfl (by decide)

theorem reaches_of_operations {e : Cursor} (h : Derives true (.operations m) c e) :
    Reaches c e := by
  rcases h.moves with rfl | h
  · exact .refl _
  · exact h.reaches

theorem clear_of_cons {multiline : Bool} {next : Cursor} {x : Char} {rest : List Char}
    (hskip : (c.ahead t).skip multiline = some next) (hrest : next.rest = x :: rest)
    (hsize : x.utf8Size = 1) (hx : endsBlanks x = true)
    (hreach : Reaches ⟨rest, next.byte + 1⟩ (d.ahead t)) : Clear t c := by
  obtain ⟨e, rfl⟩ := exists_ahead ((reaches_cons hrest hsize).trans hreach)
  obtain ⟨es, he, -⟩ := exists_append (w := [x]) hrest (length_le_of_reaches_ahead hreach)
  exact clear_of_token hskip he hx

/-- Where operations start that end clear of `t` is clear of `t`. -/
theorem clear_of_operations {c' d' : Cursor} (h : Derives true (.operations m) c' d')
    (hc : c' = c.ahead t) (hd : d' = d.ahead t) (hclear : Clear t d) : Clear t c := by
  cases h with
  | stay _ _ =>
    obtain rfl := ahead_inj.1 (hc.symm.trans hd)
    exact hclear
  | dot hskip hrest hx hstep hops =>
    subst hc hd
    exact clear_of_cons hskip hrest rfl (by decide)
      ((closes_dotStep hstep).reaches.trans (reaches_of_operations hops))
  | indexed hskip hrest hindex hops =>
    subst hc hd
    exact clear_of_cons hskip hrest rfl (by decide)
      ((Closes.reaches hindex.moves).trans (reaches_of_operations hops))
  | conditional hskip hrest hmode h₁ hyes h₃ hcolon h₅ hno =>
    subst hc hd
    have hreach := ((reaches_skip h₃).trans (reaches_expect hcolon)).trans
      ((reaches_skip h₅).trans (Closes.reaches hno.moves))
    exact clear_of_cons hskip hrest rfl (by decide)
      ((reaches_skip h₁).trans ((Closes.reaches hyes.moves).trans hreach))
  | binary hskip hop h₁ hrhs hops =>
    subst hc hd
    have hreach := (reaches_skip h₁).trans
      ((Closes.reaches hrhs.moves).trans (reaches_of_operations hops))
    obtain ⟨e, rfl⟩ := exists_ahead ((reaches_drop hop).1.trans hreach)
    exact clear_of_skip hskip (skipLines_of_operator hskip hop)

/-- What ends a template comes next, or for one without an end a directive that ends a part. -/
def Stops : Closer → Cursor → Prop
  | .quote, c => c.rest.head? = some '"'
  | .terminator id, c => closesHeredoc id c.rest = true
  | .endOfText, c => ∃ rest before next, c.rest = '%' :: '{' :: rest ∧
      openSequence ⟨rest, c.byte + 2⟩ = some (before, next) ∧ startsDirective next.rest = false

/-- What the parts of a template do at a cursor does not depend on the text `t` behind it. -/
structure Visible (t : List Char) (closer : Closer) (c : Cursor) : Prop where
  ne_nil : c.rest ≠ []
  sequence : startsSequence (c.rest ++ t) = true → startsSequence c.rest = true
  close : closer.comesNext (c.rest ++ t) = true → closer.comesNext c.rest = true

theorem Stops.visible {closer : Closer} (h : Stops closer c) : Visible t closer c := by
  obtain ⟨cs, byte⟩ := c
  cases closer with
  | quote =>
    obtain ⟨rest, rfl⟩ := List.head?_eq_some_iff.1 (h : cs.head? = some '"')
    exact ⟨List.cons_ne_nil _ _, fun h => h, fun h => h⟩
  | terminator id =>
    have h : closesHeredoc id cs = true := h
    refine ⟨?_, fun hseq => ?_, fun _ => h⟩
    · rintro rfl
      cases h
    · rw [closesHeredoc_eq] at h
      unfold lineBreakText at h
      split at h
      · cases hseq
      · cases hseq
      · cases h
  | endOfText =>
    obtain ⟨rest, before, next, hrest, -, -⟩ := h
    obtain rfl : cs = '%' :: '{' :: rest := hrest
    exact ⟨List.cons_ne_nil _ _, fun h => h, fun h => h⟩

theorem visible_of_sequence {closer : Closer}
    (h : startsSequence c.rest = true) : Visible t closer c := by
  obtain ⟨cs, byte⟩ := c
  dsimp only at h
  refine ⟨?_, fun _ => h, fun hclose => ?_⟩
  · rintro rfl
    cases h
  · unfold startsSequence at h
    split at h
    · cases closer <;> cases hclose
    · cases closer <;> cases hclose
    · cases h

/-- Where parts start that stop before `t`, what they do does not depend on `t`. -/
theorem visible_of_parts {closer : Closer} {c' d' : Cursor} (h : Derives true (.parts closer) c' d')
    (hc : c' = c.ahead t) (hd : d' = d.ahead t) (hstops : Stops closer d) : Visible t closer c := by
  have hsequence : ∀ {x : Char} {rest : List Char}, c'.rest = x :: '{' :: rest →
      (∀ v, startsSequence (x :: '{' :: v) = true) →
      Reaches ⟨rest, c'.byte + 2⟩ (d.ahead t) → Visible t closer c := by
    intro x rest hrest hx hreach
    subst hc
    obtain ⟨cs, hcs, -⟩ := exists_append (w := [x, '{']) hrest (length_le_of_reaches_ahead hreach)
    exact visible_of_sequence (by rw [hcs]; exact hx cs)
  cases h with
  | interpolation hrest hopen hinner hclose hmore =>
    subst hd
    exact hsequence hrest (fun _ => rfl) ((reaches_openSequence hopen).trans
      ((Closes.reaches hinner.moves).trans ((closes_closeSequence hclose).reaches.trans hmore.moves)))
  | @choicePart _ _ c₁ _ _ rest inner _ hrest hopen hinner hpart hmore =>
    subst hd
    have hword : Reaches c₁ ⟨inner, c₁.byte + 2⟩ := ⟨['i', 'f'], hinner, rfl⟩
    exact hsequence hrest (fun _ => rfl) ((reaches_openSequence hopen).trans
      (hword.trans ((Closes.reaches hpart.moves).trans hmore.moves)))
  | @repetitionPart _ _ c₁ _ _ rest inner _ hrest hopen hinner hpart hmore =>
    subst hd
    have hword : Reaches c₁ ⟨inner, c₁.byte + 3⟩ := ⟨['f', 'o', 'r'], hinner, rfl⟩
    exact hsequence hrest (fun _ => rfl) ((reaches_openSequence hopen).trans
      (hword.trans ((Closes.reaches hpart.moves).trans hmore.moves)))
  | partsDirective _ _ _ | partsEnd _ _ =>
    obtain rfl := ahead_inj.1 (hc.symm.trans hd)
    exact hstops.visible
  | literal hne hend hrun hmore =>
    subst hc hd
    have hlt := (Closer.literalRun_moves hne hend hrun).2
    have hle := Reaches.length_le hmore.moves
    refine ⟨?_, fun h => absurd (hne.symm.trans h) (by decide),
      fun h => absurd (hend.symm.trans h) (by decide)⟩
    intro hnil
    simp only [ahead, hnil, List.nil_append, List.length_append] at hlt hle
    omega

theorem Closer.literalRun_of_ahead {closer : Closer} {text : String} (hd : Visible t closer d)
    (h : closer.literalRun (c.ahead t) = .ok (text, d.ahead t)) :
    closer.literalRun c = .ok (text, d) :=
  literalRun_iff.2 ((literalRun_iff.1 h).of_ahead hd.sequence hd.close)

/-! ## Operators -/

/-- An operator is known from its first two characters. -/
theorem operator?_cons_cons {x y : Char} {v : List Char} {r : BinaryOp × Nat}
    (h : operator? (x :: y :: v) = some r) (w : List Char) : operator? (x :: y :: w) = some r := by
  unfold operator? at h
  split at h
  case h_7 | h_15 => cases h
  all_goals
    rename_i heq
    obtain ⟨rfl, htail⟩ := List.cons.inj heq
    obtain ⟨rfl, -⟩ := List.cons.inj htail
    first
      | exact h
      | rw [operator?]
        · exact h
        · assumption

theorem operator?_singleton (x : Char) : operator? [x] = none := by
  unfold operator?
  split
  case h_15 => rfl
  all_goals
    rename_i heq
    cases heq

theorem operator?_of_ahead {cs : List Char} {op : BinaryOp} {length : Nat}
    (h : operator? (cs ++ t) = some (op, length))
    (hle : t.length < ((cs ++ t).drop length).length) :
    operator? cs = some (op, length) ∧ (cs ++ t).drop length = cs.drop length ++ t := by
  have hpos := (reaches_drop (c := ⟨cs ++ t, 0⟩) h).2
  rw [List.length_drop, List.length_append] at hle
  refine ⟨?_, List.drop_append_of_le_length (by omega)⟩
  match cs with
  | [] | [_] =>
    simp only [List.length_nil, List.length_cons] at hle
    omega
  | x :: y :: cs =>
    exact operator?_cons_cons h cs

theorem Stays.of_ahead {cs : List Char} (h : Stays m (cs ++ t)) : Stays m cs := by
  match cs with
  | [] => rfl
  | [x] =>
    unfold Stays
    split
    case h_5 => exact operator?_singleton x
    all_goals
      rename_i heq
      cases heq
  | x :: y :: cs =>
    rw [List.cons_append, List.cons_append] at h
    unfold Stays at h
    split at h
    · rename_i heq
      obtain ⟨rfl, htail⟩ := List.cons.inj heq
      obtain ⟨rfl, -⟩ := List.cons.inj htail
      trivial
    · exact h.elim
    · exact h.elim
    · rename_i heq
      obtain ⟨rfl, -⟩ := List.cons.inj heq
      exact h
    · rename_i hdots hdot hbracket hmark
      unfold Stays
      split
      · trivial
      · exact hdot _ _ (congrArg (· :: _) (List.cons.inj ‹_›).1)
      · exact hbracket _ _ (congrArg (· :: _) (List.cons.inj ‹_›).1)
      · exact (hmark _ _ (congrArg (· :: _) (List.cons.inj ‹_›).1)).elim
      · refine Option.eq_none_iff_forall_ne_some.2 fun r hr => ?_
        rw [operator?_cons_cons hr] at h
        cases h

theorem startsComprehension_append {cs : List Char} (h : startsComprehension cs = true) :
    startsComprehension (cs ++ t) = true := by
  unfold startsComprehension at h
  split at h
  · exact h
  · cases h

theorem startsComprehension_of_ahead {cs : List Char}
    (h : startsComprehension (cs ++ t) = true) (hle : t.length + 4 ≤ (cs ++ t).length) :
    startsComprehension cs = true := by
  generalize hv : cs ++ t = v at h hle
  unfold startsComprehension at h
  split at h
  · rename_i x rest
    simp only [List.length_cons] at hle
    obtain ⟨ds, rfl, -⟩ := exists_append (w := ['f', 'o', 'r', x]) hv (by omega)
    exact h
  · cases h

theorem qualifiers_of_ahead {multiline : Bool} {n : Nat} {names names' : List String}
    (hd : Clear t d) (h : (c.ahead t).qualifiers multiline n names = some (names', d.ahead t)) :
    c.qualifiers multiline n names = some (names', d) := by
  induction n generalizing names c with
  | zero => cases h
  | succ n ih =>
    unfold qualifiers at h ⊢
    obtain ⟨next', hskip, h⟩ := Option.bind_eq_some_iff.1 h
    split at h
    · rename_i hcolons
      obtain ⟨rfl, hc⟩ := Prod.mk.inj (Option.some.inj h)
      obtain rfl := ahead_inj.1 hc
      obtain ⟨next, hnext, hcases⟩ := hd.skip hskip
      have hnone : next.expect [':', ':'] = none := by
        rcases hcases with hnil | rfl
        · simp [expect, hnil]
        · exact expect_none_of_ahead hcolons
      simp only [Option.bind_eq_bind, hnext, Option.bind_some, hnone]
      rfl
    · rename_i c₁ hcolons
      obtain ⟨c₂, h₂, hname⟩ := Option.bind_eq_some_iff.1 h
      obtain ⟨⟨name, c₃⟩, h₃, hnames⟩ := Option.bind_eq_some_iff.1 hname
      obtain ⟨c₃, rfl⟩ := exists_ahead (reaches_of_qualifiers hnames)
      obtain ⟨c₂, rfl⟩ := exists_ahead (closes_name h₃).reaches
      obtain ⟨c₁, rfl⟩ := exists_ahead (reaches_skip h₂)
      obtain ⟨next, rfl⟩ := exists_ahead (reaches_expect hcolons)
      simp only [Option.bind_eq_bind, skip_of_ahead hskip, Option.bind_some,
        expect_of_ahead hcolons, skip_of_ahead h₂, name_of_ahead h₃]
      exact ih hnames

/-! ## Heredocs without a body -/

/-- The text behind the marker of a heredoc whose next line may close it already, if one starts the
text. -/
def brief? (text : List Char) : Option (List Char) := do
  let (_, id, c) ← (ofText text).heredocStart
  let _ ← c.heredocStop id
  return c.rest

/-- No template sequence stands behind a heredoc that its next line may close already. -/
def Unambiguous (text : List Char) : Prop :=
  ∀ v ∈ text.tails, ∀ rest ∈ brief? v, ∀ w ∈ rest.tails, startsSequence w = false

instance (text : List Char) : Decidable (Unambiguous text) :=
  inferInstanceAs (Decidable (∀ v ∈ text.tails, ∀ rest ∈ brief? v, ∀ w ∈ rest.tails, _ = _))

theorem Unambiguous.of_suffix {text rest : List Char} (h : Unambiguous text)
    (hrest : rest <:+ text) : Unambiguous rest := fun v hv =>
  h v ((List.mem_tails _ _).2 (((List.mem_tails _ _).1 hv).trans hrest))

theorem Unambiguous.after (h : Unambiguous c.rest) (hreach : Reaches c d) :
    Unambiguous d.rest := by
  obtain ⟨taken, hrest, -⟩ := hreach
  exact h.of_suffix ⟨taken, hrest.symm⟩

/-- A heredoc that its next line closes. -/
theorem brief?_of_heredocStop {indented : Bool} {id : List Char} {c₁ : Cursor} {gap : Option Span}
    (hstart : c.heredocStart = some (indented, id, c₁)) (hstop : c₁.heredocStop id = some (gap, d)) :
    brief? c.rest = some c₁.rest := by
  have hshift : c.heredocStart = Offset.shift c.byte (ofText c.rest).heredocStart :=
    @heredocStart_shift c.byte (ofText c.rest)
  unfold brief?
  cases hbase : (ofText c.rest).heredocStart with
  | none =>
    rw [hstart, hbase] at hshift
    cases hshift
  | some r =>
    obtain ⟨indented', id', c₀⟩ := r
    rw [hstart, hbase] at hshift
    obtain ⟨-, hr⟩ := Prod.mk.inj (Option.some.inj hshift)
    obtain ⟨hid, hc⟩ := Prod.mk.inj hr
    obtain rfl : id = id' := hid
    obtain rfl : c₁ = Offset.shift c.byte c₀ := hc
    rw [heredocStop_shift] at hstop
    cases hbase' : c₀.heredocStop id with
    | none =>
      rw [hbase'] at hstop
      cases hstop
    | some r => simp only [Option.bind_eq_bind, Option.bind_some, hbase']; rfl

theorem Unambiguous.quiet (h : Unambiguous c.rest) {indented : Bool} {id : List Char}
    {c₁ : Cursor} {gap : Option Span} (hstart : c.heredocStart = some (indented, id, c₁))
    (hstop : c₁.heredocStop id = some (gap, d)) :
    ∀ w, w <:+ c₁.rest → startsSequence w = false := fun w hw =>
  h c.rest ((List.mem_tails _ _).2 (List.suffix_refl _)) c₁.rest
    (brief?_of_heredocStop hstart hstop) w ((List.mem_tails _ _).2 hw)

theorem isTerminator_of_heredocStop {id : List Char} {gap : Option Span}
    (h : c.heredocStop id = some (gap, d)) : isTerminator id c.rest = true := by
  unfold heredocStop at h
  obtain ⟨c₁, h₁, -⟩ := Option.bind_eq_some_iff.1 h
  obtain ⟨hrest, -⟩ := expect_eq_some.1 h₁
  exact List.isPrefixOf_iff_prefix.2 ⟨c₁.rest, hrest.symm⟩

theorem heredocStop_of_isTerminator {id : List Char} (h : isTerminator id c.rest = true) :
    ∃ gap d, c.heredocStop id = some (gap, d) := by
  have hstop : (c.takeWhile fun ch => ch == ' ' || ch == '\t').2.expect id =
      some ⟨_, _⟩ := if_pos h
  unfold heredocStop
  simp only [hstop, Option.bind_eq_bind, Option.bind_some]
  exact ⟨_, _, rfl⟩

theorem closesHeredoc_iff {id cs : List Char} : closesHeredoc id cs = true ↔
    lineBreakText cs ≠ [] ∧ isTerminator id (cs.drop (lineBreakText cs).length) = true := by
  rw [closesHeredoc_eq, Bool.and_eq_true, Bool.not_eq_true', List.isEmpty_eq_false_iff]

theorem startsSequence_of_closesHeredoc {id cs : List Char} (h : closesHeredoc id cs = true) :
    startsSequence cs = false := by
  obtain ⟨hbreak, -⟩ := closesHeredoc_iff.1 h
  unfold startsSequence
  split
  · exact (hbreak rfl).elim
  · exact (hbreak rfl).elim
  · rfl

theorem heredocBody_of_parts {n : Nat} {id : List Char} {ps : List Part}
    (hparts : templateParts n (.terminator id) [] c = .ok (ps, d))
    (h : closesHeredoc id d.rest = true) : ∃ r, heredocBody (n + 1) id c = .ok r := by
  obtain ⟨hbreak, hid⟩ := closesHeredoc_iff.1 h
  obtain ⟨gap, stop, hstop⟩ := @heredocStop_of_isTerminator
    ⟨d.rest.drop (lineBreakText d.rest).length, d.byte + (lineBreakText d.rest).length⟩ id hid
  rw [heredocBody, hparts, ok_bind]
  dsimp only
  split
  · exact (hbreak ‹_›).elim
  · rw [hstop]
    exact ⟨_, rfl⟩

/-- Without sequences a literal of a heredoc ends at the line break before the terminator. -/
theorem closesHeredoc_of_runs {id taken : List Char} {text : String}
    (hquiet : ∀ w, w <:+ c.rest → startsSequence w = false)
    (h : (Closer.terminator id).Runs taken c text d) : closesHeredoc id d.rest = true := by
  induction h with
  | stop hends =>
    cases hends with
    | sequence hseq => exact absurd hseq (Bool.eq_false_iff.1 (hquiet _ (List.suffix_refl _)))
    | closing hclose => exact hclose
  | take _ _ ih => exact ih fun w hw => hquiet w (hw.trans (List.suffix_append _ _))

/-- No sequence starts before a line break that is not there without the text behind. -/
theorem startsSequence_append {id cs ds : List Char} (hsuffix : ds <:+ cs)
    (hclose : closesHeredoc id ds = true) (h : startsSequence cs = false) :
    startsSequence (cs ++ t) = false := by
  match cs with
  | [] =>
    obtain rfl := List.suffix_nil.1 hsuffix
    cases hclose
  | [x] =>
    rcases List.suffix_cons_iff.1 hsuffix with rfl | hnil
    · exact startsSequence_of_closesHeredoc (closesHeredoc_append hclose)
    · obtain rfl := List.suffix_nil.1 hnil
      cases hclose
  | x :: y :: cs =>
    refine Bool.eq_false_iff.2 fun hseq => Bool.eq_false_iff.1 h ?_
    rw [List.cons_append, List.cons_append] at hseq
    unfold startsSequence at hseq
    split at hseq
    · rename_i heq
      obtain ⟨rfl, htail⟩ := List.cons.inj heq
      obtain ⟨rfl, -⟩ := List.cons.inj htail
      rfl
    · rename_i heq
      obtain ⟨rfl, htail⟩ := List.cons.inj heq
      obtain ⟨rfl, -⟩ := List.cons.inj htail
      rfl
    · cases hseq

/-- A literal of a heredoc that ends in a text without sequences ends before a terminator with more
text behind it too, there or earlier. -/
theorem exists_runs_ahead {id taken : List Char} {text : String}
    (hquiet : ∀ w, w <:+ c.rest → startsSequence w = false)
    (htaken : taken = [] → closesHeredoc id (c.rest ++ t) = false)
    (h : (Closer.terminator id).Runs taken c text d) :
    ∃ text' d', (Closer.terminator id).Runs taken (c.ahead t) text' d' ∧
      closesHeredoc id d'.rest = true := by
  have hend := closesHeredoc_of_runs hquiet h
  induction h with
  | @stop taken w rest byte hends hfinish =>
    cases hends with
    | sequence hseq => exact absurd hseq (Bool.eq_false_iff.1 (hquiet _ (List.suffix_refl _)))
    | closing hclose =>
      have hclose' := closesHeredoc_append (t := t) hclose
      exact ⟨_, _, .here (.closing hclose') hfinish, hclose'⟩
  | @take taken w y rest byte text d htakes hmore ih =>
    have hquiet' : ∀ v, v <:+ rest → startsSequence v = false :=
      fun v hv => hquiet v (hv.trans (List.suffix_append _ _))
    have hd : d.rest <:+ rest := by
      obtain ⟨before, hbefore, -⟩ := hmore.reaches
      exact ⟨before, hbefore.symm⟩
    have hmore' := ih hquiet'
      (fun hnil => absurd hnil (List.append_ne_nil_of_left_ne_nil htakes.ne_nil.2 _)) hend
    cases htakes with
    | @doubled _ x _ hx =>
      have hseq := startsSequence_of_isMarker hx rest
      exact absurd hseq (Bool.eq_false_iff.1 (hquiet _ (List.suffix_cons x _)))
    | @char _ x _ hord =>
      cases hfull : closesHeredoc id (x :: (rest ++ t)) with
      | true =>
        have hne : taken ≠ [] := fun hnil => Bool.eq_false_iff.1 (htaken hnil) hfull
        exact ⟨_, _, .here (.closing hfull) (.inr hne), hfull⟩
      | false =>
        obtain ⟨text', d', hrun, hclose⟩ := hmore'
        have hx : startsSequence (x :: rest ++ t) = false :=
          startsSequence_append (hd.trans (List.suffix_cons x rest)) hend
            (hquiet _ (List.suffix_refl _))
        have hrest : startsSequence (rest ++ t) = false :=
          startsSequence_append hd hend (hquiet' _ (List.suffix_refl _))
        have hord' : Ordinary (.terminator id) x (rest ++ t) := by
          refine ⟨?_, ?_, hfull⟩
          · rintro hm ⟨more, hmore⟩
            rw [List.cons_append, ← hmore] at hx
            exact Bool.eq_false_iff.1 hx (startsSequence_of_isMarker hm more)
          · rintro hm ⟨more, hmore⟩
            rw [← hmore] at hrest
            exact Bool.eq_false_iff.1 hrest (startsSequence_of_isMarker hm more)
        have hrun' : (Closer.terminator id).Runs taken ⟨[x] ++ (rest ++ t), byte⟩ text' d' :=
          .take (.char hord') hrun
        exact ⟨text', d', hrun', hclose⟩

/-- A body that cannot be read is not read with less text behind it either, if it has no
sequences. -/
theorem heredocBody_unfinished {n : Nat} {id : List Char}
    (hquiet : ∀ w, w <:+ c.rest → startsSequence w = false)
    (h : heredocBody n id (c.ahead t) = .error .unfinished) :
    heredocBody n id c = .error .unfinished := by
  obtain ⟨cs, byte⟩ := c
  have hn : 2 ≤ n := by
    rcases n with - | - | n
    · rw [heredocBody] at h
      cases h
    · rw [heredocBody, templateParts] at h
      cases h
    · omega
  obtain ⟨n, rfl⟩ := Nat.exists_eq_add_of_le' hn
  -- Had the body been read without `t`, so it had been with it.
  have hparts : ∀ {ps d'}, templateParts (n + 1) (.terminator id) []
      (Cursor.ahead t ⟨cs, byte⟩) = .ok (ps, d') → closesHeredoc id d'.rest = false := by
    intro ps d' hparts
    refine Bool.eq_false_iff.2 fun hclose => ?_
    obtain ⟨r, hr⟩ := heredocBody_of_parts hparts hclose
    rw [hr] at h
    cases h
  have hfull : startsSequence (cs ++ t) = false → closesHeredoc id (cs ++ t) = false := by
    intro hseq
    refine Bool.eq_false_iff.2 fun hclose => ?_
    have hends := @hparts [] (Cursor.ahead t ⟨cs, byte⟩) (by
      rw [parts_of_literal hseq]
      exact if_pos hclose)
    exact Bool.eq_false_iff.1 hends hclose
  have hopen : closesHeredoc id cs = false := by
    refine Bool.eq_false_iff.2 fun hclose => ?_
    have hclose' := closesHeredoc_append (t := t) hclose
    exact Bool.eq_false_iff.1 (hfull (startsSequence_of_closesHeredoc hclose')) hclose'
  have hrun : heredocRun id [] byte cs = none := by
    refine Option.eq_none_iff_forall_ne_some.2 ?_
    rintro ⟨text, d⟩ hrun
    replace hrun := heredocRun_iff.1 hrun
    obtain ⟨before, hbefore, -⟩ := hrun.reaches
    have hseq : startsSequence (cs ++ t) = false :=
      startsSequence_append ⟨before, hbefore.symm⟩ (closesHeredoc_of_runs hquiet hrun)
        (hquiet _ (List.suffix_refl _))
    obtain ⟨text', d', hrun', hends⟩ := exists_runs_ahead (t := t) hquiet (fun _ => hfull hseq) hrun
    have hliteral' := Closer.literalRun_iff.2 hrun'
    have hliteral : templateParts (n + 1) (.terminator id) [] (Cursor.ahead t ⟨cs, byte⟩) =
        templateParts n (.terminator id) [.literal text'] d' := by
      rw [parts_of_literal hseq]
      refine (if_neg (Bool.eq_false_iff.1 (hfull hseq))).trans ?_
      rw [hliteral']
      rfl
    cases n with
    | zero =>
      simp only [heredocBody, hliteral, templateParts] at h
      cases h
    | succ n =>
      have hstop : templateParts (n + 1) (.terminator id) [.literal text'] d' =
          .ok ([.literal text'], d') := by
        rw [parts_of_literal (startsSequence_of_closesHeredoc hends)]
        exact if_pos hends
      exact Bool.eq_false_iff.1 (hparts (hliteral.trans hstop)) hends
  have hwindow : templateParts (n + 1) (.terminator id) [] ⟨cs, byte⟩ = .error .unfinished := by
    rw [parts_of_literal (hquiet _ (List.suffix_refl _))]
    refine (if_neg (Bool.eq_false_iff.1 hopen)).trans ?_
    simp only [Closer.literalRun, hrun]
    rfl
  rw [heredocBody, hwindow]
  rfl

/-! ## How far readers get -/

theorem closes_expr {e : Expr} (h : expr n m c = .ok (e, d)) : Closes c d :=
  ((sound n).expr h).moves

theorem closes_term {form : Form} (h : term n m c = .ok (form, a, d)) : Closes c d :=
  ((sound n).term h).moves

theorem reaches_yielded {keyed grouped : Bool} {key : Option Expr} {value : Expr}
    (h : yielded n m keyed c = .ok (key, value, grouped, d)) : Reaches c d :=
  ((sound n).yielded h).moves

theorem reaches_templateParts {closer : Closer} {ps ps' : List Part}
    (h : templateParts n closer ps c = .ok (ps', d)) : Reaches c d :=
  ((sound n).parts h).moves

theorem reaches_directiveBody {ps : List Part} (h : directiveBody n c = .ok (ps, d)) :
    Reaches c d :=
  ((sound n).directiveBody h).moves

theorem reaches_heredocStop {id : List Char} {gap : Option Span}
    (h : c.heredocStop id = some (gap, d)) : Reaches c d := by
  unfold heredocStop at h
  obtain ⟨c₁, h₁, h⟩ := Option.bind_eq_some_iff.1 h
  obtain rfl : c₁ = d := (Prod.mk.inj (Option.some.inj h)).2
  exact (reaches_takeWhile _ c).trans (reaches_expect h₁)

theorem reaches_heredocBody {id : List Char} {ps : List Part} {gap : Option Span}
    (h : heredocBody n id c = .ok (ps, gap, d)) : Reaches c d := by
  cases (sound n).heredocBody h with
  | heredocBody hparts _ hstop =>
    exact (Reaches.trans hparts.moves (reaches_lineBreakText _)).trans (reaches_heredocStop hstop)

theorem exists_skip_of_entries (h : Derives true .entries c d) :
    ∃ next, c.skipLines = some next ∧ Reaches next d := by
  cases h with
  | entriesEnd hskip hrest => exact ⟨_, hskip, reaches_cons hrest rfl⟩
  | entriesLast hskip _ hentry hrest =>
    exact ⟨_, hskip, (And.left hentry.moves).trans (reaches_cons hrest rfl)⟩
  | entriesComma hskip _ hentry hrest hmore =>
    exact ⟨_, hskip, ((And.left hentry.moves).trans (reaches_cons hrest rfl)).trans
      (Closes.reaches hmore.moves)⟩
  | entriesLine hskip _ hentry hbreak hmore =>
    exact ⟨_, hskip, ((And.left hentry.moves).trans (reaches_lineBreak hbreak)).trans
      (Closes.reaches hmore.moves)⟩

theorem exists_skip_of_elements {call : Bool} (h : Derives true (.elements call m) c d) :
    ∃ next, c.skipLines = some next ∧ Reaches next d := by
  cases h with
  | elementsEnd hskip hrest => exact ⟨_, hskip, (closes_closing hrest).reaches⟩
  | elementsLast hskip _ helement h₂ hrest =>
    exact ⟨_, hskip, ((Closes.reaches helement.moves).trans (reaches_skip h₂)).trans
      (closes_closing hrest).reaches⟩
  | elementsMore hskip _ helement h₂ hrest hmore =>
    exact ⟨_, hskip, (((Closes.reaches helement.moves).trans (reaches_skip h₂)).trans
      (reaches_cons hrest rfl)).trans (Closes.reaches hmore.moves)⟩
  | @elementsSpread _ _ _ _ c₂ _ _ rest hskip _ helement h₂ hrest h₃ hclose =>
    have hdots : Reaches c₂ ⟨rest, c₂.byte + 3⟩ := ⟨['.', '.', '.'], hrest, rfl⟩
    exact ⟨_, hskip, ((((Closes.reaches helement.moves).trans (reaches_skip h₂)).trans hdots).trans
      (reaches_skip h₃)).trans (reaches_expect hclose)⟩

/-- A comprehension has at least its first word and a collection. -/
theorem length_of_comprehension {keyed : Bool} (h : Derives true (.comprehension m keyed) c d) :
    d.rest.length + 4 ≤ c.rest.length := by
  have hgenerator : ∀ {c d : Cursor}, Derives true (.generator m keyed) c d →
      d.rest.length + 4 ≤ c.rest.length := by
    intro c d h
    cases h with
    | generator hfor hnames h₃ hcollection h₅ hcolon h₇ hyielded =>
      have hword := congrArg List.length (expect_eq_some.1 hfor).1
      have hbefore := ((reaches_loopNames hnames).trans (reaches_skip h₃)).length_le
      have hlt := Closes.length_lt hcollection.moves
      have hafter := (((reaches_skip h₅).trans (reaches_expect hcolon)).trans
        ((reaches_skip h₇).trans hyielded.moves)).length_le
      simp only [List.length_append, List.length_cons, List.length_nil] at hword
      omega
  cases h with
  | unfiltered h _ => exact hgenerator h
  | filtered h hif h₃ hcond h₅ =>
    have hlen := hgenerator h
    have hafter := (((reaches_expect hif).trans (reaches_skip h₃)).trans
      ((Closes.reaches hcond.moves).trans (reaches_skip h₅))).length_le
    omega

/-- What is negated stands behind the blanks after its sign. -/
theorem closes_of_minus {next : Cursor} {rest : List Char} (h : Derives true (.term m a) c d)
    (hrest : c.rest = '-' :: rest) (hskip : skipInline ⟨rest, c.byte + 1⟩ = some next) :
    Closes next d := by
  cases h with
  | negative hrest' hskip' hnumber =>
    obtain ⟨-, rfl⟩ := List.cons.inj (hrest'.symm.trans hrest)
    obtain rfl := Option.some.inj (hskip'.symm.trans hskip)
    exact closes_number hnumber
  | neg hrest' hskip' _ _ hoperand =>
    obtain ⟨-, rfl⟩ := List.cons.inj (hrest'.symm.trans hrest)
    cases hoperand with
    | operand h₁ hterm =>
      obtain rfl := Option.some.inj (h₁.symm.trans hskip)
      exact hterm.moves
  | number hnumber =>
    obtain ⟨x, xs, hx, hdigit⟩ := isDigit_of_number hnumber
    obtain ⟨rfl, -⟩ := List.cons.inj (hx.symm.trans hrest)
    cases hdigit
  | wordTerm hx hword _ =>
    obtain ⟨rfl, -⟩ := List.cons.inj (hx.symm.trans hrest)
    cases hword
  | quoted hrest' _ _ | arrayFor hrest' _ _ _ _ | array hrest' _ _ _ | objectFor hrest' _ _ _ _
  | object hrest' _ _ _ | parens hrest' _ _ _ _ | heredocTerm hrest' _ | not hrest' _ =>
    cases hrest'.symm.trans hrest

/-! ## The text before `t` -/

/-- What is read before `t` starts with a text before `t`. -/
theorem exists_rest {rest : List Char} {byte : Nat} (h : Reaches ⟨rest, byte⟩ (d.ahead t)) :
    ∃ rest', rest = rest' ++ t := by
  obtain ⟨c, hc⟩ := exists_ahead h
  exact ⟨c.rest, congrArg Cursor.rest hc⟩

theorem exists_rest_cons {x : Char} {rest : List Char} {byte : Nat}
    (h : Closes ⟨x :: rest, byte⟩ (d.ahead t)) : ∃ rest', rest = rest' ++ t := by
  have hlt := h.length_lt
  obtain ⟨rest', hrest⟩ := exists_rest h.reaches
  cases rest' with
  | nil =>
    dsimp only [ahead] at hlt
    rw [hrest, List.length_append, List.nil_append] at hlt
    omega
  | cons y rest' => exact ⟨rest', (List.cons.inj hrest).2⟩

/-- A character in front of which something is read without `t` stands before `t`. -/
theorem exists_cons_of_closes {x : Char} {rest : List Char} (hrest : (c.ahead t).rest = x :: rest)
    (h : Closes c d) : ∃ rest', c.rest = x :: rest' ∧ rest = rest' ++ t := by
  have hlt := h.length_lt
  obtain ⟨cs, byte⟩ := c
  cases cs with
  | nil => cases hlt
  | cons y cs =>
    obtain ⟨rfl, rfl⟩ := List.cons.inj hrest
    exact ⟨cs, rfl, rfl⟩

/-- A character before what is read before `t` stands before `t` as well. -/
theorem exists_cons_ahead {x : Char} {rest : List Char} (hrest : c.rest = x :: rest)
    (hsize : x.utf8Size = 1) (h : Reaches ⟨rest, c.byte + 1⟩ (d.ahead t)) :
    ∃ c' rest', c = ahead t c' ∧ c'.rest = x :: rest' ∧ rest = rest' ++ t := by
  obtain ⟨c', rfl⟩ := exists_ahead ((reaches_cons hrest hsize).trans h)
  obtain ⟨rest', hrest', rfl⟩ := exists_append (w := [x]) hrest (length_le_of_reaches_ahead h)
  exact ⟨c', rest', rfl, hrest', rfl⟩

theorem exists_cons_end {x : Char} {rest : List Char} (hrest : c.rest = x :: rest)
    (hsize : x.utf8Size = 1) (hd : ⟨rest, c.byte + 1⟩ = d.ahead t) :
    ∃ c' rest', c = ahead t c' ∧ c'.rest = x :: rest' ∧ d = ⟨rest', c'.byte + 1⟩ := by
  have hreach : Reaches ⟨rest, c.byte + 1⟩ (d.ahead t) := by
    rw [hd]
    exact .refl _
  obtain ⟨c', rest', rfl, hrest', rfl⟩ := exists_cons_ahead hrest hsize hreach
  exact ⟨c', rest', rfl, hrest', ((@ahead_inj t ⟨rest', c'.byte + 1⟩ d).1 hd).symm⟩

theorem head?_ne_of_ahead {x : Char} (h : (c.ahead t).rest.head? ≠ some x) :
    c.rest.head? ≠ some x := by
  intro hhead
  obtain ⟨rest, hrest⟩ := List.head?_eq_some_iff.1 hhead
  exact h (List.head?_eq_some_iff.2 ⟨rest ++ t, congrArg (· ++ t) hrest⟩)

theorem skipLines_of_token {x : Char} {rest : List Char} (hrest : c.rest = x :: rest)
    (hx : endsBlanks x = true) : (c.ahead t).skipLines = some (c.ahead t) :=
  skip_stop (congrArg (· ++ t) hrest) hx

theorem skipLines_of_expect {x : Char} {w : List Char} (h : c.expect (x :: w) = some d)
    (hx : endsBlanks x = true) : (c.ahead t).skipLines = some (c.ahead t) :=
  skipLines_of_token (expect_eq_some.1 h).1 hx

theorem clear_of_closeSequence {strip : Bool}
    (h : (c.ahead t).closeSequence = some (strip, d.ahead t)) : Clear t c := by
  unfold closeSequence at h
  obtain ⟨c₁, h₁, h⟩ := Option.bind_eq_some_iff.1 h
  obtain ⟨c₂, h₂, h⟩ := Option.bind_eq_some_iff.1 h
  obtain rfl : c₂ = d.ahead t := (Prod.mk.inj (Option.some.inj h)).2
  obtain ⟨c₁, rfl⟩ := exists_ahead ((reaches_skipIf ['~'] c₁).trans (reaches_expect h₂))
  exact .inr ⟨c₁, h₁⟩

/-- A directive that ends a part of a template stops its parts. -/
theorem stops_of_bareDirective {word : List Char} {seq : Sequence}
    (hword : ∀ rest, startsDirective (word ++ rest) = false)
    (h : c.bareDirective word = some (seq, d)) : Stops .endOfText c := by
  unfold bareDirective at h
  obtain ⟨c₁, h₁, h⟩ := Option.bind_eq_some_iff.1 h
  obtain ⟨⟨before, c₂⟩, h₂, h⟩ := Option.bind_eq_some_iff.1 h
  obtain ⟨c₃, h₃, -⟩ := Option.bind_eq_some_iff.1 h
  obtain ⟨hrest, hbyte⟩ := expect_eq_some.1 h₁
  obtain ⟨rest, byte⟩ := c₁
  obtain rfl : byte = c.byte + 2 := hbyte
  refine ⟨rest, before, c₂, hrest, h₂, ?_⟩
  rw [(expect_eq_some.1 h₃).1]
  exact hword _

/-- An `endif` is no `else`. -/
theorem bareDirective_else_of_endif {seq : Sequence}
    (h : c.bareDirective ['e', 'n', 'd', 'i', 'f'] = some (seq, d)) :
    c.bareDirective ['e', 'l', 's', 'e'] = none := by
  unfold bareDirective at h ⊢
  obtain ⟨c₁, h₁, h⟩ := Option.bind_eq_some_iff.1 h
  obtain ⟨⟨before, c₂⟩, h₂, h⟩ := Option.bind_eq_some_iff.1 h
  obtain ⟨c₃, h₃, -⟩ := Option.bind_eq_some_iff.1 h
  have helse : c₂.expect ['e', 'l', 's', 'e'] = none := by
    unfold expect
    rw [(expect_eq_some.1 h₃).1]
    rfl
  simp only [Option.bind_eq_bind, h₁, h₂, helse, Option.bind_some, Option.bind_none]

theorem closesHeredoc_of_heredocStop {id : List Char} {gap : Option Span}
    (hbreak : lineBreakText c.rest ≠ [])
    (h : heredocStop id ⟨c.rest.drop (lineBreakText c.rest).length,
      c.byte + (lineBreakText c.rest).length⟩ = some (gap, d)) : closesHeredoc id c.rest = true :=
  closesHeredoc_iff.2 ⟨hbreak, isTerminator_of_heredocStop h⟩

theorem templateParts_of_stops {closer : Closer} {ps : List Part} (h : Stops closer c) :
    templateParts (n + 1) closer ps c = .ok (ps, c) := by
  cases closer with
  | quote =>
    obtain ⟨rest, hrest⟩ := List.head?_eq_some_iff.1 (h : c.rest.head? = some '"')
    rw [parts_of_literal (by rw [hrest]; rfl)]
    exact if_pos (by rw [hrest]; rfl)
  | terminator id =>
    rw [parts_of_literal (startsSequence_of_closesHeredoc h)]
    exact if_pos h
  | endOfText =>
    obtain ⟨rest, before, next, hrest, hopen, hinner⟩ := h
    exact parts_succ_iff.2 (.directive hrest hopen hinner)

theorem Closer.comesNext_append {closer : Closer} {cs : List Char} (hne : cs ≠ [])
    (h : closer.comesNext cs = true) : closer.comesNext (cs ++ t) = true := by
  cases cs with
  | nil => exact absurd rfl hne
  | cons x cs =>
    cases closer with
    | quote => exact h
    | terminator id =>
      have hcloses : closesHeredoc id (x :: cs) = true := h
      exact closesHeredoc_append hcloses
    | endOfText => exact h

theorem startsSequence_of_append {cs : List Char} (h : startsSequence (cs ++ t) = false) :
    startsSequence cs = false := by
  unfold startsSequence
  split
  · cases h
  · cases h
  · rfl

theorem not_startsComprehension_of_ahead (h : startsComprehension (c.ahead t).rest = false) :
    startsComprehension c.rest = false :=
  Bool.eq_false_iff.2 fun hfor => Bool.eq_false_iff.1 h (startsComprehension_append hfor)

theorem operations_stay_of_ahead {e : Expr} {start : Nat} {next : Cursor} (hd : Clear t c)
    (hskip : (c.ahead t).skip m.multiline = some next) (hstay : Stays m next.rest) :
    operations (n + 1) m start e c = .ok (e, c) := by
  obtain ⟨next₀, hskip₀, hnext⟩ := hd.skip hskip
  refine operations_succ_iff.2 (.stay hskip₀ ?_)
  rcases hnext with hnil | rfl
  · rw [hnil]
    rfl
  · exact hstay.of_ahead

theorem exists_comprehension {keyed : Bool} {next c₁ : Cursor} (hs : Unambiguous c.rest)
    (hskip : (c.ahead t).skipLines = some next) (hfor : startsComprehension next.rest = true)
    (hform : Derives true (.comprehension m keyed) next c₁) (hreach : Reaches c₁ (d.ahead t)) :
    ∃ next', c.skipLines = some next' ∧ startsComprehension next'.rest = true ∧
      Unambiguous next'.rest ∧ next = next'.ahead t := by
  obtain ⟨next', rfl⟩ := exists_ahead (Reaches.trans hform.moves hreach)
  have hskip' := skip_of_ahead hskip
  have hlen := length_of_comprehension hform
  have hle := (length_le_of_eq_ahead (d := d) rfl).trans hreach.length_le
  exact ⟨next', hskip', startsComprehension_of_ahead hfor (by dsimp only [ahead] at hlen; omega),
    hs.after (reaches_skip hskip'), rfl⟩

end TerraLint.Hcl
