import TerraLint.Proofs.Hcl.RespacedText

/-!
# Expressions in a text with other blanks at their lines

A phrase that stands in a text stands in the same text in another layout, between the same places.
What an expression reads depends on one character behind it at most: where the first text ends, an
operator would have to go on in the second one.

* `Concluded`: no operation starts behind the blanks here, whatever follows.
* `Respaces`: a phrase stands in the other layout, too.
* `Derives.respaced`: every phrase does.
-/

namespace TerraLint.Hcl

open Text Cursor

/-- Behind the blanks here stands no single character with which an operation may start. -/
def Concluded (c : Cursor) : Prop := ∀ next, c.skipLines = some next → ¬Lone next.rest

/-- Something is left, and it is no directive that ends behind its opening. -/
structure Closable (c : Cursor) : Prop where
  ne_nil : c.rest ≠ []
  opened : ∀ {rest before c₁}, c.rest = '%' :: '{' :: rest →
    openSequence ⟨rest, c.byte + 2⟩ = some (before, c₁) → c₁.rest ≠ []

/-- Two cursors at which a phrase starts in both layouts. -/
def Starts (t : List Char) : Phrase → Cursor → Cursor → Prop
  | .entries, c, c' | .elements _ _, c, c' => Near t c c'
  | .heredocBody id, c, c' => IsName id ∧ Near t c c'
  | .parts closer, c, c' =>
    closer.Named ∧ ∃ o, Respaced t o c.rest c'.rest ∧ Begins closer o c.rest
  | _, c, c' => Tight t c c'

/-- What has to be known of the text behind a phrase. -/
def Followed : Phrase → Cursor → Prop
  | .expr _, d | .operations _, d => Concluded d
  | .entry, d => Concluded d ∧ d.rest ≠ []
  | .comprehension _ _, d | .generator _ _, d | .yielded _ _, d => d.rest ≠ [] ∧ ¬Lone d.rest
  | .parts _, d | .directiveBody, d | .condition, d => Closable d
  | _, _ => True

/-- A phrase stands in the other layout, too. There each of its heredocs has a line. -/
def Respaces (t : List Char) (p : Phrase) (c d : Cursor) : Prop :=
  ∀ c', Starts t p c c' → Followed p d → ∃ d', Derives false p c' d' ∧ Tight t d d'

variable {t : List Char} {c d c' c₁ c₂ c₃ c₄ c₅ c₆ c₇ next : Cursor} {m a : Mode} {x y : Char}
  {rest : List Char} {closer : Closer} {keyed : Bool}

/-! ## What follows a phrase -/

theorem skipLines_of_lone (h : Lone c.rest) : c.skipLines = some c := by
  obtain ⟨cs, byte⟩ := c
  obtain ⟨x, hx, hmem⟩ := h
  obtain rfl : cs = [x] := hx
  simp only [List.mem_cons, List.not_mem_nil, or_false] at hmem
  rcases hmem with rfl | rfl | rfl | rfl | rfl | rfl | rfl | rfl | rfl | rfl
  all_goals rfl

theorem not_lone_of_cons (hx : x ∉ ['.', '[', '?', '<', '>', '+', '-', '*', '/', '%']) :
    ¬Lone (x :: rest) := by
  rintro ⟨y, hy, hmem⟩
  rw [← (List.cons.inj hy).1] at hmem
  exact hx hmem

theorem not_lone_of_length {cs : List Char} (h : 2 ≤ cs.length) : ¬Lone cs := by
  rintro ⟨x, rfl, -⟩
  simp at h

theorem not_lone_nil : ¬Lone [] := by
  rintro ⟨x, hx, -⟩
  cases hx

theorem Concluded.not_lone {multiline : Bool} (h : Concluded c) (hskip : c.skip multiline = some next) :
    ¬Lone next.rest := by
  intro hlone
  exact h next ((skip_again (fun _ => rfl) hskip).trans (skipLines_of_lone hlone)) hlone

theorem Concluded.of_skip {multiline : Bool} (h : Concluded next) (hskip : c.skip multiline = some next) :
    Concluded c := fun next' hnext => h next' ((skip_again (fun _ => rfl) hskip).symm.trans hnext)

theorem concluded_of_skipLines (hskip : c.skipLines = some next) (h : ¬Lone next.rest) :
    Concluded c := by
  intro next' hnext
  obtain rfl := Option.some.inj (hskip.symm.trans hnext)
  exact h

theorem concluded_of_token {multiline : Bool} (hskip : c.skip multiline = some next)
    (hrest : next.rest = x :: rest) (hx : endsBlanks x = true) (h : ¬Lone (x :: rest)) :
    Concluded c :=
  .of_skip (concluded_of_skipLines (skip_stop hrest hx) (hrest ▸ h)) hskip

theorem concluded_of_operations (h : Derives true (.operations m) c d) (hd : Concluded d) :
    Concluded c := by
  cases h with
  | stay => exact hd
  | dot hskip hrest => exact concluded_of_token hskip hrest (by decide) (not_lone_of_length (by simp))
  | indexed hskip hrest =>
    exact concluded_of_token hskip hrest (by decide) (not_lone_of_length (by simp))
  | conditional hskip hrest =>
    exact concluded_of_token hskip hrest (by decide) (not_lone_of_length (by simp))
  | binary hskip hop =>
    refine .of_skip (concluded_of_skipLines (skipLines_of_operator hskip hop) ?_) hskip
    rintro ⟨x, hx, -⟩
    rw [hx, operator?_singleton] at hop
    cases hop

theorem concluded_of_closeSequence {after : Bool} (h : c.closeSequence = some (after, d)) :
    Concluded c := by
  rw [closeSequence_eq] at h
  obtain ⟨c₁, h₁, h⟩ := Option.bind_eq_some_iff.1 h
  obtain ⟨c₂, h₂, -⟩ := Option.bind_eq_some_iff.1 h
  refine concluded_of_skipLines h₁ ?_
  rcases skipIf_cases ['~'] c₁ with ⟨e, he, -⟩ | ⟨-, hskip⟩
  · rw [(expect_eq_some.1 he).1]
    exact not_lone_of_cons (by decide)
  · rw [hskip] at h₂
    rw [(expect_eq_some.1 h₂).1]
    exact not_lone_of_cons (by decide)

theorem closable_of_cons (hrest : c.rest = x :: rest) (hx : x ≠ '%') : Closable c where
  ne_nil := by simp [hrest]
  opened hpercent := by
    rw [hrest] at hpercent
    exact absurd (List.cons.inj hpercent).1 hx

theorem closable_of_bareDirective {w : List Char} {sequence : Sequence} (hw : w ≠ [])
    (h : c.bareDirective w = some (sequence, d)) : Closable c := by
  unfold bareDirective at h
  obtain ⟨c₁, h₁, h⟩ := Option.bind_eq_some_iff.1 h
  obtain ⟨⟨before, c₂⟩, h₂, h⟩ := Option.bind_eq_some_iff.1 h
  obtain ⟨c₃, h₃, -⟩ := Option.bind_eq_some_iff.1 h
  refine ⟨ne_nil_of_expect h₁ (by simp), fun {rest before' c₁'} hrest hopen => ?_⟩
  obtain ⟨hrest', hbyte⟩ := expect_eq_some.1 h₁
  have heq : (⟨rest, c.byte + 2⟩ : Cursor) = c₁ := by
    obtain ⟨cs, byte⟩ := c₁
    obtain rfl : byte = c.byte + 2 := hbyte
    have hbehind : ['%', '{'] ++ rest = ['%', '{'] ++ cs := hrest.symm.trans hrest'
    rw [List.append_cancel_left hbehind]
  rw [heq, h₂] at hopen
  rw [← (Prod.mk.inj (Option.some.inj hopen)).2]
  exact ne_nil_of_expect h₃ hw

/-! ## How a phrase starts -/

theorem ne_nil_of_closes (h : Closes c d) : c.rest ≠ [] := by
  intro hnil
  have hlt := h.length_lt
  rw [hnil] at hlt
  simp at hlt

theorem length_of_entry (h : Derives true .entry c d) : d.rest.length + 3 ≤ c.rest.length := by
  cases h with
  | entry hkey h₂ hsign h₄ hvalue h₆ =>
    have hkey := Closes.length_lt hkey.moves
    have hvalue := Closes.length_lt hvalue.moves
    have hsign := hsign.elim (closes_bracket · (by decide)) (closes_bracket · (by decide))
    have hsign := hsign.length_lt
    have h₂ := length_le_of_skip h₂
    have h₄ := length_le_of_skip h₄
    have h₆ := length_le_of_skip h₆
    omega

/-- Entries have a closing brace, and an entry before it has three tokens. -/
theorem next_of_entries (h : Derives true .entries c d) : ∃ next, c.skipLines = some next ∧
    next.rest ≠ [] ∧ ¬Lone next.rest ∧ next.rest ≠ ['f', 'o', 'r'] := by
  have hlong : ∀ {cs : List Char}, 4 ≤ cs.length →
      cs ≠ [] ∧ ¬Lone cs ∧ cs ≠ ['f', 'o', 'r'] := by
    intro cs hcs
    refine ⟨?_, not_lone_of_length (by omega), ?_⟩
    all_goals
      rintro rfl
      simp at hcs
  cases h with
  | entriesEnd hskip hrest =>
    refine ⟨_, hskip, ?_⟩
    rw [hrest]
    exact ⟨List.cons_ne_nil _ _, not_lone_of_cons (by decide), by simp⟩
  | entriesLast hskip _ hentry hrest | entriesComma hskip _ hentry hrest =>
    have hlength := length_of_entry hentry
    rw [hrest, List.length_cons] at hlength
    exact ⟨_, hskip, hlong (by omega)⟩
  | entriesLine hskip _ hentry hbreak =>
    have hlength := length_of_entry hentry
    have hpos := List.length_pos_iff.2 (ne_nil_of_lineBreak hbreak)
    exact ⟨_, hskip, hlong (by omega)⟩

/-- Elements have a closing bracket or a separator. -/
theorem next_of_elements {call : Bool} (h : Derives true (.elements call m) c d) :
    ∃ next, c.skipLines = some next ∧ next.rest ≠ [] ∧ next.rest ≠ ['f', 'o', 'r'] := by
  have hmem : ∀ {next e : Cursor} {x rest}, Reaches next e → e.rest = x :: rest →
      x ∉ ['f', 'o', 'r'] → next.rest ≠ [] ∧ next.rest ≠ ['f', 'o', 'r'] := by
    rintro next e x rest ⟨taken, hrest, -⟩ he hx
    have hx' : x ∈ next.rest := by
      rw [hrest, he]
      simp
    exact ⟨List.ne_nil_of_mem hx', fun heq => hx (heq ▸ hx')⟩
  have hclosing : closing call ∉ ['f', 'o', 'r'] := by
    cases call
    all_goals decide
  cases h with
  | elementsEnd hskip hrest => exact ⟨_, hskip, hmem (.refl _) hrest hclosing⟩
  | elementsLast hskip _ helement h₂ hrest =>
    exact ⟨_, hskip, hmem ((Closes.reaches helement.moves).trans (reaches_skip h₂)) hrest hclosing⟩
  | elementsMore hskip _ helement h₂ hrest | elementsSpread hskip _ helement h₂ hrest =>
    exact ⟨_, hskip,
      hmem ((Closes.reaches helement.moves).trans (reaches_skip h₂)) hrest (by decide)⟩

theorem names_of_comprehension (h : Derives true (.comprehension m keyed) c d) :
    ∃ c₁ r, c.expect ['f', 'o', 'r'] = some c₁ ∧ c₁.loopNames = some r := by
  have hgenerator : ∀ {d}, Derives true (.generator m keyed) c d →
      ∃ c₁ r, c.expect ['f', 'o', 'r'] = some c₁ ∧ c₁.loopNames = some r := by
    intro d h
    cases h with
    | generator hfor hnames => exact ⟨_, _, hfor, hnames⟩
  cases h with
  | unfiltered h => exact hgenerator h
  | filtered h => exact hgenerator h

/-! ## Characters in both layouts -/

theorem tight_cons (h : Tight t c c') (hrest : c.rest = x :: rest) (hx : isRigid x = true) :
    ∃ s, c'.rest = x :: s ∧ ∀ {byte byte'}, Tight t ⟨rest, byte⟩ ⟨s, byte'⟩ := by
  obtain ⟨p, h⟩ := h
  rw [hrest] at h
  obtain ⟨s, hs, -, h⟩ := h.rigid_tight hx
  exact ⟨s, hs, ⟨x, h⟩⟩

theorem tight_cons_cons (h : Tight t c c') (hrest : c.rest = x :: y :: rest)
    (hx : isRigid x = true) : ∃ z s, c'.rest = x :: z :: s ∧
      ∀ {byte byte'}, Tight t ⟨y :: rest, byte⟩ ⟨z :: s, byte'⟩ := by
  obtain ⟨s, hs, htight⟩ := tight_cons h hrest hx
  obtain ⟨p, hp⟩ := @htight 0 0
  obtain ⟨z, s, rfl⟩ := List.exists_cons_of_ne_nil hp.ne_nil
  exact ⟨z, s, hs, htight⟩

theorem calm_of_tight (h : Tight t c c') (hrest : c.rest = x :: rest) (hx : isRigid x = true) :
    Calm c.rest := by
  obtain ⟨p, h⟩ := h
  rw [hrest] at h ⊢
  obtain ⟨s, hs, hcalm, h⟩ := h.rigid_tight hx
  exact hcalm

/-- A token behind blanks. -/
theorem token_near (ht : Ends t) (h : Near t c c') {multiline : Bool}
    (hskip : c.skip multiline = some next) (hrest : next.rest = x :: rest) (hx : isRigid x = true) :
    ∃ next' s, c'.skip multiline = some next' ∧ next'.rest = x :: s ∧ Tight t next next' ∧
      ∀ {byte byte'}, Tight t ⟨rest, byte⟩ ⟨s, byte'⟩ := by
  obtain ⟨next', hskip', htight, -⟩ := skip_near ht h hskip (by simp [hrest])
  obtain ⟨s, hs, hbehind⟩ := tight_cons htight hrest hx
  exact ⟨next', s, hskip', hs, htight, hbehind⟩

/-- A bracket behind blanks. -/
theorem bracket_near (ht : Ends t) (h : Near t c c') {multiline : Bool}
    (hskip : c.skip multiline = some next) (hclose : next.expect [x] = some d)
    (hx : isRigid x = true) : ∃ next' d', c'.skip multiline = some next' ∧
      next'.expect [x] = some d' ∧ Tight t d d' := by
  obtain ⟨next', hskip', htight, -⟩ := skip_near ht h hskip (ne_nil_of_expect hclose (by simp))
  obtain ⟨d', hd', hend⟩ := expect_tight htight (by simp [hx]) hclose
  exact ⟨next', d', hskip', hd', hend⟩

namespace Respaces

/-! ## Operations -/

theorem expr (hterm : Respaces t (.term m a) c c₁) (hops : Respaces t (.operations a) c₁ d) :
    Respaces t (.expr m) c d := by
  intro c' hc hd
  obtain ⟨c₁', h₁, hc₁⟩ := hterm c' hc trivial
  obtain ⟨d', h₂, hend⟩ := hops c₁' hc₁ hd
  exact ⟨d', .expr h₁ h₂, hend⟩

theorem stay (ht : Ends t) (hskip : c.skip m.multiline = some next) (hstay : Stays m next.rest) :
    Respaces t (.operations m) c c := by
  intro c' hc hd
  obtain ⟨next', hskip', hnext⟩ := skip_arrives ht (Tight.near hc) hskip
  refine ⟨c', .stay hskip' ?_, hc⟩
  rcases hnext with ⟨⟨p, hnext⟩, -, -⟩ | ⟨-, hout⟩
  · exact stays_tight ht hnext (Concluded.not_lone hd hskip) hstay
  · exact stays_outside hout m

theorem dot (ht : Ends t) {step : Step} (hskip : c.skip m.multiline = some next)
    (hrest : next.rest = '.' :: x :: rest) (hx : x ≠ '.')
    (hstep : dotStep next.byte ⟨x :: rest, next.byte + 1⟩ = some (step, c₁))
    (hops : Respaces t (.operations m) c₁ d) : Respaces t (.operations m) c d := by
  intro c' hc hd
  obtain ⟨next', -, hskip', -, hnext, -⟩ := token_near ht (Tight.near hc) hskip hrest (by decide)
  obtain ⟨z, s, hs, hbehind⟩ := tight_cons_cons hnext hrest (by decide)
  have hz : z ≠ '.' := by
    rintro rfl
    obtain ⟨p, h⟩ := @hbehind 0 0
    obtain ⟨u, hu, -⟩ := h.rigid_right ht (by decide)
    exact hx (List.cons.inj hu).1
  obtain ⟨step', c₁', hstep', hc₁⟩ := dotStep_tight ht (@hbehind _ (next'.byte + 1))
    next'.byte hstep
  obtain ⟨d', hops', hend⟩ := hops c₁' hc₁ hd
  exact ⟨d', .dot hskip' hs hz hstep' hops', hend⟩

theorem indexed (ht : Ends t) (hskip : c.skip m.multiline = some next)
    (hrest : next.rest = '[' :: x :: rest)
    (hindex : Respaces t .index ⟨x :: rest, next.byte + 1⟩ c₁)
    (hops : Respaces t (.operations m) c₁ d) : Respaces t (.operations m) c d := by
  intro c' hc hd
  obtain ⟨next', -, hskip', -, hnext, -⟩ := token_near ht (Tight.near hc) hskip hrest (by decide)
  obtain ⟨z, s, hs, hbehind⟩ := tight_cons_cons hnext hrest (by decide)
  obtain ⟨c₁', hindex', hc₁⟩ := hindex ⟨z :: s, next'.byte + 1⟩ hbehind trivial
  obtain ⟨d', hops', hend⟩ := hops c₁' hc₁ hd
  exact ⟨d', .indexed hskip' hs hindex' hops', hend⟩

theorem conditional (ht : Ends t) (hskip : c.skip m.multiline = some next)
    (hrest : next.rest = '?' :: x :: rest) (hmode : m.conditional = true)
    (h₁ : skip m.multiline ⟨x :: rest, next.byte + 1⟩ = some c₁) (hne₁ : c₁.rest ≠ [])
    (hyes : Respaces t (.expr m.inner) c₁ c₂) (h₃ : c₂.skip m.multiline = some c₃)
    (hcolon : c₃.expect [':'] = some c₄) (h₅ : c₄.skip m.multiline = some c₅) (hne₅ : c₅.rest ≠ [])
    (hno : Respaces t (.expr m.inner) c₅ d) : Respaces t (.operations m) c d := by
  intro c' hc hd
  obtain ⟨next', -, hskip', -, hnext, -⟩ := token_near ht (Tight.near hc) hskip hrest (by decide)
  obtain ⟨z, s, hs, hbehind⟩ := tight_cons_cons hnext hrest (by decide)
  obtain ⟨c₁', h₁', hc₁, -⟩ := skip_near ht (Tight.near (@hbehind _ (next'.byte + 1))) h₁ hne₁
  have hconcluded : Concluded c₂ := concluded_of_token h₃ (expect_eq_some.1 hcolon).1 (by decide)
    (not_lone_of_cons (by decide))
  obtain ⟨c₂', hyes', hc₂⟩ := hyes c₁' hc₁ hconcluded
  obtain ⟨c₃', c₄', h₃', hcolon', hc₄⟩ := bracket_near ht hc₂.near h₃ hcolon (by decide)
  obtain ⟨c₅', h₅', hc₅, -⟩ := skip_near ht hc₄.near h₅ hne₅
  obtain ⟨d', hno', hend⟩ := hno c₅' hc₅ hd
  exact ⟨d', .conditional hskip' hs hmode h₁' hyes' h₃' hcolon' h₅' hno', hend⟩

theorem binary (ht : Ends t) {op : BinaryOp} {length : Nat}
    (hskip : c.skip m.multiline = some next) (hop : operator? next.rest = some (op, length))
    (h₁ : skip m.multiline ⟨next.rest.drop length, next.byte + length⟩ = some c₁)
    (hne₁ : c₁.rest ≠ []) (hrhs : Respaces t (.expr m.operand) c₁ c₂)
    (hbehind : Derives true (.operations m.operated) c₂ d)
    (hops : Respaces t (.operations m.operated) c₂ d) : Respaces t (.operations m) c d := by
  intro c' hc hd
  have hne : next.rest ≠ [] := by
    intro hnil
    rw [hnil] at hop
    cases hop
  obtain ⟨next', hskip', ⟨p, hnext⟩, -⟩ := skip_near ht (Tight.near hc) hskip hne
  obtain ⟨hop', q, hdrop⟩ := operator_tight ht hnext hop
  have hdrop : Tight t ⟨next.rest.drop length, next.byte + length⟩
      ⟨next'.rest.drop length, next'.byte + length⟩ := ⟨q, hdrop⟩
  obtain ⟨c₁', h₁', hc₁, -⟩ := skip_near ht hdrop.near h₁ hne₁
  obtain ⟨c₂', hrhs', hc₂⟩ := hrhs c₁' hc₁ (concluded_of_operations hbehind hd)
  obtain ⟨d', hops', hend⟩ := hops c₂' hc₂ hd
  exact ⟨d', .binary hskip' hop' h₁' hrhs' hops', hend⟩

theorem splat (ht : Ends t) (h₁ : c.skipLines = some c₁) (hrest : c₁.rest = '*' :: rest)
    (h₂ : skipLines ⟨rest, c₁.byte + 1⟩ = some c₂) (hclose : c₂.expect [']'] = some d) :
    Respaces t .index c d := by
  intro c' hc _
  obtain ⟨c₁', s, h₁', hs, -, hbehind⟩ := token_near ht (Tight.near hc) h₁ hrest (by decide)
  obtain ⟨c₂', d', h₂', hclose', hend⟩ := bracket_near ht
    (Tight.near (@hbehind _ (c₁'.byte + 1))) h₂ hclose (by decide)
  exact ⟨d', .splat h₁' hs h₂' hclose', hend⟩

theorem index (ht : Ends t) (h₁ : c.skipLines = some c₁) (hne : c₁.rest.head? ≠ some '*')
    (hne₁ : c₁.rest ≠ []) (hkey : Respaces t (.expr .enclosed) c₁ c₂)
    (h₃ : c₂.skipLines = some c₃) (hclose : c₃.expect [']'] = some d) : Respaces t .index c d := by
  intro c' hc _
  obtain ⟨c₁', h₁', hc₁, hhead⟩ := skip_near ht (Tight.near hc) h₁ hne₁
  have hconcluded : Concluded c₂ := concluded_of_token h₃ (expect_eq_some.1 hclose).1 (by decide)
    (not_lone_of_cons (by decide))
  obtain ⟨c₂', hkey', hc₂⟩ := hkey c₁' hc₁ hconcluded
  obtain ⟨c₃', d', h₃', hclose', hend⟩ := bracket_near ht hc₂.near h₃ hclose (by decide)
  exact ⟨d', .index h₁' (hhead ▸ hne) hkey' h₃' hclose', hend⟩

/-! ## Terms -/

theorem quoted (hrest : c.rest = '"' :: rest)
    (hparts : Respaces t (.parts .quote) ⟨rest, c.byte + 1⟩ c₁)
    (hclose : c₁.expect ['"'] = some d) : Respaces t (.term m m) c d := by
  intro c' hc _
  obtain ⟨s, hs, hbehind⟩ := tight_cons hc hrest (by decide)
  obtain ⟨p, hp⟩ := @hbehind (c.byte + 1) (c'.byte + 1)
  obtain ⟨c₁', hparts', hc₁⟩ := hparts ⟨s, c'.byte + 1⟩
    ⟨trivial, _, hp, fun _ hnone => by cases hnone⟩
    (closable_of_cons (expect_eq_some.1 hclose).1 (by decide))
  obtain ⟨d', hclose', hend⟩ := expect_tight hc₁ (by decide) hclose
  exact ⟨d', .quoted hs hparts' hclose', hend⟩

/-- A comprehension and the bracket behind it. -/
theorem exists_comprehension {s : List Char} {byte byte' : Nat}
    (ht : Ends t) (hc : Near t ⟨rest, byte⟩ ⟨s, byte'⟩)
    (hskip : skipLines ⟨rest, byte⟩ = some next) (hfor : startsComprehension next.rest = true)
    (hderives : Derives true (.comprehension m keyed) next c₁)
    (hform : Respaces t (.comprehension m keyed) next c₁) (hclose : c₁.expect [x] = some d)
    (hx : isRigid x = true) (hlone : ¬Lone (x :: d.rest)) :
    ∃ next' c₁' d', skipLines ⟨s, byte'⟩ = some next' ∧ startsComprehension next'.rest = true ∧
      Derives false (.comprehension m keyed) next' c₁' ∧ c₁'.expect [x] = some d' ∧
      Tight t d d' := by
  obtain ⟨e, r, hstart, hnames⟩ := names_of_comprehension hderives
  obtain ⟨next', hskip', hnext, -⟩ := skip_near ht hc hskip (ne_nil_of_expect hstart (by simp))
  have hfollowed : Followed (.comprehension m keyed) c₁ := by
    refine ⟨ne_nil_of_expect hclose (by simp), ?_⟩
    rw [(expect_eq_some.1 hclose).1]
    exact hlone
  obtain ⟨c₁', hform', hc₁⟩ := hform next' hnext hfollowed
  obtain ⟨d', hclose', hend⟩ := expect_tight hc₁ (by simp [hx]) hclose
  exact ⟨next', c₁', d', hskip', comprehension_tight hnext hstart hnames hfor, hform', hclose', hend⟩

theorem arrayFor (ht : Ends t) (hrest : c.rest = '[' :: rest)
    (hskip : skipLines ⟨rest, c.byte + 1⟩ = some next) (hfor : startsComprehension next.rest = true)
    (hderives : Derives true (.comprehension m.spread false) next c₁)
    (hform : Respaces t (.comprehension m.spread false) next c₁)
    (hclose : c₁.expect [']'] = some d) : Respaces t (.term m m.spread) c d := by
  intro c' hc _
  obtain ⟨s, hs, hbehind⟩ := tight_cons hc hrest (by decide)
  obtain ⟨next', c₁', d', hskip', hfor', hform', hclose', hend⟩ := exists_comprehension ht
    (Tight.near hbehind) hskip hfor hderives hform hclose (by decide) (not_lone_of_cons (by decide))
  exact ⟨d', .arrayFor hs hskip' hfor' hform' hclose', hend⟩

theorem objectFor (ht : Ends t) (hrest : c.rest = '{' :: rest)
    (hskip : skipLines ⟨rest, c.byte + 1⟩ = some next) (hfor : startsComprehension next.rest = true)
    (hderives : Derives true (.comprehension m.spread true) next c₁)
    (hform : Respaces t (.comprehension m.spread true) next c₁)
    (hclose : c₁.expect ['}'] = some d) : Respaces t (.term m m.spread) c d := by
  intro c' hc _
  obtain ⟨s, hs, hbehind⟩ := tight_cons hc hrest (by decide)
  obtain ⟨next', c₁', d', hskip', hfor', hform', hclose', hend⟩ := exists_comprehension ht
    (Tight.near hbehind) hskip hfor hderives hform hclose (by decide) (not_lone_of_cons (by decide))
  exact ⟨d', .objectFor hs hskip' hfor' hform' hclose', hend⟩

theorem array (ht : Ends t) (hrest : c.rest = '[' :: rest)
    (hskip : skipLines ⟨rest, c.byte + 1⟩ = some next) (hfor : startsComprehension next.rest = false)
    (hderives : Derives true (.elements false m.spread.inner) ⟨rest, c.byte + 1⟩ d)
    (hitems : Respaces t (.elements false m.spread.inner) ⟨rest, c.byte + 1⟩ d) :
    Respaces t (.term m m.spread) c d := by
  intro c' hc _
  obtain ⟨s, hs, hbehind⟩ := tight_cons hc hrest (by decide)
  obtain ⟨next₀, hskip₀, hne, hword⟩ := next_of_elements hderives
  obtain rfl := Option.some.inj (hskip₀.symm.trans hskip)
  have hnear := Tight.near (@hbehind (c.byte + 1) (c'.byte + 1))
  obtain ⟨next', hskip', ⟨p, hnext⟩, -⟩ := skip_near ht hnear hskip hne
  obtain ⟨d', hitems', hend⟩ := hitems _ hnear trivial
  exact ⟨d', .array hs hskip' (comprehension_right ht hnext hword hfor) hitems', hend⟩

theorem object (ht : Ends t) (hrest : c.rest = '{' :: rest)
    (hskip : skipLines ⟨rest, c.byte + 1⟩ = some next) (hfor : startsComprehension next.rest = false)
    (hderives : Derives true .entries ⟨rest, c.byte + 1⟩ d)
    (hentries : Respaces t .entries ⟨rest, c.byte + 1⟩ d) : Respaces t (.term m m) c d := by
  intro c' hc _
  obtain ⟨s, hs, hbehind⟩ := tight_cons hc hrest (by decide)
  obtain ⟨next₀, hskip₀, hne, -, hword⟩ := next_of_entries hderives
  obtain rfl := Option.some.inj (hskip₀.symm.trans hskip)
  have hnear := Tight.near (@hbehind (c.byte + 1) (c'.byte + 1))
  obtain ⟨next', hskip', ⟨p, hnext⟩, -⟩ := skip_near ht hnear hskip hne
  obtain ⟨d', hentries', hend⟩ := hentries _ hnear trivial
  exact ⟨d', .object hs hskip' (comprehension_right ht hnext hword hfor) hentries', hend⟩

theorem parens (ht : Ends t) (hrest : c.rest = '(' :: rest)
    (h₁ : skipLines ⟨rest, c.byte + 1⟩ = some c₁) (hne₁ : c₁.rest ≠ [])
    (hinner : Respaces t (.expr .enclosed) c₁ c₂) (h₃ : c₂.skipLines = some c₃)
    (hclose : c₃.expect [')'] = some d) : Respaces t (.term m m) c d := by
  intro c' hc _
  obtain ⟨s, hs, hbehind⟩ := tight_cons hc hrest (by decide)
  obtain ⟨c₁', h₁', hc₁, -⟩ := skip_near ht (Tight.near (@hbehind _ (c'.byte + 1))) h₁ hne₁
  have hconcluded : Concluded c₂ := concluded_of_token h₃ (expect_eq_some.1 hclose).1 (by decide)
    (not_lone_of_cons (by decide))
  obtain ⟨c₂', hinner', hc₂⟩ := hinner c₁' hc₁ hconcluded
  obtain ⟨c₃', d', h₃', hclose', hend⟩ := bracket_near ht hc₂.near h₃ hclose (by decide)
  exact ⟨d', .parens hs h₁' hinner' h₃' hclose', hend⟩

theorem heredocTerm (hrest : c.rest = '<' :: rest) (hdoc : Respaces t .heredoc c d) :
    Respaces t (.term m m) c d := by
  intro c' hc _
  obtain ⟨s, hs, -⟩ := tight_cons hc hrest (by decide)
  obtain ⟨d', hdoc', hend⟩ := hdoc c' hc trivial
  exact ⟨d', .heredocTerm hs hdoc', hend⟩

theorem not (hrest : c.rest = '!' :: rest)
    (hoperand : Respaces t (.operand m a) ⟨rest, c.byte + 1⟩ d) : Respaces t (.term m a) c d := by
  intro c' hc _
  obtain ⟨s, hs, hbehind⟩ := tight_cons hc hrest (by decide)
  obtain ⟨d', hoperand', hend⟩ := hoperand ⟨s, c'.byte + 1⟩ hbehind trivial
  exact ⟨d', .not hs hoperand', hend⟩

theorem negative (ht : Ends t) {number : Number} (hrest : c.rest = '-' :: rest)
    (hskip : skipInline ⟨rest, c.byte + 1⟩ = some next)
    (hnumber : next.number = some (number, d)) : Respaces t (.term m m) c d := by
  intro c' hc _
  obtain ⟨s, hs, hbehind⟩ := tight_cons hc hrest (by decide)
  obtain ⟨x, xs, hnext, -⟩ := isDigit_of_number hnumber
  obtain ⟨next', hskip', htight, -⟩ := skip_near ht (Tight.near (@hbehind _ (c'.byte + 1))) hskip
    (by simp [hnext])
  obtain ⟨d', hnumber', hend⟩ := number_tight ht htight hnumber
  exact ⟨d', .negative hs hskip' hnumber', hend⟩

theorem neg (ht : Ends t) {xs : List Char} (hrest : c.rest = '-' :: rest)
    (hskip : skipInline ⟨rest, c.byte + 1⟩ = some next) (hnext : next.rest = x :: xs)
    (hx : x.isDigit = false) (hoperand : Respaces t (.operand m a) ⟨rest, c.byte + 1⟩ d) :
    Respaces t (.term m a) c d := by
  intro c' hc _
  obtain ⟨s, hs, hbehind⟩ := tight_cons hc hrest (by decide)
  obtain ⟨next', hskip', -, hhead⟩ := skip_near ht (Tight.near (@hbehind _ (c'.byte + 1))) hskip
    (by simp [hnext])
  rw [hnext] at hhead
  obtain ⟨xs', hnext'⟩ := List.head?_eq_some_iff.1 hhead
  obtain ⟨d', hoperand', hend⟩ := hoperand ⟨s, c'.byte + 1⟩ hbehind trivial
  exact ⟨d', .neg hs hskip' hnext' hx hoperand', hend⟩

theorem number (ht : Ends t) {number : Number} (hnumber : c.number = some (number, d)) :
    Respaces t (.term m m) c d := by
  intro c' hc _
  obtain ⟨d', hnumber', hend⟩ := number_tight ht hc hnumber
  exact ⟨d', .number hnumber', hend⟩

theorem wordTerm (hrest : c.rest = x :: rest) (hx : startsWord x = true)
    (hderives : Derives true (.word m a) c d) (hword : Respaces t (.word m a) c d) :
    Respaces t (.term m a) c d := by
  intro c' hc _
  have hrigid : isRigid x = true := by
    have hname : ∃ name e, c.name = some (name, e) := by
      cases hderives with
      | word hname => exact ⟨_, _, hname⟩
      | call hname => exact ⟨_, _, hname⟩
    obtain ⟨name, e, hname⟩ := hname
    obtain ⟨y, more, hy, hstart⟩ := rest_of_name hname
    obtain rfl := (List.cons.inj (hrest.symm.trans hy)).1
    exact isRigid_of_isNameRest (isNameRest_of_isNameStart hstart)
  obtain ⟨s, hs, -⟩ := tight_cons hc hrest hrigid
  obtain ⟨d', hword', hend⟩ := hword c' hc trivial
  exact ⟨d', .wordTerm hs hx hword', hend⟩

theorem operand (ht : Ends t) (h₁ : c.skipInline = some c₁) (hne₁ : c₁.rest ≠ [])
    (hterm : Respaces t (.term m a) c₁ d) : Respaces t (.operand m a) c d := by
  intro c' hc _
  obtain ⟨c₁', h₁', hc₁, -⟩ := skip_near ht (Tight.near hc) h₁ hne₁
  obtain ⟨d', hterm', hend⟩ := hterm c₁' hc₁ trivial
  exact ⟨d', .operand h₁' hterm', hend⟩

theorem word (ht : Ends t) {name : String} {names : List String} {n : Nat}
    (hname : c.name = some (name, c₁))
    (hnames : c₁.qualifiers m.multiline n [name] = some (names, c₂))
    (hskip : c₂.skip m.multiline = some next) (hcall : next.rest.head? ≠ some '(')
    (hone : names.length = 1) : Respaces t (.word m m) c c₂ := by
  intro c' hc _
  obtain ⟨c₁', hname', hc₁⟩ := name_tight ht hc hname
  obtain ⟨c₂', hnames', hc₂⟩ := qualifiers_tight ht hc₁ hnames
  obtain ⟨next', hskip', hnext⟩ := skip_arrives ht hc₂.near hskip
  refine ⟨c₂', .word hname' hnames' hskip' ?_ hone, hc₂⟩
  rcases hnext with ⟨-, hhead, -⟩ | ⟨-, hout⟩
  · rw [hhead]
    exact hcall
  · exact head?_of_outside hout (by decide) (by decide)

theorem call (ht : Ends t) {name : String} {names : List String} {n : Nat}
    (hname : c.name = some (name, c₁))
    (hnames : c₁.qualifiers m.multiline n [name] = some (names, c₂))
    (hskip : c₂.skip m.multiline = some next) (hrest : next.rest = '(' :: rest)
    (hargs : Respaces t (.elements true m.spread.inner) ⟨rest, next.byte + 1⟩ d) :
    Respaces t (.word m m.spread) c d := by
  intro c' hc _
  obtain ⟨c₁', hname', hc₁⟩ := name_tight ht hc hname
  obtain ⟨c₂', hnames', hc₂⟩ := qualifiers_tight ht hc₁ hnames
  obtain ⟨next', s, hskip', hs, -, hbehind⟩ := token_near ht hc₂.near hskip hrest (by decide)
  obtain ⟨d', hargs', hend⟩ := hargs ⟨s, next'.byte + 1⟩ (Tight.near hbehind) trivial
  exact ⟨d', .call hname' hnames' hskip' hs hargs', hend⟩

/-! ## Lists and objects -/

theorem isRigid_closing (call : Bool) : isRigid (closing call) = true := by
  cases call
  all_goals rfl

theorem endsBlanks_closing (call : Bool) : endsBlanks (closing call) = true := by
  cases call
  all_goals rfl

theorem not_lone_closing (call : Bool) : ¬Lone (closing call :: rest) := by
  cases call
  all_goals exact not_lone_of_cons (by decide)

variable {call : Bool}

theorem elementsEnd (ht : Ends t) (hskip : c.skipLines = some next)
    (hrest : next.rest = closing call :: rest) :
    Respaces t (.elements call m) c ⟨rest, next.byte + 1⟩ := by
  intro c' hc _
  obtain ⟨next', s, hskip', hs, -, hbehind⟩ := token_near ht hc hskip hrest (isRigid_closing call)
  exact ⟨_, .elementsEnd hskip' hs, hbehind⟩

/-- An element and the token behind it. -/
theorem exists_element (ht : Ends t) (hc : Near t c c') (hskip : c.skipLines = some next)
    (hne : next.rest.head? ≠ some y) (hderives : Derives true (.expr m) next c₁)
    (helement : Respaces t (.expr m) next c₁) (h₂ : c₁.skipLines = some c₂)
    (hrest : c₂.rest = x :: rest) (hx : isRigid x = true ∧ endsBlanks x = true)
    (hlone : ¬Lone (x :: rest)) :
    ∃ next' c₁' c₂' s, c'.skipLines = some next' ∧ next'.rest.head? ≠ some y ∧
      Derives false (.expr m) next' c₁' ∧ c₁'.skipLines = some c₂' ∧ c₂'.rest = x :: s ∧
      Tight t c₂ c₂' ∧ ∀ {byte byte'}, Tight t ⟨rest, byte⟩ ⟨s, byte'⟩ := by
  obtain ⟨next', hskip', hnext, hhead⟩ := skip_near ht hc hskip (ne_nil_of_closes hderives.moves)
  obtain ⟨c₁', helement', hc₁⟩ := helement next' hnext (concluded_of_token h₂ hrest hx.2 hlone)
  obtain ⟨c₂', s, h₂', hs, hc₂, hbehind⟩ := token_near ht hc₁.near h₂ hrest hx.1
  exact ⟨next', c₁', c₂', s, hskip', hhead ▸ hne, helement', h₂', hs, hc₂, hbehind⟩

theorem elementsLast (ht : Ends t) (hskip : c.skipLines = some next)
    (hne : next.rest.head? ≠ some (closing call)) (hderives : Derives true (.expr m) next c₁)
    (helement : Respaces t (.expr m) next c₁) (h₂ : c₁.skipLines = some c₂)
    (hrest : c₂.rest = closing call :: rest) :
    Respaces t (.elements call m) c ⟨rest, c₂.byte + 1⟩ := by
  intro c' hc _
  obtain ⟨next', c₁', c₂', s, hskip', hne', helement', h₂', hs, -, hbehind⟩ := exists_element ht hc
    hskip hne hderives helement h₂ hrest ⟨isRigid_closing call, endsBlanks_closing call⟩
    (not_lone_closing call)
  exact ⟨_, .elementsLast hskip' hne' helement' h₂' hs, hbehind⟩

theorem elementsMore (ht : Ends t) (hskip : c.skipLines = some next)
    (hne : next.rest.head? ≠ some (closing call)) (hderives : Derives true (.expr m) next c₁)
    (helement : Respaces t (.expr m) next c₁) (h₂ : c₁.skipLines = some c₂)
    (hrest : c₂.rest = ',' :: rest)
    (hmore : Respaces t (.elements call m) ⟨rest, c₂.byte + 1⟩ d) :
    Respaces t (.elements call m) c d := by
  intro c' hc _
  obtain ⟨next', c₁', c₂', s, hskip', hne', helement', h₂', hs, -, hbehind⟩ := exists_element ht hc
    hskip hne hderives helement h₂ hrest (by decide) (not_lone_of_cons (by decide))
  obtain ⟨d', hmore', hend⟩ := hmore ⟨s, c₂'.byte + 1⟩ (Tight.near hbehind) trivial
  exact ⟨d', .elementsMore hskip' hne' helement' h₂' hs hmore', hend⟩

theorem elementsSpread (ht : Ends t) (hskip : c.skipLines = some next)
    (hne : next.rest.head? ≠ some ')') (hderives : Derives true (.expr m) next c₁)
    (helement : Respaces t (.expr m) next c₁) (h₂ : c₁.skipLines = some c₂)
    (hrest : c₂.rest = '.' :: '.' :: '.' :: rest)
    (h₃ : skipLines ⟨rest, c₂.byte + 3⟩ = some c₃) (hclose : c₃.expect [')'] = some d) :
    Respaces t (.elements true m) c d := by
  intro c' hc _
  obtain ⟨next', c₁', c₂', s, hskip', hne', helement', h₂', hs, hc₂, -⟩ := exists_element ht hc
    hskip hne hderives helement h₂ hrest (by decide) (not_lone_of_length (by simp))
  obtain ⟨p, hc₂⟩ := hc₂
  rw [hrest] at hc₂
  obtain ⟨s', q, hs', hdots⟩ := hc₂.word (w := ['.', '.', '.']) (by decide)
  have hdots : Tight t ⟨rest, c₂.byte + 3⟩ ⟨s', c₂'.byte + 3⟩ := ⟨q, hdots⟩
  obtain ⟨c₃', d', h₃', hclose', hend⟩ := bracket_near ht hdots.near h₃ hclose (by decide)
  exact ⟨d', .elementsSpread hskip' hne' helement' h₂' hs' h₃' hclose', hend⟩

theorem entriesEnd (ht : Ends t) (hskip : c.skipLines = some next)
    (hrest : next.rest = '}' :: rest) : Respaces t .entries c ⟨rest, next.byte + 1⟩ := by
  intro c' hc _
  obtain ⟨next', s, hskip', hs, -, hbehind⟩ := token_near ht hc hskip hrest (by decide)
  exact ⟨_, .entriesEnd hskip' hs, hbehind⟩

/-- An entry and what stands behind it. -/
theorem exists_entry (ht : Ends t) (hc : Near t c c') (hskip : c.skipLines = some next)
    (hne : next.rest.head? ≠ some '}') (hderives : Derives true .entry next c₁)
    (hentry : Respaces t .entry next c₁) (hc₁ : Concluded c₁ ∧ c₁.rest ≠ []) :
    ∃ next' c₁', c'.skipLines = some next' ∧ next'.rest.head? ≠ some '}' ∧
      Derives false .entry next' c₁' ∧ Tight t c₁ c₁' := by
  have hlength := length_of_entry hderives
  have hnext : next.rest ≠ [] := by
    intro hnil
    rw [hnil] at hlength
    simp at hlength
  obtain ⟨next', hskip', htight, hhead⟩ := skip_near ht hc hskip hnext
  obtain ⟨c₁', hentry', hend⟩ := hentry next' htight hc₁
  exact ⟨next', c₁', hskip', hhead ▸ hne, hentry', hend⟩

theorem concluded_of_cons (hrest : c.rest = x :: rest) (hx : endsBlanks x = true)
    (hlone : ¬Lone (x :: rest)) : Concluded c ∧ c.rest ≠ [] :=
  ⟨concluded_of_skipLines (skip_stop hrest hx) (hrest ▸ hlone), by simp [hrest]⟩

theorem entriesLast (ht : Ends t) (hskip : c.skipLines = some next)
    (hne : next.rest.head? ≠ some '}') (hderives : Derives true .entry next c₁)
    (hentry : Respaces t .entry next c₁) (hrest : c₁.rest = '}' :: rest) :
    Respaces t .entries c ⟨rest, c₁.byte + 1⟩ := by
  intro c' hc _
  obtain ⟨next', c₁', hskip', hne', hentry', hc₁⟩ := exists_entry ht hc hskip hne hderives hentry
    (concluded_of_cons hrest (by decide) (not_lone_of_cons (by decide)))
  obtain ⟨s, hs, hbehind⟩ := tight_cons hc₁ hrest (by decide)
  exact ⟨_, .entriesLast hskip' hne' hentry' hs, hbehind⟩

theorem entriesComma (ht : Ends t) (hskip : c.skipLines = some next)
    (hne : next.rest.head? ≠ some '}') (hderives : Derives true .entry next c₁)
    (hentry : Respaces t .entry next c₁) (hrest : c₁.rest = ',' :: rest)
    (hmore : Respaces t .entries ⟨rest, c₁.byte + 1⟩ d) : Respaces t .entries c d := by
  intro c' hc _
  obtain ⟨next', c₁', hskip', hne', hentry', hc₁⟩ := exists_entry ht hc hskip hne hderives hentry
    (concluded_of_cons hrest (by decide) (not_lone_of_cons (by decide)))
  obtain ⟨s, hs, hbehind⟩ := tight_cons hc₁ hrest (by decide)
  obtain ⟨d', hmore', hend⟩ := hmore ⟨s, c₁'.byte + 1⟩ (Tight.near hbehind) trivial
  exact ⟨d', .entriesComma hskip' hne' hentry' hs hmore', hend⟩

theorem entriesLine (ht : Ends t) (hskip : c.skipLines = some next)
    (hne : next.rest.head? ≠ some '}') (hderives : Derives true .entry next c₁)
    (hentry : Respaces t .entry next c₁) (hbreak : c₁.lineBreak = some c₂)
    (hbehind : Derives true .entries c₂ d) (hmore : Respaces t .entries c₂ d) :
    Respaces t .entries c d := by
  intro c' hc _
  obtain ⟨e, he, -, hlone, -⟩ := next_of_entries hbehind
  have hconcluded : Concluded c₁ := concluded_of_skipLines ((lineBreak_again hbreak).trans he) hlone
  obtain ⟨next', c₁', hskip', hne', hentry', hc₁⟩ := exists_entry ht hc hskip hne hderives hentry
    ⟨hconcluded, ne_nil_of_lineBreak hbreak⟩
  obtain ⟨c₂', hbreak', hc₂⟩ := lineBreak_near hc₁ hbreak (ne_nil_of_closes hbehind.moves)
  obtain ⟨d', hmore', hend⟩ := hmore c₂' hc₂ trivial
  exact ⟨d', .entriesLine hskip' hne' hentry' hbreak' hmore', hend⟩

theorem entry (ht : Ends t) (hkey : Respaces t (.expr .inline) c c₁)
    (h₂ : c₁.skipInline = some c₂) (hsign : c₂.expect [':'] = some c₃ ∨ c₂.expect ['='] = some c₃)
    (h₄ : c₃.skipInline = some c₄) (hne₄ : c₄.rest ≠ [])
    (hvalue : Respaces t (.expr .inline) c₄ c₅) (h₆ : c₅.skipInline = some d) :
    Respaces t .entry c d := by
  intro c' hc hd
  have hconcluded : Concluded c₁ ∧ c₂.rest ≠ [] := by
    rcases hsign with hsign | hsign
    all_goals
      exact ⟨concluded_of_token h₂ (expect_eq_some.1 hsign).1 (by decide)
        (not_lone_of_cons (by decide)), ne_nil_of_expect hsign (by simp)⟩
  obtain ⟨c₁', hkey', hc₁⟩ := hkey c' hc hconcluded.1
  obtain ⟨c₂', h₂', hc₂, hhead⟩ := skip_near ht hc₁.near h₂ hconcluded.2
  obtain ⟨c₃', hsign', hc₃⟩ : ∃ c₃', (c₂'.expect [':'] = some c₃' ∨ c₂'.expect ['='] = some c₃') ∧
      Near t c₃ c₃' := by
    rcases hsign with hsign | hsign
    · obtain ⟨c₃', hsign', hc₃⟩ := expect_tight hc₂ (by decide) hsign
      exact ⟨c₃', .inl hsign', hc₃.near⟩
    · obtain ⟨c₃', hsign', hc₃⟩ := expect_sign hc₂ hhead hsign
      exact ⟨c₃', .inr hsign', hc₃⟩
  obtain ⟨c₄', h₄', hc₄, -⟩ := skip_near ht hc₃ h₄ hne₄
  obtain ⟨c₅', hvalue', hc₅⟩ := hvalue c₄' hc₄ (Concluded.of_skip hd.1 h₆)
  obtain ⟨d', h₆', hend, -⟩ := skip_near ht hc₅.near h₆ hd.2
  exact ⟨d', .entry hkey' h₂' hsign' h₄' hvalue' h₆', hend⟩

/-! ## Comprehensions -/

theorem unfiltered (ht : Ends t) (hgenerator : Respaces t (.generator m keyed) c d)
    (hif : d.expect ['i', 'f'] = none) : Respaces t (.comprehension m keyed) c d := by
  intro c' hc hd
  obtain ⟨d', hgenerator', hend⟩ := hgenerator c' hc hd
  exact ⟨d', .unfiltered hgenerator' (expect_none_tight ht hend (by decide) hif), hend⟩

theorem filtered (ht : Ends t) (hgenerator : Respaces t (.generator m keyed) c c₁)
    (hif : c₁.expect ['i', 'f'] = some c₂) (h₃ : c₂.skipLines = some c₃) (hne₃ : c₃.rest ≠ [])
    (hcond : Respaces t (.expr m.inner) c₃ c₄) (h₅ : c₄.skipLines = some d) :
    Respaces t (.comprehension m keyed) c d := by
  intro c' hc hd
  have hfollowed : Followed (.generator m keyed) c₁ := by
    refine ⟨ne_nil_of_expect hif (by simp), ?_⟩
    rw [(expect_eq_some.1 hif).1]
    exact not_lone_of_cons (by decide)
  obtain ⟨c₁', hgenerator', hc₁⟩ := hgenerator c' hc hfollowed
  obtain ⟨c₂', hif', hc₂⟩ := expect_tight hc₁ (by decide) hif
  obtain ⟨c₃', h₃', hc₃, -⟩ := skip_near ht hc₂.near h₃ hne₃
  obtain ⟨c₄', hcond', hc₄⟩ := hcond c₃' hc₃ (concluded_of_skipLines h₅ hd.2)
  obtain ⟨d', h₅', hend, -⟩ := skip_near ht hc₄.near h₅ hd.1
  exact ⟨d', .filtered hgenerator' hif' h₃' hcond' h₅', hend⟩

theorem generator (ht : Ends t) {key : Option String} {value : String}
    (hfor : c.expect ['f', 'o', 'r'] = some c₁) (hnames : c₁.loopNames = some (key, value, c₂))
    (h₃ : c₂.skipLines = some c₃) (hne₃ : c₃.rest ≠ [])
    (hcollection : Respaces t (.expr .inline) c₃ c₄) (h₅ : c₄.skipLines = some c₅)
    (hcolon : c₅.expect [':'] = some c₆) (h₇ : c₆.skipLines = some c₇) (hne₇ : c₇.rest ≠ [])
    (hyielded : Respaces t (.yielded m keyed) c₇ d) : Respaces t (.generator m keyed) c d := by
  intro c' hc hd
  obtain ⟨c₁', hfor', hc₁⟩ := expect_tight hc (by decide) hfor
  obtain ⟨c₂', hnames', hc₂⟩ := loopNames_tight ht hc₁ hnames
  obtain ⟨c₃', h₃', hc₃, -⟩ := skip_near ht hc₂.near h₃ hne₃
  have hconcluded : Concluded c₄ := concluded_of_token h₅ (expect_eq_some.1 hcolon).1 (by decide)
    (not_lone_of_cons (by decide))
  obtain ⟨c₄', hcollection', hc₄⟩ := hcollection c₃' hc₃ hconcluded
  obtain ⟨c₅', c₆', h₅', hcolon', hc₆⟩ := bracket_near ht hc₄.near h₅ hcolon (by decide)
  obtain ⟨c₇', h₇', hc₇, -⟩ := skip_near ht hc₆.near h₇ hne₇
  obtain ⟨d', hyielded', hend⟩ := hyielded c₇' hc₇ hd
  exact ⟨d', .generator hfor' hnames' h₃' hcollection' h₅' hcolon' h₇' hyielded', hend⟩

theorem yieldedValue (ht : Ends t) (hvalue : Respaces t (.expr m.inner) c c₁)
    (h₁ : c₁.skipLines = some d) : Respaces t (.yielded m false) c d := by
  intro c' hc hd
  obtain ⟨c₁', hvalue', hc₁⟩ := hvalue c' hc (concluded_of_skipLines h₁ hd.2)
  obtain ⟨d', h₁', hend, -⟩ := skip_near ht hc₁.near h₁ hd.1
  exact ⟨d', .yieldedValue hvalue' h₁', hend⟩

theorem yieldedEntry (ht : Ends t) (hkey : Respaces t (.expr .inline) c c₁)
    (h₂ : c₁.skipLines = some c₂) (harrow : c₂.expect ['=', '>'] = some c₃)
    (h₄ : c₃.skipLines = some c₄) (hne₄ : c₄.rest ≠ [])
    (hvalue : Respaces t (.expr .inline) c₄ c₅) (h₆ : c₅.skipLines = some c₆)
    (h₇ : (c₆.skipIf ['.', '.', '.']).2.skipLines = some d) : Respaces t (.yielded m true) c d := by
  intro c' hc hd
  -- Behind the value stand three dots or what follows the whole comprehension.
  have hc₆ : c₆.rest ≠ [] ∧ ¬Lone c₆.rest := by
    rcases skipIf_cases ['.', '.', '.'] c₆ with ⟨e, he, -⟩ | ⟨-, hskip⟩
    · rw [(expect_eq_some.1 he).1]
      exact ⟨by simp, not_lone_of_length (by simp)⟩
    · rw [hskip] at h₇
      obtain rfl := Option.some.inj (((skip_again id h₆).symm.trans h₆).symm.trans h₇)
      exact hd
  have hconcluded : Concluded c₁ := concluded_of_token h₂ (expect_eq_some.1 harrow).1 (by decide)
    (not_lone_of_length (by simp))
  obtain ⟨c₁', hkey', hc₁⟩ := hkey c' hc hconcluded
  obtain ⟨c₂', h₂', hc₂, -⟩ := skip_near ht hc₁.near h₂ (ne_nil_of_expect harrow (by simp))
  obtain ⟨c₃', harrow', hc₃⟩ := expect_arrow hc₂ harrow
  obtain ⟨c₄', h₄', hc₄, -⟩ := skip_near ht hc₃.near h₄ hne₄
  obtain ⟨c₅', hvalue', hc₅⟩ := hvalue c₄' hc₄ (concluded_of_skipLines h₆ hc₆.2)
  obtain ⟨c₆', h₆', hc₆', -⟩ := skip_near ht hc₅.near h₆ hc₆.1
  obtain ⟨-, hdots⟩ := skipIf_tight (w := ['.', '.', '.']) ht hc₆' (by decide)
  obtain ⟨d', h₇', hend, -⟩ := skip_near ht hdots.near h₇ hd.1
  exact ⟨d', .yieldedEntry hkey' h₂' harrow' h₄' hvalue' h₆' h₇', hend⟩

/-! ## Heredocs -/

theorem heredoc (ht : Ends t) {indented : Bool} {id : List Char}
    (hstart : c.heredocStart = some (indented, id, c₁))
    (hbody : Respaces t (.heredocBody id) c₁ d) : Respaces t .heredoc c d := by
  intro c' hc _
  obtain ⟨c₁', hstart', hc₁⟩ := heredocStart_near ht hc hstart
  obtain ⟨d', hbody', hend⟩ := hbody c₁' ⟨(isName_of_heredocStart hstart).1, hc₁⟩ trivial
  exact ⟨d', .heredoc hstart' hbody', hend⟩

/-- No heredoc of a calm text is closed by its next line. -/
theorem heredocBrief {indented : Bool} {id : List Char} {gap : Option Span}
    (hstart : c.heredocStart = some (indented, id, c₁)) (hstop : c₁.heredocStop id = some (gap, d)) :
    Respaces t .heredoc c d := by
  intro c' hc _
  have hrest : ∃ rest, c.rest = '<' :: rest := by
    unfold heredocStart at hstart
    obtain ⟨e, he, -⟩ := Option.bind_eq_some_iff.1 hstart
    exact ⟨_, (expect_eq_some.1 he).1⟩
  obtain ⟨rest, hrest⟩ := hrest
  have hbrief := (calm_of_tight hc hrest (by decide)).brief
  rw [brief?_of_heredocStop hstart hstop] at hbrief
  cases hbrief

theorem heredocBody {id : List Char}
    {gap : Option Span} (hparts : Respaces t (.parts (.terminator id)) c c₁)
    (hbreak : lineBreakText c₁.rest ≠ [])
    (hstop : heredocStop id ⟨c₁.rest.drop (lineBreakText c₁.rest).length,
      c₁.byte + (lineBreakText c₁.rest).length⟩ = some (gap, d)) :
    Respaces t (.heredocBody id) c d := by
  rintro c' ⟨hid, o, hc⟩ _
  have hclosable : Closable c₁ := by
    unfold lineBreakText at hbreak
    split at hbreak
    · rename_i heq
      exact closable_of_cons heq (by decide)
    · rename_i heq
      exact closable_of_cons heq (by decide)
    · exact absurd rfl hbreak
  obtain ⟨c₁', hparts', p, hc₁⟩ := hparts c' ⟨hid, o, hc, fun h => by cases h⟩ hclosable
  obtain ⟨u, hu⟩ : ∃ u, c₁.rest = '\n' :: u := by
    unfold lineBreakText at hbreak
    split at hbreak
    · rename_i heq
      exact ⟨_, heq⟩
    · rename_i heq
      rw [heq] at hc₁
      exact hc₁.not_carriageReturn.elim
    · exact absurd rfl hbreak
  rw [hu] at hc₁ hstop
  obtain ⟨v, s, hs, -, hnil, hbehind⟩ := hc₁.newline
  obtain rfl := hnil (by simp)
  rw [List.nil_append] at hs
  have hnear : Near t ⟨u, c₁.byte + 1⟩ ⟨s, c₁'.byte + 1⟩ := ⟨none, hbehind⟩
  obtain ⟨gap', d', hstop', hend⟩ := heredocStop_near hnear hid hstop
  have hbreak' : lineBreakText c₁'.rest = ['\n'] := by rw [hs, lineBreakText]
  have hbody : heredocStop id ⟨c₁'.rest.drop (lineBreakText c₁'.rest).length,
      c₁'.byte + (lineBreakText c₁'.rest).length⟩ = some (gap', d') := by
    rw [hbreak', hs]
    exact hstop'
  exact ⟨d', .heredocBody hparts' (by simp [hbreak']) hbody, hend⟩

/-! ## Templates -/

/-- The parts behind a part, wherever they stand. -/
theorem rereads (h : Respaces t (.parts closer) c d) (hnamed : closer.Named) (hd : Closable d)
    {o : Option Char} {s : List Char} (hs : Respaced t o c.rest s) (hbegin : Begins closer o c.rest) :
    Recurs t closer s d := fun byte => h ⟨s, byte⟩ ⟨hnamed, o, hs, hbegin⟩ hd

theorem respaces_parts (h : ∀ o s, Respaced t o c.rest s → Begins closer o c.rest →
    closer.Named → Closable d → Recurs t closer s d) : Respaces t (.parts closer) c d := by
  rintro ⟨s, byte⟩ ⟨hnamed, o, hs, hbegin⟩ hd
  exact h o s hs hbegin hnamed hd byte

/-- A template sequence and its opening. -/
theorem exists_opening (ht : Ends t) {before : Bool} (hx : isMarker x = true) {o : Option Char}
    {s : List Char} (hs : Respaced t o c.rest s) (hrest : c.rest = x :: '{' :: rest)
    (hopen : openSequence ⟨rest, c.byte + 2⟩ = some (before, c₁)) (hne : c₁.rest ≠ []) :
    ∃ v s', s = v ++ (x :: '{' :: s') ∧ Padding v ∧
      (∃ q, Respaced t (some q) (x :: '{' :: rest) (x :: '{' :: s')) ∧
      ∀ byte, ∃ c₁', openSequence ⟨s', byte + 2⟩ = some (before, c₁') ∧ Tight t c₁ c₁' := by
  have hgap : isGap false x = false := by
    rcases (show x = '$' ∨ x = '%' by simpa [isMarker] using hx) with rfl | rfl
    all_goals rfl
  have hrigid : isRigid x = true := by
    rcases (show x = '$' ∨ x = '%' by simpa [isMarker] using hx) with rfl | rfl
    all_goals rfl
  rw [hrest] at hs
  obtain ⟨v, s₁, q, rfl, hv, htoken⟩ := hs.token hgap
  obtain ⟨s₂, heq, -, hbrace⟩ := htoken.rigid_tight hrigid
  obtain rfl := (List.cons.inj heq).2
  obtain ⟨s', rfl, -, hbehind⟩ := hbrace.rigid_tight (by decide)
  refine ⟨v, s', rfl, hv, ⟨q, htoken⟩, fun byte => ?_⟩
  have htight : Tight t ⟨rest, c.byte + 2⟩ ⟨s', byte + 2⟩ := ⟨_, hbehind⟩
  obtain ⟨c₁', hopen', hc₁, -⟩ := openSequence_tight ht htight hopen hne
  exact ⟨c₁', hopen', hc₁⟩

theorem interpolation (ht : Ends t) {before after : Bool} (hrest : c.rest = '$' :: '{' :: rest)
    (hopen : openSequence ⟨rest, c.byte + 2⟩ = some (before, c₁)) (hne : c₁.rest ≠ [])
    (hinner : Respaces t (.expr .enclosed) c₁ c₂) (hclose : c₂.closeSequence = some (after, c₃))
    (hmore : Respaces t (.parts closer) c₃ d) : Respaces t (.parts closer) c d := by
  refine respaces_parts fun o s hs _ hnamed hd => ?_
  obtain ⟨v, s', rfl, hv, -, hopening⟩ := exists_opening ht rfl hs hrest hopen hne
  refine Recurs.padded hv fun byte => ?_
  obtain ⟨c₁', hopen', hc₁⟩ := hopening byte
  obtain ⟨c₂', hinner', hc₂⟩ := hinner c₁' hc₁ (concluded_of_closeSequence hclose)
  obtain ⟨c₃', hclose', p, hc₃⟩ := closeSequence_tight ht hc₂.near hclose
  obtain ⟨d', hmore', hend⟩ := hmore c₃' ⟨hnamed, some p, hc₃, fun _ hnone => by cases hnone⟩ hd
  exact ⟨d', .interpolation rfl hopen' hinner' hclose' hmore', hend⟩

theorem choicePart (ht : Ends t) {before : Bool} {inner : List Char}
    (hrest : c.rest = '%' :: '{' :: rest)
    (hopen : openSequence ⟨rest, c.byte + 2⟩ = some (before, c₁))
    (hinner : c₁.rest = 'i' :: 'f' :: inner) (hpart : Respaces t .choice ⟨inner, c₁.byte + 2⟩ c₂)
    (hmore : Respaces t (.parts closer) c₂ d) : Respaces t (.parts closer) c d := by
  refine respaces_parts fun o s hs _ hnamed hd => ?_
  obtain ⟨v, s', rfl, hv, -, hopening⟩ := exists_opening ht rfl hs hrest hopen (by simp [hinner])
  refine Recurs.padded hv fun byte => ?_
  obtain ⟨c₁', hopen', p, hc₁⟩ := hopening byte
  rw [hinner] at hc₁
  obtain ⟨inner', q, hinner', hbehind⟩ := hc₁.word (w := ['i', 'f']) (by decide)
  obtain ⟨c₂', hpart', r, hc₂⟩ := hpart ⟨inner', c₁'.byte + 2⟩ ⟨q, hbehind⟩ trivial
  obtain ⟨d', hmore', hend⟩ := hmore c₂' ⟨hnamed, some r, hc₂, fun _ hnone => by cases hnone⟩ hd
  exact ⟨d', .choicePart rfl hopen' hinner' hpart' hmore', hend⟩

theorem repetitionPart (ht : Ends t) {before : Bool} {inner : List Char}
    (hrest : c.rest = '%' :: '{' :: rest)
    (hopen : openSequence ⟨rest, c.byte + 2⟩ = some (before, c₁))
    (hinner : c₁.rest = 'f' :: 'o' :: 'r' :: inner)
    (hpart : Respaces t .repetition ⟨inner, c₁.byte + 3⟩ c₂)
    (hmore : Respaces t (.parts closer) c₂ d) : Respaces t (.parts closer) c d := by
  refine respaces_parts fun o s hs _ hnamed hd => ?_
  obtain ⟨v, s', rfl, hv, -, hopening⟩ := exists_opening ht rfl hs hrest hopen (by simp [hinner])
  refine Recurs.padded hv fun byte => ?_
  obtain ⟨c₁', hopen', p, hc₁⟩ := hopening byte
  rw [hinner] at hc₁
  obtain ⟨inner', q, hinner', hbehind⟩ := hc₁.word (w := ['f', 'o', 'r']) (by decide)
  obtain ⟨c₂', hpart', r, hc₂⟩ := hpart ⟨inner', c₁'.byte + 3⟩ ⟨q, hbehind⟩ trivial
  obtain ⟨d', hmore', hend⟩ := hmore c₂' ⟨hnamed, some r, hc₂, fun _ hnone => by cases hnone⟩ hd
  exact ⟨d', .repetitionPart rfl hopen' hinner' hpart' hmore', hend⟩

theorem partsDirective (ht : Ends t) {before : Bool} (hrest : c.rest = '%' :: '{' :: rest)
    (hopen : openSequence ⟨rest, c.byte + 2⟩ = some (before, c₁))
    (hinner : startsDirective c₁.rest = false) : Respaces t (.parts closer) c c := by
  refine respaces_parts fun o s hs _ _ hd => ?_
  obtain ⟨v, s', rfl, hv, ⟨q, htoken⟩, hopening⟩ :=
    exists_opening ht rfl hs hrest hopen (hd.opened hrest hopen)
  refine Recurs.padded hv fun byte => ?_
  obtain ⟨c₁', hopen', p, hc₁⟩ := hopening byte
  have hinner' := (startsDirective_tight ht hc₁).trans hinner
  exact ⟨_, .partsDirective rfl hopen' hinner', q, hrest ▸ htoken⟩

theorem partsEnd (ht : Ends t)
    (hend : closer.comesNext c.rest = true) : Respaces t (.parts closer) c c := by
  refine respaces_parts fun o s hs _ hnamed hd => ?_
  have hstop : ∀ {x rest}, c.rest = x :: rest → isGap false x = false →
      (∀ {q s'}, Respaced t (some q) (x :: rest) (x :: s') →
        startsSequence (x :: s') = false ∧ closer.comesNext (x :: s') = true) →
      Recurs t closer s c := by
    intro x rest hrest hx htight
    rw [hrest] at hs
    obtain ⟨v, s', q, rfl, hv, htoken⟩ := hs.token hx
    obtain ⟨hne', hend'⟩ := htight htoken
    exact Recurs.padded hv fun byte => ⟨_, .partsEnd hne' hend', q, hrest ▸ htoken⟩
  cases closer with
  | quote =>
    obtain ⟨rest, hrest⟩ := List.head?_eq_some_iff.1 (by simpa [Closer.comesNext] using hend)
    exact hstop hrest rfl fun _ => ⟨rfl, rfl⟩
  | terminator id =>
    obtain ⟨hbreak, hid⟩ := closesHeredoc_iff.1 hend
    unfold lineBreakText at hbreak hid
    split at hbreak
    · rename_i rest hrest
      rw [hrest] at hid
      refine hstop hrest rfl fun htoken => ⟨rfl, ?_⟩
      obtain ⟨v, s'', heq, -, hnil, hbehind⟩ := htoken.newline
      obtain rfl := hnil (by simp)
      obtain rfl := (List.cons.inj heq).2
      exact (isTerminator_near ht hbehind hnamed).trans hid
    · rename_i rest hrest
      rw [hrest] at hs
      exact hs.not_carriageReturn.elim
    · exact absurd rfl hbreak
  | endOfText => exact absurd (List.isEmpty_iff.1 hend) hd.ne_nil

theorem literal (ht : Ends t) {text : String} (hrun : closer.literalRun c = .ok (text, c₁))
    (hmore : Respaces t (.parts closer) c₁ d) : Respaces t (.parts closer) c d :=
  respaces_parts fun _ _ hs hbegin hnamed hd =>
    literalRun_respaced ht hnamed hrun (fun _ _ => hmore.rereads hnamed hd) hs hbegin

theorem choice (ht : Ends t) {closing : Sequence} (hcond : Respaces t .condition c c₁)
    (hclose : c₁.bareDirective ['e', 'n', 'd', 'i', 'f'] = some (closing, d)) :
    Respaces t .choice c d := by
  intro c' hc _
  obtain ⟨c₁', hcond', hc₁⟩ := hcond c' hc (closable_of_bareDirective (by simp) hclose)
  obtain ⟨closing', d', hclose', hend⟩ := bareDirective_tight ht hc₁ (by decide) (by simp) hclose
  exact ⟨d', .choice hcond' (bareDirective_else_of_endif hclose') hclose', hend⟩

theorem choiceElse (ht : Ends t) {middle closing : Sequence} (hcond : Respaces t .condition c c₁)
    (helse : c₁.bareDirective ['e', 'l', 's', 'e'] = some (middle, c₂))
    (hno : Respaces t .directiveBody c₂ c₃)
    (hclose : c₃.bareDirective ['e', 'n', 'd', 'i', 'f'] = some (closing, d)) :
    Respaces t .choice c d := by
  intro c' hc _
  obtain ⟨c₁', hcond', hc₁⟩ := hcond c' hc (closable_of_bareDirective (by simp) helse)
  obtain ⟨middle', c₂', helse', hc₂⟩ := bareDirective_tight ht hc₁ (by decide) (by simp) helse
  obtain ⟨c₃', hno', hc₃⟩ := hno c₂' hc₂ (closable_of_bareDirective (by simp) hclose)
  obtain ⟨closing', d', hclose', hend⟩ := bareDirective_tight ht hc₃ (by decide) (by simp) hclose
  exact ⟨d', .choiceElse hcond' helse' hno' hclose', hend⟩

theorem condition (ht : Ends t) {after : Bool} (h₁ : c.skipLines = some c₁) (hne₁ : c₁.rest ≠ [])
    (hcond : Respaces t (.expr .inline) c₁ c₂) (hclose : c₂.closeSequence = some (after, c₃))
    (hyes : Respaces t .directiveBody c₃ d) : Respaces t .condition c d := by
  intro c' hc hd
  obtain ⟨c₁', h₁', hc₁, -⟩ := skip_near ht (Tight.near hc) h₁ hne₁
  obtain ⟨c₂', hcond', hc₂⟩ := hcond c₁' hc₁ (concluded_of_closeSequence hclose)
  obtain ⟨c₃', hclose', hc₃⟩ := closeSequence_tight ht hc₂.near hclose
  obtain ⟨d', hyes', hend⟩ := hyes c₃' hc₃ hd
  exact ⟨d', .condition h₁' hcond' hclose' hyes', hend⟩

theorem repetition (ht : Ends t) {key : Option String} {value : String} {after : Bool}
    {closing : Sequence} (hnames : c.loopNames = some (key, value, c₁)) (h₂ : c₁.skipLines = some c₂)
    (hne₂ : c₂.rest ≠ []) (hcollection : Respaces t (.expr .inline) c₂ c₃)
    (hopen : c₃.closeSequence = some (after, c₄)) (hbody : Respaces t .directiveBody c₄ c₅)
    (hclose : c₅.bareDirective ['e', 'n', 'd', 'f', 'o', 'r'] = some (closing, d)) :
    Respaces t .repetition c d := by
  intro c' hc _
  obtain ⟨c₁', hnames', hc₁⟩ := loopNames_tight ht hc hnames
  obtain ⟨c₂', h₂', hc₂, -⟩ := skip_near ht hc₁.near h₂ hne₂
  obtain ⟨c₃', hcollection', hc₃⟩ := hcollection c₂' hc₂ (concluded_of_closeSequence hopen)
  obtain ⟨c₄', hopen', hc₄⟩ := closeSequence_tight ht hc₃.near hopen
  obtain ⟨c₅', hbody', hc₅⟩ := hbody c₄' hc₄ (closable_of_bareDirective (by simp) hclose)
  obtain ⟨closing', d', hclose', hend⟩ := bareDirective_tight ht hc₅ (by decide) (by simp) hclose
  exact ⟨d', .repetition hnames' h₂' hcollection' hopen' hbody' hclose', hend⟩

theorem directiveBody (hparts : Respaces t (.parts .endOfText) c d) :
    Respaces t .directiveBody c d := by
  rintro c' ⟨p, hc⟩ hd
  obtain ⟨d', hparts', q, hend⟩ := hparts c' ⟨trivial, some p, hc, fun _ hnone => by cases hnone⟩ hd
  obtain ⟨x, u, hu⟩ := List.exists_cons_of_ne_nil hd.ne_nil
  rw [hu] at hend
  exact ⟨d', .directiveBody hparts' hend.ne_nil, q, hu ▸ hend⟩

end Respaces

/-! ## All phrases -/

/-- A phrase stands in another layout of its text, too. -/
theorem Derives.respaced (ht : Ends t) {p : Phrase} (h : Derives true p c d) :
    Respaces t p c d := by
  induction h with
  | expr _ _ ihterm ihops => exact ihterm.expr ihops
  | stay hskip hstay => exact .stay ht hskip hstay
  | dot hskip hrest hx hstep _ ihops => exact .dot ht hskip hrest hx hstep ihops
  | indexed hskip hrest _ _ ihindex ihops => exact .indexed ht hskip hrest ihindex ihops
  | conditional hskip hrest hmode h₁ hyes h₃ hcolon h₅ hno ihyes ihno =>
    exact .conditional ht hskip hrest hmode h₁ (ne_nil_of_closes hyes.moves) ihyes h₃ hcolon h₅
      (ne_nil_of_closes hno.moves) ihno
  | binary hskip hop h₁ hrhs hops ihrhs ihops =>
    exact .binary ht hskip hop h₁ (ne_nil_of_closes hrhs.moves) ihrhs hops ihops
  | splat h₁ hrest h₂ hclose => exact .splat ht h₁ hrest h₂ hclose
  | index h₁ hne hkey h₃ hclose ihkey =>
    exact .index ht h₁ hne (ne_nil_of_closes hkey.moves) ihkey h₃ hclose
  | quoted hrest _ hclose ihparts => exact .quoted hrest ihparts hclose
  | arrayFor hrest hskip hfor hform hclose ihform =>
    exact .arrayFor ht hrest hskip hfor hform ihform hclose
  | array hrest hskip hfor hitems ihitems => exact .array ht hrest hskip hfor hitems ihitems
  | objectFor hrest hskip hfor hform hclose ihform =>
    exact .objectFor ht hrest hskip hfor hform ihform hclose
  | object hrest hskip hfor hentries ihentries =>
    exact .object ht hrest hskip hfor hentries ihentries
  | parens hrest h₁ hinner h₃ hclose ihinner =>
    exact .parens ht hrest h₁ (ne_nil_of_closes hinner.moves) ihinner h₃ hclose
  | heredocTerm hrest _ ihdoc => exact .heredocTerm hrest ihdoc
  | not hrest _ ihoperand => exact .not hrest ihoperand
  | negative hrest hskip hnumber => exact .negative ht hrest hskip hnumber
  | neg hrest hskip hnext hx _ ihoperand => exact .neg ht hrest hskip hnext hx ihoperand
  | number hnumber => exact .number ht hnumber
  | wordTerm hrest hx hword ihword => exact .wordTerm hrest hx hword ihword
  | operand h₁ hterm ihterm => exact .operand ht h₁ (ne_nil_of_closes hterm.moves) ihterm
  | word hname hnames hskip hcall hone => exact .word ht hname hnames hskip hcall hone
  | call hname hnames hskip hrest _ ihargs => exact .call ht hname hnames hskip hrest ihargs
  | elementsEnd hskip hrest => exact .elementsEnd ht hskip hrest
  | elementsLast hskip hne helement h₂ hrest ihelement =>
    exact .elementsLast ht hskip hne helement ihelement h₂ hrest
  | elementsMore hskip hne helement h₂ hrest _ ihelement ihmore =>
    exact .elementsMore ht hskip hne helement ihelement h₂ hrest ihmore
  | elementsSpread hskip hne helement h₂ hrest h₃ hclose ihelement =>
    exact .elementsSpread ht hskip hne helement ihelement h₂ hrest h₃ hclose
  | entriesEnd hskip hrest => exact .entriesEnd ht hskip hrest
  | entriesLast hskip hne hentry hrest ihentry =>
    exact .entriesLast ht hskip hne hentry ihentry hrest
  | entriesComma hskip hne hentry hrest _ ihentry ihmore =>
    exact .entriesComma ht hskip hne hentry ihentry hrest ihmore
  | entriesLine hskip hne hentry hbreak hmore ihentry ihmore =>
    exact .entriesLine ht hskip hne hentry ihentry hbreak hmore ihmore
  | entry _ h₂ hsign h₄ hvalue h₆ ihkey ihvalue =>
    exact .entry ht ihkey h₂ hsign h₄ (ne_nil_of_closes hvalue.moves) ihvalue h₆
  | unfiltered _ hif ihgenerator => exact .unfiltered ht ihgenerator hif
  | filtered _ hif h₃ hcond h₅ ihgenerator ihcond =>
    exact .filtered ht ihgenerator hif h₃ (ne_nil_of_closes hcond.moves) ihcond h₅
  | generator hfor hnames h₃ hcollection h₅ hcolon h₇ hyielded ihcollection ihyielded =>
    refine .generator ht hfor hnames h₃ (ne_nil_of_closes hcollection.moves) ihcollection h₅ hcolon
      h₇ ?_ ihyielded
    cases hyielded with
    | yieldedValue hvalue => exact ne_nil_of_closes hvalue.moves
    | yieldedEntry hkey => exact ne_nil_of_closes hkey.moves
  | yieldedValue _ h₁ ihvalue => exact .yieldedValue ht ihvalue h₁
  | yieldedEntry _ h₂ harrow h₄ hvalue h₆ h₇ ihkey ihvalue =>
    exact .yieldedEntry ht ihkey h₂ harrow h₄ (ne_nil_of_closes hvalue.moves) ihvalue h₆ h₇
  | heredoc hstart _ ihbody => exact .heredoc ht hstart ihbody
  | heredocBrief _ hstart hstop => exact .heredocBrief hstart hstop
  | heredocBody _ hbreak hstop ihparts => exact .heredocBody ihparts hbreak hstop
  | interpolation hrest hopen hinner hclose _ ihinner ihmore =>
    exact .interpolation ht hrest hopen (ne_nil_of_closes hinner.moves) ihinner hclose ihmore
  | choicePart hrest hopen hinner _ _ ihpart ihmore =>
    exact .choicePart ht hrest hopen hinner ihpart ihmore
  | repetitionPart hrest hopen hinner _ _ ihpart ihmore =>
    exact .repetitionPart ht hrest hopen hinner ihpart ihmore
  | partsDirective hrest hopen hinner => exact .partsDirective ht hrest hopen hinner
  | partsEnd _ hend => exact .partsEnd ht hend
  | literal _ _ hrun _ ihmore => exact .literal ht hrun ihmore
  | choice _ _ hclose ihcond => exact .choice ht ihcond hclose
  | choiceElse _ helse _ hclose ihcond ihno => exact .choiceElse ht ihcond helse ihno hclose
  | condition h₁ hcond hclose _ ihcond ihyes =>
    exact .condition ht h₁ (ne_nil_of_closes hcond.moves) ihcond hclose ihyes
  | repetition hnames h₂ hcollection hopen _ hclose ihcollection ihbody =>
    exact .repetition ht hnames h₂ (ne_nil_of_closes hcollection.moves) ihcollection hopen ihbody
      hclose
  | directiveBody _ _ ihparts => exact .directiveBody ihparts

end TerraLint.Hcl
