import TerraLint.Proofs.Hcl.Ending

/-!
# Reading with less text behind

What is read before a text `t` is read without it, to the same tree and with the same bound, if it
ends where its end is found without `t` and no heredoc in it is ambiguous. So the meaning of an
expression lies in its own text.

* `Local`, `locality`: every reader.
-/

namespace TerraLint.Hcl

open Text Cursor

variable {t : List Char} {m a : Mode} {c d : Cursor} {n : Nat}

/-- What the readers with a bound give before `t` they give without it. -/
structure Local (t : List Char) (n : Nat) : Prop where
  expr : ∀ {m c e d}, Unambiguous c.rest → Clear t d →
    expr n m (c.ahead t) = .ok (e, d.ahead t) → expr n m c = .ok (e, d)
  operations : ∀ {m start e c e' d}, Unambiguous c.rest → Clear t d →
    operations n m start e (c.ahead t) = .ok (e', d.ahead t) →
    operations n m start e c = .ok (e', d)
  index : ∀ {start c step d}, Unambiguous c.rest →
    indexStep n start (c.ahead t) = .ok (step, d.ahead t) → indexStep n start c = .ok (step, d)
  term : ∀ {m c form a d}, Unambiguous c.rest → Clear t d →
    term n m (c.ahead t) = .ok (form, a, d.ahead t) → term n m c = .ok (form, a, d)
  operand : ∀ {op m c form a d}, Unambiguous c.rest → Clear t d →
    prefixed n op m (c.ahead t) = .ok (form, a, d.ahead t) → prefixed n op m c = .ok (form, a, d)
  word : ∀ {m c form a d}, Unambiguous c.rest → Clear t d →
    word n m (c.ahead t) = .ok (form, a, d.ahead t) → word n m c = .ok (form, a, d)
  arguments : ∀ {m args c args' spread closing d}, Unambiguous c.rest →
    arguments n m args (c.ahead t) = .ok (args', spread, closing, d.ahead t) →
    arguments n m args c = .ok (args', spread, closing, d)
  items : ∀ {m items c items' closing d}, Unambiguous c.rest →
    arrayItems n m items (c.ahead t) = .ok (items', closing, d.ahead t) →
    arrayItems n m items c = .ok (items', closing, d)
  entries : ∀ {entries c entries' gap d}, Unambiguous c.rest →
    objectEntries n entries (c.ahead t) = .ok (entries', gap, d.ahead t) →
    objectEntries n entries c = .ok (entries', gap, d)
  comprehension : ∀ {m keyed c form d}, Unambiguous c.rest →
    comprehension n m keyed (c.ahead t) = .ok (form, d.ahead t) →
    comprehension n m keyed c = .ok (form, d)
  yielded : ∀ {m keyed c key value grouped d}, Unambiguous c.rest →
    yielded n m keyed (c.ahead t) = .ok (key, value, grouped, d.ahead t) →
    yielded n m keyed c = .ok (key, value, grouped, d)
  heredoc : ∀ {c form d}, Unambiguous c.rest →
    heredoc n (c.ahead t) = .ok (form, d.ahead t) → heredoc n c = .ok (form, d)
  heredocBody : ∀ {id c parts gap d}, Unambiguous c.rest →
    heredocBody n id (c.ahead t) = .ok (parts, gap, d.ahead t) →
    heredocBody n id c = .ok (parts, gap, d)
  parts : ∀ {closer parts c parts' d}, Unambiguous c.rest → Stops closer d →
    templateParts n closer parts (c.ahead t) = .ok (parts', d.ahead t) →
    templateParts n closer parts c = .ok (parts', d)
  choice : ∀ {start before c part d}, Unambiguous c.rest →
    choice n start before (c.ahead t) = .ok (part, d.ahead t) →
    choice n start before c = .ok (part, d)
  repetition : ∀ {start before c part d}, Unambiguous c.rest →
    repetition n start before (c.ahead t) = .ok (part, d.ahead t) →
    repetition n start before c = .ok (part, d)
  directiveBody : ∀ {c parts d}, Unambiguous c.rest → Stops .endOfText d →
    directiveBody n (c.ahead t) = .ok (parts, d.ahead t) → directiveBody n c = .ok (parts, d)

namespace Local

variable (ih : Local t n)

include ih

theorem expr_succ {e : Expr} (hs : Unambiguous c.rest) (hd : Clear t d)
    (h : Hcl.expr (n + 1) m (c.ahead t) = .ok (e, d.ahead t)) :
    Hcl.expr (n + 1) m c = .ok (e, d) := by
  obtain ⟨form, a, c₁, hterm, hops⟩ := expr_succ_iff.1 h
  have hops' := (sound n).operations hops
  obtain ⟨c₁, rfl⟩ := exists_ahead (reaches_of_operations hops')
  have hterm' := ih.term hs (clear_of_operations hops' rfl rfl hd) hterm
  have hops' := ih.operations (hs.after (closes_term hterm').reaches) hd hops
  exact expr_succ_iff.2 ⟨form, a, c₁, hterm', hops'⟩

/-- An expression and the blanks behind it, before what is no blank. -/
theorem expr_skip {e : Expr} {multiline : Bool} {c₁ f : Cursor}
    (hs : Unambiguous c.rest) (hexpr : Hcl.expr n m (c.ahead t) = .ok (e, c₁))
    (hskip : c₁.skip multiline = some (d.ahead t))
    (hnext : (d.ahead t).skipLines = some (f.ahead t)) :
    ∃ c₁', Hcl.expr n m c = .ok (e, c₁') ∧ c₁'.skip multiline = some d ∧ Unambiguous d.rest := by
  obtain ⟨c₁, rfl⟩ := exists_ahead (reaches_skip hskip)
  have hexpr' := ih.expr hs (clear_of_skip hskip hnext) hexpr
  have hskip' := skip_of_ahead hskip
  exact ⟨c₁, hexpr', hskip', hs.after ((closes_expr hexpr').reaches.trans (reaches_skip hskip'))⟩

/-- Steps and operators: nothing more was read at `d` with `t` behind it, and since blanks end there
alike, nothing more is read without `t`. -/
theorem operations_succ {start : Nat} {e e' : Expr} (hs : Unambiguous c.rest) (hd : Clear t d)
    (h : Hcl.operations (n + 1) m start e (c.ahead t) = .ok (e', d.ahead t)) :
    Hcl.operations (n + 1) m start e c = .ok (e', d) := by
  generalize hend : d.ahead t = d' at h
  cases operations_succ_iff.1 h with
  | stay hskip hstay =>
    obtain rfl := ahead_inj.1 hend
    exact operations_stay_of_ahead hd hskip hstay
  | @dot next c₁ _ x rest step _ hskip hrest hx hstep hops =>
    subst hend
    obtain ⟨c₁, rfl⟩ := exists_ahead (reaches_of_operations ((sound n).operations hops))
    obtain ⟨rest, rfl⟩ := exists_rest_cons (closes_dotStep hstep)
    obtain ⟨cs, byte⟩ := next
    obtain rfl : cs = '.' :: x :: (rest ++ t) := hrest
    have hskip' := skip_of_ahead (d := ⟨'.' :: x :: rest, byte⟩) hskip
    have hstep' := dotStep_of_ahead (c := ⟨x :: rest, byte + 1⟩) hstep
    have hops' := ih.operations ((hs.after (reaches_skip hskip')).after
      ((reaches_cons rfl rfl).trans (closes_dotStep hstep').reaches)) hd hops
    exact operations_succ_iff.2 (.dot hskip' rfl hx hstep' hops')
  | @index next c₁ _ x rest step _ hskip hrest hindex hops =>
    subst hend
    obtain ⟨c₁, rfl⟩ := exists_ahead (reaches_of_operations ((sound n).operations hops))
    obtain ⟨rest, rfl⟩ := exists_rest_cons ((sound n).index hindex).moves
    obtain ⟨cs, byte⟩ := next
    obtain rfl : cs = '[' :: x :: (rest ++ t) := hrest
    have hskip' := skip_of_ahead (d := ⟨'[' :: x :: rest, byte⟩) hskip
    have hs' := (hs.after (reaches_skip hskip')).after (reaches_cons rfl rfl)
    have hindex' := ih.index (c := ⟨x :: rest, byte + 1⟩) hs' hindex
    have hops' := ih.operations (hs'.after (Closes.reaches ((sound n).index hindex').moves)) hd hops
    exact operations_succ_iff.2 (.index hskip' rfl hindex' hops')
  | @conditional next c₁ c₂ c₃ c₄ c₅ _ x rest yes no hskip hrest hmode h₁ hyes h₃ hcolon h₅ hno =>
    subst hend
    obtain ⟨c₅, rfl⟩ := exists_ahead (closes_expr hno).reaches
    obtain ⟨c₄, rfl⟩ := exists_ahead (reaches_skip h₅)
    obtain ⟨c₃, rfl⟩ := exists_ahead (reaches_expect hcolon)
    obtain ⟨c₂, rfl⟩ := exists_ahead (reaches_skip h₃)
    obtain ⟨c₁, rfl⟩ := exists_ahead (closes_expr hyes).reaches
    obtain ⟨rest, rfl⟩ := exists_rest_cons ((reaches_skip h₁).closes (closes_expr hyes))
    obtain ⟨cs, byte⟩ := next
    obtain rfl : cs = '?' :: x :: (rest ++ t) := hrest
    have hskip' := skip_of_ahead (d := ⟨'?' :: x :: rest, byte⟩) hskip
    have h₁' := skip_of_ahead (c := ⟨x :: rest, byte + 1⟩) h₁
    have hs₁ := ((hs.after (reaches_skip hskip')).after (reaches_cons rfl rfl)).after
      (reaches_skip h₁')
    have hcolon' := expect_of_ahead hcolon
    obtain ⟨c₂, hyes', h₃', hs₃⟩ :=
      ih.expr_skip hs₁ hyes h₃ (skipLines_of_expect hcolon' (by decide))
    have h₅' := skip_of_ahead h₅
    have hno' := ih.expr (hs₃.after ((reaches_expect hcolon').trans (reaches_skip h₅'))) hd hno
    exact operations_succ_iff.2 (.conditional hskip' rfl hmode h₁' hyes' h₃' hcolon' h₅' hno')
  | @binary next c₁ c₂ _ op length rhs _ hskip hop h₁ hrhs hops =>
    subst hend
    have hops' := (sound n).operations hops
    obtain ⟨c₂, rfl⟩ := exists_ahead (reaches_of_operations hops')
    have hlt := (reaches_skip h₁).closes (closes_expr hrhs)
    obtain ⟨⟨cs, byte⟩, rfl⟩ := exists_ahead ((reaches_drop hop).1.trans hlt.reaches)
    obtain ⟨c₁, rfl⟩ := exists_ahead (closes_expr hrhs).reaches
    obtain ⟨hop', hdrop⟩ := operator?_of_ahead hop
      (Nat.lt_of_le_of_lt (length_le_of_eq_ahead (d := c₂) rfl) hlt.length_lt)
    have hskip' := skip_of_ahead (d := ⟨cs, byte⟩) hskip
    have h₁' := @skip_of_ahead t ⟨cs.drop length, byte + length⟩ c₁ m.multiline
      (by rw [ahead, ← hdrop]; exact h₁)
    have hs₁ := (hs.after (reaches_skip hskip')).after
      ((reaches_drop (c := ⟨cs, byte⟩) hop').1.trans (reaches_skip h₁'))
    have hrhs' := ih.expr hs₁ (clear_of_operations hops' rfl rfl hd) hrhs
    have hops' := ih.operations (hs₁.after (closes_expr hrhs').reaches) hd hops
    exact operations_succ_iff.2 (.binary hskip' hop' h₁' hrhs' hops')

theorem index_succ {start : Nat} {step : Step}
    (hs : Unambiguous c.rest) (h : indexStep (n + 1) start (c.ahead t) = .ok (step, d.ahead t)) :
    indexStep (n + 1) start c = .ok (step, d) := by
  cases index_succ_iff.1 h with
  | @splat c₁ c₂ _ rest h₁ hrest h₂ hclose =>
    obtain ⟨c₂, rfl⟩ := exists_ahead (reaches_expect hclose)
    obtain ⟨rest, rfl⟩ := exists_rest (reaches_skip h₂)
    obtain ⟨cs, byte⟩ := c₁
    obtain rfl : cs = '*' :: (rest ++ t) := hrest
    have h₁' := skip_of_ahead (d := ⟨'*' :: rest, byte⟩) h₁
    have h₂' := skip_of_ahead (c := ⟨rest, byte + 1⟩) h₂
    exact index_succ_iff.2 (.splat h₁' rfl h₂' (expect_of_ahead hclose))
  | @key c₁ c₂ c₃ _ key h₁ hne hkey h₃ hclose =>
    obtain ⟨c₃, rfl⟩ := exists_ahead (reaches_expect hclose)
    obtain ⟨c₁, rfl⟩ := exists_ahead ((closes_expr hkey).reaches.trans (reaches_skip h₃))
    have h₁' := skip_of_ahead h₁
    have hclose' := expect_of_ahead hclose
    obtain ⟨c₂, hkey', h₃', -⟩ := ih.expr_skip (hs.after (reaches_skip h₁')) hkey h₃
      (skipLines_of_expect hclose' (by decide))
    exact index_succ_iff.2 (.key h₁' (head?_ne_of_ahead hne) hkey' h₃' hclose')

theorem term_succ {form : Form} (hs : Unambiguous c.rest) (hd : Clear t d)
    (h : Hcl.term (n + 1) m (c.ahead t) = .ok (form, a, d.ahead t)) :
    Hcl.term (n + 1) m c = .ok (form, a, d) := by
  have hderives := (sound (n + 1)).term h
  obtain ⟨cs, byte⟩ := c
  -- The first character stands before `t`.
  obtain ⟨x, cs, rfl⟩ : ∃ x cs', cs = x :: cs' := by
    refine List.exists_cons_of_ne_nil ?_
    rintro rfl
    have hlt := (closes_term h).length_lt
    simp only [ahead, List.nil_append, List.length_append] at hlt
    omega
  have hs' : Unambiguous cs := hs.of_suffix (List.suffix_cons x cs)
  refine term_succ_iff.2 ?_
  cases term_succ_iff.1 h with
  | @quoted c₁ _ rest ps hrest hparts hclose =>
    obtain ⟨rfl, rfl⟩ := List.cons.inj hrest
    obtain ⟨c₁, rfl⟩ := exists_ahead (reaches_expect hclose)
    have hclose' := expect_of_ahead hclose
    have hstops : Stops .quote c₁ := List.head?_eq_some_iff.2 ⟨d.rest, (expect_eq_some.1 hclose').1⟩
    exact .quoted rfl (ih.parts (c := ⟨cs, byte + 1⟩) hs' hstops hparts) hclose'
  | arrayFor hrest hskip hfor hform hclose =>
    obtain ⟨rfl, rfl⟩ := List.cons.inj hrest
    obtain ⟨next, hskip', hfor', hs', rfl⟩ := exists_comprehension (c := ⟨cs, byte + 1⟩) hs' hskip
      hfor ((sound n).comprehension hform) (reaches_expect hclose)
    obtain ⟨c₁, rfl⟩ := exists_ahead (reaches_expect hclose)
    exact .arrayFor rfl hskip' hfor' (ih.comprehension hs' hform) (expect_of_ahead hclose)
  | array hrest hskip hfor hitems =>
    obtain ⟨rfl, rfl⟩ := List.cons.inj hrest
    obtain ⟨next', hnext, hreach⟩ := exists_skip_of_elements ((sound n).items hitems)
    obtain rfl := Option.some.inj (hskip.symm.trans hnext)
    obtain ⟨next, rfl⟩ := exists_ahead hreach
    have hskip' := skip_of_ahead (c := ⟨cs, byte + 1⟩) hskip
    exact .array rfl hskip' (not_startsComprehension_of_ahead hfor)
      (ih.items (c := ⟨cs, byte + 1⟩) hs' hitems)
  | objectFor hrest hskip hfor hform hclose =>
    obtain ⟨rfl, rfl⟩ := List.cons.inj hrest
    obtain ⟨next, hskip', hfor', hs', rfl⟩ := exists_comprehension (c := ⟨cs, byte + 1⟩) hs' hskip
      hfor ((sound n).comprehension hform) (reaches_expect hclose)
    obtain ⟨c₁, rfl⟩ := exists_ahead (reaches_expect hclose)
    exact .objectFor rfl hskip' hfor' (ih.comprehension hs' hform) (expect_of_ahead hclose)
  | object hrest hskip hfor hentries =>
    obtain ⟨rfl, rfl⟩ := List.cons.inj hrest
    obtain ⟨next', hnext, hreach⟩ := exists_skip_of_entries ((sound n).entries hentries)
    obtain rfl := Option.some.inj (hskip.symm.trans hnext)
    obtain ⟨next, rfl⟩ := exists_ahead hreach
    have hskip' := skip_of_ahead (c := ⟨cs, byte + 1⟩) hskip
    exact .object rfl hskip' (not_startsComprehension_of_ahead hfor)
      (ih.entries (c := ⟨cs, byte + 1⟩) hs' hentries)
  | parens hrest h₁ hinner h₃ hclose =>
    obtain ⟨rfl, rfl⟩ := List.cons.inj hrest
    obtain ⟨c₃, rfl⟩ := exists_ahead (reaches_expect hclose)
    obtain ⟨c₁, rfl⟩ := exists_ahead ((closes_expr hinner).reaches.trans (reaches_skip h₃))
    have h₁' := skip_of_ahead (c := ⟨cs, byte + 1⟩) h₁
    have hclose' := expect_of_ahead hclose
    obtain ⟨c₂, hinner', h₃', -⟩ := ih.expr_skip (hs'.after (reaches_skip h₁')) hinner h₃
      (skipLines_of_expect hclose' (by decide))
    exact .parens rfl h₁' hinner' h₃' hclose'
  | heredoc hrest hdoc =>
    obtain ⟨rfl, rfl⟩ := List.cons.inj hrest
    exact .heredoc rfl (ih.heredoc hs hdoc)
  | not hrest hoperand =>
    obtain ⟨rfl, rfl⟩ := List.cons.inj hrest
    exact .not rfl (ih.operand (c := ⟨cs, byte + 1⟩) hs' hd hoperand)
  | negative hrest hskip hnumber =>
    obtain ⟨rfl, rfl⟩ := List.cons.inj hrest
    obtain ⟨next, rfl⟩ := exists_ahead (closes_number hnumber).reaches
    exact .negative rfl (skip_of_ahead (c := ⟨cs, byte + 1⟩) hskip) (number_of_ahead hnumber)
  | @neg _ next _ x xs rest form hrest hskip hnext hx hoperand =>
    obtain ⟨rfl, rfl⟩ := List.cons.inj hrest
    obtain ⟨ys, byte'⟩ := next
    obtain rfl : ys = x :: xs := hnext
    obtain ⟨xs, rfl⟩ := exists_rest_cons (closes_of_minus hderives rfl hskip)
    have hskip' := skip_of_ahead (c := ⟨cs, byte + 1⟩) (d := ⟨x :: xs, byte'⟩) hskip
    exact .neg rfl hskip' rfl hx (ih.operand (c := ⟨cs, byte + 1⟩) hs' hd hoperand)
  | number hnumber => exact .number (number_of_ahead (c := ⟨x :: cs, byte⟩) hnumber)
  | word hrest hx hword =>
    obtain ⟨rfl, rfl⟩ := List.cons.inj hrest
    exact .word rfl hx (ih.word (c := ⟨x :: cs, byte⟩) hs hd hword)

theorem operand_succ {op : UnaryOp} {form : Form} (hs : Unambiguous c.rest) (hd : Clear t d)
    (h : prefixed (n + 1) op m (c.ahead t) = .ok (form, a, d.ahead t)) :
    prefixed (n + 1) op m c = .ok (form, a, d) := by
  -- The term behind the blanks, wherever they end.
  have hterm : ∀ {c₁ : Cursor} {form : Form}, (c.ahead t).skipInline = some c₁ →
      Hcl.term n m c₁ = .ok (form, a, d.ahead t) → ∃ c₁', c₁ = c₁'.ahead t ∧
        c.skipInline = some c₁' ∧ Hcl.term n m c₁' = .ok (form, a, d) := by
    intro c₁ form h₁ hterm
    obtain ⟨c₁, rfl⟩ := exists_ahead (closes_term hterm).reaches
    have h₁' := skip_of_ahead h₁
    exact ⟨c₁, rfl, h₁', ih.term (hs.after (reaches_skip h₁')) hd hterm⟩
  refine operand_succ_iff.2 ?_
  cases operand_succ_iff.1 h with
  | not h₁ hrest hform =>
    obtain ⟨c₁, rfl, h₁', hform'⟩ := hterm h₁ hform
    obtain ⟨rest, hrest', rfl⟩ := exists_cons_of_closes hrest (closes_term hform')
    exact .not h₁' hrest' hform'
  | @negative c₁ next _ rest number h₁ hrest hskip hnumber =>
    obtain ⟨next, rfl⟩ := exists_ahead (closes_number hnumber).reaches
    obtain ⟨c₁, rest, rfl, hrest', rfl⟩ := exists_cons_ahead hrest rfl (reaches_skip hskip)
    have hskip' := skip_of_ahead (c := ⟨rest, c₁.byte + 1⟩) hskip
    exact .negative (skip_of_ahead h₁) hrest' hskip' (number_of_ahead hnumber)
  | @neg _ c₁ next _ x xs rest form h₁ hrest hskip hnext hx hform =>
    have hcloses := closes_of_minus ((sound n).term hform) hrest hskip
    obtain ⟨c₁, rfl, h₁', hform'⟩ := hterm h₁ hform
    obtain ⟨rest, hrest', rfl⟩ := exists_cons_of_closes hrest (closes_term hform')
    obtain ⟨ys, byte⟩ := next
    obtain rfl : ys = x :: xs := hnext
    obtain ⟨xs, rfl⟩ := exists_rest_cons hcloses
    have hskip' := skip_of_ahead (c := ⟨rest, c₁.byte + 1⟩) (d := ⟨x :: xs, byte⟩) hskip
    exact .neg h₁' hrest' hskip' rfl hx hform'
  | term h₁ hnot hneg hform =>
    obtain ⟨c₁, rfl, h₁', hform'⟩ := hterm h₁ hform
    exact .term h₁' (head?_ne_of_ahead hnot) (head?_ne_of_ahead hneg) hform'

/-- A name, the qualifiers behind it, and the arguments of a call. -/
theorem word_succ {form : Form} (hs : Unambiguous c.rest) (hd : Clear t d)
    (h : Hcl.word (n + 1) m (c.ahead t) = .ok (form, a, d.ahead t)) :
    Hcl.word (n + 1) m c = .ok (form, a, d) := by
  refine word_succ_iff.2 ?_
  cases word_succ_iff.1 h with
  | bare hname hnames hskip hcall hone =>
    obtain ⟨c₁, rfl⟩ := exists_ahead (reaches_of_qualifiers hnames)
    obtain ⟨next₀, hskip₀, hnext⟩ := hd.skip hskip
    refine .bare (name_of_ahead hname) (qualifiers_of_ahead hd hnames) hskip₀ ?_ hone
    rcases hnext with hnil | rfl
    · rw [hnil]
      exact nofun
    · exact head?_ne_of_ahead hcall
  | @call c₁ c₂ next _ name names rest args spread closing hname hnames hskip hrest hargs =>
    obtain ⟨rest, rfl⟩ := exists_rest (Closes.reaches ((sound n).arguments hargs).moves)
    obtain ⟨cs, byte⟩ := next
    obtain rfl : cs = '(' :: (rest ++ t) := hrest
    have hmore := reaches_of_qualifiers hnames
    obtain ⟨c₂, rfl⟩ := exists_ahead (d := ⟨'(' :: rest, byte⟩) (reaches_skip hskip)
    obtain ⟨c₁, rfl⟩ := exists_ahead hmore
    have hname' := name_of_ahead hname
    have hskip' := skip_of_ahead (d := ⟨'(' :: rest, byte⟩) hskip
    have hclear : Clear t c₂ :=
      clear_of_token (e := ⟨'(' :: rest, byte⟩) hskip rfl (by decide)
    have hnames' := qualifiers_of_ahead hclear hnames
    have hs' := ((hs.after ((closes_name hname').reaches.trans hmore.of_ahead)).after
      (reaches_skip hskip')).after (reaches_cons rfl rfl)
    have hargs' := ih.arguments (c := ⟨rest, byte + 1⟩) hs' hargs
    exact .call hname' hnames' hskip' rfl hargs'

theorem arguments_succ {args args' : List Expr} {spread : Bool} {closing : Closing}
    (hs : Unambiguous c.rest)
    (h : Hcl.arguments (n + 1) m args (c.ahead t) = .ok (args', spread, closing, d.ahead t)) :
    Hcl.arguments (n + 1) m args c = .ok (args', spread, closing, d) := by
  obtain ⟨next, hnext, hreach⟩ := exists_skip_of_elements ((sound (n + 1)).arguments h)
  obtain ⟨next, rfl⟩ := exists_ahead hreach
  have hskip' := skip_of_ahead hnext
  have hs' := hs.after (reaches_skip hskip')
  refine arguments_succ_iff.2 ?_
  generalize hend : d.ahead t = d' at h
  cases arguments_succ_iff.1 h with
  | stop hskip hrest =>
    obtain rfl := Option.some.inj (hnext.symm.trans hskip)
    obtain ⟨next', rest, heq, hrest', rfl⟩ := exists_cons_end hrest rfl hend.symm
    obtain rfl := ahead_inj.1 heq
    have hstep : ArgumentsStep n m args c _ _ _ _ := .stop hskip' hrest'
    exact hstep
  | last hskip hne harg h₂ hrest =>
    obtain rfl := Option.some.inj (hnext.symm.trans hskip)
    obtain ⟨c₂, rest, rfl, hrest', rfl⟩ := exists_cons_end hrest rfl hend.symm
    obtain ⟨c₁, harg', h₂', -⟩ := ih.expr_skip hs' harg h₂ (skipLines_of_token hrest' (by decide))
    exact .last hskip' (head?_ne_of_ahead hne) harg' h₂' hrest'
  | more hskip hne harg h₂ hrest hmore =>
    subst hend
    obtain rfl := Option.some.inj (hnext.symm.trans hskip)
    obtain ⟨c₂, rest, rfl, hrest', rfl⟩ :=
      exists_cons_ahead hrest rfl (Closes.reaches ((sound n).arguments hmore).moves)
    obtain ⟨c₁, harg', h₂', hs₂⟩ := ih.expr_skip hs' harg h₂ (skipLines_of_token hrest' (by decide))
    exact .more hskip' (head?_ne_of_ahead hne) harg' h₂' hrest'
      (ih.arguments (c := ⟨rest, c₂.byte + 1⟩) (hs₂.after (reaches_cons hrest' rfl)) hmore)
  | @spread next' c₁ c₂ c₃ _ rest arg hskip hne harg h₂ hrest h₃ hclose =>
    subst hend
    obtain rfl := Option.some.inj (hnext.symm.trans hskip)
    obtain ⟨c₃, rfl⟩ := exists_ahead (reaches_expect hclose)
    have hdots : Reaches c₂ ⟨rest, c₂.byte + 3⟩ := ⟨['.', '.', '.'], hrest, rfl⟩
    obtain ⟨c₂, rfl⟩ := exists_ahead (hdots.trans (reaches_skip h₃))
    obtain ⟨rest, hrest', rfl⟩ :=
      exists_append (w := ['.', '.', '.']) hrest (length_le_of_reaches_ahead (reaches_skip h₃))
    have h₃' := skip_of_ahead (c := ⟨rest, c₂.byte + 3⟩) h₃
    obtain ⟨c₁, harg', h₂', -⟩ := ih.expr_skip hs' harg h₂ (skipLines_of_token hrest' (by decide))
    have hstep : ArgumentsStep n m args c _ _ _ _ :=
      .spread hskip' (head?_ne_of_ahead hne) harg' h₂' hrest' h₃' (expect_of_ahead hclose)
    exact hstep

theorem items_succ {items items' : List Expr} {closing : Closing}
    (hs : Unambiguous c.rest)
    (h : arrayItems (n + 1) m items (c.ahead t) = .ok (items', closing, d.ahead t)) :
    arrayItems (n + 1) m items c = .ok (items', closing, d) := by
  obtain ⟨next, hnext, hreach⟩ := exists_skip_of_elements ((sound (n + 1)).items h)
  obtain ⟨next, rfl⟩ := exists_ahead hreach
  have hskip' := skip_of_ahead hnext
  have hs' := hs.after (reaches_skip hskip')
  refine array_succ_iff.2 ?_
  generalize hend : d.ahead t = d' at h
  cases array_succ_iff.1 h with
  | stop hskip hrest =>
    obtain rfl := Option.some.inj (hnext.symm.trans hskip)
    obtain ⟨next', rest, heq, hrest', rfl⟩ := exists_cons_end hrest rfl hend.symm
    obtain rfl := ahead_inj.1 heq
    have hstep : ArrayStep n m items c _ _ _ := .stop hskip' hrest'
    exact hstep
  | last hskip hne hitem h₂ hrest =>
    obtain rfl := Option.some.inj (hnext.symm.trans hskip)
    obtain ⟨c₂, rest, rfl, hrest', rfl⟩ := exists_cons_end hrest rfl hend.symm
    obtain ⟨c₁, hitem', h₂', -⟩ := ih.expr_skip hs' hitem h₂ (skipLines_of_token hrest' (by decide))
    exact .last hskip' (head?_ne_of_ahead hne) hitem' h₂' hrest'
  | more hskip hne hitem h₂ hrest hmore =>
    subst hend
    obtain rfl := Option.some.inj (hnext.symm.trans hskip)
    obtain ⟨c₂, rest, rfl, hrest', rfl⟩ :=
      exists_cons_ahead hrest rfl (Closes.reaches ((sound n).items hmore).moves)
    obtain ⟨c₁, hitem', h₂', hs₂⟩ := ih.expr_skip hs' hitem h₂ (skipLines_of_token hrest' (by decide))
    exact .more hskip' (head?_ne_of_ahead hne) hitem' h₂' hrest'
      (ih.items (c := ⟨rest, c₂.byte + 1⟩) (hs₂.after (reaches_cons hrest' rfl)) hmore)

/-- An entry before what is no blank. -/
theorem entry_of_step {entry : EntryEnd → Entry} {f : Cursor} (hs : Unambiguous c.rest)
    (h : EntryStep n (c.ahead t) entry (d.ahead t))
    (hnext : (d.ahead t).skipLines = some (f.ahead t)) :
    EntryStep n c entry d ∧ Unambiguous d.rest := by
  obtain @⟨c₁, c₂, c₃, c₄, c₅, _, key, value, colon, hkey, h₂, hsign, h₄, hvalue, h₆⟩ := h
  obtain ⟨c₄, rfl⟩ := exists_ahead ((closes_expr hvalue).reaches.trans (reaches_skip h₆))
  obtain ⟨c₃, rfl⟩ := exists_ahead (reaches_skip h₄)
  obtain ⟨c₂, rfl⟩ := exists_ahead (reaches_expect hsign)
  have hsign' := expect_of_ahead hsign
  have htoken := skipLines_of_expect (t := t) hsign' (by cases colon <;> rfl)
  obtain ⟨c₁, hkey', h₂', hs₂⟩ := ih.expr_skip hs hkey h₂ htoken
  have h₄' := skip_of_ahead h₄
  have hs₄ := hs₂.after ((reaches_expect hsign').trans (reaches_skip h₄'))
  obtain ⟨c₅, hvalue', h₆', hs₆⟩ := ih.expr_skip hs₄ hvalue h₆ hnext
  exact ⟨.mk hkey' h₂' hsign' h₄' hvalue' h₆', hs₆⟩

theorem entries_succ {es es' : List Entry} {gap : Option Span}
    (hs : Unambiguous c.rest)
    (h : objectEntries (n + 1) es (c.ahead t) = .ok (es', gap, d.ahead t)) :
    objectEntries (n + 1) es c = .ok (es', gap, d) := by
  obtain ⟨next, hnext, hreach⟩ := exists_skip_of_entries ((sound (n + 1)).entries h)
  obtain ⟨next, rfl⟩ := exists_ahead hreach
  have hskip' := skip_of_ahead hnext
  have hs' := hs.after (reaches_skip hskip')
  refine entries_succ_iff.2 ?_
  generalize hend : d.ahead t = d' at h
  cases entries_succ_iff.1 h with
  | stop hskip hrest =>
    obtain rfl := Option.some.inj (hnext.symm.trans hskip)
    obtain ⟨next', rest, heq, hrest', rfl⟩ := exists_cons_end hrest rfl hend.symm
    obtain rfl := ahead_inj.1 heq
    have hstep : EntriesStep n es c _ _ _ := .stop hskip' hrest'
    exact hstep
  | last hskip hne hentry hrest =>
    obtain rfl := Option.some.inj (hnext.symm.trans hskip)
    obtain ⟨c₁, rest, rfl, hrest', rfl⟩ := exists_cons_end hrest rfl hend.symm
    obtain ⟨hentry', -⟩ := ih.entry_of_step hs' hentry (skipLines_of_token hrest' (by decide))
    exact .last hskip' (head?_ne_of_ahead hne) hentry' hrest'
  | comma hskip hne hentry hrest hmore =>
    subst hend
    obtain rfl := Option.some.inj (hnext.symm.trans hskip)
    obtain ⟨c₁, rest, rfl, hrest', rfl⟩ :=
      exists_cons_ahead hrest rfl (Closes.reaches ((sound n).entries hmore).moves)
    obtain ⟨hentry', hs₁⟩ := ih.entry_of_step hs' hentry (skipLines_of_token hrest' (by decide))
    exact .comma hskip' (head?_ne_of_ahead hne) hentry' hrest'
      (ih.entries (c := ⟨rest, c₁.byte + 1⟩) (hs₁.after (reaches_cons hrest' rfl)) hmore)
  | line hskip hne hentry hbreak hmore =>
    subst hend
    obtain rfl := Option.some.inj (hnext.symm.trans hskip)
    obtain ⟨f, hf, hfreach⟩ := exists_skip_of_entries ((sound n).entries hmore)
    obtain ⟨f, rfl⟩ := exists_ahead hfreach
    obtain ⟨c₂, rfl⟩ := exists_ahead (reaches_skip hf)
    obtain ⟨c₁, rfl⟩ := exists_ahead (reaches_lineBreak hbreak)
    obtain ⟨hentry', hs₁⟩ := ih.entry_of_step hs' hentry ((lineBreak_again hbreak).trans hf)
    have hbreak' := lineBreak_of_ahead hbreak
    exact .line hskip' (head?_ne_of_ahead hne) hentry' hbreak'
      (ih.entries (hs₁.after (reaches_lineBreak hbreak')) hmore)

theorem generator_of_step {keyed : Bool} {form : Option Expr → Form} (hs : Unambiguous c.rest)
    (h : GeneratorStep n m keyed (c.ahead t) form (d.ahead t)) :
    GeneratorStep n m keyed c form d ∧ Unambiguous d.rest := by
  obtain ⟨hfor, hnames, h₃, hcollection, h₅, hcolon, h₇, hyielded⟩ := h
  obtain ⟨c₇, rfl⟩ := exists_ahead (reaches_yielded hyielded)
  obtain ⟨c₆, rfl⟩ := exists_ahead (reaches_skip h₇)
  obtain ⟨c₅, rfl⟩ := exists_ahead (reaches_expect hcolon)
  obtain ⟨c₃, rfl⟩ := exists_ahead ((closes_expr hcollection).reaches.trans (reaches_skip h₅))
  obtain ⟨c₂, rfl⟩ := exists_ahead (reaches_skip h₃)
  obtain ⟨c₁, rfl⟩ := exists_ahead (reaches_loopNames hnames)
  have hfor' := expect_of_ahead hfor
  have hnames' := loopNames_of_ahead hnames
  have h₃' := skip_of_ahead h₃
  have hs₃ := (hs.after ((reaches_expect hfor').trans (reaches_loopNames hnames'))).after
    (reaches_skip h₃')
  have hcolon' := expect_of_ahead hcolon
  obtain ⟨c₄, hcollection', h₅', hs₅⟩ :=
    ih.expr_skip hs₃ hcollection h₅ (skipLines_of_expect hcolon' (by decide))
  have h₇' := skip_of_ahead h₇
  have hs₇ := hs₅.after ((reaches_expect hcolon').trans (reaches_skip h₇'))
  have hyielded' := ih.yielded hs₇ hyielded
  exact ⟨.mk hfor' hnames' h₃' hcollection' h₅' hcolon' h₇' hyielded',
    hs₇.after (reaches_yielded hyielded')⟩

theorem comprehension_succ {keyed : Bool} {form : Form}
    (hs : Unambiguous c.rest)
    (h : Hcl.comprehension (n + 1) m keyed (c.ahead t) = .ok (form, d.ahead t)) :
    Hcl.comprehension (n + 1) m keyed c = .ok (form, d) := by
  refine comprehension_succ_iff.2 ?_
  cases comprehension_succ_iff.1 h with
  | unfiltered hgenerator hif =>
    exact .unfiltered (ih.generator_of_step hs hgenerator).1 (expect_none_of_ahead hif)
  | filtered hgenerator hif h₃ hcond h₅ =>
    obtain ⟨c₃, rfl⟩ := exists_ahead ((closes_expr hcond).reaches.trans (reaches_skip h₅))
    obtain ⟨c₂, rfl⟩ := exists_ahead (reaches_skip h₃)
    obtain ⟨c₁, rfl⟩ := exists_ahead (reaches_expect hif)
    obtain ⟨hgenerator', hs₁⟩ := ih.generator_of_step hs hgenerator
    have hif' := expect_of_ahead hif
    have h₃' := skip_of_ahead h₃
    have hs₃ := hs₁.after ((reaches_expect hif').trans (reaches_skip h₃'))
    obtain ⟨c₄, hcond', h₅', -⟩ := ih.expr_skip hs₃ hcond h₅ ((skip_again id h₅).symm.trans h₅)
    exact .filtered hgenerator' hif' h₃' hcond' h₅'

theorem yielded_succ {keyed grouped : Bool} {key : Option Expr} {value : Expr}
    (hs : Unambiguous c.rest)
    (h : Hcl.yielded (n + 1) m keyed (c.ahead t) = .ok (key, value, grouped, d.ahead t)) :
    Hcl.yielded (n + 1) m keyed c = .ok (key, value, grouped, d) := by
  refine yielded_succ_iff.2 ?_
  cases yielded_succ_iff.1 h with
  | value hvalue h₁ =>
    obtain ⟨c₁, hvalue', h₁', -⟩ := ih.expr_skip hs hvalue h₁ ((skip_again id h₁).symm.trans h₁)
    exact .value hvalue' h₁'
  | @entry c₁ c₂ c₃ c₄ c₅ c₆ c₇ _ key value _ hkey h₂ harrow h₄ hvalue h₆ hdots h₇ =>
    obtain ⟨c₇, rfl⟩ := exists_ahead (reaches_skip h₇)
    have hreach := reaches_skipIf ['.', '.', '.'] c₆
    rw [hdots] at hreach
    obtain ⟨c₆, rfl⟩ := exists_ahead hreach
    obtain ⟨c₄, rfl⟩ := exists_ahead ((closes_expr hvalue).reaches.trans (reaches_skip h₆))
    obtain ⟨c₃, rfl⟩ := exists_ahead (reaches_skip h₄)
    obtain ⟨c₂, rfl⟩ := exists_ahead (reaches_expect harrow)
    have harrow' := expect_of_ahead harrow
    obtain ⟨c₁, hkey', h₂', hs₂⟩ :=
      ih.expr_skip hs hkey h₂ (skipLines_of_expect harrow' (by decide))
    have h₄' := skip_of_ahead h₄
    have hs₄ := hs₂.after ((reaches_expect harrow').trans (reaches_skip h₄'))
    obtain ⟨c₅, hvalue', h₆', -⟩ := ih.expr_skip hs₄ hvalue h₆ ((skip_again id h₆).symm.trans h₆)
    exact .entry hkey' h₂' harrow' h₄' hvalue' h₆' (skipIf_of_ahead hdots) (skip_of_ahead h₇)

/-- A heredoc is read as brief if its body is refused as unfinished. In an unambiguous text it is
refused without `t` too. -/
theorem heredoc_succ {form : Form} (hs : Unambiguous c.rest)
    (h : Hcl.heredoc (n + 1) (c.ahead t) = .ok (form, d.ahead t)) :
    Hcl.heredoc (n + 1) c = .ok (form, d) := by
  refine heredoc_succ_iff.2 ?_
  cases heredoc_succ_iff.1 h with
  | body hstart hbody =>
    obtain ⟨c₁, rfl⟩ := exists_ahead (reaches_heredocBody hbody)
    have hstart' := heredocStart_of_ahead hstart
    exact .body hstart' (ih.heredocBody (hs.after (isName_of_heredocStart hstart').2) hbody)
  | brief hstart hbody hstop =>
    obtain ⟨c₁, rfl⟩ := exists_ahead (reaches_heredocStop hstop)
    have hstart' := heredocStart_of_ahead hstart
    have hstop' := heredocStop_of_ahead hstop
    exact .brief hstart' (heredocBody_unfinished (hs.quiet hstart' hstop') hbody) hstop'

theorem heredocBody_succ {id : List Char} {ps : List Part} {gap : Option Span}
    (hs : Unambiguous c.rest)
    (h : Hcl.heredocBody (n + 1) id (c.ahead t) = .ok (ps, gap, d.ahead t)) :
    Hcl.heredocBody (n + 1) id c = .ok (ps, gap, d) := by
  obtain @⟨c₁, _, ps, _, hparts, hbreak, hstop⟩ := heredocBody_succ_iff.1 h
  obtain ⟨c₁, rfl⟩ := exists_ahead ((reaches_lineBreakText c₁).trans (reaches_heredocStop hstop))
  have hline : lineBreakText (c₁.ahead t).rest = lineBreakText c₁.rest :=
    lineBreakText_of_ahead (length_le_of_reaches_ahead (reaches_heredocStop hstop))
  have hbehind : afterBreak (c₁.ahead t) = (afterBreak c₁).ahead t := by
    rw [afterBreak, hline, afterBreak, ahead, drop_lineBreakText_ahead]
    rfl
  rw [hbehind] at hstop
  rw [hline] at hbreak ⊢
  have hstop' := heredocStop_of_ahead hstop
  have hparts' := ih.parts hs (show Stops (.terminator id) c₁ from
    closesHeredoc_of_heredocStop hbreak hstop') hparts
  exact heredocBody_succ_iff.2 (.mk hparts' hbreak hstop')

omit ih in
/-- A directive is read up to its keyword. -/
theorem directive_of_ahead {w rest inner : List Char} {before : Bool} {c₁ e : Cursor} {byte : Nat}
    (hs : Unambiguous c.rest) (hrest : (c.ahead t).rest = '%' :: '{' :: rest)
    (hopen : openSequence ⟨rest, c.byte + 2⟩ = some (before, c₁)) (hinner : c₁.rest = w ++ inner)
    (hreach : Reaches ⟨inner, byte⟩ (e.ahead t)) : ∃ rest' c₁' inner', c.rest = '%' :: '{' :: rest' ∧
      openSequence ⟨rest', c.byte + 2⟩ = some (before, c₁') ∧ c₁ = c₁'.ahead t ∧
        c₁'.rest = w ++ inner' ∧ inner = inner' ++ t ∧ Unambiguous inner' := by
  obtain ⟨inner, rfl⟩ := exists_rest hreach
  obtain ⟨c₁, rfl⟩ : ∃ c₁', c₁ = ahead t c₁' :=
    exists_ahead (d := ⟨inner, c₁.byte + byteLength w⟩) ⟨w, hinner, rfl⟩
  have hinner' : c₁.rest = w ++ inner :=
    (List.append_left_inj t).1 (hinner.trans (List.append_assoc _ _ _).symm)
  have hle := length_le_of_reaches_ahead (reaches_openSequence hopen)
  obtain ⟨rest, hrest', rfl⟩ := exists_append (w := ['%', '{']) hrest hle
  have hopen' := openSequence_of_ahead (c := ⟨rest, c.byte + 2⟩) hopen
  have hs₁ := (hs.of_suffix ⟨['%', '{'], hrest'.symm⟩).after (c := ⟨rest, c.byte + 2⟩)
    (reaches_openSequence hopen')
  exact ⟨rest, c₁, inner, hrest', hopen', rfl, hinner', rfl, hs₁.of_suffix ⟨w, hinner'.symm⟩⟩

/-- A template stops at `d` by what is left there, so it stops there without `t`. -/
theorem parts_succ {closer : Closer} {ps ps' : List Part} (hs : Unambiguous c.rest)
    (hd : Stops closer d)
    (h : templateParts (n + 1) closer ps (c.ahead t) = .ok (ps', d.ahead t)) :
    templateParts (n + 1) closer ps c = .ok (ps', d) := by
  have hderives := (sound (n + 1)).parts h
  generalize hend : d.ahead t = d' at h
  cases parts_succ_iff.1 h with
  | interpolation hrest hopen hinner hclose hmore =>
    subst hend
    obtain ⟨c₃, rfl⟩ := exists_ahead (reaches_templateParts hmore)
    obtain ⟨c₂, rfl⟩ := exists_ahead (closes_closeSequence hclose).reaches
    obtain ⟨c₁, rfl⟩ := exists_ahead (closes_expr hinner).reaches
    have hle := length_le_of_reaches_ahead (reaches_openSequence hopen)
    obtain ⟨rest, hrest', rfl⟩ := exists_append (w := ['$', '{']) hrest hle
    have hopen' := openSequence_of_ahead (c := ⟨rest, c.byte + 2⟩) hopen
    have hs₁ := (hs.of_suffix ⟨['$', '{'], hrest'.symm⟩).after (c := ⟨rest, c.byte + 2⟩)
      (reaches_openSequence hopen')
    have hinner' := ih.expr hs₁ (clear_of_closeSequence hclose) hinner
    have hclose' := closeSequence_of_ahead hclose
    have hs₃ := hs₁.after
      ((closes_expr hinner').reaches.trans (closes_closeSequence hclose').reaches)
    exact parts_succ_iff.2 (.interpolation hrest' hopen' hinner' hclose' (ih.parts hs₃ hd hmore))
  | choice hrest hopen hinner hpart hmore =>
    subst hend
    obtain ⟨c₂, rfl⟩ := exists_ahead (reaches_templateParts hmore)
    have hreach := Closes.reaches ((sound n).choice hpart).moves
    obtain ⟨rest, c₁, inner, hrest', hopen', rfl, hinner', rfl, hs₁⟩ :=
      directive_of_ahead (w := ['i', 'f']) hs hrest hopen hinner hreach
    have hpart' := ih.choice (c := ⟨inner, c₁.byte + 2⟩) hs₁ hpart
    have hs₂ := hs₁.after (c := ⟨inner, c₁.byte + 2⟩)
      (Closes.reaches ((sound n).choice hpart').moves)
    exact parts_succ_iff.2 (.choice hrest' hopen' hinner' hpart' (ih.parts hs₂ hd hmore))
  | repetition hrest hopen hinner hpart hmore =>
    subst hend
    obtain ⟨c₂, rfl⟩ := exists_ahead (reaches_templateParts hmore)
    have hreach := Closes.reaches ((sound n).repetition hpart).moves
    obtain ⟨rest, c₁, inner, hrest', hopen', rfl, hinner', rfl, hs₁⟩ :=
      directive_of_ahead (w := ['f', 'o', 'r']) hs hrest hopen hinner hreach
    have hpart' := ih.repetition (c := ⟨inner, c₁.byte + 3⟩) hs₁ hpart
    have hs₂ := hs₁.after (c := ⟨inner, c₁.byte + 3⟩)
      (Closes.reaches ((sound n).repetition hpart').moves)
    exact parts_succ_iff.2 (.repetition hrest' hopen' hinner' hpart' (ih.parts hs₂ hd hmore))
  | directive | stop =>
    obtain rfl := ahead_inj.1 hend
    exact templateParts_of_stops hd
  | literal hne hopen hrun hmore =>
    subst hend
    obtain ⟨c₁, rfl⟩ := exists_ahead (reaches_templateParts hmore)
    have hvisible := visible_of_parts ((sound n).parts hmore) rfl rfl hd
    have hrun' := Closer.literalRun_of_ahead hvisible hrun
    have hne' := startsSequence_of_append (t := t) hne
    have hnil := (visible_of_parts hderives rfl rfl hd).ne_nil
    have hopen' : closer.comesNext c.rest = false :=
      Bool.eq_false_iff.2 fun hclose => Bool.eq_false_iff.1 hopen (Closer.comesNext_append hnil hclose)
    have hs₁ := hs.after (Closer.literalRun_moves hne' hopen' hrun').1
    exact parts_succ_iff.2 (.literal hne' hopen' hrun' (ih.parts hs₁ hd hmore))

/-- A condition and what is written if it holds, before the directive that ends it. -/
theorem condition_of_step {start : Nat} {before : Bool} {opening : Sequence} {cond : Expr}
    {yes : List Part} (hs : Unambiguous c.rest) (hd : Stops .endOfText d)
    (h : ConditionStep n start before (c.ahead t) opening cond yes (d.ahead t)) :
    ConditionStep n start before c opening cond yes d ∧ Unambiguous d.rest := by
  obtain ⟨h₁, hcond, hclose, hyes⟩ := h
  obtain ⟨c₃, rfl⟩ := exists_ahead (reaches_directiveBody hyes)
  obtain ⟨c₂, rfl⟩ := exists_ahead (closes_closeSequence hclose).reaches
  obtain ⟨c₁, rfl⟩ := exists_ahead (closes_expr hcond).reaches
  have h₁' := skip_of_ahead h₁
  have hs₁ := hs.after (reaches_skip h₁')
  have hcond' := ih.expr hs₁ (clear_of_closeSequence hclose) hcond
  have hclose' := closeSequence_of_ahead hclose
  have hs₃ := hs₁.after
    ((closes_expr hcond').reaches.trans (closes_closeSequence hclose').reaches)
  have hyes' := ih.directiveBody hs₃ hd hyes
  have hstep : ConditionStep n start before c _ cond yes d := .mk h₁' hcond' hclose' hyes'
  exact ⟨hstep, hs₃.after (reaches_directiveBody hyes')⟩

theorem choice_succ {start : Nat} {before : Bool} {part : Part}
    (hs : Unambiguous c.rest)
    (h : Hcl.choice (n + 1) start before (c.ahead t) = .ok (part, d.ahead t)) :
    Hcl.choice (n + 1) start before c = .ok (part, d) := by
  refine choice_succ_iff.2 ?_
  cases choice_succ_iff.1 h with
  | single hcond helse hclose =>
    obtain ⟨c₁, rfl⟩ := exists_ahead (closes_bareDirective hclose).reaches
    have hclose' := bareDirective_of_ahead hclose
    have hstops := stops_of_bareDirective (fun _ => rfl) hclose'
    exact .single (ih.condition_of_step hs hstops hcond).1 (bareDirective_else_of_endif hclose') hclose'
  | both hcond helse hno hclose =>
    obtain ⟨c₃, rfl⟩ := exists_ahead (closes_bareDirective hclose).reaches
    obtain ⟨c₂, rfl⟩ := exists_ahead (reaches_directiveBody hno)
    obtain ⟨c₁, rfl⟩ := exists_ahead (closes_bareDirective helse).reaches
    have helse' := bareDirective_of_ahead helse
    have hclose' := bareDirective_of_ahead hclose
    obtain ⟨hcond', hs₁⟩ := ih.condition_of_step hs (stops_of_bareDirective (fun _ => rfl) helse') hcond
    have hno' := ih.directiveBody (hs₁.after (closes_bareDirective helse').reaches)
      (stops_of_bareDirective (fun _ => rfl) hclose') hno
    exact .both hcond' helse' hno' hclose'

theorem repetition_succ {start : Nat} {before : Bool} {part : Part}
    (hs : Unambiguous c.rest)
    (h : Hcl.repetition (n + 1) start before (c.ahead t) = .ok (part, d.ahead t)) :
    Hcl.repetition (n + 1) start before c = .ok (part, d) := by
  obtain ⟨hnames, h₂, hcollection, hopen, hbody, hclose⟩ := repetition_succ_iff.1 h
  obtain ⟨c₅, rfl⟩ := exists_ahead (closes_bareDirective hclose).reaches
  obtain ⟨c₄, rfl⟩ := exists_ahead (reaches_directiveBody hbody)
  obtain ⟨c₃, rfl⟩ := exists_ahead (closes_closeSequence hopen).reaches
  obtain ⟨c₂, rfl⟩ := exists_ahead (closes_expr hcollection).reaches
  obtain ⟨c₁, rfl⟩ := exists_ahead (reaches_skip h₂)
  have hnames' := loopNames_of_ahead hnames
  have h₂' := skip_of_ahead h₂
  have hs₂ := hs.after ((reaches_loopNames hnames').trans (reaches_skip h₂'))
  have hcollection' := ih.expr hs₂ (clear_of_closeSequence hopen) hcollection
  have hopen' := closeSequence_of_ahead hopen
  have hs₄ := hs₂.after
    ((closes_expr hcollection').reaches.trans (closes_closeSequence hopen').reaches)
  have hclose' := bareDirective_of_ahead hclose
  have hbody' := ih.directiveBody hs₄ (stops_of_bareDirective (fun _ => rfl) hclose') hbody
  have hstep : RepetitionStep n start before c _ d :=
    .mk hnames' h₂' hcollection' hopen' hbody' hclose'
  exact repetition_succ_iff.2 hstep

theorem directiveBody_succ {ps : List Part} (hs : Unambiguous c.rest) (hd : Stops .endOfText d)
    (h : Hcl.directiveBody (n + 1) (c.ahead t) = .ok (ps, d.ahead t)) :
    Hcl.directiveBody (n + 1) c = .ok (ps, d) :=
  directiveBody_succ_iff.2
    ⟨ih.parts hs hd (directiveBody_succ_iff.1 h).1, (hd.visible (t := t)).ne_nil⟩

end Local

/-- What is read before `t` is read without it. -/
theorem locality (t : List Char) (n : Nat) : Local t n := by
  induction n with
  | zero =>
    constructor
    all_goals
      intros
      rename_i h
      simp only [expr, operations, indexStep, term, prefixed, word, arguments, arrayItems,
        objectEntries, comprehension, yielded, heredoc, heredocBody, templateParts, choice,
        repetition, directiveBody, reduceCtorEq] at h
  | succ n ih =>
    exact ⟨ih.expr_succ, ih.operations_succ, ih.index_succ, ih.term_succ, ih.operand_succ,
      ih.word_succ, ih.arguments_succ, ih.items_succ, ih.entries_succ, ih.comprehension_succ,
      ih.yielded_succ, ih.heredoc_succ, ih.heredocBody_succ, ih.parts_succ, ih.choice_succ,
      ih.repetition_succ, ih.directiveBody_succ⟩

end TerraLint.Hcl
