import TerraLint.Proofs.Hcl.Depth

/-!
# Entries of objects as they are written

An object has one entry for each key. Of written entries with equal keys the last one counts, in the
place of the first one.

* `writtenEntries`: all entries behind an opening brace, in the order in which they are written.
* `mergeEntries`: what an object keeps of them.
* `exists_writtenEntries_of_objectEntries`: what is read behind an opening brace.
* `mergeEntries_of_distinct`: an object keeps all its entries if no two keys are equal.
* `exists_object_of_expr`: an expression that is an object was read behind a brace of its own.
* `exists_writtenEntries_of_expr`: so it has what it keeps of the entries written there.
-/

namespace TerraLint.Hcl

open Text Cursor

variable {n k : Nat} {m a : Mode} {c next d : Cursor} {es es' ws : List Entry} {gap : Option Span}

/-! ## Reading without merging -/

/-- Reads an entry and the blanks behind it, up to what ends it. -/
def writtenEntry (c : Cursor) : Reading ((EntryEnd → Entry) × Cursor) := do
  let (key, c) ← expr (depthBound c.rest) .inline c
  let c ← c.skipInline
  let (colon, c) := c.skipIf [':']
  let c ← if colon then pure c else c.expect ['=']
  let c ← c.skipInline
  let (value, c) ← expr (depthBound c.rest) .inline c
  let c ← c.skipInline
  return (.mk key value colon, c)

/-- Reads entries up to the closing brace of their object, at most `n` of them. -/
def writtenEntries : Nat → Cursor → Reading (List Entry)
  | 0, _ => .error .final
  | n + 1, c => do
    let next ← c.skipLines
    match next.rest with
    | '}' :: _ => return []
    | _ =>
      let (entry, c) ← writtenEntry next
      match c.rest with
      | '}' :: _ => return [entry .brace]
      | ',' :: rest =>
        let more ← writtenEntries n ⟨rest, c.byte + 1⟩
        return entry .comma :: more
      | _ =>
        let c ← c.lineBreak
        let more ← writtenEntries n c
        return entry .newline :: more

/-- What is written behind an entry: the closing brace of its object, or more entries after a comma or a
line end. -/
def writtenBehind (n : Nat) (entry : EntryEnd → Entry) (c : Cursor) : Reading (List Entry) :=
  match c.rest with
  | '}' :: _ => .ok [entry .brace]
  | ',' :: rest => do
    let more ← writtenEntries n ⟨rest, c.byte + 1⟩
    return entry .comma :: more
  | _ => do
    let c ← c.lineBreak
    let more ← writtenEntries n c
    return entry .newline :: more

section Behind

variable {entry : EntryEnd → Entry} {rest : List Char}

theorem writtenBehind_brace (hrest : c.rest = '}' :: rest) :
    writtenBehind n entry c = .ok [entry .brace] := by
  simp only [writtenBehind, hrest]

theorem writtenBehind_comma (hrest : c.rest = ',' :: rest)
    (hmore : writtenEntries n ⟨rest, c.byte + 1⟩ = .ok ws) :
    writtenBehind n entry c = .ok (entry .comma :: ws) := by
  simp only [writtenBehind, hrest, hmore, ok_bind]
  rfl

theorem writtenBehind_line (hbreak : c.lineBreak = some d) (hmore : writtenEntries n d = .ok ws) :
    writtenBehind n entry c = .ok (entry .newline :: ws) := by
  unfold writtenBehind
  split
  · rename_i hrest
    simp [lineBreak, hrest] at hbreak
  · rename_i hrest
    simp [lineBreak, hrest] at hbreak
  · simp only [hbreak, hmore, lift_bind, ok_bind]
    rfl

end Behind

theorem writtenEntries_end {rest : List Char} (hskip : c.skipLines = some next)
    (hrest : next.rest = '}' :: rest) : writtenEntries (n + 1) c = .ok [] := by
  rw [writtenEntries, hskip, lift_bind]
  simp only [hrest]
  rfl

theorem writtenEntries_cons {entry : EntryEnd → Entry} (hskip : c.skipLines = some next)
    (hne : next.rest.head? ≠ some '}') (hentry : writtenEntry next = .ok (entry, d)) :
    writtenEntries (n + 1) c = writtenBehind n entry d := by
  rw [writtenEntries, hskip, lift_bind]
  split
  · rename_i hrest
    exact absurd hrest (ne_of_head hne _)
  · simp only [hentry, ok_bind]
    rfl

/-- The key of an entry was read where the entry starts. -/
theorem key_of_writtenEntry {entry : EntryEnd → Entry} (h : writtenEntry c = .ok (entry, d)) :
    (∀ ending, ∃ n y, expr n .inline c = .ok ((entry ending).key, y)) ∧ Reaches c d := by
  simp only [writtenEntry, bind_eq_ok, lift_eq_ok, ite_bind, Prod.exists] at h
  obtain ⟨key, c₁, hkey, c₂, h₂, c₃, hsign, c₄, h₄, value, c₅, hvalue, c₆, h₆, h⟩ := h
  obtain ⟨rfl, rfl⟩ := Prod.mk.inj (pure_eq_ok.1 h)
  have hsigned : Reaches c₂ c₃ := by
    refine (reaches_skipIf [':'] c₂).trans ?_
    split at hsign
    · exact pure_eq_ok.1 hsign ▸ .refl _
    · exact reaches_expect (lift_eq_ok.1 hsign)
  have hkeyReach : Reaches c c₁ := Closes.reaches ((sound _).expr hkey).moves
  have hvalueReach : Reaches c₄ c₅ := Closes.reaches ((sound _).expr hvalue).moves
  exact ⟨fun _ => ⟨_, c₁, hkey⟩, (hkeyReach.trans (reaches_skip h₂)).trans
    (hsigned.trans ((reaches_skip h₄).trans (hvalueReach.trans (reaches_skip h₆))))⟩

/-- Written entries, each put in the place of one with an equal key, or behind all others. -/
def mergeEntries (es ws : List Entry) : List Entry := ws.foldl (fun es e => insertEntry e es) es

@[simp] theorem mergeEntries_nil (es : List Entry) : mergeEntries es [] = es := rfl

@[simp] theorem mergeEntries_cons (es : List Entry) (e : Entry) (ws : List Entry) :
    mergeEntries es (e :: ws) = mergeEntries (insertEntry e es) ws := rfl

/-- An entry whose key is new comes last. -/
theorem insertEntry_of_new {e : Entry} (h : ∀ x ∈ es, x.key.same e.key = false) :
    insertEntry e es = es ++ [e] := by
  induction es with
  | nil => rfl
  | cons x es ih =>
    rw [insertEntry, if_neg (by simp [h x List.mem_cons_self]),
      ih fun y hy => h y (List.mem_cons_of_mem _ hy), List.cons_append]

/-- An object keeps all its entries if no two keys are equal. -/
theorem mergeEntries_of_distinct
    (h : (es ++ ws).Pairwise fun e e' => e.key.same e'.key = false) : mergeEntries es ws = es ++ ws := by
  induction ws generalizing es with
  | nil => rw [mergeEntries_nil, List.append_nil]
  | cons e ws ih =>
    have hnew : ∀ x ∈ es, x.key.same e.key = false := fun x hx =>
      (List.pairwise_append.1 h).2.2 x hx e List.mem_cons_self
    have hassoc : es ++ e :: ws = es ++ [e] ++ ws := by simp
    rw [hassoc] at h
    rw [mergeEntries_cons, insertEntry_of_new hnew, ih h, hassoc]

/-- A bound that is enough reads the same as one that depends on the text only. -/
theorem expr_depthBound (hn : 4 * c.rest.length + 3 ≤ n) : expr n m c = expr (depthBound c.rest) m c := by
  have hbound : 4 * c.rest.length + 3 ≤ depthBound c.rest := by
    rw [depthBound]
    omega
  exact expr_of_enough hbound hn

/-- An entry that an object reads is written there, and the text that is left gets shorter. -/
theorem writtenEntry_of_step {entry : EntryEnd → Entry} (hn : 4 * c.rest.length + 3 ≤ n)
    (h : EntryStep n c entry d) : writtenEntry c = .ok (entry, d) ∧ d.rest.length < c.rest.length := by
  obtain ⟨hkey, h₂, hsign, h₄, hvalue, h₆⟩ := h
  have hlt₁ := length_lt_of_expr hkey
  have hle₂ := length_le_of_skip h₂
  have hle₃ := length_le_of_expect hsign
  have hle₄ := length_le_of_skip h₄
  have hlt₅ := length_lt_of_expr hvalue
  have hle₆ := length_le_of_skip h₆
  obtain ⟨c', hskipIf, hpick⟩ := skipIf_of_entrySign hsign
  rw [expr_depthBound (by omega)] at hkey hvalue
  refine ⟨?_, by omega⟩
  rw [writtenEntry]
  simp only [hkey, h₂, hskipIf, lift_bind, ok_bind]
  rw [ite_bind, hpick]
  simp only [h₄, hvalue, h₆, lift_bind, ok_bind]
  rfl

/-- What is read behind an opening brace is what an object keeps of the entries written there. -/
theorem exists_writtenEntries_of_objectEntries (hn : 4 * c.rest.length + 4 ≤ n) (hk : c.rest.length < k)
    (h : objectEntries n es c = .ok (es', gap, d)) :
    ∃ ws, writtenEntries k c = .ok ws ∧ es' = mergeEntries es ws := by
  induction n generalizing c es k with
  | zero => omega
  | succ n ih =>
    obtain ⟨k, rfl⟩ : ∃ k', k = k' + 1 := ⟨k - 1, by omega⟩
    cases entries_succ_iff.1 h with
    | stop hskip hrest => exact ⟨[], writtenEntries_end hskip hrest, rfl⟩
    | @last next c₁ rest entry hskip hne hentry hrest =>
      have hle := length_le_of_skip hskip
      obtain ⟨hwritten, -⟩ := writtenEntry_of_step (by omega) hentry
      rw [writtenEntries_cons hskip hne hwritten]
      exact ⟨[entry .brace], writtenBehind_brace hrest, rfl⟩
    | @comma next c₁ d rest entry es' gap hskip hne hentry hrest hmore =>
      have hle := length_le_of_skip hskip
      have hlength := length_of_cons hrest
      obtain ⟨hwritten, hlt⟩ := writtenEntry_of_step (by omega) hentry
      obtain ⟨ws, hws, rfl⟩ := ih (k := k) (by dsimp only; omega) (by dsimp only; omega) hmore
      rw [writtenEntries_cons hskip hne hwritten]
      exact ⟨entry .comma :: ws, writtenBehind_comma hrest hws, rfl⟩
    | @line next c₁ c₂ d entry es' gap hskip hne hentry hbreak hmore =>
      have hle := length_le_of_skip hskip
      have hlength := (reaches_lineBreak hbreak).length_le
      obtain ⟨hwritten, hlt⟩ := writtenEntry_of_step (by omega) hentry
      obtain ⟨ws, hws, rfl⟩ := ih (k := k) (by omega) (by omega) hmore
      rw [writtenEntries_cons hskip hne hwritten]
      exact ⟨entry .newline :: ws, writtenBehind_line hbreak hws, rfl⟩

/-- Each written entry has a key that was read where it stands. -/
theorem exists_key_of_writtenEntries (h : writtenEntries k c = .ok ws) {e : Entry} (he : e ∈ ws) :
    ∃ n x y, Reaches c x ∧ expr n .inline x = .ok (e.key, y) := by
  induction k generalizing c ws with
  | zero => cases h
  | succ k ih =>
    rw [writtenEntries] at h
    simp only [bind_eq_ok, lift_eq_ok] at h
    obtain ⟨next, hskip, h⟩ := h
    split at h
    · obtain rfl := pure_eq_ok.1 h
      cases he
    simp only [bind_eq_ok, Prod.exists] at h
    obtain ⟨entry, c₁, hentry, h⟩ := h
    obtain ⟨hkey, hreach⟩ := key_of_writtenEntry hentry
    have hstart := reaches_skip hskip
    -- The first entry of those that are left.
    have hfirst : ∀ ending, ∃ n x y, Reaches c x ∧ expr n .inline x = .ok ((entry ending).key, y) := by
      intro ending
      obtain ⟨n, y, hkey⟩ := hkey ending
      exact ⟨n, next, y, hstart, hkey⟩
    split at h
    · obtain rfl := pure_eq_ok.1 h
      obtain rfl := List.mem_singleton.1 he
      exact hfirst .brace
    · rename_i rest hrest
      simp only [bind_eq_ok] at h
      obtain ⟨more, hmore, h⟩ := h
      obtain rfl := pure_eq_ok.1 h
      rcases List.mem_cons.1 he with rfl | he
      · exact hfirst .comma
      · obtain ⟨n, x, y, hx, hkey⟩ := ih hmore he
        exact ⟨n, x, y, ((hstart.trans hreach).trans (reaches_cons hrest rfl)).trans hx, hkey⟩
    · simp only [bind_eq_ok, lift_eq_ok] at h
      obtain ⟨c₂, hbreak, more, hmore, h⟩ := h
      obtain rfl := pure_eq_ok.1 h
      rcases List.mem_cons.1 he with rfl | he
      · exact hfirst .newline
      · obtain ⟨n, x, y, hx, hkey⟩ := ih hmore he
        exact ⟨n, x, y, ((hstart.trans hreach).trans (reaches_lineBreak hbreak)).trans hx, hkey⟩

/-! ## Objects -/

/-- A form is no object. -/
def NoObject (form : Form) : Prop := ∀ es gap, form ≠ .object es gap

theorem noObject_quotedForm (parts : List Part) : NoObject (quotedForm parts) := by
  intro es gap
  unfold quotedForm
  split <;> simp

theorem noObject_wordForm (name : String) : NoObject (wordForm name) := by
  intro es gap
  unfold wordForm
  split_ifs <;> simp

theorem noObject_of_comprehension {keyed : Bool} {form : Form}
    (h : comprehension n m keyed c = .ok (form, d)) : NoObject form := by
  cases n with
  | zero =>
    rw [comprehension] at h
    cases h
  | succ n =>
    rcases comprehension_succ_iff.1 h with ⟨⟨⟩, -⟩ | ⟨⟨⟩, -⟩
    all_goals exact fun es gap => Form.noConfusion

theorem noObject_of_heredoc {form : Form} (h : heredoc n c = .ok (form, d)) : NoObject form := by
  cases n with
  | zero =>
    rw [heredoc] at h
    cases h
  | succ n =>
    rcases heredoc_succ_iff.1 h with ⟨-, -⟩ | ⟨-, -⟩
    all_goals exact fun es gap => Form.noConfusion

theorem noObject_of_word {form : Form} (h : word n m c = .ok (form, a, d)) : NoObject form := by
  cases n with
  | zero =>
    rw [word] at h
    cases h
  | succ n =>
    cases word_succ_iff.1 h with
    | bare => exact noObject_wordForm _
    | call => exact fun es gap => Form.noConfusion

/-- An object is read behind a brace of its own. -/
def OpensObject (n : Nat) (c : Cursor) (form : Form) : Prop :=
  ∀ es gap, form = .object es gap →
    ∃ k rest d, n = k + 1 ∧ c.rest = '{' :: rest ∧
      objectEntries k [] ⟨rest, c.byte + 1⟩ = .ok (es, gap, d)

theorem NoObject.opensObject {form : Form} (h : NoObject form) : OpensObject n c form :=
  fun es gap heq => absurd heq (h es gap)

theorem term_of_operand {form : Form} (hoperand : ∀ {op m c form a d},
      prefixed n op m c = .ok (form, a, d) → NoObject form)
    (h : term (n + 1) m c = .ok (form, a, d)) : OpensObject (n + 1) c form := by
  cases term_succ_iff.1 h with
  | quoted => exact (noObject_quotedForm _).opensObject
  | arrayFor _ _ _ hform | objectFor _ _ _ hform => exact (noObject_of_comprehension hform).opensObject
  | object hrest hskip hfor hentries =>
    intro es gap heq
    obtain ⟨rfl, rfl⟩ := Form.object.inj heq
    exact ⟨n, _, d, rfl, hrest, hentries⟩
  | heredoc _ hdoc => exact (noObject_of_heredoc hdoc).opensObject
  | not _ hform | neg _ _ _ _ hform => exact (hoperand hform).opensObject
  | word _ _ hword => exact (noObject_of_word hword).opensObject
  | array | parens | negative | number => exact NoObject.opensObject fun es gap => Form.noConfusion

theorem noObject_of_term {form : Form} {ch : Char} {rest : List Char} (h : OpensObject n c form)
    (hrest : c.rest = ch :: rest) (hch : ch ≠ '{') : NoObject form := by
  intro es gap heq
  obtain ⟨k, rest', d, -, hrest', -⟩ := h es gap heq
  exact hch (List.cons.inj (hrest.symm.trans hrest')).1

theorem operand_of_term {op : UnaryOp} {form : Form}
    (hterm : ∀ {m c form a d}, term n m c = .ok (form, a, d) → OpensObject n c form)
    (h : prefixed (n + 1) op m c = .ok (form, a, d)) : NoObject form := by
  cases operand_succ_iff.1 h with
  | not _ hrest hform => exact noObject_of_term (hterm hform) hrest (by decide)
  | neg _ hrest _ _ _ hform => exact noObject_of_term (hterm hform) hrest (by decide)
  | negative | term => exact fun es gap => Form.noConfusion

/-- A term that is an object starts with a brace, and its entries are read behind that; the operand of a
prefix operator is none. -/
theorem opensObject (n : Nat) :
    (∀ {m c form a d}, term n m c = .ok (form, a, d) → OpensObject n c form) ∧
      ∀ {op m c form a d}, prefixed n op m c = .ok (form, a, d) → NoObject form := by
  induction n with
  | zero =>
    constructor
    · intro m c form a d h
      rw [term] at h
      cases h
    · intro op m c form a d h
      rw [prefixed] at h
      cases h
  | succ n ih => exact ⟨term_of_operand ih.2, operand_of_term ih.1⟩

/-- Operations on an expression give no object, unless there are none. -/
theorem eq_of_operations {start : Nat} {e e' : Expr} (h : operations n m start e c = .ok (e', d))
    (hobject : e'.form = .object es gap) : e' = e := by
  induction n generalizing m e c with
  | zero =>
    rw [operations] at h
    cases h
  | succ n ih =>
    have hadd : ∀ step, (addStep start e step).form ≠ .object es gap := by
      intro step
      unfold addStep
      split <;> simp [Expr.form]
    cases operations_succ_iff.1 h with
    | stay => rfl
    | dot _ _ _ _ hops | index _ _ _ hops => exact absurd (ih hops ▸ hobject) (hadd _)
    | conditional => cases hobject
    | binary _ _ _ _ hops =>
      rw [ih hops] at hobject
      cases hobject

/-- An expression that is an object was read behind a brace of its own, at which it starts. -/
theorem exists_object_of_expr {e : Expr} (h : expr n m c = .ok (e, d))
    (hobject : e.form = .object es gap) : ∃ k rest stop c', n = k + 2 ∧ c.rest = '{' :: rest ∧
      e.span = some ⟨c.byte, stop⟩ ∧ objectEntries k [] ⟨rest, c.byte + 1⟩ = .ok (es, gap, c') := by
  cases n with
  | zero =>
    rw [expr] at h
    cases h
  | succ n =>
    obtain ⟨form, after, next, hterm, hops⟩ := expr_succ_iff.1 h
    obtain rfl := eq_of_operations hops hobject
    obtain ⟨k, rest, c', rfl, hrest, hentries⟩ := (opensObject n).1 hterm es gap hobject
    exact ⟨k, rest, next.byte, c', rfl, hrest, rfl, hentries⟩

/-- The entries of an object are what it keeps of those that are written behind its brace. -/
theorem exists_writtenEntries_of_expr {e : Expr} (hn : 4 * c.rest.length + 3 ≤ n)
    (h : expr n m c = .ok (e, d)) (hobject : e.form = .object es gap) :
    ∃ rest stop ws, c.rest = '{' :: rest ∧ e.span = some ⟨c.byte, stop⟩ ∧
      writtenEntries (rest.length + 1) ⟨rest, c.byte + 1⟩ = .ok ws ∧ es = mergeEntries [] ws := by
  obtain ⟨k, rest, stop, c', rfl, hrest, hspan, hentries⟩ := exists_object_of_expr h hobject
  have hlength := length_of_cons hrest
  obtain ⟨ws, hws, hmerge⟩ := exists_writtenEntries_of_objectEntries (k := rest.length + 1)
    (by dsimp only; omega) (Nat.lt_succ_self _) hentries
  exact ⟨rest, stop, ws, hrest, hspan, hws, hmerge⟩

end TerraLint.Hcl
