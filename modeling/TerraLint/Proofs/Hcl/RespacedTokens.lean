import TerraLint.Proofs.Hcl.Respaced

/-!
# Tokens in a text with other blanks at its lines

Each token that is read off a text is read off the same text in another layout. A token that is not
found there is not found in the other layout either, except where the text ends in its midst.

* `expect_tight`, `expect_none_tight`: words that are found, and words that are not.
* `name_tight`, `number_tight`: names and numbers.
* `operator_tight`, `stays_tight`: operators, and that there is none.
* `qualifiers_tight`, `loopNames_tight`, …: groups of tokens.
-/

namespace TerraLint.Hcl

open Text Cursor

variable {t u s w : List Char} {p c : Char}

section

variable {c c' d : Cursor}

/-! ## Words -/

theorem Respaced.word (hw : w.all isRigid = true) (h : Respaced t (some p) (w ++ u) s) :
    ∃ s' q, s = w ++ s' ∧ Respaced t (some q) u s' := by
  induction w generalizing p s with
  | nil => exact ⟨s, p, rfl, h⟩
  | cons x w ih =>
    rw [List.all_cons, Bool.and_eq_true] at hw
    obtain ⟨s', rfl, -, hrest⟩ := h.rigid_tight hw.1
    obtain ⟨s'', q, rfl, hmore⟩ := ih hw.2 hrest
    exact ⟨s'', q, rfl, hmore⟩

theorem Respaced.word_right (ht : Ends t) (hw : w.all isRigid = true)
    (h : Respaced t (some p) u (w ++ s)) : ∃ u' q, u = w ++ u' ∧ Respaced t (some q) u' s := by
  induction w generalizing p u with
  | nil => exact ⟨u, p, rfl, h⟩
  | cons x w ih =>
    rw [List.all_cons, Bool.and_eq_true] at hw
    obtain ⟨u', rfl, -, hrest⟩ := h.rigid_right ht hw.1
    obtain ⟨u'', q, rfl, hmore⟩ := ih hw.2 hrest
    exact ⟨u'', q, rfl, hmore⟩

/-- A word is read in both texts. -/
theorem expect_tight (h : Tight t c c') (hw : w.all isRigid = true) (hd : c.expect w = some d) :
    ∃ d', c'.expect w = some d' ∧ Tight t d d' := by
  obtain ⟨p, h⟩ := h
  rw [(expect_eq_some.1 hd).1] at h
  obtain ⟨s', q, hs, hrest⟩ := h.word hw
  exact ⟨⟨s', c'.byte + byteLength w⟩, expect_eq_some.2 ⟨hs, rfl⟩, q, hrest⟩

/-- A word is read in none of both texts. -/
theorem expect_none_tight (ht : Ends t) (h : Tight t c c') (hw : w.all isRigid = true)
    (hnone : c.expect w = none) : c'.expect w = none := by
  obtain ⟨p, h⟩ := h
  by_contra hne
  obtain ⟨d', hd'⟩ := Option.ne_none_iff_exists'.1 hne
  rw [(expect_eq_some.1 hd').1] at h
  obtain ⟨u', q, hu, -⟩ := h.word_right ht hw
  have hsome : c.expect w = some ⟨u', c.byte + byteLength w⟩ := expect_eq_some.2 ⟨hu, rfl⟩
  rw [hnone] at hsome
  cases hsome

theorem expect_cases (ht : Ends t) (h : Tight t c c') (hw : w.all isRigid = true) :
    (∃ d d', c.expect w = some d ∧ c'.expect w = some d' ∧ Tight t d d') ∨
      c.expect w = none ∧ c'.expect w = none := by
  cases hexpect : c.expect w with
  | none => exact .inr ⟨rfl, expect_none_tight ht h hw hexpect⟩
  | some d =>
    obtain ⟨d', hd', htight⟩ := expect_tight h hw hexpect
    exact .inl ⟨d, d', rfl, hd', htight⟩

theorem skipIf_tight (ht : Ends t) (h : Tight t c c') (hw : w.all isRigid = true) :
    (c'.skipIf w).1 = (c.skipIf w).1 ∧ Tight t (c.skipIf w).2 (c'.skipIf w).2 := by
  unfold skipIf
  obtain ⟨d, d', hd, hd', htight⟩ | ⟨hd, hd'⟩ := expect_cases ht h hw
  · rw [hd, hd']
    exact ⟨rfl, htight⟩
  · rw [hd, hd']
    exact ⟨rfl, h⟩

/-- The sign of an assignment, behind the blanks before it. -/
theorem expect_sign (h : Tight t c c') (hhead : c'.rest.head? = c.rest.head?)
    (hd : c.expect ['='] = some d) : ∃ d', c'.expect ['='] = some d' ∧ Near t d d' := by
  obtain ⟨p, h⟩ := h
  have hrest : c.rest = '=' :: d.rest := (expect_eq_some.1 hd).1
  rw [hrest] at h hhead
  obtain ⟨s', hs⟩ := List.head?_eq_some_iff.1 hhead
  rw [hs] at h
  obtain ⟨v, s'', -, heq, hv, -, o', hnear⟩ := h.equals
  obtain ⟨-, -, rfl⟩ := hv.eq_nil heq rfl
  exact ⟨⟨s', c'.byte + byteLength ['=']⟩, expect_eq_some.2 ⟨hs, rfl⟩, o', hnear⟩

/-- The arrow between a key and a value. -/
theorem expect_arrow (h : Tight t c c') (hd : c.expect ['=', '>'] = some d) :
    ∃ d', c'.expect ['=', '>'] = some d' ∧ Tight t d d' := by
  obtain ⟨p, h⟩ := h
  have hrest : c.rest = '=' :: '>' :: d.rest := (expect_eq_some.1 hd).1
  rw [hrest] at h
  obtain ⟨s', hs, h⟩ := h.equals_tight (.inr (.inr rfl))
  obtain ⟨s', rfl, -, h⟩ := h.rigid_tight (by decide)
  exact ⟨⟨s', c'.byte + byteLength ['=', '>']⟩, expect_eq_some.2 ⟨hs, rfl⟩, _, h⟩

/-! ## Names and numbers -/

theorem Respaced.takeWhile (ht : Ends t) {q : Char → Bool}
    (hq : ∀ x, q x = true → isRigid x = true) (h : Respaced t (some p) u s) :
    s.takeWhile q = u.takeWhile q ∧ ∃ p', Respaced t (some p') (u.dropWhile q) (s.dropWhile q) := by
  induction u generalizing p s with
  | nil =>
    obtain ⟨v, rfl, -, hv⟩ := h.nil
    obtain rfl := hv (by simp)
    rw [List.nil_append]
    cases t with
    | nil => exact ⟨rfl, p, .done⟩
    | cons x t =>
      have hx : ¬q x = true := fun hx => by
        have hrigid := (ht.head x rfl).1
        rw [hq x hx] at hrigid
        cases hrigid
      rw [List.takeWhile_cons_of_neg hx, List.dropWhile_cons_of_neg hx]
      exact ⟨rfl, p, .done⟩
  | cons x u ih =>
    by_cases hx : q x = true
    · obtain ⟨s', rfl, -, hrest⟩ := h.rigid_tight (hq x hx)
      obtain ⟨htake, hdrop⟩ := ih hrest
      simp only [List.takeWhile_cons, List.dropWhile_cons, hx, if_true, htake]
      exact ⟨trivial, hdrop⟩
    · rw [List.takeWhile_cons_of_neg hx, List.dropWhile_cons_of_neg hx]
      cases s with
      | nil => exact ⟨rfl, p, h⟩
      | cons y s =>
        have hy : ¬q y = true := by
          intro hy
          obtain ⟨u', heq, -⟩ := h.rigid_right ht (hq y hy)
          rw [(List.cons.inj heq).1] at hx
          exact hx hy
        rw [List.takeWhile_cons_of_neg hy, List.dropWhile_cons_of_neg hy]
        exact ⟨rfl, p, h⟩

theorem takeWhile_tight (ht : Ends t) {q : Char → Bool} (hq : ∀ x, q x = true → isRigid x = true)
    (h : Tight t c c') : (c'.takeWhile q).1 = (c.takeWhile q).1 ∧
      Tight t (c.takeWhile q).2 (c'.takeWhile q).2 := by
  obtain ⟨p, h⟩ := h
  exact h.takeWhile ht hq

theorem name_tight (ht : Ends t) (h : Tight t c c') {name : String}
    (hname : c.name = some (name, d)) : ∃ d', c'.name = some (name, d') ∧ Tight t d d' := by
  obtain ⟨⟨⟨ch, more, hmore, hch⟩, -⟩, hrest, -⟩ := isName_of_name hname
  obtain ⟨htake, hdrop⟩ := takeWhile_tight ht (fun x hx => isRigid_of_isNameRest hx) h
  obtain ⟨p, h⟩ := h
  have hcons : c.rest = ch :: (more ++ d.rest) := by rw [hrest, hmore]; rfl
  have hcons' : ∃ s, c'.rest = ch :: s := by
    rw [hcons] at h
    obtain ⟨s, hs, -⟩ := h.rigid_tight (isRigid_of_isNameRest (isNameRest_of_isNameStart hch))
    exact ⟨s, hs⟩
  obtain ⟨s, hs⟩ := hcons'
  have hread : ∀ {e : Cursor} {v}, e.rest = ch :: v → e.name =
      some (String.ofList (e.takeWhile isNameRest).1, (e.takeWhile isNameRest).2) := by
    intro e v he
    unfold Cursor.name
    rw [he]
    simp only [hch, if_true]
  rw [hread hcons] at hname
  obtain ⟨rfl, rfl⟩ := Prod.mk.inj (Option.some.inj hname)
  exact ⟨_, by rw [hread hs, htake], hdrop⟩

theorem digits_tight (ht : Ends t) (h : Tight t c c') :
    (c'.takeWhile Char.isDigit).1 = (c.takeWhile Char.isDigit).1 ∧
      Tight t (c.takeWhile Char.isDigit).2 (c'.takeWhile Char.isDigit).2 :=
  takeWhile_tight ht (fun _ hx => isRigid_of_isDigit hx) h

theorem fractionDigits_cases (ht : Ends t) (h : Tight t c c') :
    (∃ digits d d', c.fractionDigits = some (digits, d) ∧ c'.fractionDigits = some (digits, d') ∧
      Tight t d d') ∨ c.fractionDigits = none ∧ c'.fractionDigits = none := by
  unfold fractionDigits
  obtain ⟨d, d', hd, hd', htight⟩ | ⟨hd, hd'⟩ := expect_cases (w := ['.']) ht h rfl
  · obtain ⟨htake, hdrop⟩ := digits_tight ht htight
    simp only [hd, hd', Option.bind_eq_bind, Option.bind_some, htake]
    split
    · exact .inr ⟨rfl, rfl⟩
    · exact .inl ⟨_, _, _, rfl, rfl, hdrop⟩
  · rw [hd, hd']
    exact .inr ⟨rfl, rfl⟩

theorem exponentSign_tight (ht : Ends t) (h : Tight t c c') :
    c'.exponentSign.1 = c.exponentSign.1 ∧ Tight t c.exponentSign.2 c'.exponentSign.2 := by
  obtain ⟨hminus, htight⟩ := skipIf_tight (w := ['-']) ht h rfl
  unfold exponentSign
  rw [hminus]
  split
  · exact ⟨hminus, htight⟩
  · exact ⟨rfl, (skipIf_tight (w := ['+']) ht htight rfl).2⟩

theorem exponent_cases (ht : Ends t) (h : Tight t c c') :
    (∃ e d d', c.exponent = some (e, d) ∧ c'.exponent = some (e, d') ∧ Tight t d d') ∨
      c.exponent = none ∧ c'.exponent = none := by
  have hmark : (∃ d d', (c.expect ['e']).or (c.expect ['E']) = some d ∧
      (c'.expect ['e']).or (c'.expect ['E']) = some d' ∧ Tight t d d') ∨
        (c.expect ['e']).or (c.expect ['E']) = none ∧
          (c'.expect ['e']).or (c'.expect ['E']) = none := by
    obtain ⟨d, d', hd, hd', htight⟩ | ⟨hd, hd'⟩ := expect_cases (w := ['e']) ht h rfl
    · rw [hd, hd']
      exact .inl ⟨d, d', rfl, rfl, htight⟩
    · rw [hd, hd', Option.none_or, Option.none_or]
      exact expect_cases ht h rfl
  rw [exponent_eq, exponent_eq]
  obtain ⟨d, d', hd, hd', htight⟩ | ⟨hd, hd'⟩ := hmark
  · obtain ⟨hsign, htight⟩ := exponentSign_tight ht htight
    obtain ⟨htake, hdrop⟩ := digits_tight ht htight
    simp only [hd, hd', Option.bind_some, hsign, htake]
    split
    · exact .inr ⟨rfl, rfl⟩
    · exact .inl ⟨_, _, _, rfl, rfl, hdrop⟩
  · rw [hd, hd']
    exact .inr ⟨rfl, rfl⟩

theorem number_tight (ht : Ends t) (h : Tight t c c') {x : Number}
    (hnumber : c.number = some (x, d)) : ∃ d', c'.number = some (x, d') ∧ Tight t d d' := by
  have hmap : ∀ {x' : Option Number} {e e' : Cursor}, x'.map (·, e) = some (x, d) → Tight t e e' →
      ∃ d', x'.map (·, e') = some (x, d') ∧ Tight t d d' := by
    intro x' e e' hx htight
    obtain ⟨y, rfl, hy⟩ := Option.map_eq_some_iff.1 hx
    obtain ⟨rfl, rfl⟩ := Prod.mk.inj hy
    exact ⟨e', rfl, htight⟩
  obtain ⟨htake, hdrop⟩ := digits_tight ht h
  unfold Cursor.number at hnumber ⊢
  dsimp only at hnumber ⊢
  rw [htake]
  split at hnumber
  · cases hnumber
  rename_i hne
  rw [if_neg hne]
  obtain ⟨digits, d₁, d₁', hfraction, hfraction', htight⟩ | ⟨hfraction, hfraction'⟩ :=
    fractionDigits_cases ht hdrop
  · simp only [hfraction, hfraction'] at hnumber ⊢
    obtain ⟨e, d₂, d₂', hexponent, hexponent', htight'⟩ | ⟨hexponent, hexponent'⟩ :=
      exponent_cases ht htight
    · simp only [hexponent, hexponent'] at hnumber ⊢
      exact hmap hnumber htight'
    · simp only [hexponent, hexponent'] at hnumber ⊢
      exact hmap hnumber htight
  · simp only [hfraction, hfraction'] at hnumber ⊢
    obtain ⟨e, d₂, d₂', hexponent, hexponent', htight⟩ | ⟨hexponent, hexponent'⟩ :=
      exponent_cases ht hdrop
    · simp only [hexponent, hexponent'] at hnumber ⊢
      exact hmap hnumber htight
    · simp only [hexponent, hexponent'] at hnumber ⊢
      split at hnumber
      · rename_i hfits
        obtain ⟨rfl, rfl⟩ := Prod.mk.inj (Option.some.inj hnumber)
        exact ⟨_, if_pos hfits, hdrop⟩
      · cases hnumber

theorem positionDigits_tight (ht : Ends t) (h : Tight t c c') :
    c'.positionDigits.1 = c.positionDigits.1 ∧ Tight t c.positionDigits.2 c'.positionDigits.2 := by
  have hzero : ∀ {e : Cursor} {v}, e.rest = '0' :: v → e.positionDigits = (['0'], ⟨v, e.byte + 1⟩) := by
    intro e v he
    unfold positionDigits
    split
    · rename_i heq
      rw [he] at heq
      rw [(List.cons.inj heq).2]
    · rename_i hne
      exact (hne v he).elim
  have hdigits : ∀ {e : Cursor}, e.rest.head? ≠ some '0' →
      e.positionDigits = e.takeWhile Char.isDigit := by
    intro e he
    unfold positionDigits
    split
    · rename_i heq
      rw [heq] at he
      exact absurd rfl he
    · rfl
  by_cases hhead : c.rest.head? = some '0'
  · obtain ⟨u, hu⟩ := List.head?_eq_some_iff.1 hhead
    obtain ⟨p, h⟩ := h
    rw [hu] at h
    obtain ⟨s, hs, -, hrest⟩ := h.rigid_tight (by decide)
    rw [hzero hu, hzero hs]
    exact ⟨rfl, _, hrest⟩
  · have hhead' : c'.rest.head? ≠ some '0' := h.choose_spec.head_ne ht (by decide) hhead
    rw [hdigits hhead, hdigits hhead']
    exact digits_tight ht h

theorem dotStep_tight (ht : Ends t) (h : Tight t c c') {start : Nat} (start' : Nat) {step : Step}
    (hstep : c.dotStep start = some (step, d)) :
    ∃ step' d', c'.dotStep start' = some (step', d') ∧ Tight t d d' := by
  unfold dotStep at hstep ⊢
  obtain ⟨c₁, h₁, hstep⟩ := Option.bind_eq_some_iff.1 hstep
  have hne : c₁.rest ≠ [] := by
    intro hnil
    obtain ⟨cs, byte⟩ := c₁
    obtain rfl : cs = [] := hnil
    cases hstep
  obtain ⟨c₁', h₁', htight, hhead⟩ := skip_near ht h.near h₁ hne
  rw [skipLines, h₁']
  dsimp only [Option.bind_eq_bind, Option.bind_some]
  split at hstep
  · rename_i cs hstar
    obtain ⟨rfl, rfl⟩ := Prod.mk.inj (Option.some.inj hstep)
    obtain ⟨p, htight⟩ := htight
    rw [hstar] at htight
    obtain ⟨s', hs', -, hrest⟩ := htight.rigid_tight (by decide)
    rw [hs']
    exact ⟨_, _, rfl, _, hrest⟩
  · rename_i hstar
    have hstar' : ∀ cs, c₁'.rest ≠ '*' :: cs := by
      intro cs hcs
      rw [hcs] at hhead
      obtain ⟨u, hu⟩ := List.head?_eq_some_iff.1 hhead.symm
      exact hstar u hu
    obtain ⟨hdigits, hafter⟩ := positionDigits_tight ht htight
    split
    · rename_i cs hcs
      exact absurd hcs (hstar' cs)
    · dsimp only at hstep ⊢
      rw [hdigits]
      split at hstep
      · rename_i hempty
        rw [if_pos hempty]
        obtain ⟨⟨name, c₂⟩, hname, hstep⟩ := Option.bind_eq_some_iff.1 hstep
        obtain ⟨rfl, rfl⟩ := Prod.mk.inj (Option.some.inj hstep)
        obtain ⟨c₂', hname', hend⟩ := name_tight ht htight hname
        exact ⟨_, c₂', by rw [hname']; rfl, hend⟩
      · rename_i hempty
        rw [if_neg hempty]
        split at hstep
        · rename_i hfits
          obtain ⟨rfl, rfl⟩ := Prod.mk.inj (Option.some.inj hstep)
          exact ⟨_, _, if_pos hfits, hafter⟩
        · cases hstep

/-! ## Operators -/

/-- The operator that two characters write. -/
def pairSign : Char → Char → Option BinaryOp
  | '=', '=' => some .eq
  | '!', '=' => some .ne
  | '<', '=' => some .le
  | '>', '=' => some .ge
  | '&', '&' => some .and
  | '|', '|' => some .or
  | _, _ => none

/-- The operator that one character writes. -/
def singleSign : Char → Option BinaryOp
  | '<' => some .lt
  | '>' => some .gt
  | '+' => some .add
  | '-' => some .sub
  | '*' => some .mul
  | '/' => some .div
  | '%' => some .mod
  | _ => none

/-- Characters that make up a sign with the character before them. -/
def isSecond (c : Char) : Bool := ['=', '&', '|', '/'].contains c

theorem operator?_cons (x b : Char) (z : List Char) : operator? (x :: b :: z) =
    match pairSign x b with
    | some op => some (op, 2)
    | none => if x = '/' ∧ b = '/' then none else (singleSign x).map (·, 1) := by
  by_cases hx : ['=', '!', '<', '>', '&', '|', '/', '+', '-', '*', '%'].contains x
  · simp only [List.contains_cons, List.contains_nil, Bool.or_eq_true, beq_iff_eq,
      Bool.or_false] at hx
    by_cases hb : isSecond b
    · simp only [isSecond, List.contains_cons, List.contains_nil, Bool.or_eq_true, beq_iff_eq,
        Bool.or_false] at hb
      rcases hb with rfl | rfl | rfl | rfl <;>
      rcases hx with rfl | rfl | rfl | rfl | rfl | rfl | rfl | rfl | rfl | rfl | rfl <;> rfl
    · simp only [isSecond, List.contains_cons, List.contains_nil, Bool.or_eq_true, beq_iff_eq,
        Bool.or_false, not_or] at hb
      rcases hx with rfl | rfl | rfl | rfl | rfl | rfl | rfl | rfl | rfl | rfl | rfl <;>
      simp [operator?, pairSign, singleSign, hb]
  · simp only [List.contains_cons, List.contains_nil, Bool.or_eq_true, beq_iff_eq, Bool.or_false,
      not_or] at hx
    simp [operator?, pairSign, singleSign, hx]

theorem isSecond_of_pairSign {x b : Char} {op : BinaryOp} (h : pairSign x b = some op) :
    isSecond b = true := by
  unfold pairSign at h
  split at h
  case h_7 => cases h
  all_goals decide

theorem pairSign_of_not_isSecond {x b : Char} (h : isSecond b = false) : pairSign x b = none := by
  cases hpair : pairSign x b with
  | none => rfl
  | some op =>
    rw [isSecond_of_pairSign hpair] at h
    cases h

theorem isRigid_of_isSecond {b : Char} (h : isSecond b = true) (hb : b ≠ '=') :
    isRigid b = true := by
  simp only [isSecond, List.contains_cons, List.contains_nil, Bool.or_eq_true, beq_iff_eq,
    Bool.or_false] at h
  rcases h with rfl | rfl | rfl | rfl
  · exact absurd rfl hb
  all_goals rfl

/-- A character that starts an operator is no blank, and only a minus may end a key. -/
theorem sign_of_operator? {x b : Char} {z : List Char} {r : BinaryOp × Nat}
    (h : operator? (x :: b :: z) = some r) :
    (x = '-' ∨ endsKey x = false) ∧ (isRigid x = true ∨ x = '=' ∧ b = '=') := by
  rw [operator?_cons] at h
  cases hpair : pairSign x b with
  | some op =>
    unfold pairSign at hpair
    split at hpair
    case h_7 => cases hpair
    case h_1 => exact ⟨.inr (by decide), .inr ⟨rfl, rfl⟩⟩
    all_goals exact ⟨.inr (by decide), .inl (by decide)⟩
  | none =>
    rw [hpair] at h
    dsimp only at h
    split at h
    · cases h
    · obtain ⟨op, hop, -⟩ := Option.map_eq_some_iff.1 h
      unfold singleSign at hop
      split at hop
      case h_8 => cases hop
      all_goals exact ⟨by decide, .inl (by decide)⟩

/-- Behind the first character of a sign stands the same second one in both texts, or none. -/
theorem Respaced.second (ht : Ends t) {b b' : Char} {z z' : List Char} (hp : endsKey p = false)
    (h : Respaced t (some p) (b :: z) (b' :: z')) :
    (isSecond b = true ∧ b' = b ∧ Respaced t (some b) z z') ∨
      isSecond b = false ∧ isSecond b' = false := by
  by_cases hb : isSecond b = true
  · refine .inl ⟨hb, ?_⟩
    by_cases heq : b = '='
    · subst heq
      obtain ⟨s', hs, hrest⟩ := h.equals_tight (.inl hp)
      obtain ⟨rfl, rfl⟩ := List.cons.inj hs
      exact ⟨rfl, hrest⟩
    · obtain ⟨s', hs, -, hrest⟩ := h.rigid_tight (isRigid_of_isSecond hb heq)
      obtain ⟨rfl, rfl⟩ := List.cons.inj hs
      exact ⟨rfl, hrest⟩
  · refine .inr ⟨by simpa using hb, ?_⟩
    by_contra hb'
    rw [Bool.not_eq_false] at hb'
    refine hb ?_
    by_cases heq : b' = '='
    · subst heq
      obtain ⟨u, hu, -⟩ := h.equals_right ht (.inl hp)
      rw [(List.cons.inj hu).1]
      rfl
    · obtain ⟨u, hu, -⟩ := h.rigid_right ht (isRigid_of_isSecond hb' heq)
      rw [(List.cons.inj hu).1]
      exact hb'

/-- Two layouts of a text behind the same character start with the same operator. -/
theorem operator?_congr (ht : Ends t) {x b b' : Char} {z z' : List Char}
    (hx : x = '-' ∨ endsKey x = false) (h : Respaced t (some x) (b :: z) (b' :: z')) :
    operator? (x :: b' :: z') = operator? (x :: b :: z) := by
  rcases hx with rfl | hx
  · rfl
  rw [operator?_cons, operator?_cons]
  rcases h.second ht hx with ⟨-, rfl, -⟩ | ⟨hb, hb'⟩
  · rfl
  · have hslash : ∀ {e}, isSecond e = false → e ≠ '/' := by
      rintro e he rfl
      cases he
    simp [pairSign_of_not_isSecond hb, pairSign_of_not_isSecond hb', hslash hb, hslash hb']

/-- An operator is read in both texts. -/
theorem operator_tight (ht : Ends t) (h : Respaced t (some p) u s) {op : BinaryOp} {length : Nat}
    (hop : operator? u = some (op, length)) : operator? s = some (op, length) ∧
      ∃ q, Respaced t (some q) (u.drop length) (s.drop length) := by
  match u with
  | [] => cases hop
  | [x] =>
    rw [operator?_singleton] at hop
    cases hop
  | x :: b :: z =>
    obtain ⟨hkey, hx⟩ := sign_of_operator? hop
    obtain ⟨s', rfl, hrest⟩ : ∃ s', s = x :: s' ∧ Respaced t (some x) (b :: z) s' := by
      rcases hx with hx | ⟨rfl, rfl⟩
      · obtain ⟨s', rfl, -, hrest⟩ := h.rigid_tight hx
        exact ⟨s', rfl, hrest⟩
      · exact h.equals_tight (.inr (.inl rfl))
    obtain ⟨b', z', rfl⟩ := List.exists_cons_of_ne_nil hrest.ne_nil
    refine ⟨(operator?_congr ht hkey hrest).trans hop, ?_⟩
    rw [operator?_cons] at hop
    split at hop
    · rename_i op' hpair
      obtain ⟨-, rfl⟩ := Prod.mk.inj (Option.some.inj hop)
      have hx' : endsKey x = false := hkey.resolve_left fun hminus => by
        rw [hminus] at hpair
        cases hpair
      rcases hrest.second ht hx' with ⟨-, rfl, hend⟩ | ⟨hb, -⟩
      · exact ⟨_, hend⟩
      · rw [isSecond_of_pairSign hpair] at hb
        cases hb
    · split at hop
      · cases hop
      · obtain ⟨op', -, heq⟩ := Option.map_eq_some_iff.1 hop
        obtain ⟨-, rfl⟩ := Prod.mk.inj heq
        exact ⟨x, hrest⟩

/-- One character with which an operation may start. -/
def Lone (cs : List Char) : Prop :=
  ∃ x, cs = [x] ∧ x ∈ ['.', '[', '?', '<', '>', '+', '-', '*', '/', '%']

/-- An operator of the second text is one of the first, unless that ends in its midst. -/
theorem operator_right (ht : Ends t) (h : Respaced t (some p) u s) {r : BinaryOp × Nat}
    (hop : operator? s = some r) : operator? u = some r ∨ Lone u := by
  match s with
  | [] => cases hop
  | [x] =>
    rw [operator?_singleton] at hop
    cases hop
  | x :: b' :: z' =>
    obtain ⟨hkey, hx⟩ := sign_of_operator? hop
    obtain ⟨u', rfl, hrest⟩ : ∃ u', u = x :: u' ∧ Respaced t (some x) u' (b' :: z') := by
      rcases hx with hx | ⟨rfl, rfl⟩
      · obtain ⟨u', rfl, -, hrest⟩ := h.rigid_right ht hx
        exact ⟨u', rfl, hrest⟩
      · exact h.equals_right ht (.inr (.inl rfl))
    cases u' with
    | cons b z => exact .inl ((operator?_congr ht hkey hrest).symm.trans hop)
    | nil =>
      refine .inr ⟨x, rfl, ?_⟩
      have hsecond : isSecond b' = false := by
        obtain ⟨v, hv, -, hnil⟩ := hrest.nil
        obtain rfl := hnil (by simp)
        obtain ⟨hrigid, hsign⟩ := ht.head b' (by rw [List.nil_append] at hv; rw [← hv]; rfl)
        by_contra hsecond
        exact absurd hrigid (by simp [isRigid_of_isSecond (by simpa using hsecond) hsign])
      rw [operator?_cons, pairSign_of_not_isSecond hsecond] at hop
      dsimp only at hop
      split at hop
      · cases hop
      · obtain ⟨op, hop, -⟩ := Option.map_eq_some_iff.1 hop
        unfold singleSign at hop
        split at hop
        case h_8 => cases hop
        all_goals decide

/-- Where no operation starts none starts in the other layout. -/
theorem stays_tight (ht : Ends t) (h : Respaced t (some p) u s) (hlone : ¬Lone u) {m : Mode}
    (hstay : Stays m u) : Stays m s := by
  have hcons : ∀ {x y' v'}, s = x :: y' :: v' → isRigid x = true →
      x ∈ ['.', '[', '?', '<', '>', '+', '-', '*', '/', '%'] →
      ∃ y v, u = x :: y :: v ∧ Respaced t (some x) (y :: v) (y' :: v') := by
    rintro x y' v' rfl hx hmem
    obtain ⟨u', rfl, -, hrest⟩ := h.rigid_right ht hx
    cases u' with
    | nil => exact absurd ⟨x, rfl, hmem⟩ hlone
    | cons y v => exact ⟨y, v, rfl, hrest⟩
  unfold Stays
  split
  · trivial
  · rename_i y' v' hdots
    obtain ⟨y, v, rfl, hrest⟩ := hcons rfl (by decide) (by decide)
    by_cases hy : y = '.'
    · subst hy
      obtain ⟨s', hs, -⟩ := hrest.rigid_tight (by decide)
      exact hdots (List.cons.inj hs).1
    · simp [Stays] at hstay
  · obtain ⟨y, v, rfl, -⟩ := hcons rfl (by decide) (by decide)
    exact hstay
  · obtain ⟨y, v, rfl, -⟩ := hcons rfl (by decide) (by decide)
    exact hstay
  · refine Option.eq_none_iff_forall_ne_some.2 fun r hr => ?_
    rcases operator_right ht h hr with hop | hu
    · unfold Stays at hstay
      split at hstay
      case h_5 =>
        rw [hop] at hstay
        cases hstay
      all_goals cases hop
    · exact hlone hu

theorem stays_outside {cs : List Char} (h : Outside cs) (m : Mode) : Stays m cs := by
  rcases h with ⟨more, rfl⟩ | h
  · rfl
  cases cs with
  | nil => rfl
  | cons q cs =>
    have hq : ∀ x, x ∈ ['.', '[', '?', '=', '!', '<', '>', '&', '|', '/', '+', '-', '*', '%'] →
        q ≠ x := by
      rintro x hx rfl
      have hstart := h q rfl
      simp only [List.mem_cons, List.not_mem_nil, or_false] at hx
      rcases hx with rfl | rfl | rfl | rfl | rfl | rfl | rfl | rfl | rfl | rfl | rfl | rfl | rfl | rfl
      all_goals revert hstart; decide
    simp only [List.mem_cons, List.not_mem_nil, or_false, forall_eq_or_imp, forall_eq] at hq
    simp [Stays, operator?, hq]

/-! ## Words that tell what comes next -/

theorem Respaced.prefix_iff (ht : Ends t) (hw : w.all isRigid = true)
    (h : Respaced t (some p) u s) : w <+: s ↔ w <+: u := by
  constructor
  · rintro ⟨s', rfl⟩
    obtain ⟨u', q, rfl, -⟩ := h.word_right ht hw
    exact ⟨u', rfl⟩
  · rintro ⟨u', rfl⟩
    obtain ⟨s', q, rfl, -⟩ := h.word hw
    exact ⟨s', rfl⟩

theorem startsDirective_iff {cs : List Char} :
    startsDirective cs = true ↔ ['i', 'f'] <+: cs ∨ ['f', 'o', 'r'] <+: cs := by
  constructor
  · intro h
    unfold startsDirective at h
    split at h
    · exact .inl ⟨_, rfl⟩
    · exact .inr ⟨_, rfl⟩
    · cases h
  · rintro (⟨cs, rfl⟩ | ⟨cs, rfl⟩)
    all_goals rfl

theorem startsDirective_tight (ht : Ends t) (h : Respaced t (some p) u s) :
    startsDirective s = startsDirective u := by
  rw [Bool.eq_iff_iff, startsDirective_iff, startsDirective_iff, h.prefix_iff ht (by decide),
    h.prefix_iff ht (by decide)]

/-- Characters that stand between `for` and the names of a comprehension. -/
def endsFor (c : Char) : Bool := c == ' ' || c == '\t' || c == '\n' || c == '#' || c == '/'

theorem startsComprehension_iff {cs : List Char} : startsComprehension cs = true ↔
    ∃ x more, cs = 'f' :: 'o' :: 'r' :: x :: more ∧ endsFor x = true := by
  constructor
  · intro h
    unfold startsComprehension at h
    split at h
    · exact ⟨_, _, rfl, h⟩
    · cases h
  · rintro ⟨x, more, rfl, hx⟩
    exact hx

theorem Respaced.kept {x : Char} (h : Respaced t (some p) (x :: u) s) :
    x = '=' ∨ isGap true x = true ∨ ∃ s', s = x :: s' := by
  by_cases hx : isRigid x = true
  · obtain ⟨s', rfl, -⟩ := h.rigid_tight hx
    exact .inr (.inr ⟨s', rfl⟩)
  · simp only [isRigid, Bool.not_eq_true', Bool.not_eq_false, Bool.or_eq_true, beq_iff_eq] at hx
    rcases hx with (((rfl | rfl) | rfl) | rfl) | rfl
    · exact .inr (.inl rfl)
    · exact .inr (.inl rfl)
    · exact .inr (.inl rfl)
    · exact h.not_carriageReturn.elim
    · exact .inl rfl

/-- No comprehension starts in another layout, unless the text ends behind its `for`. -/
theorem comprehension_right (ht : Ends t) (h : Respaced t (some p) u s)
    (hne : u ≠ ['f', 'o', 'r']) (hfor : startsComprehension u = false) :
    startsComprehension s = false := by
  by_contra hs
  rw [Bool.not_eq_false, startsComprehension_iff] at hs
  obtain ⟨y, more, rfl, hy⟩ := hs
  obtain ⟨u, rfl, hcalm, h⟩ := h.rigid_right ht (by decide)
  obtain ⟨u, rfl, -, h⟩ := h.rigid_right ht (by decide)
  obtain ⟨u, rfl, -, h⟩ := h.rigid_right ht (by decide)
  obtain ⟨x, u, rfl⟩ : ∃ x v, u = x :: v :=
    List.exists_cons_of_ne_nil fun hnil => hne (by rw [hnil])
  have hx : endsFor x ≠ true := fun hx => by
    rw [startsComprehension_iff.2 ⟨x, u, rfl, hx⟩] at hfor
    cases hfor
  rcases h.kept with rfl | hgap | ⟨s', hs⟩
  · exact hcalm.forSign ⟨u, rfl⟩
  · simp only [isGap, Bool.true_and, Bool.or_eq_true, beq_iff_eq] at hgap
    rcases hgap with (rfl | rfl) | rfl
    all_goals exact hx rfl
  · rw [← (List.cons.inj hs).1] at hx
    exact hx hy

theorem rest_of_name {name : String} (h : c.name = some (name, d)) :
    ∃ x more, c.rest = x :: more ∧ isNameStart x = true := by
  obtain ⟨⟨⟨x, more, hmore, hx⟩, -⟩, hrest, -⟩ := isName_of_name h
  exact ⟨x, more ++ d.rest, by rw [hrest, hmore]; rfl, hx⟩

theorem ne_nil_of_expect (h : c.expect w = some d) (hw : w ≠ []) : c.rest ≠ [] := by
  rw [(expect_eq_some.1 h).1]
  exact List.append_ne_nil_of_left_ne_nil hw _

/-- A comprehension starts in the other layout, too. -/
theorem comprehension_tight (h : Tight t c c') {c₁ : Cursor} {r : Option String × String × Cursor}
    (hstart : c.expect ['f', 'o', 'r'] = some c₁) (hnames : c₁.loopNames = some r)
    (hfor : startsComprehension c.rest = true) : startsComprehension c'.rest = true := by
  obtain ⟨p, h⟩ := h
  obtain ⟨x, more, hrest, hx⟩ := startsComprehension_iff.1 hfor
  have hmore : c₁.rest = x :: more := by
    have hword : ['f', 'o', 'r'] ++ c₁.rest = ['f', 'o', 'r'] ++ x :: more :=
      (expect_eq_some.1 hstart).1.symm.trans hrest
    exact List.append_cancel_left hword
  rw [hrest] at h
  obtain ⟨s, hs, -, h⟩ := h.rigid_tight (by decide)
  obtain ⟨s, rfl, -, h⟩ := h.rigid_tight (by decide)
  obtain ⟨s, rfl, -, h⟩ := h.rigid_tight (by decide)
  suffices hy : ∃ y s', s = y :: s' ∧ endsFor y = true by
    obtain ⟨y, s', rfl, hy⟩ := hy
    exact startsComprehension_iff.2 ⟨y, s', hs, hy⟩
  generalize hcs : x :: more = cs at h
  cases h with
  | done => cases hcs
  | char =>
    obtain ⟨rfl, rfl⟩ := List.cons.inj hcs
    exact ⟨_, _, rfl, hx⟩
  | line => exact ⟨_, _, rfl, rfl⟩
  | @sign _ v _ v' _ _ hv =>
    -- A sign is no name.
    unfold loopNames at hnames
    obtain ⟨c₂, hskip, hnames⟩ := Option.bind_eq_some_iff.1 hnames
    obtain ⟨⟨name, c₃⟩, hname, -⟩ := Option.bind_eq_some_iff.1 hnames
    obtain ⟨y, ys, hy, hstart⟩ := rest_of_name hname
    rw [skipLines, skip, hmore, hcs, hv.blanks, blanks_stop (by decide)] at hskip
    obtain rfl := Option.some.inj hskip
    rw [← (List.cons.inj hy).1] at hstart
    exact absurd hstart (by decide)

/-! ## Groups of tokens -/

/-- The names of a loop. -/
theorem loopNames_tight (ht : Ends t) (h : Tight t c c') {key : Option String} {value : String}
    (hnames : c.loopNames = some (key, value, d)) :
    ∃ d', c'.loopNames = some (key, value, d') ∧ Tight t d d' := by
  unfold loopNames at hnames ⊢
  obtain ⟨c₁, h₁, hnames⟩ := Option.bind_eq_some_iff.1 hnames
  obtain ⟨⟨first, c₂⟩, h₂, hnames⟩ := Option.bind_eq_some_iff.1 hnames
  obtain ⟨c₃, h₃, hnames⟩ := Option.bind_eq_some_iff.1 hnames
  obtain ⟨x, more, hx, -⟩ := rest_of_name h₂
  obtain ⟨c₁', h₁', ht₁, -⟩ := skip_near ht h.near h₁ (by simp [hx])
  obtain ⟨c₂', h₂', ht₂⟩ := name_tight ht ht₁ h₂
  have hne : c₃.rest ≠ [] := by
    rcases skipIf_cases [','] c₃ with ⟨e, he, -⟩ | ⟨-, hskip⟩
    · exact ne_nil_of_expect he (by simp)
    · rw [hskip] at hnames
      obtain ⟨c₄, h₄, -⟩ := Option.bind_eq_some_iff.1 hnames
      exact ne_nil_of_expect h₄ (by simp)
  obtain ⟨c₃', h₃', ht₃, -⟩ := skip_near ht ht₂.near h₃ hne
  obtain ⟨hcomma, htail⟩ := skipIf_tight (w := [',']) ht ht₃ rfl
  dsimp only at hnames
  simp only [skipLines, h₁', h₂', h₃', Option.bind_eq_bind, Option.bind_some, hcomma]
  split at hnames
  · rename_i htwo
    obtain ⟨c₄, h₄, hnames⟩ := Option.bind_eq_some_iff.1 hnames
    obtain ⟨⟨second, c₅⟩, h₅, hnames⟩ := Option.bind_eq_some_iff.1 hnames
    obtain ⟨c₆, h₆, hnames⟩ := Option.bind_eq_some_iff.1 hnames
    obtain ⟨c₇, h₇, hnames⟩ := Option.bind_eq_some_iff.1 hnames
    simp only [Option.pure_def, Option.some.injEq, Prod.mk.injEq] at hnames
    obtain ⟨rfl, rfl, rfl⟩ := hnames
    obtain ⟨x, more, hx, -⟩ := rest_of_name h₅
    obtain ⟨c₄', h₄', ht₄, -⟩ := skip_near ht htail.near h₄ (by simp [hx])
    obtain ⟨c₅', h₅', ht₅⟩ := name_tight ht ht₄ h₅
    obtain ⟨c₆', h₆', ht₆, -⟩ := skip_near ht ht₅.near h₆ (ne_nil_of_expect h₇ (by simp))
    obtain ⟨c₇', h₇', ht₇⟩ := expect_tight ht₆ (by decide) h₇
    refine ⟨c₇', ?_, ht₇⟩
    rw [if_pos htwo]
    simp only [h₄', h₅', h₆', h₇', Option.bind_some, Option.pure_def]
  · rename_i htwo
    obtain ⟨c₇, h₇, hnames⟩ := Option.bind_eq_some_iff.1 hnames
    simp only [Option.pure_def, Option.some.injEq, Prod.mk.injEq] at hnames
    obtain ⟨rfl, rfl, rfl⟩ := hnames
    obtain ⟨c₇', h₇', ht₇⟩ := expect_tight htail (by decide) h₇
    refine ⟨c₇', ?_, ht₇⟩
    rw [if_neg htwo]
    simp only [h₇', Option.bind_some, Option.pure_def]

theorem openSequence_eq (c : Cursor) : c.openSequence =
    (c.skipIf ['~']).2.skipLines.bind fun d => some ((c.skipIf ['~']).1, d) := rfl

theorem closeSequence_eq (c : Cursor) : c.closeSequence = c.skipLines.bind fun d =>
    ((d.skipIf ['~']).2.expect ['}']).bind fun e => some ((d.skipIf ['~']).1, e) := rfl

theorem openSequence_tight (ht : Ends t) (h : Tight t c c') {before : Bool}
    (hopen : c.openSequence = some (before, d)) (hd : d.rest ≠ []) :
    ∃ d', c'.openSequence = some (before, d') ∧ Tight t d d' ∧ d'.rest.head? = d.rest.head? := by
  rw [openSequence_eq] at hopen ⊢
  obtain ⟨c₁, h₁, hopen⟩ := Option.bind_eq_some_iff.1 hopen
  obtain ⟨rfl, rfl⟩ := Prod.mk.inj (Option.some.inj hopen)
  obtain ⟨hstrip, htail⟩ := skipIf_tight (w := ['~']) ht h rfl
  obtain ⟨c₁', h₁', ht₁, hhead⟩ := skip_near ht htail.near h₁ hd
  refine ⟨c₁', ?_, ht₁, hhead⟩
  simp only [skipLines, h₁', hstrip, Option.bind_some]

theorem closeSequence_tight (ht : Ends t) (h : Near t c c') {after : Bool}
    (hclose : c.closeSequence = some (after, d)) :
    ∃ d', c'.closeSequence = some (after, d') ∧ Tight t d d' := by
  rw [closeSequence_eq] at hclose ⊢
  obtain ⟨c₁, h₁, hclose⟩ := Option.bind_eq_some_iff.1 hclose
  obtain ⟨c₂, h₂, hclose⟩ := Option.bind_eq_some_iff.1 hclose
  obtain ⟨rfl, rfl⟩ := Prod.mk.inj (Option.some.inj hclose)
  have hne : c₁.rest ≠ [] := by
    rcases skipIf_cases ['~'] c₁ with ⟨e, he, -⟩ | ⟨-, hskip⟩
    · exact ne_nil_of_expect he (by simp)
    · rw [hskip] at h₂
      exact ne_nil_of_expect h₂ (by simp)
  obtain ⟨c₁', h₁', ht₁, -⟩ := skip_near ht h h₁ hne
  obtain ⟨hstrip, htail⟩ := skipIf_tight (w := ['~']) ht ht₁ rfl
  obtain ⟨c₂', h₂', ht₂⟩ := expect_tight htail (by decide) h₂
  refine ⟨c₂', ?_, ht₂⟩
  simp only [skipLines, h₁', h₂', hstrip, Option.bind_some]

theorem bareDirective_tight (ht : Ends t) (h : Tight t c c') (hw : w.all isRigid = true)
    (hne : w ≠ []) {sequence : Sequence} (hbare : c.bareDirective w = some (sequence, d)) :
    ∃ sequence' d', c'.bareDirective w = some (sequence', d') ∧ Tight t d d' := by
  unfold bareDirective at hbare ⊢
  obtain ⟨c₁, h₁, hbare⟩ := Option.bind_eq_some_iff.1 hbare
  obtain ⟨⟨before, c₂⟩, h₂, hbare⟩ := Option.bind_eq_some_iff.1 hbare
  obtain ⟨c₃, h₃, hbare⟩ := Option.bind_eq_some_iff.1 hbare
  obtain ⟨⟨after, c₄⟩, h₄, hbare⟩ := Option.bind_eq_some_iff.1 hbare
  obtain ⟨-, rfl⟩ := Prod.mk.inj (Option.some.inj hbare)
  obtain ⟨c₁', h₁', ht₁⟩ := expect_tight h (by decide) h₁
  obtain ⟨c₂', h₂', ht₂, -⟩ := openSequence_tight ht ht₁ h₂ (ne_nil_of_expect h₃ hne)
  obtain ⟨c₃', h₃', ht₃⟩ := expect_tight ht₂ hw h₃
  obtain ⟨c₄', h₄', ht₄⟩ := closeSequence_tight ht ht₃.near h₄
  simp only [h₁', h₂', h₃', h₄', Option.bind_eq_bind, Option.bind_some]
  exact ⟨_, c₄', rfl, ht₄⟩

theorem head?_of_outside (hd : Outside d.rest) {x : Char} (hx : x ∉ ['\n', '\r', '#', '}', '/'])
    (hname : isNameStart x = false) : d.rest.head? ≠ some x := by
  simp only [List.mem_cons, List.not_mem_nil, or_false, not_or] at hx
  intro hhead
  rcases hd with ⟨more, hmore⟩ | hd
  · rw [← hmore] at hhead
    exact hx.2.2.2.2 (Option.some.inj hhead).symm
  · rcases hd x hhead with hmem | hstart
    · simp [hx] at hmem
    · rw [hname] at hstart
      cases hstart

theorem expect_outside {x : Char} {w : List Char} (hd : Outside d.rest)
    (hx : x ∉ ['\n', '\r', '#', '}', '/']) (hname : isNameStart x = false) :
    d.expect (x :: w) = none := by
  refine Option.eq_none_iff_forall_ne_some.2 fun e he => ?_
  refine head?_of_outside hd hx hname ?_
  rw [(expect_eq_some.1 he).1]
  rfl

/-- The parts of a function's name behind the first. -/
theorem qualifiers_tight (ht : Ends t) {m : Bool} {n : Nat} {names names' : List String}
    (h : Tight t c c') (hnames : c.qualifiers m n names = some (names', d)) :
    ∃ d', c'.qualifiers m n names = some (names', d') ∧ Tight t d d' := by
  induction n generalizing names c c' with
  | zero => cases hnames
  | succ n ih =>
    unfold qualifiers at hnames ⊢
    obtain ⟨next, hskip, hnames⟩ := Option.bind_eq_some_iff.1 hnames
    obtain ⟨next', hskip', hnext⟩ := skip_arrives ht h.near hskip
    simp only [hskip', Option.bind_eq_bind, Option.bind_some]
    split at hnames
    · rename_i hnone
      obtain ⟨rfl, rfl⟩ := Prod.mk.inj (Option.some.inj hnames)
      have hnone' : next'.expect [':', ':'] = none := by
        rcases hnext with ⟨htight, -, -⟩ | ⟨-, hout⟩
        · exact expect_none_tight ht htight (by decide) hnone
        · exact expect_outside hout (by decide) (by decide)
      exact ⟨c', by rw [hnone']; rfl, h⟩
    · rename_i c₁ h₁
      obtain ⟨c₂, h₂, hnames⟩ := Option.bind_eq_some_iff.1 hnames
      obtain ⟨⟨name, c₃⟩, h₃, hnames⟩ := Option.bind_eq_some_iff.1 hnames
      have htight : Tight t next next' := by
        rcases hnext with ⟨htight, -, -⟩ | ⟨hnil, -⟩
        · exact htight
        · exact absurd hnil (ne_nil_of_expect h₁ (by simp))
      obtain ⟨x, more, hx, -⟩ := rest_of_name h₃
      obtain ⟨c₁', h₁', ht₁⟩ := expect_tight htight (by decide) h₁
      obtain ⟨c₂', h₂', ht₂, -⟩ := skip_near ht ht₁.near h₂ (by simp [hx])
      obtain ⟨c₃', h₃', ht₃⟩ := name_tight ht ht₂ h₃
      obtain ⟨d', hd', hend⟩ := ih ht₃ hnames
      refine ⟨d', ?_, hend⟩
      simp only [h₁', h₂', h₃', Option.bind_some]
      exact hd'

/-! ## Heredocs -/

/-- The marker of a heredoc, with the line end behind it. -/
theorem heredocStart_near (ht : Ends t) (h : Tight t c c') {indented : Bool} {id : List Char}
    (hstart : c.heredocStart = some (indented, id, d)) :
    ∃ d', c'.heredocStart = some (indented, id, d') ∧ Near t d d' := by
  unfold heredocStart at hstart ⊢
  obtain ⟨c₁, h₁, hstart⟩ := Option.bind_eq_some_iff.1 hstart
  obtain ⟨⟨name, c₂⟩, h₂, hstart⟩ := Option.bind_eq_some_iff.1 hstart
  obtain ⟨c₁', h₁', ht₁⟩ := expect_tight h (by decide) h₁
  obtain ⟨hindented, htail⟩ := skipIf_tight (w := ['-']) ht ht₁ rfl
  obtain ⟨c₂', h₂', p, ht₂⟩ := name_tight ht htail h₂
  simp only [h₁', hindented, h₂', Option.bind_eq_bind, Option.bind_some]
  dsimp only at hstart
  obtain ⟨u, hu⟩ : ∃ u, c₂.rest = '\n' :: u := by
    unfold lineBreakText at hstart
    split at hstart
    · cases hstart
    · rename_i hbreak
      split at hbreak
      · rename_i heq
        exact ⟨_, heq⟩
      · rename_i heq
        rw [heq] at ht₂
        exact ht₂.not_carriageReturn.elim
      · exact absurd rfl hbreak
  rw [hu] at ht₂ hstart
  obtain ⟨v, s', hs, hv, hnil, hnear⟩ := ht₂.newline
  obtain rfl := hnil (by simp)
  obtain ⟨rfl, hrest⟩ := Prod.mk.inj (Option.some.inj hstart)
  obtain ⟨rfl, rfl⟩ := Prod.mk.inj hrest
  rw [List.nil_append] at hs
  rw [hs]
  exact ⟨_, rfl, none, hnear⟩

/-- Spaces and tabs at the start of a text. -/
theorem Respaced.dropBlanks {o : Option Char} (h : Respaced t o u s) :
    (u.dropWhile (fun x => x == ' ' || x == '\t') = [] ∧
      s.dropWhile (fun x => x == ' ' || x == '\t') = t.dropWhile fun x => x == ' ' || x == '\t') ∨
    ∃ q, Respaced t (some q) (u.dropWhile fun x => x == ' ' || x == '\t')
      (s.dropWhile fun x => x == ' ' || x == '\t') := by
  have hpadding : ∀ {v s : List Char}, Padding v →
      (v ++ s).dropWhile (fun x => x == ' ' || x == '\t') =
        s.dropWhile fun x => x == ' ' || x == '\t' := by
    intro v s hv
    refine List.dropWhile_append_of_pos fun x hx => ?_
    simpa [isGap] using hv x hx
  induction u generalizing o s with
  | nil =>
    obtain ⟨v, rfl, hv, -⟩ := h.nil
    exact .inl ⟨rfl, hpadding hv⟩
  | cons x u ih =>
    by_cases hx : isGap false x = true
    · obtain ⟨v, y, s', o', rfl, hv, hy, hrest⟩ := h.blank hx
      have hy' : Padding y := by
        rcases hy with rfl | ⟨rfl, -⟩
        · simpa [Padding] using hx
        · exact padding_nil
      have hx' : (x == ' ' || x == '\t') = true := by simpa [isGap] using hx
      rw [hpadding hv, hpadding hy', List.dropWhile_cons, if_pos hx']
      exact ih hrest
    · obtain ⟨v, s', q, rfl, hv, hrest⟩ := h.token (by simpa using hx)
      have hx' : ¬(x == ' ' || x == '\t') = true := by simpa [isGap] using hx
      rw [hpadding hv, List.dropWhile_cons, List.dropWhile_cons, if_neg hx', if_neg hx']
      exact .inr ⟨q, hrest⟩

theorem isRigid_of_isName {id : List Char} (h : IsName id) : id.all isRigid = true :=
  List.all_eq_true.2 fun x hx => isRigid_of_isNameRest (h.rest x hx)

/-- The terminator of a heredoc stands in both texts, or in none. -/
theorem isTerminator_near (ht : Ends t) {o : Option Char} (h : Respaced t o u s) {id : List Char}
    (hid : IsName id) : isTerminator id s = isTerminator id u := by
  unfold isTerminator
  rcases h.dropBlanks with ⟨hu, hs⟩ | ⟨q, hrest⟩
  · rw [hu, hs]
    obtain ⟨⟨x, more, rfl, hx⟩, -⟩ := hid
    rw [Bool.eq_iff_iff]
    refine iff_of_false (fun hprefix => ?_) (by simp)
    obtain ⟨v, hv⟩ := List.isPrefixOf_iff_prefix.1 hprefix
    have hgaps : t.dropWhile (isGap false) = x :: more ++ v := by
      rw [hv]
      refine congrArg (List.dropWhile · t) (funext fun c => ?_)
      simp [isGap]
    have hword := ht.word x (by rw [hgaps]; rfl)
    rw [hx] at hword
    cases hword
  · rw [Bool.eq_iff_iff, List.isPrefixOf_iff_prefix, List.isPrefixOf_iff_prefix]
    exact hrest.prefix_iff ht (isRigid_of_isName hid)

theorem heredocStop_near (h : Near t c c') {id : List Char} (hid : IsName id)
    {gap : Option Span} (hstop : c.heredocStop id = some (gap, d)) :
    ∃ gap' d', c'.heredocStop id = some (gap', d') ∧ Tight t d d' := by
  obtain ⟨o, h⟩ := h
  unfold heredocStop at hstop ⊢
  obtain ⟨c₁, h₁, hstop⟩ := Option.bind_eq_some_iff.1 hstop
  obtain ⟨-, rfl⟩ := Prod.mk.inj (Option.some.inj hstop)
  have htight : Tight t (c.takeWhile fun x => x == ' ' || x == '\t').2
      (c'.takeWhile fun x => x == ' ' || x == '\t').2 := by
    rcases h.dropBlanks with ⟨hu, -⟩ | ⟨q, hrest⟩
    · obtain ⟨⟨x, more, hx, -⟩, -⟩ := hid
      exact absurd hu (ne_nil_of_expect h₁ (by rw [hx]; exact List.cons_ne_nil _ _))
    · exact ⟨q, hrest⟩
  obtain ⟨c₁', h₁', ht₁⟩ := expect_tight htight (isRigid_of_isName hid) h₁
  simp only [h₁', Option.bind_eq_bind, Option.bind_some]
  exact ⟨_, c₁', rfl, ht₁⟩

/-! ## Line ends -/

theorem Padding.comment (hv : Padding v) (h : CommentRest w s) : CommentRest (v ++ w) s := by
  induction v with
  | nil => exact h
  | cons x v ih =>
    refine .char ?_ (ih hv.of_cons.2)
    rcases hv.eq_or List.mem_cons_self with rfl | rfl <;> decide

theorem commentRest_near {o : Option Char} (hw : CommentRest w u) (hu : u ≠ [])
    (h : Respaced t o (w ++ u) s) :
    ∃ w' s', s = w' ++ s' ∧ CommentRest w' s' ∧ Respaced t none u s' := by
  induction hw generalizing o s with
  | feed hmark =>
    rcases hmark with rfl | rfl
    · obtain ⟨v, s', rfl, hv, -, hrest⟩ := h.newline
      exact ⟨v ++ ['\n'], s', by simp, hv.comment (.feed (.inl rfl)), hrest⟩
    · exact h.not_carriageReturn.elim
  | done => exact absurd rfl hu
  | @char x w u hx _ ih =>
    obtain ⟨v, y, s', o', rfl, hv, hy, hrest⟩ := h.step
    obtain ⟨w', s'', rfl, hw', hrest'⟩ := ih hu hrest
    refine ⟨v ++ (y ++ w'), s'', by simp, hv.comment ?_, hrest'⟩
    rcases hy with rfl | ⟨rfl, -⟩
    · exact .char hx hw'
    · exact hw'

/-- A line end between two entries, with the comment before it. -/
theorem lineBreak_near (h : Tight t c c') (hbreak : c.lineBreak = some d) (hd : d.rest ≠ []) :
    ∃ d', c'.lineBreak = some d' ∧ Near t d d' := by
  obtain ⟨p, h⟩ := h
  obtain ⟨w, hw, hrest, -⟩ := lineBreak_iff.1 hbreak
  obtain ⟨cs', byte'⟩ := c'
  rw [hrest] at h
  have hnear : ∃ w' s', cs' = w' ++ s' ∧ LineBreak w' s' ∧ Respaced t none d.rest s' := by
    cases hw with
    | feed hmark =>
      rcases hmark with rfl | rfl
      · obtain ⟨v, s', hs, -, hnil, hmore⟩ := h.newline
        obtain rfl := hnil (by simp)
        exact ⟨['\n'], s', hs, .feed (.inl rfl), hmore⟩
      · exact h.not_carriageReturn.elim
    | @comment mark w _ hmark hw =>
      rw [List.append_assoc] at h
      have hrigid : mark.all isRigid = true := by rcases hmark with rfl | rfl <;> rfl
      obtain ⟨s', q, rfl, hmore⟩ := h.word hrigid
      obtain ⟨w', s'', rfl, hw', hrest'⟩ := commentRest_near hw hd hmore
      exact ⟨mark ++ w', s'', (List.append_assoc _ _ _).symm, .comment hmark hw', hrest'⟩
  obtain ⟨w', s', rfl, hw', hmore⟩ := hnear
  exact ⟨_, lineBreak_of_text hw' byte', none, hmore⟩

end

end TerraLint.Hcl
