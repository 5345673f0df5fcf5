import TerraLint.Proofs.Hcl.BodyLocality
import TerraLint.Proofs.Hcl.Header
import TerraLint.Proofs.Hcl.Respacing

/-!
# Structures in a text with other blanks at their lines

A structure that stands in a text stands in the same text in another layout: an attribute with its
key, a block with its type, its labels and the keys in its body. Labels stand in quotes, where a sign
or a line end would be laid out, too.

* `Whole`, `Unfolded`: labels that layout keeps.
* `labels_tight`: they are read in both texts.
* `RespacesBody`, `respaces_body`: every reader of bodies.
-/

namespace TerraLint.Hcl

open Text Cursor

variable {t u s w : List Char} {p : Char} {c d c' : Cursor} {n N : Nat}

/-! ## Labels -/

/-- A label with nothing in it that layout moves. -/
def Whole (label : String) : Prop := '\n' ∉ label.toList ∧ '=' ∉ label.toList

instance (label : String) : Decidable (Whole label) := inferInstanceAs (Decidable (_ ∧ _))

/-- No line that a backslash goes on with starts with a quote: it would get blanks before it. -/
def Unfolded (cs : List Char) : Prop := ¬['\\', '\n', '"'] <:+: cs

instance (cs : List Char) : Decidable (Unfolded cs) := inferInstanceAs (Decidable (¬_))

theorem Unfolded.of_suffix (h : Unfolded u) (hw : w <:+ u) : Unfolded w :=
  fun hfold => h (hfold.trans hw.isInfix)

theorem Unfolded.after (h : Unfolded c.rest) (hreach : Reaches c d) : Unfolded d.rest := by
  obtain ⟨taken, hrest, -⟩ := hreach
  exact h.of_suffix ⟨taken, hrest.symm⟩

/-- A character behind blanks in a text between quotes is one of those that the text stands for. -/
theorem QuotedText.mem_value {inner value : List Char} (h : QuotedText inner value)
    (hw : Padding w) {x : Char} (hinner : inner = w ++ x :: u) (hx : x ≠ '\\' ∧ isMarker x = false) :
    x ∈ value := by
  induction h generalizing w with
  | nil => simp at hinner
  | @char c text value _ _ _ ih =>
    cases w with
    | nil =>
      obtain ⟨rfl, -⟩ := List.cons.inj hinner
      exact List.mem_cons_self
    | cons y w => exact List.mem_cons_of_mem _ (ih hw.of_cons.2 (List.cons.inj hinner).2)
  | @marker c text value hc =>
    cases w with
    | nil =>
      obtain ⟨rfl, -⟩ := List.cons.inj hinner
      rw [hx.2] at hc
      cases hc
    | cons y w =>
      obtain ⟨rfl, -⟩ := List.cons.inj hinner
      rcases hw.eq_or List.mem_cons_self with rfl | rfl <;> cases hc
  | escape | codePoint | unknown =>
    cases w with
    | nil => exact absurd (List.cons.inj hinner).1.symm hx.1
    | cons y w =>
      obtain ⟨rfl, -⟩ := List.cons.inj hinner
      exact absurd hw.of_cons.1 (by decide)

/-- A blank stays if neither a line end nor a sign stands behind the blanks. -/
theorem Respaced.blank_kept {x : Char} (hx : isGap false x = true)
    (hkeep : ∀ w y v, Padding w → y = '\n' ∨ y = '=' → u ≠ w ++ y :: v)
    (h : Respaced t (some p) (x :: u) s) : ∃ s', s = x :: s' ∧ Respaced t (some x) u s' := by
  generalize hcs : x :: u = cs at h
  cases h with
  | done => cases hcs
  | char _ _ h =>
    obtain ⟨rfl, rfl⟩ := List.cons.inj hcs
    exact ⟨_, rfl, h⟩
  | @line _ w _ _ _ hw =>
    cases w with
    | nil =>
      obtain ⟨rfl, -⟩ := List.cons.inj hcs
      cases hx
    | cons y w => exact absurd (List.cons.inj hcs).2 (hkeep w _ _ hw.of_cons.2 (.inl rfl))
  | @sign _ w _ _ _ _ hw =>
    cases w with
    | nil =>
      obtain ⟨rfl, -⟩ := List.cons.inj hcs
      cases hx
    | cons y w => exact absurd (List.cons.inj hcs).2 (hkeep w _ _ hw.of_cons.2 (.inr rfl))

/-- A character behind a backslash stays, unless it is a line end. -/
theorem Respaced.unknown {x : Char} (hx : x ≠ '\n') (h : Respaced t (some '\\') (x :: u) s) :
    ∃ s', s = x :: s' ∧ Respaced t (some x) u s' := by
  generalize hcs : x :: u = cs at h
  cases h with
  | done => cases hcs
  | char _ _ h =>
    obtain ⟨rfl, rfl⟩ := List.cons.inj hcs
    exact ⟨_, rfl, h⟩
  | line hp =>
    obtain ⟨rfl, -⟩ := hp rfl
    exact absurd (List.cons.inj hcs).1 hx
  | sign hp => exact absurd hp (by decide)

/-- A text between quotes stays as it is. -/
theorem QuotedText.respaced {inner value : List Char} (hinner : QuotedText inner value)
    (hvalue : '\n' ∉ value ∧ '=' ∉ value) (hfold : Unfolded (inner ++ '"' :: u))
    (h : Respaced t (some p) (inner ++ '"' :: u) s) :
    ∃ s' q, s = inner ++ '"' :: s' ∧ Respaced t (some q) u s' := by
  induction hinner generalizing p s with
  | nil =>
    obtain ⟨s', rfl, -, hrest⟩ := h.rigid_tight (by decide)
    exact ⟨s', _, rfl, hrest⟩
  | @char c text value hquote hslash htext ih =>
    simp only [List.mem_cons, not_or] at hvalue
    have hfold' : Unfolded (text ++ '"' :: u) := hfold.of_suffix (List.suffix_cons _ _)
    have hc : ∃ s', s = c :: s' ∧ Respaced t (some c) (text ++ '"' :: u) s' := by
      by_cases hrigid : isRigid c = true
      · obtain ⟨s', rfl, -, hrest⟩ := h.rigid_tight hrigid
        exact ⟨s', rfl, hrest⟩
      by_cases hgap : isGap false c = true
      · refine h.blank_kept hgap fun w y v hw hy heq => ?_
        -- Such a character would belong to the label.
        have hquote : '"' ∉ w ++ [y] := by
          intro hmem
          rcases List.mem_append.1 hmem with hmem | hmem
          · exact absurd (hw _ hmem) (by decide)
          · rw [← List.mem_singleton.1 hmem] at hy
            revert hy
            decide
        obtain ⟨more, hmore, -⟩ := exists_append_of_quote (v := v) hquote (by rw [heq]; simp)
        have hmem := htext.mem_value hw (x := y) (u := more) (by rw [hmore]; simp)
          (by rcases hy with rfl | rfl <;> decide)
        rcases hy with rfl | rfl
        · exact hvalue.1.2 hmem
        · exact hvalue.2.2 hmem
      · obtain rfl | rfl | rfl : c = '\n' ∨ c = '\r' ∨ c = '=' := by
          simp only [isGap, Bool.false_and, Bool.or_false, Bool.or_eq_true, beq_iff_eq, not_or] at hgap
          simp only [isRigid, Bool.not_eq_true', Bool.not_eq_false, Bool.or_eq_true, beq_iff_eq] at hrigid
          tauto
        · exact absurd rfl hvalue.1.1
        · exact h.not_carriageReturn.elim
        · exact absurd rfl hvalue.2.1
    obtain ⟨s', rfl, hrest⟩ := hc
    obtain ⟨s', q, rfl, hmore⟩ := ih ⟨hvalue.1.2, hvalue.2.2⟩ hfold' hrest
    exact ⟨s', q, rfl, hmore⟩
  | @marker c text value hc htext ih =>
    simp only [List.mem_cons, not_or] at hvalue
    have hrigid : [c, c, '{'].all isRigid = true := by
      simp only [isMarker, Bool.or_eq_true, beq_iff_eq] at hc
      rcases hc with rfl | rfl <;> rfl
    obtain ⟨s', q, rfl, hrest⟩ := Respaced.word (w := [c, c, '{']) hrigid h
    obtain ⟨s', q, rfl, hmore⟩ := ih ⟨hvalue.1.2.2, hvalue.2.2.2⟩
      (hfold.of_suffix (List.suffix_append [c, c, '{'] _)) hrest
    exact ⟨s', q, rfl, hmore⟩
  | @escape c ch text value hc htext ih =>
    simp only [List.mem_cons, not_or] at hvalue
    obtain ⟨s', q, rfl, hrest⟩ := Respaced.word (w := ['\\', c])
      (by simp [isRigid_of_simpleEscape hc, show isRigid '\\' = true from rfl]) h
    obtain ⟨s', q, rfl, hmore⟩ := ih ⟨hvalue.1.2, hvalue.2.2⟩
      (hfold.of_suffix (List.suffix_append ['\\', c] _)) hrest
    exact ⟨s', q, rfl, hmore⟩
  | @codePoint c ch digits text value hc hd htext ih =>
    simp only [List.mem_cons, not_or] at hvalue
    obtain ⟨k, hk, -⟩ := Option.bind_eq_some_iff.1 hd
    have hrigid : ('\\' :: c :: digits).all isRigid = true := by
      simp only [List.all_cons, isRigid_of_hexNumber hk, Bool.and_true]
      rcases hc with ⟨rfl, -⟩ | ⟨rfl, -⟩ <;> rfl
    have htext : '\\' :: c :: (digits ++ text) ++ '"' :: u =
        ('\\' :: c :: digits) ++ (text ++ '"' :: u) := by simp
    rw [htext] at h hfold
    obtain ⟨s', q, rfl, hrest⟩ := h.word hrigid
    obtain ⟨s', q, rfl, hmore⟩ := ih ⟨hvalue.1.2, hvalue.2.2⟩
      (hfold.of_suffix (List.suffix_append _ _)) hrest
    exact ⟨s', q, by simp, hmore⟩
  | @unknown c hc =>
    obtain ⟨s', rfl, -, hslash⟩ := h.rigid_tight (by decide)
    have hline : c ≠ '\n' := by
      rintro rfl
      exact hfold ⟨[], u, rfl⟩
    obtain ⟨s', rfl, hrest⟩ := hslash.unknown hline
    obtain ⟨s', rfl, -, hmore⟩ := hrest.rigid_tight (by decide)
    exact ⟨s', _, rfl, hmore⟩

/-- A quoted label is read in both texts. -/
theorem quotedLabel_tight {label : String} (h : Tight t c c') (hwhole : Whole label)
    (hfold : Unfolded c.rest) (hlabel : c.quotedLabel = some (label, d)) :
    ∃ d', c'.quotedLabel = some (label, d') ∧ Tight t d d' := by
  obtain ⟨inner, hinner, hrest, hread⟩ := quotedText_of_quotedLabel hlabel
  obtain ⟨p, h⟩ := h
  rw [hrest] at h hfold
  obtain ⟨s, hs, -, h⟩ := h.rigid_tight (by decide)
  obtain ⟨s', q, rfl, hmore⟩ := hinner.respaced hwhole (hfold.of_suffix (List.suffix_cons _ _)) h
  obtain ⟨stop, hstop⟩ := hread s' c'.byte
  rw [← hs] at hstop
  exact ⟨_, hstop, q, hmore⟩

theorem labels_tight (ht : Ends t) {read ls : List String} (h : Tight t c c')
    (hwhole : ∀ label ∈ ls, Whole label) (hfold : Unfolded c.rest) (hd : d.rest ≠ [])
    (hlabels : c.labels n read = some (ls, d)) (hN : c'.rest.length < N) :
    ∃ d', c'.labels N read = some (ls, d') ∧ Tight t d d' := by
  induction n generalizing read c c' N with
  | zero => cases hlabels
  | succ n ih =>
    obtain ⟨N, rfl⟩ : ∃ k, N = k + 1 := ⟨N - 1, by omega⟩
    cases labels_succ_iff.1 hlabels with
    | stop hbrace =>
      obtain ⟨rest, hrest⟩ := List.head?_eq_some_iff.1 hbrace
      obtain ⟨q, htight⟩ := h
      rw [hrest] at htight
      obtain ⟨s', hs, -⟩ := htight.rigid_tight (by decide)
      refine ⟨c', labels_succ_iff.2 (.stop (by rw [hs]; rfl)), q, ?_⟩
      rwa [hrest]
    | @more c₁ c₂ _ label _ hlabel hskip hmore =>
      have hmem : label ∈ ls := by
        obtain ⟨labels, -, -, rfl, -⟩ := labelRow_of_labels hmore
        simp
      have hlabel' : ∃ c₁', (c'.quotedLabel = some (label, c₁') ∨ c'.name = some (label, c₁')) ∧
          Tight t c₁ c₁' := by
        rcases hlabel with hlabel | hname
        · obtain ⟨c₁', hlabel', hc₁⟩ := quotedLabel_tight h (hwhole label hmem) hfold hlabel
          exact ⟨c₁', .inl hlabel', hc₁⟩
        · obtain ⟨c₁', hname', hc₁⟩ := name_tight ht h hname
          exact ⟨c₁', .inr hname', hc₁⟩
      obtain ⟨c₁', hlabel', hc₁⟩ := hlabel'
      have hne : c₂.rest ≠ [] := fun hnil =>
        hd (List.eq_nil_of_length_eq_zero (by have := (reaches_labels hmore).length_le; rw [hnil] at this; simpa using this))
      obtain ⟨c₂', hskip', hc₂, -⟩ := skip_near ht hc₁.near hskip hne
      have hlt := (hlabel'.elim closes_quotedLabel closes_name).length_lt
      have hle := length_le_of_skip hskip'
      have hreach := (hlabel.elim closes_quotedLabel closes_name).reaches.trans (reaches_skip hskip)
      obtain ⟨d', hmore', hend⟩ := ih (N := N) hc₂ (hfold.after hreach) hmore (by omega)
      exact ⟨d', labels_succ_iff.2 (.more hlabel' hskip' hmore'), hend⟩

/-! ## Ends of structures -/

theorem ne_nil_of_reaches (h : Reaches c d) (hd : d.rest ≠ []) : c.rest ≠ [] := by
  intro hnil
  have hle := h.length_le
  rw [hnil] at hle
  exact hd (List.eq_nil_of_length_eq_zero (Nat.le_zero.1 hle))

/-- A bound on the length of the second text is no zero if something is left of the first one. -/
theorem exists_succ_of_tight (h : Tight t c c') (hc : c.rest ≠ []) (hN : 4 * c'.rest.length ≤ N) :
    ∃ k, N = k + 1 := by
  obtain ⟨x, rest, hrest⟩ := List.exists_cons_of_ne_nil hc
  obtain ⟨p, h⟩ := h
  rw [hrest] at h
  have hlength := List.length_pos_iff.2 h.ne_nil
  exact ⟨N - 1, by omega⟩

theorem endOfLine_near (ht : Ends t) (h : Near t c c') (hend : c.endOfLine = some d)
    (hd : d.rest ≠ []) : ∃ d', c'.endOfLine = some d' ∧ Near t d d' := by
  obtain ⟨c₁, hskip, hend⟩ := Option.bind_eq_some_iff.1 hend
  split at hend
  · rename_i hnil
    obtain rfl := Option.some.inj hend
    exact absurd hnil hd
  · obtain ⟨c₁', hskip', hc₁, hhead⟩ := skip_near ht h hskip (ne_nil_of_lineBreak hend)
    obtain ⟨d', hbreak', hnear⟩ := lineBreak_near hc₁ hend hd
    refine ⟨d', ?_, hnear⟩
    unfold endOfLine
    rw [skipInline, hskip', Option.bind_eq_bind, Option.bind_some]
    split
    · rename_i hnil
      exact absurd hnil (ne_nil_of_lineBreak hbreak')
    · exact hbreak'

theorem not_lone_of_isNameStart {x : Char} {rest : List Char} (hx : isNameStart x = true) :
    ¬Lone (x :: rest) := by
  refine not_lone_of_cons fun hmem => ?_
  simp only [List.mem_cons, List.not_mem_nil, or_false] at hmem
  rcases hmem with rfl | rfl | rfl | rfl | rfl | rfl | rfl | rfl | rfl | rfl
  all_goals exact absurd hx (by decide)

/-- No operation goes on behind a structure if another one or a brace comes next. -/
theorem concluded_of_items {read all : List Item} {c₁ : Cursor} (hend : c.endOfLine = some c₁)
    (h : items n read c₁ = some (all, d)) (hd : d.rest ≠ []) : Concluded c := by
  cases n with
  | zero => simp [items] at h
  | succ n =>
    cases items_succ_iff.1 h with
    | stop hskip hstop =>
      obtain ⟨rest, hrest⟩ := List.head?_eq_some_iff.1 (hstop.resolve_left hd)
      refine concluded_of_skipLines ((endOfLine_again hend).trans hskip) ?_
      rw [hrest]
      exact not_lone_of_cons (by decide)
    | more hskip hitem =>
      obtain ⟨x, rest, hrest, hx⟩ := isNameStart_of_item hitem
      refine concluded_of_skipLines ((endOfLine_again hend).trans hskip) ?_
      rw [hrest]
      exact not_lone_of_isNameStart hx

/-! ## Structures -/

/-- The labels of all blocks among some structures are whole. -/
def WholeLabels (its : List Item) : Prop :=
  ∀ b, Inside (.block b) its → ∀ label ∈ b.labels, Whole label

/-- An attribute stands in the other layout, too. -/
theorem attr_respaced (ht : Ends t) {a : Attribute} (h : ItemStep n c (.attr a) d)
    (hc : Tight t c c') (hd : Concluded d) (hN : 4 * c'.rest.length ≤ N + 1) :
    ∃ a' d', ItemStep N c' (.attr a') d' ∧ a'.key = a.key ∧ Tight t d d' := by
  cases h with
  | attr hname h₂ hsign h₄ hvalue =>
    have hderives := (sound _).expr hvalue
    obtain ⟨c₁', hname', hc₁⟩ := name_tight ht hc hname
    obtain ⟨c₂', h₂', hc₂, hhead⟩ := skip_near ht hc₁.near h₂ (ne_nil_of_expect hsign (by simp))
    obtain ⟨c₃', hsign', hc₃⟩ := expect_sign hc₂ hhead hsign
    obtain ⟨c₄', h₄', hc₄, -⟩ := skip_near ht hc₃ h₄ (ne_nil_of_closes (closes_expr hvalue))
    obtain ⟨d', hderives', hend⟩ := hderives.respaced ht c₄' hc₄ hd
    have hkey := (closes_name hname').length_lt
    have hequals := (closes_bracket hsign' (by decide)).length_lt
    have hle₂ := length_le_of_skip h₂'
    have hle₄ := length_le_of_skip h₄'
    obtain ⟨value', hvalue'⟩ := hderives'.found N (by dsimp only [Phrase.rank]; omega)
    exact ⟨_, d', .attr hname' h₂' hsign' h₄' hvalue', rfl, hend⟩

/-- What is read of a body in a text is read of it in the other layout, with the same keys. -/
structure RespacesBody (t : List Char) (n : Nat) : Prop where
  items : ∀ {read read' all c c' d N}, Near t c c' → Unfolded c.rest → WholeLabels all →
    itemKeys read' = itemKeys read → d.rest ≠ [] → items n read c = some (all, d) →
    4 * c'.rest.length < N → ∃ all' d', items N read' c' = some (all', d') ∧
      itemKeys all' = itemKeys all ∧ Tight t d d'
  item : ∀ {it c c' d N}, Tight t c c' → Unfolded c.rest → WholeLabels [it] → Concluded d →
    item n c = some (it, d) → 4 * c'.rest.length ≤ N →
    ∃ it' d', item N c' = some (it', d') ∧ itemKeys [it'] = itemKeys [it] ∧ Tight t d d'
  blockBody : ∀ {body c c' d N}, Tight t c c' → Unfolded c.rest → WholeLabels body →
    blockBody n c = some (body, d) → 4 * c'.rest.length ≤ N →
    ∃ body' d', blockBody N c' = some (body', d') ∧ itemKeys body' = itemKeys body ∧ Tight t d d'

namespace RespacesBody

variable (ih : RespacesBody t n) (ht : Ends t)

include ih ht

/-- A block stands in the other layout, too. -/
theorem block {b : Block} (h : ItemStep n c (.block b) d) (hc : Tight t c c')
    (hfold : Unfolded c.rest) (hwhole : WholeLabels [.block b]) (hN : 4 * c'.rest.length ≤ N + 1) :
    ∃ b' d', ItemStep N c' (.block b') d' ∧ b'.kind = b.kind ∧ b'.labels = b.labels ∧
      itemKeys b'.body = itemKeys b.body ∧ Tight t d d' := by
  cases h with
  | block hname h₂ hne hlabels hbody =>
    have hclose := ((places n).blockBody hbody).1
    have hne₃ := ne_nil_of_closes hclose
    have hreach₂ := (closes_name hname).reaches.trans (reaches_skip h₂)
    have hreach₃ := hreach₂.trans (reaches_labels hlabels)
    obtain ⟨c₁', hname', hc₁⟩ := name_tight ht hc hname
    obtain ⟨c₂', h₂', hc₂, hhead⟩ := skip_near ht hc₁.near h₂
      (ne_nil_of_reaches (reaches_labels hlabels) hne₃)
    have hkey := (closes_name hname').length_lt
    have hle₂ := length_le_of_skip h₂'
    obtain ⟨c₃', hlabels', hc₃⟩ := labels_tight (N := N) ht hc₂
      (hwhole _ (.here (List.mem_singleton_self _))) (hfold.after hreach₂) hne₃ hlabels (by omega)
    have hle₃ := (reaches_labels hlabels').length_le
    obtain ⟨body', d', hbody', hkeys, hend⟩ := ih.blockBody (N := N) hc₃ (hfold.after hreach₃)
      (fun b hb => hwhole b (.nested (List.mem_singleton_self _) hb)) hbody (by omega)
    refine ⟨_, d', .block hname' h₂' ?_ hlabels' hbody', rfl, rfl, hkeys, hend⟩
    rw [hhead]
    exact hne

theorem item_succ {it : Item} (hc : Tight t c c') (hfold : Unfolded c.rest)
    (hwhole : WholeLabels [it]) (hd : Concluded d) (h : Hcl.item (n + 1) c = some (it, d))
    (hN : 4 * c'.rest.length ≤ N) :
    ∃ it' d', Hcl.item N c' = some (it', d') ∧ itemKeys [it'] = itemKeys [it] ∧ Tight t d d' := by
  obtain ⟨N, rfl⟩ := exists_succ_of_tight hc (ne_nil_of_closes (closes_item h)) hN
  have hstep := item_succ_iff.1 h
  cases it with
  | attr a =>
    obtain ⟨a', d', hstep', hkey, hend⟩ := attr_respaced ht hstep hc hd hN
    exact ⟨.attr a', d', item_succ_iff.2 hstep', congrArg (fun key => [key]) hkey, hend⟩
  | block b =>
    obtain ⟨b', d', hstep', -, -, -, hend⟩ := ih.block ht hstep hc hfold hwhole hN
    exact ⟨.block b', d', item_succ_iff.2 hstep', rfl, hend⟩

theorem items_succ {read read' all : List Item} (hc : Near t c c') (hfold : Unfolded c.rest)
    (hwhole : WholeLabels all) (hkeys : itemKeys read' = itemKeys read) (hd : d.rest ≠ [])
    (h : Hcl.items (n + 1) read c = some (all, d)) (hN : 4 * c'.rest.length < N) :
    ∃ all' d', Hcl.items N read' c' = some (all', d') ∧ itemKeys all' = itemKeys all ∧
      Tight t d d' := by
  obtain ⟨N, rfl⟩ : ∃ k, N = k + 1 := ⟨N - 1, by omega⟩
  cases items_succ_iff.1 h with
  | stop hskip hstop =>
    obtain ⟨d', hskip', hend, hhead⟩ := skip_near ht hc hskip hd
    refine ⟨read', d', items_succ_iff.2 (.stop hskip' (.inr ?_)), hkeys, hend⟩
    rw [hhead]
    exact hstop.resolve_left hd
  | @more c₁ c₂ c₃ _ it _ hskip hitem hfresh hend hmore =>
    have hit : WholeLabels [it] := by
      obtain ⟨new, rfl, -⟩ := (places n).items hmore
      exact fun b hb => hwhole b (hb.of_subset (by simp))
    have hne₃ := ne_nil_of_reaches (reaches_items hmore) hd
    have hreach₁ := reaches_skip hskip
    have hreach₃ := hreach₁.trans ((closes_item hitem).reaches.trans (endOfLine_spec hend).1)
    obtain ⟨c₁', hskip', hc₁, -⟩ := skip_near ht hc hskip (ne_nil_of_closes (closes_item hitem))
    have hle₁ := length_le_of_skip hskip'
    obtain ⟨it', c₂', hitem', hkeys', hc₂⟩ := ih.item (N := N) hc₁ (hfold.after hreach₁) hit
      (concluded_of_items hend hmore hd) hitem (by omega)
    obtain ⟨c₃', hend', hc₃⟩ := endOfLine_near ht hc₂.near hend hne₃
    have hlt := (closes_item hitem').length_lt
    have hle₃ := (endOfLine_spec hend').1.length_le
    have hread : itemKeys (read' ++ [it']) = itemKeys (read ++ [it]) := by
      rw [itemKeys_append, itemKeys_append, hkeys, hkeys']
    obtain ⟨all', d', hmore', hall, hd'⟩ := ih.items (N := N) hc₃ (hfold.after hreach₃) hwhole hread
      hd hmore (by omega)
    refine ⟨all', d', items_succ_iff.2 (.more hskip' hitem' ?_ hend' hmore'), hall, hd'⟩
    intro key hkey
    rw [hkeys'] at hkey
    rw [hkeys]
    exact hfresh key hkey

theorem blockBody_succ {body : List Item} (hc : Tight t c c') (hfold : Unfolded c.rest)
    (hwhole : WholeLabels body) (h : Hcl.blockBody (n + 1) c = some (body, d))
    (hN : 4 * c'.rest.length ≤ N) : ∃ body' d', Hcl.blockBody N c' = some (body', d') ∧
      itemKeys body' = itemKeys body ∧ Tight t d d' := by
  have hclose := ((places (n + 1)).blockBody h).1
  obtain ⟨N, rfl⟩ := exists_succ_of_tight hc (ne_nil_of_closes hclose) hN
  simp only [blockBody_succ_iff]
  cases blockBody_succ_iff.1 h with
  | empty hopen h₂ hclose =>
    obtain ⟨c₁', hopen', hc₁⟩ := expect_tight hc (by decide) hopen
    obtain ⟨c₂', d', h₂', hclose', hend⟩ := bracket_near ht hc₁.near h₂ hclose (by decide)
    exact ⟨[], d', .empty hopen' h₂' hclose', rfl, hend⟩
  | @lines c₁ c₂ c₃ c₄ _ _ hopen h₂ hbreak hitems hclose =>
    have hne₄ := ne_nil_of_expect hclose (by simp)
    have hne₃ := ne_nil_of_reaches (reaches_items hitems) hne₄
    have hreach := (reaches_expect hopen).trans ((reaches_skip h₂).trans (reaches_lineBreak hbreak))
    obtain ⟨c₁', hopen', hc₁⟩ := expect_tight hc (by decide) hopen
    obtain ⟨c₂', h₂', hc₂, -⟩ := skip_near ht hc₁.near h₂ (ne_nil_of_lineBreak hbreak)
    obtain ⟨c₃', hbreak', hc₃⟩ := lineBreak_near hc₂ hbreak hne₃
    have hlt := (closes_bracket hopen' (by decide)).length_lt
    have hle₂ := length_le_of_skip h₂'
    have hle₃ := (reaches_lineBreak hbreak').length_le
    obtain ⟨body', c₄', hitems', hkeys, hc₄⟩ := ih.items (N := N) hc₃ (hfold.after hreach) hwhole
      rfl hne₄ hitems (by omega)
    obtain ⟨d', hclose', hend⟩ := expect_tight hc₄ (by decide) hclose
    exact ⟨body', d', .lines hopen' h₂' hbreak' hitems' hclose', hkeys, hend⟩
  | @inline c₁ c₂ c₃ c₄ _ a hopen h₂ hitem h₄ hclose =>
    have hreach := (reaches_expect hopen).trans (reaches_skip h₂)
    have hconcluded : Concluded c₃ := concluded_of_token h₄ (expect_eq_some.1 hclose).1 (by decide)
      (not_lone_of_cons (by decide))
    obtain ⟨c₁', hopen', hc₁⟩ := expect_tight hc (by decide) hopen
    obtain ⟨c₂', h₂', hc₂, -⟩ := skip_near ht hc₁.near h₂
      (ne_nil_of_closes (stands_attribute hitem).closes)
    have hlt := (closes_bracket hopen' (by decide)).length_lt
    have hle₂ := length_le_of_skip h₂'
    obtain ⟨a', c₃', hitem', hkey, hc₃⟩ := attr_respaced (N := N) ht hitem hc₂ hconcluded (by omega)
    obtain ⟨c₄', d', h₄', hclose', hend⟩ := bracket_near ht hc₃.near h₄ hclose (by decide)
    exact ⟨[.attr a'], d', .inline hopen' h₂' hitem' h₄' hclose',
      congrArg (fun key => [key]) hkey, hend⟩

end RespacesBody

/-- Every reader of bodies reads the same in another layout. -/
theorem respaces_body (ht : Ends t) (n : Nat) : RespacesBody t n := by
  induction n with
  | zero =>
    constructor
    all_goals
      intros
      rename_i h _
      simp only [items, item, blockBody, reduceCtorEq] at h
  | succ n ih => exact ⟨ih.items_succ ht, ih.item_succ ht, ih.blockBody_succ ht⟩

end TerraLint.Hcl
