import TerraLint.Format.Scan
import TerraLint.Proofs.Hcl.Body
import TerraLint.Proofs.Hcl.Ending

/-!
# Texts with other blanks at their lines

Two texts with the same lines, but for the blanks at the start and at the end of each line and around
the sign of an assignment. Where a reader crosses some of the first text it crosses the same tokens of
the second one. The second text may go on behind the first.

* `Respaced`: the text behind a character, in both forms.
* `Respaced.rigid`, `Respaced.rigid_right`: a character that layout leaves where it is.
* `trivia_near`: blanks and comments are crossed in both texts.
-/

namespace TerraLint.Hcl

open Text Cursor

/-- Blanks within a line. -/
def Padding (w : List Char) : Prop := ∀ c ∈ w, isGap false c = true

/-- Characters with which the key of an assignment may end. -/
def endsKey (c : Char) : Bool := Format.Scan.isWordRest c || c == '"'

/-- A character that layout leaves where it is: no blank and no sign. -/
def isRigid (c : Char) : Bool := !(c == ' ' || c == '\t' || c == '\n' || c == '\r' || c == '=')

/-- Whether a backslash stands behind the blanks at the start of a line. -/
def escapes (cs : List Char) : Bool := (cs.dropWhile (isGap false)).head? == some '\\'

/-- Here no blank that layout puts in or takes away changes what is read: `for` would become the start
of a comprehension before one, and a heredoc that its next line closes depends on all that follows. -/
structure Calm (cs : List Char) : Prop where
  forSign : ¬['f', 'o', 'r', '='] <+: cs
  brief : brief? cs = none

/-- The rest of a text and of the same text in another layout, behind a character. Behind none blanks
may come or go: there a line or a value starts. `t` follows the second text only. -/
inductive Respaced (t : List Char) : Option Char → List Char → List Char → Prop
  | done {p : Char} : Respaced t (some p) [] t
  | char {p c : Char} {u s : List Char} (hc : c ≠ '\n' ∧ c ≠ '\r') (hcalm : Calm (c :: u))
    (h : Respaced t (some c) u s) : Respaced t (some p) (c :: u) (c :: s)
  /-- The end of a line. Inside quotes a backslash before it takes it away, and then no other escape
  may come next. -/
  | line {p : Char} {w u s : List Char} (hp : p = '\\' → w = [] ∧ escapes u = false)
    (hw : Padding w) (h : Respaced t none u s) : Respaced t (some p) (w ++ '\n' :: u) ('\n' :: s)
  /-- The sign of an assignment. -/
  | sign {p : Char} {w w' u s : List Char} (hp : endsKey p = true) (hw : Padding w)
    (hw' : Padding w') (hu : u.head? ≠ some '=' ∧ u.head? ≠ some '>')
    (hs : s.head? ≠ some '=' ∧ s.head? ≠ some '>') (h : Respaced t none u s) :
    Respaced t (some p) (w ++ '=' :: u) (w' ++ '=' :: s)
  | free {v v' u s : List Char} (hv : Padding v) (hv' : Padding v') (h : Respaced t (some ' ') u s) :
    Respaced t none (v ++ u) (v' ++ s)

/-- What stands behind a phrase, with or without the blanks before it: a line end, a comment up to one,
a closing brace, or what comes in the next line. -/
def Outside (cs : List Char) : Prop :=
  ['/', '/'] <+: cs ∨ ∀ q ∈ cs.head?, q ∈ ['\n', '\r', '#', '}'] ∨ isNameStart q = true

/-- What stands behind a phrase does not go on with it, whether it ends there or in a comment. -/
structure Ends (t : List Char) : Prop where
  head : ∀ q ∈ t.head?, isRigid q = false ∧ q ≠ '='
  word : ∀ q ∈ (t.dropWhile (isGap false)).head?, isNameStart q = false
  skips : ∀ m byte, ∃ d, blanks m byte t = some d ∧ Outside d.rest
  comment : ∀ byte, ∃ d, toLineEnd byte t = some d ∧ Outside d.rest

variable {t cs u s w : List Char} {o : Option Char} {p c : Char}

/-! ## Blanks -/

theorem padding_nil : Padding [] := by simp [Padding]

theorem Padding.of_cons (h : Padding (c :: w)) : isGap false c = true ∧ Padding w :=
  List.forall_mem_cons.1 h

theorem Padding.eq_or (h : Padding w) (hc : c ∈ w) : c = ' ' ∨ c = '\t' := by
  have hgap := h c hc
  simpa [isGap] using hgap

/-- Padding before a character that is no blank is empty if it stands at the start of a text. -/
theorem Padding.eq_nil (h : Padding w) {d : Char} {v : List Char} (heq : c :: u = w ++ d :: v)
    (hc : isGap false c = false) : w = [] ∧ c = d ∧ u = v := by
  cases w with
  | nil => exact ⟨rfl, List.cons.inj heq⟩
  | cons x w =>
    obtain ⟨rfl, -⟩ := List.cons.inj heq
    rw [h.of_cons.1] at hc
    cases hc

/-- Blanks before a character that is neither a blank nor a backslash. -/
theorem Padding.escapes (h : Padding w) {d : Char} {v : List Char}
    (hd : isGap false d = false ∧ d ≠ '\\') : escapes (w ++ d :: v) = false := by
  have hgap : ¬isGap false d = true := by simp [hd.1]
  rw [Hcl.escapes, List.dropWhile_append_of_pos h, List.dropWhile_cons_of_neg hgap]
  simpa using hd.2

theorem isGap_of_isRigid (h : isRigid c = true) (m : Bool) : isGap m c = false := by
  simp only [isRigid, Bool.not_eq_true', Bool.or_eq_false_iff] at h
  simp [isGap, h.1.1.1.1, h.1.1.1.2, h.1.1.2]

theorem ne_of_isRigid (h : isRigid c = true) : c ≠ '\n' ∧ c ≠ '\r' ∧ c ≠ '=' := by
  simp only [isRigid, Bool.not_eq_true', Bool.or_eq_false_iff, beq_eq_false_iff_ne] at h
  exact ⟨h.1.1.2, h.1.2, h.2⟩

theorem isRigid_of_isNameRest (h : isNameRest c = true) : isRigid c = true := by
  have hblank := not_isBlank_of_isNameRest h
  by_contra hne
  simp only [isRigid, Bool.not_eq_true', Bool.not_eq_false, Bool.or_eq_true, beq_iff_eq] at hne
  rcases hne with (((rfl | rfl) | rfl) | rfl) | rfl
  all_goals revert h hblank; decide

theorem isRigid_of_isDigit (h : c.isDigit = true) : isRigid c = true := by
  by_contra hne
  simp only [isRigid, Bool.not_eq_true', Bool.not_eq_false, Bool.or_eq_true, beq_iff_eq] at hne
  rcases hne with (((rfl | rfl) | rfl) | rfl) | rfl
  all_goals exact absurd h (by decide)

/-! ## One character -/

namespace Respaced

/-- Nothing is left of the first text. -/
theorem nil (h : Respaced t o [] s) : ∃ v, s = v ++ t ∧ Padding v ∧ (o ≠ none → v = []) := by
  have hsome : ∀ {p s}, Respaced t (some p) [] s → s = t := by
    intro p s h
    generalize hcs : ([] : List Char) = cs at h
    cases h with
    | done => rfl
    | char => cases hcs
    | line => simp at hcs
    | sign => simp at hcs
  generalize hcs : ([] : List Char) = cs at h
  cases h with
  | done => exact ⟨[], rfl, padding_nil, fun _ => rfl⟩
  | char => cases hcs
  | line => simp at hcs
  | sign => simp at hcs
  | @free v v' _ _ hv hv' h =>
    obtain ⟨rfl, rfl⟩ := List.append_eq_nil_iff.1 hcs.symm
    exact ⟨v', by rw [hsome h], hv', fun hne => absurd rfl hne⟩

/-- A character of the first text that is no blank and no sign stands in the second one, too. -/
theorem rigid_tight (hc : isRigid c = true) (h : Respaced t (some p) (c :: u) s) :
    ∃ s', s = c :: s' ∧ Calm (c :: u) ∧ Respaced t (some c) u s' := by
  have hgap := isGap_of_isRigid hc false
  obtain ⟨hn, -, hsign⟩ := ne_of_isRigid hc
  generalize hcs : c :: u = cs at h
  cases h with
  | done => cases hcs
  | char _ hcalm h =>
    obtain ⟨rfl, rfl⟩ := List.cons.inj hcs
    exact ⟨_, rfl, hcalm, h⟩
  | line _ hw h => exact absurd (hw.eq_nil hcs hgap).2.1 hn
  | sign _ hw _ _ _ h => exact absurd (hw.eq_nil hcs hgap).2.1 hsign

theorem rigid (hc : isRigid c = true) (h : Respaced t o (c :: u) s) :
    ∃ v s', s = v ++ c :: s' ∧ Padding v ∧ (o ≠ none → v = []) ∧ Calm (c :: u) ∧
      Respaced t (some c) u s' := by
  cases o with
  | some p =>
    obtain ⟨s', rfl, hcalm, h⟩ := h.rigid_tight hc
    exact ⟨[], s', rfl, padding_nil, fun _ => rfl, hcalm, h⟩
  | none =>
    generalize hcs : c :: u = cs at h
    cases h with
    | @free v v' _ _ hv hv' h =>
      cases v with
      | nil =>
        obtain rfl := hcs
        obtain ⟨s', rfl, hcalm, h⟩ := h.rigid_tight hc
        exact ⟨v', s', rfl, hv', fun hne => absurd rfl hne, hcalm, h⟩
      | cons x v =>
        obtain ⟨rfl, -⟩ := List.cons.inj hcs
        exact absurd hv.of_cons.1 (by simp [isGap_of_isRigid hc])

/-- Such a character of the second text stands in the first one, unless that ends before. -/
theorem rigid_right (ht : Ends t) (hc : isRigid c = true) (h : Respaced t (some p) u (c :: s)) :
    ∃ u', u = c :: u' ∧ Calm (c :: u') ∧ Respaced t (some c) u' s := by
  have hgap := isGap_of_isRigid hc false
  obtain ⟨hn, -, hsign⟩ := ne_of_isRigid hc
  generalize hcs : c :: s = cs at h
  cases h with
  | done =>
    have hrigid := (ht.head c (by rw [← hcs]; rfl)).1
    rw [hc] at hrigid
    cases hrigid
  | char _ hcalm h =>
    obtain ⟨rfl, rfl⟩ := List.cons.inj hcs
    exact ⟨_, rfl, hcalm, h⟩
  | line _ _ h => exact absurd (List.cons.inj hcs).1 hn
  | sign _ _ hw' _ _ h => exact absurd (hw'.eq_nil hcs hgap).2.1 hsign

/-- A line end of the first text is one of the second. -/
theorem newline (h : Respaced t o ('\n' :: u) s) :
    ∃ v s', s = v ++ '\n' :: s' ∧ Padding v ∧ (o ≠ none → v = []) ∧ Respaced t none u s' := by
  have hsome : ∀ {p s}, Respaced t (some p) ('\n' :: u) s →
      ∃ s', s = '\n' :: s' ∧ Respaced t none u s' := by
    intro p s h
    generalize hcs : '\n' :: u = cs at h
    cases h with
    | done => cases hcs
    | char hc _ h => exact absurd (List.cons.inj hcs).1.symm hc.1
    | line _ hw h =>
      obtain ⟨-, -, rfl⟩ := hw.eq_nil hcs rfl
      exact ⟨_, rfl, h⟩
    | sign _ hw _ _ _ h => cases (hw.eq_nil hcs rfl).2.1
  cases o with
  | some p =>
    obtain ⟨s', rfl, hrest⟩ := hsome h
    exact ⟨[], s', rfl, padding_nil, fun _ => rfl, hrest⟩
  | none =>
    generalize hcs : '\n' :: u = cs at h
    cases h with
    | @free v v' _ _ hv hv' h =>
      cases v with
      | nil =>
        obtain rfl := hcs
        obtain ⟨s', rfl, hrest⟩ := hsome h
        exact ⟨v', s', rfl, hv', fun hne => absurd rfl hne, hrest⟩
      | cons x v =>
        obtain ⟨rfl, -⟩ := List.cons.inj hcs
        exact absurd hv.of_cons.1 (by decide)

theorem not_carriageReturn (h : Respaced t o ('\r' :: u) s) : False := by
  have hsome : ∀ {p s}, ¬Respaced t (some p) ('\r' :: u) s := by
    intro p s h
    generalize hcs : '\r' :: u = cs at h
    cases h with
    | done => cases hcs
    | char hc _ h => exact absurd (List.cons.inj hcs).1.symm hc.2
    | line _ hw h => cases (hw.eq_nil hcs rfl).2.1
    | sign _ hw _ _ _ h => cases (hw.eq_nil hcs rfl).2.1
  cases o with
  | some p => exact hsome h
  | none =>
    generalize hcs : '\r' :: u = cs at h
    cases h with
    | @free v v' _ _ hv hv' h =>
      cases v with
      | nil =>
        obtain rfl := hcs
        exact hsome h
      | cons x v =>
        obtain ⟨rfl, -⟩ := List.cons.inj hcs
        exact absurd hv.of_cons.1 (by decide)

/-- An equality sign of the first text is one of the second. -/
theorem equals (h : Respaced t o ('=' :: u) s) :
    ∃ v s' q, s = v ++ '=' :: s' ∧ Padding v ∧ Respaced t (some q) ('=' :: u) ('=' :: s') ∧
      ∃ o', Respaced t o' u s' := by
  have hsome : ∀ {p s}, Respaced t (some p) ('=' :: u) s →
      ∃ v s', s = v ++ '=' :: s' ∧ Padding v ∧ Respaced t (some p) ('=' :: u) ('=' :: s') ∧
        ∃ o', Respaced t o' u s' := by
    intro p s h
    generalize hcs : '=' :: u = cs at h
    cases h with
    | done => cases hcs
    | char hc hcalm h =>
      obtain ⟨rfl, rfl⟩ := List.cons.inj hcs
      exact ⟨[], _, rfl, padding_nil, .char hc hcalm h, _, h⟩
    | line _ hw h => cases (hw.eq_nil hcs rfl).2.1
    | @sign _ w w' _ _ hp hw hw' hu hs h =>
      obtain ⟨rfl, -, rfl⟩ := hw.eq_nil hcs rfl
      exact ⟨w', _, rfl, hw', .sign hp padding_nil padding_nil hu hs h, _, h⟩
  cases o with
  | some p =>
    obtain ⟨v, s', rfl, hv, h, hrest⟩ := hsome h
    exact ⟨v, s', p, rfl, hv, h, hrest⟩
  | none =>
    generalize hcs : '=' :: u = cs at h
    cases h with
    | @free v v' _ _ hv hv' h =>
      cases v with
      | nil =>
        obtain rfl := hcs
        obtain ⟨v₂, s', rfl, hv₂, h, hrest⟩ := hsome h
        exact ⟨v' ++ v₂, s', ' ', by simp, List.forall_mem_append.2 ⟨hv', hv₂⟩, h, hrest⟩
      | cons x v =>
        obtain ⟨rfl, -⟩ := List.cons.inj hcs
        exact absurd hv.of_cons.1 (by decide)

/-- An equality sign that is no sign of an assignment. -/
theorem equals_tight (hp : endsKey p = false ∨ u.head? = some '=' ∨ u.head? = some '>')
    (h : Respaced t (some p) ('=' :: u) s) :
    ∃ s', s = '=' :: s' ∧ Respaced t (some '=') u s' := by
  generalize hcs : '=' :: u = cs at h
  cases h with
  | done => cases hcs
  | char _ _ h =>
    obtain ⟨rfl, rfl⟩ := List.cons.inj hcs
    exact ⟨_, rfl, h⟩
  | line _ hw h => cases (hw.eq_nil hcs rfl).2.1
  | sign hp' hw hw' hu hs h =>
    obtain ⟨rfl, -, rfl⟩ := hw.eq_nil hcs rfl
    rcases hp with hp | hhead | hhead
    · rw [hp] at hp'
      cases hp'
    · exact absurd hhead hu.1
    · exact absurd hhead hu.2

theorem equals_right (ht : Ends t)
    (hp : endsKey p = false ∨ s.head? = some '=' ∨ s.head? = some '>')
    (h : Respaced t (some p) u ('=' :: s)) : ∃ u', u = '=' :: u' ∧ Respaced t (some '=') u' s := by
  generalize hcs : '=' :: s = cs at h
  cases h with
  | done => exact absurd rfl (ht.head '=' (by rw [← hcs]; rfl)).2
  | char _ _ h =>
    obtain ⟨rfl, rfl⟩ := List.cons.inj hcs
    exact ⟨_, rfl, h⟩
  | line _ _ h => cases (List.cons.inj hcs).1
  | sign hp' hw hw' hu hs h =>
    obtain ⟨rfl, -, rfl⟩ := hw'.eq_nil hcs rfl
    rcases hp with hp | hhead | hhead
    · rw [hp] at hp'
      cases hp'
    · exact absurd hhead hs.1
    · exact absurd hhead hs.2

/-- A character that is no blank stands in both texts, behind blanks in the second one. -/
theorem token (hc : isGap false c = false) (h : Respaced t o (c :: u) s) :
    ∃ v s' q, s = v ++ c :: s' ∧ Padding v ∧ Respaced t (some q) (c :: u) (c :: s') := by
  by_cases hrigid : isRigid c = true
  · obtain ⟨v, s', rfl, hv, -, hcalm, hrest⟩ := h.rigid hrigid
    obtain ⟨hn, hr, -⟩ := ne_of_isRigid hrigid
    exact ⟨v, s', ' ', rfl, hv, .char ⟨hn, hr⟩ hcalm hrest⟩
  obtain rfl | rfl | rfl : c = '\n' ∨ c = '\r' ∨ c = '=' := by
    simp only [isGap, Bool.false_and, Bool.or_false, Bool.or_eq_false_iff,
      beq_eq_false_iff_ne] at hc
    simp only [isRigid, Bool.not_eq_true', Bool.not_eq_false, Bool.or_eq_true, beq_iff_eq] at hrigid
    tauto
  · obtain ⟨v, s', rfl, hv, -, hrest⟩ := h.newline
    exact ⟨v, s', ' ', rfl, hv, .line (fun hslash => absurd hslash (by decide)) padding_nil hrest⟩
  · exact h.not_carriageReturn.elim
  · obtain ⟨v, s', q, rfl, hv, hrest, -⟩ := h.equals
    exact ⟨v, s', q, rfl, hv, hrest⟩

/-- The character behind a backslash stands in the second text, too, and if it is a line end then no
other escape comes next. -/
theorem escaped (h : Respaced t (some '\\') (c :: u) s) :
    ∃ s' o', s = c :: s' ∧ Respaced t o' u s' ∧ (o' = none → escapes u = false) := by
  generalize hcs : c :: u = cs at h
  cases h with
  | done => cases hcs
  | char _ _ h =>
    obtain ⟨rfl, rfl⟩ := List.cons.inj hcs
    exact ⟨_, _, rfl, h, fun hnone => by cases hnone⟩
  | line hp _ h =>
    obtain ⟨rfl, hnext⟩ := hp rfl
    obtain ⟨rfl, rfl⟩ := List.cons.inj hcs
    exact ⟨_, _, rfl, h, fun _ => hnext⟩
  | sign hp => exact absurd hp (by decide)

theorem ne_nil (h : Respaced t (some p) (c :: u) s) : s ≠ [] := by
  generalize hcs : c :: u = cs at h
  cases h with
  | done => cases hcs
  | char => exact List.cons_ne_nil _ _
  | line => exact List.cons_ne_nil _ _
  | sign => simp

/-- A blank of the first text stands in the second one, too, or layout has taken it away. Within a
line that is done before a line end or a sign only. -/
theorem blank (hc : isGap false c = true) (h : Respaced t o (c :: u) s) :
    ∃ v y s' o', s = v ++ (y ++ s') ∧ Padding v ∧
      (y = [c] ∨ y = [] ∧ (o = none ∨ escapes u = false)) ∧ Respaced t o' u s' := by
  have hsome : ∀ {p s}, Respaced t (some p) (c :: u) s →
      ∃ y s' o', s = y ++ s' ∧ (y = [c] ∨ y = [] ∧ escapes u = false) ∧ Respaced t o' u s' := by
    intro p s h
    have hn : c ≠ '\n' ∧ c ≠ '=' := by
      constructor
      all_goals
        rintro rfl
        cases hc
    generalize hcs : c :: u = cs at h
    cases h with
    | done => cases hcs
    | char _ _ h =>
      obtain ⟨rfl, rfl⟩ := List.cons.inj hcs
      exact ⟨[_], _, _, rfl, .inl rfl, h⟩
    | @line _ w _ _ hp hw hrest =>
      cases w with
      | nil => exact absurd (List.cons.inj hcs).1 hn.1
      | cons x w =>
        obtain ⟨rfl, rfl⟩ := List.cons.inj hcs
        exact ⟨[], _, _, rfl, .inr ⟨rfl, hw.of_cons.2.escapes (by decide)⟩,
          .line (fun hslash => absurd (hp hslash).1 (List.cons_ne_nil _ _)) hw.of_cons.2 hrest⟩
    | @sign _ w w' _ _ hp hw hw' hu hs hrest =>
      cases w with
      | nil => exact absurd (List.cons.inj hcs).1 hn.2
      | cons x w =>
        obtain ⟨rfl, rfl⟩ := List.cons.inj hcs
        exact ⟨[], _, _, rfl, .inr ⟨rfl, hw.of_cons.2.escapes (by decide)⟩,
          .sign hp hw.of_cons.2 hw' hu hs hrest⟩
  cases o with
  | some p =>
    obtain ⟨y, s', o', rfl, hy, h⟩ := hsome h
    exact ⟨[], y, s', o', rfl, padding_nil, hy.imp_right (·.imp_right .inr), h⟩
  | none =>
    generalize hcs : c :: u = cs at h
    cases h with
    | @free v v' _ _ hv hv' h =>
      cases v with
      | nil =>
        obtain rfl := hcs
        obtain ⟨y, s', o', rfl, hy, h⟩ := hsome h
        exact ⟨v', y, s', o', rfl, hv', hy.imp_right (·.imp_right .inr), h⟩
      | cons x v =>
        obtain ⟨rfl, rfl⟩ := List.cons.inj hcs
        exact ⟨[], [], _, none, rfl, padding_nil, .inr ⟨rfl, .inl rfl⟩,
          .free hv.of_cons.2 hv' h⟩

/-- A character of the first text is crossed with no more than blanks and that character of the second
one. -/
theorem step (h : Respaced t o (c :: u) s) : ∃ v y s' o', s = v ++ (y ++ s') ∧ Padding v ∧
    (y = [c] ∨ y = [] ∧ isGap false c = true ∧ (o = none ∨ escapes u = false)) ∧
    Respaced t o' u s' := by
  by_cases hgap : isGap false c = true
  · obtain ⟨v, y, s', o', rfl, hv, hy, h⟩ := h.blank hgap
    exact ⟨v, y, s', o', rfl, hv, hy.imp_right fun hy => ⟨hy.1, hgap, hy.2⟩, h⟩
  by_cases hrigid : isRigid c = true
  · obtain ⟨v, s', rfl, hv, -, -, h⟩ := h.rigid hrigid
    exact ⟨v, [c], s', _, rfl, hv, .inl rfl, h⟩
  obtain rfl | rfl | rfl : c = '\n' ∨ c = '\r' ∨ c = '=' := by
    simp only [isGap, Bool.false_and, Bool.or_false, Bool.or_eq_true, beq_iff_eq, not_or] at hgap
    simp only [isRigid, Bool.not_eq_true', Bool.not_eq_false, Bool.or_eq_true, beq_iff_eq] at hrigid
    tauto
  · obtain ⟨v, s', rfl, hv, -, h⟩ := h.newline
    exact ⟨v, ['\n'], s', _, rfl, hv, .inl rfl, h⟩
  · exact h.not_carriageReturn.elim
  · obtain ⟨v, s', -, rfl, hv, -, o', h⟩ := h.equals
    exact ⟨v, ['='], s', o', rfl, hv, .inl rfl, h⟩

end Respaced

/-! ## Blanks and comments -/

/-- Two cursors stand at the same place of a text in two layouts. -/
def Near (t : List Char) (c c' : Cursor) : Prop := ∃ o, Respaced t o c.rest c'.rest

/-- Two cursors stand at the same place of a text in two layouts, where no blanks come or go. -/
def Tight (t : List Char) (c c' : Cursor) : Prop := ∃ p, Respaced t (some p) c.rest c'.rest

/-- Where blanks and comments end in both texts: at the same token, or behind the phrase. -/
def Arrives (t : List Char) (d d' : Cursor) : Prop :=
  (Tight t d d' ∧ d'.rest.head? = d.rest.head? ∧ d.rest ≠ []) ∨ (d.rest = [] ∧ Outside d'.rest)

theorem Tight.near {c d : Cursor} (h : Tight t c d) : Near t c d := ⟨_, h.choose_spec⟩

/-- Blanks within a line are crossed wherever the reader stands. -/
theorem Padding.skip (h : Padding w) (state : Trivia) (byte : Nat) (rest : List Char) :
    state.skip byte (w ++ rest) = state.skip (byte + byteLength w) rest := by
  induction w generalizing byte with
  | nil => rfl
  | cons c w ih =>
    have hc := h.eq_or List.mem_cons_self
    have htakes : state.Takes [c] (w ++ rest) state := by
      cases state with
      | between m => exact .blank (by rcases hc with rfl | rfl <;> rfl)
      | block m => exact .inBlock (by rcases hc with rfl | rfl <;> simp)
      | line => exact .inLine (by rcases hc with rfl | rfl <;> decide)
    refine (Trivia.skip_of_takes htakes byte).trans ?_
    rw [ih h.of_cons.2, byteLength_cons, byteLength_cons, byteLength_nil, Nat.add_assoc, Nat.add_zero]

theorem Padding.blanks (h : Padding w) (m : Bool) (byte : Nat) (rest : List Char) :
    blanks m byte (w ++ rest) = Cursor.blanks m (byte + byteLength w) rest :=
  h.skip (.between m) byte rest

theorem toLineEnd_append (hw : ∀ x ∈ w, x ≠ '\n' ∧ x ≠ '\r') (byte : Nat) (rest : List Char) :
    toLineEnd byte (w ++ rest) = toLineEnd (byte + byteLength w) rest := by
  induction w generalizing byte with
  | nil => rfl
  | cons c w ih =>
    refine (Trivia.skip_of_takes (.inLine (hw c List.mem_cons_self)) byte).trans ?_
    refine (ih (fun x hx => hw x (List.mem_cons_of_mem _ hx)) _).trans ?_
    rw [byteLength_cons, byteLength_cons, byteLength_nil, Nat.add_assoc, Nat.add_zero]

/-- The end of a line: nothing, or a comment up to the line end. -/
def LineComment (comment : List Char) : Prop :=
  (comment = [] ∨ ['#'] <+: comment ∨ ['/', '/'] <+: comment) ∧ ∀ x ∈ comment, x ≠ '\n' ∧ x ≠ '\r'

/-- The rest of a line is crossed with its end. -/
theorem blanks_line {comment : List Char} (hw : Padding w) (hcomment : LineComment comment) (byte : Nat)
    (more : List Char) : ∃ byte', blanks true byte (w ++ (comment ++ '\n' :: more)) =
      Cursor.blanks true byte' more := by
  obtain ⟨rfl | ⟨v, rfl⟩ | ⟨v, rfl⟩, hline⟩ := hcomment
  · exact ⟨_, by rw [hw.blanks, List.nil_append, Cursor.blanks, if_pos rfl]⟩
  · exact ⟨_, by rw [hw.blanks, List.append_assoc, List.singleton_append, Cursor.blanks, if_pos rfl,
      toLineEnd_append fun x hx => hline x (List.mem_append_right _ hx), Cursor.toLineEnd]⟩
  · exact ⟨_, by rw [hw.blanks, List.append_assoc, List.cons_append, List.singleton_append,
      Cursor.blanks, if_pos rfl, toLineEnd_append fun x hx => hline x (List.mem_append_right _ hx),
      Cursor.toLineEnd]⟩

/-- A line ends a phrase, with a comment behind a blank or without, if the next line does not go on. -/
theorem ends_of_line {comment more : List Char} (hw : Padding w) (hcomment : LineComment comment)
    (hne : comment = [] ∨ w ≠ [])
    (hskip : ∀ byte, ∃ d, blanks true byte more = some d ∧ Outside d.rest) :
    Ends (w ++ (comment ++ '\n' :: more)) where
  head q hq := by
    cases w with
    | nil =>
      obtain rfl := hne.resolve_right (· rfl)
      obtain rfl := Option.some.inj hq
      decide
    | cons x w =>
      obtain rfl := Option.some.inj hq
      rcases hw.eq_or List.mem_cons_self with rfl | rfl <;> decide
  word q hq := by
    rw [List.dropWhile_append_of_pos hw] at hq
    obtain ⟨rfl | ⟨_, rfl⟩ | ⟨_, rfl⟩, -⟩ := hcomment
    all_goals
      obtain rfl := Option.some.inj hq
      decide
  skips m byte := by
    cases m with
    | false =>
      rw [hw.blanks]
      obtain ⟨rfl | ⟨v, rfl⟩ | ⟨v, rfl⟩, -⟩ := hcomment
      · exact ⟨_, by rw [List.nil_append, Cursor.blanks]; rfl, .inr (by simp)⟩
      · exact ⟨_, by rw [List.append_assoc, List.singleton_append, Cursor.blanks]; rfl, .inr (by simp)⟩
      · exact ⟨_, by rw [List.append_assoc, List.cons_append, List.singleton_append, Cursor.blanks]; rfl,
          .inl ⟨_, rfl⟩⟩
    | true =>
      obtain ⟨byte', heq⟩ := blanks_line hw hcomment byte more
      rw [heq]
      exact hskip _
  comment byte := by
    have hcross : toLineEnd byte (w ++ (comment ++ '\n' :: more)) =
        toLineEnd (byte + byteLength w) (comment ++ '\n' :: more) := hw.skip .line byte _
    rw [hcross, toLineEnd_append hcomment.2, Cursor.toLineEnd]
    exact hskip _

theorem Respaced.head_ne (ht : Ends t) (hc : isRigid c = true) (h : Respaced t (some p) u s)
    (hne : u.head? ≠ some c) : s.head? ≠ some c := by
  intro hs
  obtain ⟨s', rfl⟩ := List.head?_eq_some_iff.1 hs
  obtain ⟨u', rfl, -⟩ := h.rigid_right ht hc
  exact hne rfl

/-- What stands behind a token of the second text, and neither comes nor goes with the layout, stands
behind it in the first one. -/
theorem Respaced.second_right (ht : Ends t) (h : Respaced t (some q) (c :: u) (c :: x :: s))
    (hc : isRigid c = true) (hx : isRigid x = true) : ∃ u', u = x :: u' := by
  obtain ⟨s', heq, -, hrest⟩ := h.rigid_tight hc
  obtain rfl := (List.cons.inj heq).2
  obtain ⟨u', rfl, -⟩ := hrest.rigid_right ht hx
  exact ⟨u', rfl⟩

/-- A star that closes no comment closes none in the second text. -/
theorem Respaced.unclosed (ht : Ends t) (h : Respaced t o ('*' :: u) s) (hne : u.head? ≠ some '/') :
    ∃ v s', s = v ++ '*' :: s' ∧ Padding v ∧ s'.head? ≠ some '/' ∧ Respaced t (some '*') u s' := by
  obtain ⟨v, s', rfl, hv, -, -, hrest⟩ := h.rigid (by decide)
  exact ⟨v, s', rfl, hv, hrest.head_ne ht (by decide) hne, hrest⟩

/-- Blanks end at a token of the second text where they end at it in the first one. -/
theorem Respaced.ends (ht : Ends t) {m : Bool} (h : Respaced t (some q) (c :: u) (c :: s))
    (hends : Trivia.Ends (.between m) (c :: u)) : Trivia.Ends (.between m) (c :: s) := by
  cases hends with
  | between hnone =>
    refine .between fun w rest state heq htakes => ?_
    cases htakes with
    | blank hc =>
      obtain ⟨rfl, -⟩ := List.cons.inj heq
      exact hnone [c] u _ rfl (.blank hc)
    | openLine hmark =>
      rcases hmark with rfl | rfl
      · obtain ⟨rfl, -⟩ := List.cons.inj heq
        exact hnone ['#'] u _ rfl (.openLine (.inl rfl))
      · obtain ⟨rfl, rfl⟩ := List.cons.inj heq
        obtain ⟨u, rfl⟩ := h.second_right ht (by decide) (by decide)
        exact hnone ['/', '/'] u _ rfl (.openLine (.inr rfl))
    | openBlock =>
      obtain ⟨rfl, rfl⟩ := List.cons.inj heq
      obtain ⟨u, rfl⟩ := h.second_right ht (by decide) (by decide)
      exact hnone ['/', '*'] u _ rfl .openBlock

/-- What is taken behind some padding, and then the rest, takes a reader as far as the rest does. -/
theorem arrives_of_takes {state state' : Trivia} {rest : List Char} {byte : Nat} {d : Cursor}
    (hv : Padding v) (h : state.Takes w rest state')
    (hmore : ∀ byte, ∃ d', state'.skip byte rest = some d' ∧ Arrives t d d') :
    ∃ d', state.skip byte (v ++ (w ++ rest)) = some d' ∧ Arrives t d d' := by
  obtain ⟨d', hd', harrives⟩ := hmore (byte + byteLength v + byteLength w)
  exact ⟨d', (hv.skip state _ _).trans ((Trivia.skip_of_takes h _).trans hd'), harrives⟩

/-- Blanks and comments are crossed in both texts. -/
theorem trivia_near (ht : Ends t) {state : Trivia} {c d : Cursor} (h : state.Skips c d)
    (hnear : Respaced t o c.rest s) (byte : Nat) :
    ∃ d', state.skip byte s = some d' ∧ Arrives t d d' := by
  induction h generalizing o s byte with
  | @stop state c hends =>
    obtain ⟨cs, start⟩ := c
    dsimp only at hends hnear
    cases cs with
    | nil =>
      obtain ⟨v, rfl, hv, -⟩ := hnear.nil
      have hout : ∃ d', state.skip (byte + byteLength v) t = some d' ∧ Outside d'.rest := by
        cases state with
        | between m => exact ht.skips m _
        | block m => cases hends
        | line => exact ht.comment _
      obtain ⟨d', hd', hout⟩ := hout
      exact ⟨d', (hv.skip state byte t).trans hd', .inr ⟨rfl, hout⟩⟩
    | cons c u =>
      cases hends with
      | @between m _ hnone =>
        have hgap : isGap false c = false := by
          refine Bool.eq_false_iff.2 fun hc => hnone [c] u _ rfl (.blank ?_)
          simp only [isGap, Bool.false_and, Bool.or_false] at hc
          rw [isSpacing, hc, Bool.true_or]
        obtain ⟨v, s', q, rfl, hv, hrest⟩ := hnear.token hgap
        have hstop := Trivia.skip_of_ends (hrest.ends ht (.between hnone)) (byte + byteLength v)
        exact ⟨_, (hv.skip _ byte _).trans hstop, .inl ⟨⟨q, hrest⟩, rfl, List.cons_ne_nil _ _⟩⟩
  | take htakes _ ih =>
    cases htakes with
    | @blank m c _ hc =>
      have hcases : isGap false c = true ∨ c = '\r' ∨ m = true ∧ c = '\n' := by
        simp only [isSpacing, Bool.or_eq_true, Bool.and_eq_true, beq_iff_eq] at hc
        rcases hc with (rfl | rfl) | ⟨rfl, rfl | rfl⟩
        all_goals simp [isGap]
      rcases hcases with hgap | rfl | ⟨rfl, rfl⟩
      · obtain ⟨v, y, s', o', rfl, hv, rfl | ⟨rfl, -⟩, hrest⟩ := hnear.blank hgap
        · exact arrives_of_takes hv (.blank hc) (ih hrest)
        · obtain ⟨d', hd', harrives⟩ := ih hrest (byte + byteLength v)
          exact ⟨d', (hv.skip _ byte _).trans hd', harrives⟩
      · exact hnear.not_carriageReturn.elim
      · obtain ⟨v, s', rfl, hv, -, hrest⟩ := hnear.newline
        exact arrives_of_takes hv (.blank hc) (ih hrest)
    | openLine hmark =>
      rcases hmark with rfl | rfl
      · obtain ⟨v, s', rfl, hv, -, -, hrest⟩ := hnear.rigid (by decide)
        exact arrives_of_takes hv (.openLine (.inl rfl)) (ih hrest)
      · obtain ⟨v, s', rfl, hv, -, -, hrest⟩ := hnear.rigid (by decide)
        obtain ⟨s', rfl, -, hrest⟩ := hrest.rigid_tight (by decide)
        exact arrives_of_takes hv (.openLine (.inr rfl)) (ih hrest)
    | openBlock =>
      obtain ⟨v, s', rfl, hv, -, -, hrest⟩ := hnear.rigid (by decide)
      obtain ⟨s', rfl, -, hrest⟩ := hrest.rigid_tight (by decide)
      exact arrives_of_takes hv .openBlock (ih hrest)
    | closeBlock =>
      obtain ⟨v, s', rfl, hv, -, -, hrest⟩ := hnear.rigid (by decide)
      obtain ⟨s', rfl, -, hrest⟩ := hrest.rigid_tight (by decide)
      exact arrives_of_takes hv .closeBlock (ih hrest)
    | @inBlock m c u hne =>
      by_cases hc : c = '*'
      · subst hc
        obtain ⟨v, s', rfl, hv, hslash, hrest⟩ := hnear.unclosed ht fun hhead => hne ⟨rfl, hhead⟩
        exact arrives_of_takes hv (.inBlock fun hclose => hslash hclose.2) (ih hrest)
      · obtain ⟨v, y, s', o', rfl, hv, rfl | ⟨rfl, -⟩, hrest⟩ := hnear.step
        · exact arrives_of_takes hv (.inBlock fun hclose => hc hclose.1) (ih hrest)
        · obtain ⟨d', hd', harrives⟩ := ih hrest (byte + byteLength v)
          exact ⟨d', (hv.skip _ byte _).trans hd', harrives⟩
    | @inLine c u hc =>
      obtain ⟨v, y, s', o', rfl, hv, rfl | ⟨rfl, -⟩, hrest⟩ := hnear.step
      · exact arrives_of_takes hv (.inLine hc) (ih hrest)
      · obtain ⟨d', hd', harrives⟩ := ih hrest (byte + byteLength v)
        exact ⟨d', (hv.skip _ byte _).trans hd', harrives⟩
    | closeLine hmark =>
      rcases hmark with rfl | rfl
      · obtain ⟨v, s', rfl, hv, -, hrest⟩ := hnear.newline
        exact arrives_of_takes hv (.closeLine (.inl rfl)) (ih hrest)
      · exact hnear.not_carriageReturn.elim

section

variable {c c' d : Cursor}

theorem skip_arrives (ht : Ends t) (h : Near t c c') {m : Bool} (hskip : c.skip m = some d) :
    ∃ d', c'.skip m = some d' ∧ Arrives t d d' := by
  obtain ⟨o, h⟩ := h
  exact trivia_near ht (skip_iff.1 hskip) h c'.byte

/-- Blanks and comments before a token. -/
theorem skip_near (ht : Ends t) (h : Near t c c') {m : Bool} (hskip : c.skip m = some d)
    (hd : d.rest ≠ []) :
    ∃ d', c'.skip m = some d' ∧ Tight t d d' ∧ d'.rest.head? = d.rest.head? := by
  obtain ⟨d', hskip', ⟨htight, hhead, -⟩ | ⟨hnil, -⟩⟩ := skip_arrives ht h hskip
  · exact ⟨d', hskip', htight, hhead⟩
  · exact absurd hnil hd

end

end TerraLint.Hcl
