import TerraLint.Proofs.Hcl.RespacedTokens

/-!
# Literal text in a text with other blanks at its lines

A run of literal text ends at the same place in another layout. It is longer or shorter by the blanks
that layout puts in or takes away, and there may be no run at all in one of both layouts.

* `Recurs`: the parts of a template from here on are read in the other layout.
* `Resumes`: they are read as they go on behind literal text.
* `runs_respaced`: runs of literal text.
-/

namespace TerraLint.Hcl

open Text Cursor

/-- The marker of a heredoc is a name. -/
def Closer.Named : Closer → Prop
  | .terminator id => IsName id
  | _ => True

/-- Parts of a template start here. Wherever they start they end at the same place as in another
layout. -/
def Recurs (t : List Char) (closer : Closer) (s : List Char) (d : Cursor) : Prop :=
  ∀ byte, ∃ d', Derives false (.parts closer) ⟨s, byte⟩ d' ∧ Tight t d d'

/-- A run of literal text that has begun goes on here, with parts behind it. -/
def RunsOn (closer : Closer) (c d : Cursor) : Prop :=
  ∀ taken, taken ≠ [] → ∃ text c₁, closer.Runs taken c text c₁ ∧ Derives false (.parts closer) c₁ d

/-- Literal text goes on here, and then parts that end at the same place as in another layout. -/
def Resumes (t : List Char) (closer : Closer) (s : List Char) (d : Cursor) : Prop :=
  ∀ byte, ∃ d', RunsOn closer ⟨s, byte⟩ d' ∧ Tight t d d'

variable {t u s v w y taken rest : List Char} {closer : Closer} {c d c₁ : Cursor} {text : String}
  {o : Option Char} {x : Char}

/-! ## Runs that have begun -/

namespace Closer

/-- Where a run ends does not depend on what was read before, if it was not nothing. -/
theorem Runs.onto (h : closer.Runs taken c text d) (before : List Char) :
    ∃ text', closer.Runs (taken ++ before) c text' d := by
  induction h with
  | stop hends hfinish =>
    exact ⟨_, .stop hends (hfinish.imp_right (List.append_ne_nil_of_left_ne_nil · before))⟩
  | take htakes _ ih =>
    obtain ⟨text', hrun⟩ := ih
    rw [List.append_assoc] at hrun
    exact ⟨text', .take htakes hrun⟩

theorem Takes.sequence (h : closer.Takes w y rest) : startsSequence (w ++ rest) = false := by
  cases h with
  | doubled hx =>
    rcases eq_of_isMarker hx with rfl | rfl
    all_goals rfl
  | @char _ x _ h =>
    refine Bool.eq_false_iff.2 fun hseq => ?_
    rcases startsSequence_iff.1 hseq with ⟨more, heq⟩ | ⟨more, heq⟩
    all_goals
      obtain ⟨rfl, hrest⟩ := List.cons.inj heq
      exact h.single rfl ⟨more, hrest⟩
  | escape | decoded => rfl

theorem Takes.goesOn (h : closer.Takes w y rest) : closer.comesNext (w ++ rest) = false := by
  cases h with
  | @doubled _ x _ hx =>
    have hne : x ≠ '"' ∧ x ≠ '\n' ∧ x ≠ '\r' := by
      rcases eq_of_isMarker hx with rfl | rfl
      all_goals decide
    cases closer with
    | quote => simpa [comesNext] using hne.1
    | terminator id => exact closesHeredoc_cons hne.2
    | endOfText => rfl
  | char h =>
    cases closer with
    | quote => simpa [comesNext] using h.passes.1
    | terminator id => exact h.passes
    | endOfText => rfl
  | escape | decoded => rfl

end Closer

/-- Literal text goes on with parts that start anew here. -/
theorem runsOn_of_derives (h : Derives false (.parts closer) c d) : RunsOn closer c d := by
  intro taken htaken
  have hself : closer.Ends [] c.rest → ∃ text c₁, closer.Runs taken c text c₁ ∧
      Derives false (.parts closer) c₁ d := fun hends => ⟨_, c, .here hends (.inr htaken), h⟩
  have hsequence : ∀ {x rest}, c.rest = x :: '{' :: rest → isMarker x = true →
      closer.Ends [] c.rest := by
    intro x rest hrest hx
    rw [hrest]
    exact .sequence (startsSequence_of_isMarker hx rest)
  cases h with
  | interpolation hrest => exact hself (hsequence hrest rfl)
  | choicePart hrest => exact hself (hsequence hrest rfl)
  | repetitionPart hrest => exact hself (hsequence hrest rfl)
  | partsDirective hrest => exact hself (hsequence hrest rfl)
  | partsEnd _ hend => exact hself (.closing hend)
  | literal _ _ hrun hmore =>
    obtain ⟨text, hrun'⟩ := (Closer.literalRun_iff.1 hrun).onto taken
    exact ⟨text, _, hrun', hmore⟩

theorem Recurs.resumes (h : Recurs t closer s d) : Resumes t closer s d := by
  intro byte
  obtain ⟨d', hd', hend⟩ := h byte
  exact ⟨d', runsOn_of_derives hd', hend⟩

/-- Text that is taken into a literal starts one. -/
theorem Resumes.swallow (hw : closer.Takes w y s) (h : Resumes t closer s d) :
    Recurs t closer (w ++ s) d := by
  intro byte
  obtain ⟨d', hd', hend⟩ := h (byte + byteLength w)
  obtain ⟨text, c₁, hrun, hmore⟩ := hd' (y ++ []) (List.append_ne_nil_of_left_ne_nil hw.ne_nil.2 _)
  have hliteral := Closer.literalRun_iff.2 (.take hw hrun)
  exact ⟨d', .literal hw.sequence hw.goesOn hliteral hmore, hend⟩

/-- What stands behind a run that ends starts anew. -/
theorem Recurs.drop (hw : closer.Ends w s) (h : Recurs t closer s d) :
    Resumes t closer (w ++ s) d := by
  intro byte
  obtain ⟨d', hd', hend⟩ := h (byte + byteLength w)
  exact ⟨d', fun taken htaken => ⟨_, _, .stop hw (.inr htaken), hd'⟩, hend⟩

/-! ## Characters of literal text -/

theorem ordinary_of_gap (hx : isGap false x = true) : Ordinary closer x s := by
  have hblank : x = ' ' ∨ x = '\t' := by simpa [isGap] using hx
  have hmark : isMarker x = false := by
    rcases hblank with rfl | rfl
    all_goals rfl
  refine ⟨fun h => ?_, fun h => ?_, ?_⟩
  · rw [hmark] at h
    cases h
  · rw [hmark] at h
    cases h
  · have hne : (x ≠ '"' ∧ x ≠ '\\') ∧ x ≠ '\n' ∧ x ≠ '\r' := by
      rcases hblank with rfl | rfl
      all_goals decide
    cases closer with
    | quote => exact hne.1
    | terminator id => exact closesHeredoc_cons hne.2
    | endOfText => trivial

/-- Blanks before parts of a template are literal text, too. -/
theorem Recurs.padded (hv : Padding v) (h : Recurs t closer s d) :
    Recurs t closer (v ++ s) d := by
  induction v with
  | nil => exact h
  | cons x v ih =>
    have hx : closer.Takes [x] [x] (v ++ s) := .char (ordinary_of_gap hv.of_cons.1)
    exact Resumes.swallow (w := [x]) hx (ih hv.of_cons.2).resumes

theorem Resumes.padded (hv : Padding v) (h : Resumes t closer s d) :
    Resumes t closer (v ++ s) d := by
  induction v with
  | nil => exact h
  | cons x v ih =>
    have hx : closer.Takes [x] [x] (v ++ s) := .char (ordinary_of_gap hv.of_cons.1)
    exact (Resumes.swallow (w := [x]) hx (ih hv.of_cons.2)).resumes

/-! ## Characters in both layouts -/

/-- A word stands in both texts, behind blanks in the second one. -/
theorem Respaced.phrase (hx : isRigid x = true) (hw : w.all isRigid = true)
    (h : Respaced t o (x :: (w ++ u)) s) : ∃ v s' q, s = v ++ (x :: w ++ s') ∧ Padding v ∧
      (o ≠ none → v = []) ∧ Respaced t (some q) u s' := by
  obtain ⟨v, s', rfl, hv, hnone, -, hrest⟩ := h.rigid hx
  obtain ⟨s'', q, rfl, hmore⟩ := hrest.word hw
  exact ⟨v, s'', q, rfl, hv, hnone, hmore⟩

theorem Ordinary.respaced (ht : Ends t) (hnamed : closer.Named) (hx : x ≠ '\r')
    (h : Ordinary closer x u) (hs : Respaced t o u s) (ho : isMarker x = true → o = some x) :
    Ordinary closer x s := by
  refine ⟨fun hmark => ?_, fun hmark => ?_, ?_⟩
  · rw [ho hmark] at hs
    rw [hs.prefix_iff ht rfl]
    exact h.single hmark
  · have hrigid : ([x, '{'].all isRigid) = true := by
      rcases eq_of_isMarker hmark with rfl | rfl
      all_goals rfl
    rw [ho hmark] at hs
    rw [hs.prefix_iff ht hrigid]
    exact h.double hmark
  · cases closer with
    | quote => exact h.passes
    | terminator id =>
      by_cases hn : x = '\n'
      · subst hn
        exact (isTerminator_near ht hs hnamed).trans h.passes
      · exact closesHeredoc_cons ⟨hn, hx⟩
    | endOfText => trivial

/-- A character that stands for itself does so in both texts, or layout has taken it away. -/
theorem Respaced.ordinary (ht : Ends t) (hnamed : closer.Named) (hord : Ordinary closer x u)
    (h : Respaced t o (x :: u) s) : ∃ v y s' o', s = v ++ (y ++ s') ∧ Padding v ∧
      (y = [x] ∧ Ordinary closer x s' ∨
        y = [] ∧ isGap false x = true ∧ (o = none ∨ escapes u = false)) ∧
      Respaced t o' u s' := by
  have hx : x ≠ '\r' := by
    rintro rfl
    exact h.not_carriageReturn
  by_cases hmark : isMarker x = true
  · have hrigid : isRigid x = true := by
      rcases eq_of_isMarker hmark with rfl | rfl
      all_goals rfl
    obtain ⟨v, s', rfl, hv, -, -, hrest⟩ := h.rigid hrigid
    exact ⟨v, [x], s', _, rfl, hv, .inl ⟨rfl, hord.respaced ht hnamed hx hrest fun _ => rfl⟩, hrest⟩
  · obtain ⟨v, y, s', o', rfl, hv, hy, hrest⟩ := h.step
    refine ⟨v, y, s', o', rfl, hv, hy.imp_left fun hy => ⟨hy, ?_⟩, hrest⟩
    exact hord.respaced ht hnamed hx hrest fun hm => absurd hm hmark

/-- A doubled marker and what stands behind it. -/
theorem Recurs.doubled (hx : isMarker x = true)
    (hs : Respaced t o (x :: x :: '{' :: u) s)
    (hmore : ∀ o s, Respaced t o u s → Resumes t closer s d) : Recurs t closer s d := by
  have hrigid : isRigid x = true := by
    rcases eq_of_isMarker hx with rfl | rfl
    all_goals rfl
  obtain ⟨v, s', q, rfl, hv, -, hrest⟩ := hs.phrase (w := [x, '{']) hrigid (by simp [hrigid]; rfl)
  exact ((hmore _ _ hrest).swallow (.doubled hx)).padded hv

/-! ## Escapes -/

theorem isRigid_of_hexDigit {n : Nat} (h : hexDigit x = some n) : isRigid x = true := by
  by_contra hx
  simp only [isRigid, Bool.not_eq_true', Bool.not_eq_false, Bool.or_eq_true, beq_iff_eq] at hx
  rcases hx with (((rfl | rfl) | rfl) | rfl) | rfl
  all_goals exact absurd h (by decide +revert)

theorem isRigid_of_hexNumber {digits : List Char} {n : Nat} (h : hexNumber digits = some n) :
    digits.all isRigid = true := by
  refine List.all_eq_true.2 fun x hx => ?_
  obtain ⟨k, hk⟩ := hexDigit_of_hexNumber h hx
  exact isRigid_of_hexDigit hk

theorem isRigid_of_simpleEscape {ch : Char} (h : simpleEscape x = some ch) : isRigid x = true := by
  unfold simpleEscape at h
  split at h
  case h_9 => cases h
  all_goals rfl

theorem Undecoded.respaced (ht : Ends t) {n : Nat} {p : Char} (h : Undecoded n u)
    (hs : Respaced t (some p) u s) : Undecoded n s := by
  intro digits rest hlength heq
  by_contra hne
  obtain ⟨ch, hch⟩ := Option.ne_none_iff_exists'.1 hne
  obtain ⟨k, hk, -⟩ := Option.bind_eq_some_iff.1 hch
  rw [heq] at hs
  obtain ⟨u', q, hu, -⟩ := hs.word_right ht (isRigid_of_hexNumber hk)
  rw [h digits u' hlength hu] at hch
  cases hch

theorem Recurs.decoded {mark ch : Char} (digits : List Char)
    (hmark : MarksDigits mark digits.length) (hch : (hexNumber digits >>= charOfCode) = some ch)
    (hs : Respaced t o ('\\' :: mark :: digits ++ u) s)
    (hmore : ∀ o s, Respaced t o u s → Resumes t .quote s d) : Recurs t .quote s d := by
  obtain ⟨n, hn, -⟩ := Option.bind_eq_some_iff.1 hch
  have hrigid : ((mark :: digits).all isRigid) = true := by
    rw [List.all_cons, isRigid_of_hexNumber hn]
    rcases hmark with ⟨rfl, -⟩ | ⟨rfl, -⟩
    all_goals rfl
  obtain ⟨v, s', q, rfl, hv, -, hrest⟩ := hs.phrase rfl hrigid
  exact ((hmore _ _ hrest).swallow (.decoded hmark hch)).padded hv

/-- An escape that is not known is dropped in both layouts. -/
theorem Recurs.unknown (ht : Ends t) (hends : Closer.quote.Ends ['\\', x] u)
    (hs : Respaced t o ('\\' :: x :: u) s)
    (hmore : ∀ o s, Respaced t o u s → (o = none → escapes u = false) → Recurs t .quote s d) :
    Resumes t .quote s d := by
  obtain ⟨v, s', rfl, hv, -, -, hrest⟩ := hs.rigid rfl
  obtain ⟨s'', o', rfl, hbehind, hquiet⟩ := hrest.escaped
  cases hends with
  | unknown hx hu =>
    refine ((hmore _ _ hbehind hquiet).drop (w := ['\\', x]) (.unknown hx fun n hn => ?_)).padded hv
    have hrigid : isRigid x = true := by
      rcases hn with ⟨rfl, -⟩ | ⟨rfl, -⟩
      all_goals rfl
    obtain ⟨s', hs', -, htight⟩ := hrest.rigid_tight hrigid
    obtain rfl := (List.cons.inj hs').2
    exact (hu n hn).respaced ht htight

/-! ## Runs in both layouts -/

theorem escapes_cons (hx : isGap false x = true) : escapes (x :: u) = escapes u := by
  unfold escapes
  rw [List.dropWhile_cons_of_pos hx]

/-- Where blanks may come or go before literal text inside quotes, it does not start with an escape. -/
def Begins (closer : Closer) (o : Option Char) (cs : List Char) : Prop :=
  closer = .quote → o = none → escapes cs = false

/-- A run of literal text. It is read on in the other layout, and it is read anew there if it starts
anew in both layouts or does not start with an escape. -/
theorem runs_respaced (ht : Ends t) (hnamed : closer.Named) (h : closer.Runs taken c text c₁)
    (hmore : ∀ o s, Respaced t o c₁.rest s → Begins closer o c₁.rest → Recurs t closer s d)
    (hs : Respaced t o c.rest s) : Resumes t closer s d ∧
      (closer ≠ .quote ∨ escapes c.rest = false ∨ taken = [] ∧ o ≠ none → Recurs t closer s d) := by
  have hboth : ∀ {s} {P : Prop}, Recurs t closer s d →
      Resumes t closer s d ∧ (P → Recurs t closer s d) := fun h => ⟨h.resumes, fun _ => h⟩
  induction h generalizing o s with
  | @stop taken w rest byte hends hfinish =>
    cases hends with
    | sequence hseq =>
      refine hboth (hmore _ _ hs fun _ _ => ?_)
      rcases startsSequence_iff.1 hseq with ⟨more, rfl⟩ | ⟨more, rfl⟩
      all_goals rfl
    | closing hclose =>
      refine hboth (hmore _ _ hs fun hquote _ => ?_)
      subst hquote
      obtain ⟨more, rfl⟩ := List.head?_eq_some_iff.1 (by simpa [Closer.comesNext] using hclose)
      rfl
    | unknown hx hu =>
      have hresume := Recurs.unknown ht (.unknown hx hu) hs
        fun o s hs hquiet => hmore o s hs fun _ => hquiet
      refine ⟨hresume, fun hanew => ?_⟩
      -- No literal starts with an escape that is not known.
      rcases hanew with hquote | hquiet | ⟨rfl, -⟩
      · exact absurd rfl hquote
      · cases hquiet
      · exact absurd rfl (hfinish.resolve_left (by decide))
  | @take taken w y rest byte text c₁ htakes _ ih =>
    cases htakes with
    | doubled hx => exact hboth (Recurs.doubled hx hs fun o s hs => (ih hmore hs).1)
    | @char _ x _ hord =>
      obtain ⟨v, y, s', o', rfl, hv, hy, hrest⟩ := hs.ordinary ht hnamed hord
      obtain ⟨hresume, hstart⟩ := ih hmore hrest
      rcases hy with ⟨rfl, hord'⟩ | ⟨rfl, hgap, hquiet⟩
      · exact hboth ((hresume.swallow (.char hord')).padded hv)
      · refine ⟨hresume.padded hv, fun hanew => (hstart (hanew.imp_right fun hanew => ?_)).padded hv⟩
        left
        rcases hanew with hcs | ⟨-, ho⟩
        · exact (escapes_cons hgap).symm.trans hcs
        · exact hquiet.resolve_left ho
    | @escape x _ _ hch =>
      have hrigid : ([x].all isRigid) = true := by simp [isRigid_of_simpleEscape hch]
      obtain ⟨v, s', q, rfl, hv, -, hrest⟩ := hs.phrase (w := [x]) rfl hrigid
      exact hboth (((ih hmore hrest).1.swallow (.escape hch)).padded hv)
    | decoded hmark hch => exact hboth (Recurs.decoded _ hmark hch hs fun o s hs => (ih hmore hs).1)

/-- A run of literal text, and what stands behind it. -/
theorem literalRun_respaced (ht : Ends t) (hnamed : closer.Named)
    (h : closer.literalRun c = .ok (text, c₁))
    (hmore : ∀ o s, Respaced t o c₁.rest s → Begins closer o c₁.rest → Recurs t closer s d)
    (hs : Respaced t o c.rest s) (hbegin : Begins closer o c.rest) : Recurs t closer s d := by
  refine (runs_respaced ht hnamed (Closer.literalRun_iff.1 h) hmore hs).2 ?_
  by_cases hquote : closer = .quote
  · by_cases ho : o = none
    · exact .inr (.inl (hbegin hquote ho))
    · exact .inr (.inr ⟨rfl, ho⟩)
  · exact .inl hquote

end TerraLint.Hcl
