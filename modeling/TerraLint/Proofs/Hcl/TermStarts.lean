import Mathlib.Data.List.Perm.Subperm
import TerraLint.Hcl.Subterm
import TerraLint.Proofs.Hcl.Progress

/-!
# Where the terms of an expression start

A term is an expression that is not made of others by operations behind it, so no two terms of an
expression start at the same place. Operands of prefix operators stand nowhere and do not count.

* `Expr.termStarts`: the offsets at which the terms of an expression start.
* `Tokens`: offsets between two cursors at which tokens start, all different.
* `Shown`: the text of a term, and of the first step from it, between two cursors.
* `Sited`: expressions between two cursors whose terms start so.
* `expr_sited`: what the reader of expressions gives is such an expression.
-/

namespace TerraLint.Hcl

open Text

/-- What is contained in a list without repetitions has none. -/
theorem nodup_of_subperm {α : Type} {xs ys : List α} (h : xs.Subperm ys) (hnodup : ys.Nodup) :
    xs.Nodup := by
  obtain ⟨zs, hperm, hsub⟩ := h
  exact hperm.nodup_iff.1 (hnodup.sublist hsub)

/-- Whether a form is read as one term. -/
def Form.isTerm : Form → Bool
  | .traversal _ _ | .conditional _ _ _ | .binary _ _ _ => false
  | _ => true

/-- What is known about the text of a term: a variable is its name, and a heredoc starts with its
sign. -/
def Form.ShownAs : Form → List Char → Prop
  | .variable name, text => text = name.toList ∧ Cursor.IsName text
  | .heredoc _ _, text => ['<', '<'] <+: text
  | _, _ => True

/-- What is known about the text up to the end of a step: an attribute ends with its name. -/
def Step.EndsIn : Step → List Char → Prop
  | .attr _ name, text => name.toList <:+ text ∧ Cursor.IsName name.toList
  | _, _ => True

/-- Whether a form is a term about whose text nothing is known. -/
def Form.isPlain : Form → Bool
  | .variable _ | .heredoc _ _ => false
  | form => form.isTerm

theorem Form.isTerm_of_isPlain {form : Form} (h : form.isPlain = true) : form.isTerm = true := by
  unfold isPlain at h
  split at h
  · cases h
  · cases h
  · exact h

theorem Form.shownAs_of_isPlain {form : Form} (h : form.isPlain = true) (text : List Char) :
    form.ShownAs text := by
  cases form with
  | «variable» name => cases h
  | heredoc marker parts => cases h
  | _ => trivial

namespace Expr

/-- The offset at which an expression starts, if it is a term that stands somewhere. -/
def termStart? (e : Expr) : Option Nat := if e.form.isTerm then e.span.map Span.start else none

/-- The offsets at which the terms of an expression start. -/
def termStarts (e : Expr) : List Nat := e.preorder.filterMap termStart?

/-- The root of a traversal stands somewhere. -/
structure Spanned (e : Expr) : Prop where
  root : ∀ root steps, e.form = .traversal root steps → root.span.isSome

theorem preorder_eq (e : Expr) : e.preorder = e :: e.children.flatMap preorder := by
  rw [preorder]
  congr 1
  rw [List.flatMap_subtype (g := preorder) (fun _ _ => rfl), List.unattach_attach]

theorem termStarts_eq (e : Expr) :
    e.termStarts = e.termStart?.toList ++ e.children.flatMap termStarts := by
  have hflat : (e.children.flatMap preorder).filterMap termStart? =
      e.children.flatMap termStarts := by
    rw [List.filterMap_flatMap]
    rfl
  rw [termStarts, preorder_eq, List.filterMap_cons, hflat]
  cases e.termStart? <;> rfl

theorem Spanned.of_isTerm {e : Expr} (h : e.form.isTerm = true) : e.Spanned := by
  refine ⟨fun root steps hform => ?_⟩
  rw [hform] at h
  cases h

end Expr

/-! ## Tokens between two cursors -/

/-- A token starts at an offset between two cursors. -/
structure TokenAt (c d : Cursor) (n : Nat) : Prop where
  token : ∃ e ch rest, Reaches c e ∧ Reaches e d ∧ e.byte = n ∧ e.rest = ch :: rest ∧
    isBlank ch = false
  lt : n < d.byte

theorem TokenAt.le {c d : Cursor} {n : Nat} (h : TokenAt c d n) : c.byte ≤ n := by
  obtain ⟨e, ch, rest, hce, -, rfl, -⟩ := h.token
  exact hce.byte_le

theorem TokenAt.mono {b c d e : Cursor} {n : Nat} (h : TokenAt c d n) (hbc : Reaches b c)
    (hde : Reaches d e) : TokenAt b e n := by
  obtain ⟨t, ch, rest, hct, htd, hbyte, hrest, hch⟩ := h.token
  refine ⟨⟨t, ch, rest, hbc.trans hct, htd.trans hde, hbyte, hrest, hch⟩, ?_⟩
  have hlt := h.lt
  have hle := hde.byte_le
  omega

/-- Tokens start at some offsets between two cursors, no two at the same one. -/
structure Tokens (c d : Cursor) (starts : List Nat) : Prop where
  reaches : Reaches c d
  nodup : starts.Nodup
  token : ∀ n ∈ starts, TokenAt c d n

namespace Tokens

variable {b c d e : Cursor} {ns ms : List Nat}

theorem nil (h : Reaches c d) : Tokens c d [] := ⟨h, .nil, by simp⟩

theorem after (h : Tokens c d ns) (hbc : Reaches b c) : Tokens b d ns :=
  ⟨hbc.trans h.reaches, h.nodup, fun n hn => (h.token n hn).mono hbc (.refl _)⟩

theorem before (h : Tokens c d ns) (hde : Reaches d e) : Tokens c e ns :=
  ⟨h.reaches.trans hde, h.nodup, fun n hn => (h.token n hn).mono (.refl _) hde⟩

/-- Tokens before a cursor differ from those behind it. -/
theorem append (h : Tokens c d ns) (h' : Tokens d e ms) : Tokens c e (ns ++ ms) := by
  refine ⟨h.reaches.trans h'.reaches, ?_, fun n hn => ?_⟩
  · refine List.nodup_append.2 ⟨h.nodup, h'.nodup, fun n hn m hm => ?_⟩
    have hlt := (h.token n hn).lt
    have hle := (h'.token m hm).le
    omega
  · rcases List.mem_append.1 hn with hn | hn
    · exact (h.token n hn).mono (.refl _) h'.reaches
    · exact (h'.token n hn).mono h.reaches (.refl _)

theorem singleton {ch : Char} {rest : List Char} (hrest : c.rest = ch :: rest)
    (hblank : isBlank ch = false) (hreach : Reaches c d) (hlt : c.byte < d.byte) :
    Tokens c d [c.byte] := by
  refine ⟨hreach, by simp, fun n hn => ?_⟩
  obtain rfl := List.mem_singleton.1 hn
  exact ⟨⟨c, ch, rest, .refl _, hreach, rfl, hrest, hblank⟩, hlt⟩

theorem sub (h : Tokens c d ns) (hsub : ms.Subperm ns) : Tokens c d ms :=
  ⟨h.reaches, nodup_of_subperm hsub h.nodup, fun n hn => h.token n (hsub.subset hn)⟩

end Tokens

/-! ## Texts between two cursors -/

/-- A text that starts with a token is read from one cursor up to another. -/
structure Reads (c d : Cursor) (text : List Char) : Prop where
  rest : c.rest = text ++ d.rest
  byte : d.byte = c.byte + byteLength text
  token : ∃ ch more, text = ch :: more ∧ isBlank ch = false

/-- What is read from a token on starts with it. -/
theorem Reads.of_reaches {c d : Cursor} {ch : Char} {rest : List Char} (hrest : c.rest = ch :: rest)
    (hblank : isBlank ch = false) (h : Reaches c d) (hlt : c.byte < d.byte) :
    ∃ text, Reads c d text := by
  obtain ⟨text, htext, hbyte⟩ := h
  refine ⟨text, htext, hbyte, ?_⟩
  cases text with
  | nil =>
    rw [byteLength_nil] at hbyte
    omega
  | cons first more =>
    rw [hrest, List.cons_append] at htext
    exact ⟨first, more, rfl, (List.cons.inj htext).1 ▸ hblank⟩

theorem Reads.reaches {c d : Cursor} {text : List Char} (h : Reads c d text) : Reaches c d :=
  ⟨text, h.rest, h.byte⟩

theorem Reads.trans {c d e : Cursor} {text : List Char} (h : Reads c d text) (hde : Reaches d e) :
    ∃ more, Reads c e (text ++ more) := by
  obtain ⟨more, hrest, hbyte⟩ := hde
  obtain ⟨ch, others, rfl, hblank⟩ := h.token
  refine ⟨more, by rw [h.rest, hrest, List.append_assoc], ?_, ch, others ++ more, rfl, hblank⟩
  rw [hbyte, h.byte, byteLength_append, Nat.add_assoc]

/-- An expression with a span shows its text between two cursors: a term all of it, a reference from
its root up to the end of the first step. -/
structure Shown (c d : Cursor) (x : Expr) : Prop where
  term : x.form.isTerm = true → ∀ span ∈ x.span, ∃ e f text, Reaches c e ∧ Reads e f text ∧
    Reaches f d ∧ span = ⟨e.byte, f.byte⟩ ∧ x.form.ShownAs text
  step : ∀ root step steps, x.form = .traversal root (step :: steps) → root.form.isTerm = true →
    ∀ span ∈ root.span, ∃ e f text, Reaches c e ∧ Reads e f text ∧ Reaches f d ∧
      span.start = e.byte ∧ step.span.stop = f.byte ∧ step.EndsIn text

/-- A step that is read from a cursor on ends at another. -/
structure Step.EndsAt (step : Step) (c d : Cursor) : Prop where
  stop : step.span.stop = d.byte
  endsIn : ∀ e text, Reaches e c → Reads e d text → step.EndsIn text

theorem Step.EndsAt.after {step : Step} {b c d : Cursor} (h : step.EndsAt c d) (hbc : Reaches b c) :
    step.EndsAt b d :=
  ⟨h.stop, fun e text hreach hreads => h.endsIn e text (hreach.trans hbc) hreads⟩

/-- What is read up to the end of a name ends with it. -/
theorem Reads.isSuffix_name {c d e : Cursor} {name : String} {text : List Char} (h : Reads e d text)
    (hreach : Reaches e c) (hname : c.name = some (name, d)) : name.toList <:+ text := by
  obtain ⟨taken, hrest, -⟩ := hreach
  have hread := (Cursor.isName_of_name hname).2.1
  rw [h.rest, hread, ← List.append_assoc] at hrest
  exact ⟨taken, (List.append_cancel_right hrest).symm⟩

namespace Shown

variable {b c d e : Cursor} {x : Expr}

theorem mono (h : Shown c d x) (hbc : Reaches b c) (hde : Reaches d e) : Shown b e x := by
  refine ⟨fun hterm span hspan => ?_, fun root step steps hform hterm span hspan => ?_⟩
  · obtain ⟨c', d', text, hstart, hreads, hstop, hshown⟩ := h.term hterm span hspan
    exact ⟨c', d', text, hbc.trans hstart, hreads, hstop.trans hde, hshown⟩
  · obtain ⟨c', d', text, hstart, hreads, hstop, hshown⟩ :=
      h.step root step steps hform hterm span hspan
    exact ⟨c', d', text, hbc.trans hstart, hreads, hstop.trans hde, hshown⟩

/-- Nothing is said about operations, nor about what has no span. -/
theorem of_not_isTerm (h : x.form.isTerm = true → x.span = none)
    (hpath : ∀ root steps, x.form ≠ .traversal root steps) : Shown c d x := by
  refine ⟨fun hterm span hspan => ?_, fun root step steps hform => ?_⟩
  · rw [h hterm] at hspan
    cases hspan
  · exact absurd hform (hpath root _)

end Shown

/-! ## Expressions between two cursors -/

/-- Expressions between two cursors, one after the other: their terms start at tokens, no two at the
same one. -/
structure Sited (c d : Cursor) (es : List Expr) : Prop where
  tokens : Tokens c d (es.flatMap Expr.termStarts)
  spanned : ∀ e ∈ es, ∀ x ∈ e.preorder, x.Spanned
  shown : ∀ e ∈ es, ∀ x ∈ e.preorder, Shown c d x

namespace Sited

variable {b c d e : Cursor} {es fs : List Expr}

theorem nil (h : Reaches c d) : Sited c d [] := ⟨.nil h, by simp, by simp⟩

theorem reaches (h : Sited c d es) : Reaches c d := h.tokens.reaches

theorem after (h : Sited c d es) (hbc : Reaches b c) : Sited b d es :=
  ⟨h.tokens.after hbc, h.spanned, fun x hx y hy => (h.shown x hx y hy).mono hbc (.refl _)⟩

theorem before (h : Sited c d es) (hde : Reaches d e) : Sited c e es :=
  ⟨h.tokens.before hde, h.spanned, fun x hx y hy => (h.shown x hx y hy).mono (.refl _) hde⟩

theorem append (h : Sited c d es) (h' : Sited d e fs) : Sited c e (es ++ fs) := by
  refine ⟨?_, fun x hx => ?_, fun x hx y hy => ?_⟩
  · rw [List.flatMap_append]
    exact h.tokens.append h'.tokens
  · rcases List.mem_append.1 hx with hx | hx
    · exact h.spanned x hx
    · exact h'.spanned x hx
  · rcases List.mem_append.1 hx with hx | hx
    · exact (h.shown x hx y hy).mono (.refl _) h'.reaches
    · exact (h'.shown x hx y hy).mono h.reaches (.refl _)

/-- What holds of an expression and of all that is inside its parts. -/
theorem forall_preorder {P : Expr → Prop} {x : Expr} (hx : P x)
    (h : ∀ child ∈ x.children, ∀ y ∈ child.preorder, P y) :
    ∀ y ∈ [x], ∀ z ∈ y.preorder, P z := by
  intro y hy z hz
  obtain rfl := List.mem_singleton.1 hy
  rw [Expr.preorder_eq] at hz
  rcases List.mem_cons.1 hz with rfl | hz
  · exact hx
  · obtain ⟨child, hchild, hz⟩ := List.mem_flatMap.1 hz
    exact h child hchild z hz

theorem flatMap_termStarts {x : Expr} (h : x.termStart? = none) :
    [x].flatMap Expr.termStarts = x.children.flatMap Expr.termStarts := by
  rw [List.flatMap_singleton, Expr.termStarts_eq, h]
  rfl

/-- An expression that does not start a term itself has the tokens of its parts. -/
theorem wrap {x : Expr} (h : Sited c d x.children) (hstart : x.termStart? = none)
    (hx : x.Spanned) (hshown : Shown c d x) : Sited c d [x] := by
  refine ⟨?_, forall_preorder hx h.spanned, forall_preorder hshown h.shown⟩
  rw [flatMap_termStarts hstart]
  exact h.tokens

theorem unwrap {x : Expr} (h : Sited c d [x]) (hstart : x.termStart? = none) :
    Sited c d x.children := by
  have htokens := h.tokens
  rw [flatMap_termStarts hstart] at htokens
  have hinside : ∀ child ∈ x.children, ∀ z ∈ child.preorder, z ∈ x.preorder := by
    intro child hchild z hz
    rw [Expr.preorder_eq]
    exact List.mem_cons_of_mem _ (List.mem_flatMap.2 ⟨child, hchild, hz⟩)
  refine ⟨htokens, fun child hchild z hz => ?_, fun child hchild z hz => ?_⟩
  · exact h.spanned x List.mem_cons_self z (hinside child hchild z hz)
  · exact h.shown x List.mem_cons_self z (hinside child hchild z hz)

end Sited

/-- A term was read: it starts with a token, and its parts stand behind that. -/
structure TermSited (c d : Cursor) (form : Form) : Prop where
  isTerm : form.isTerm = true
  token : ∃ ch rest, c.rest = ch :: rest ∧ isBlank ch = false
  parts : ∃ c', Reaches c c' ∧ c.byte < c'.byte ∧ Sited c' d form.children
  shownAs : ∀ text, Reads c d text → form.ShownAs text

theorem TermSited.reads {c d : Cursor} {form : Form} (h : TermSited c d form) :
    ∃ text, Reads c d text := by
  obtain ⟨ch, rest, hrest, hblank⟩ := h.token
  obtain ⟨c', hreach, hlt, hparts⟩ := h.parts
  exact Reads.of_reaches hrest hblank (hreach.trans hparts.reaches)
    (Nat.lt_of_lt_of_le hlt hparts.reaches.byte_le)

theorem TermSited.sited {c d : Cursor} {form : Form} (h : TermSited c d form) :
    Sited c d [.node (some ⟨c.byte, d.byte⟩) form] := by
  obtain ⟨c', hreach, hlt, hparts⟩ := h.parts
  obtain ⟨ch, rest, hrest, hblank⟩ := h.token
  have hspanned : (Expr.node (some ⟨c.byte, d.byte⟩) form).Spanned := .of_isTerm h.isTerm
  have hshown : Shown c d (Expr.node (some ⟨c.byte, d.byte⟩) form) := by
    refine ⟨fun _ span hspan => ?_, fun root step steps hform => ?_⟩
    · obtain ⟨text, hreads⟩ := h.reads
      exact ⟨c, d, text, .refl _, hreads, .refl _, (Option.some.inj hspan).symm,
        h.shownAs text hreads⟩
    · have hterm := h.isTerm
      rw [show form = .traversal root (step :: steps) from hform] at hterm
      cases hterm
  have hstart : (Expr.node (some ⟨c.byte, d.byte⟩) form).termStart? = some c.byte :=
    if_pos h.isTerm
  refine ⟨?_, Sited.forall_preorder hspanned (hparts.after hreach).spanned,
    Sited.forall_preorder hshown (hparts.after hreach).shown⟩
  rw [List.flatMap_singleton, Expr.termStarts_eq, hstart]
  exact (Tokens.singleton hrest hblank hreach hlt).append hparts.tokens

/-! ## Steps, entries and parts -/

theorem termStart?_eq_none {e : Expr} (h : e.form.isTerm = false) : e.termStart? = none := by
  unfold Expr.termStart?
  rw [h]
  rfl

/-- A step stands behind what it is applied to. -/
theorem Sited.addStep {b c d : Cursor} {e : Expr} {step : Step} (start : Nat) (h : Sited b c [e])
    (hspan : e.span.isSome) (hstep : Sited c d step.index?.toList) (hends : step.EndsAt c d) :
    Sited b d [addStep start e step] := by
  -- The first step from a term ends where the next reader goes on.
  have hfirst : ∀ root, Shown b c root → root.form.isTerm = true → ∀ span ∈ root.span,
      ∃ c' d' text, Reaches b c' ∧ Reads c' d' text ∧ Reaches d' d ∧ span.start = c'.byte ∧
        step.span.stop = d'.byte ∧ step.EndsIn text := by
    intro root hroot hterm span hspan
    obtain ⟨c', d', text, hstart, hreads, hend, rfl, -⟩ := hroot.term hterm span hspan
    obtain ⟨more, hall⟩ := hreads.trans (hend.trans hstep.reaches)
    exact ⟨c', d, _, hstart, hall, .refl _, rfl, hends.stop,
      hends.endsIn c' _ (hreads.reaches.trans hend) hall⟩
  have hself := h.shown e List.mem_cons_self e (by rw [Expr.preorder_eq]; exact List.mem_cons_self)
  unfold Hcl.addStep
  dsimp only
  split
  · rename_i root steps hform
    have hnone : e.termStart? = none := termStart?_eq_none (by rw [hform]; rfl)
    have hparts := (h.unwrap hnone).append hstep
    refine Sited.wrap ?_ (termStart?_eq_none rfl) ⟨?_⟩
      ⟨fun hterm => absurd hterm Bool.false_ne_true, ?_⟩
    · have hchildren : e.children = root :: steps.filterMap Step.index? := by
        rw [Expr.children, hform]
        rfl
      rw [hchildren, List.cons_append] at hparts
      have hsteps : (steps ++ [step]).filterMap Step.index? =
          steps.filterMap Step.index? ++ step.index?.toList := by
        rw [List.filterMap_append]
        cases h : step.index? <;> simp [h]
      rw [Expr.children, Expr.form, Form.children, hsteps]
      exact hparts
    · intro root' steps' heq
      obtain ⟨rfl, -⟩ := Form.traversal.inj heq
      refine (h.spanned e (List.mem_singleton.2 rfl) e ?_).root root steps hform
      rw [Expr.preorder_eq]
      exact List.mem_cons_self
    · intro root' step' steps' heq hterm span hspan'
      obtain ⟨rfl, hsteps⟩ := Form.traversal.inj heq
      cases steps with
      | nil =>
        obtain ⟨rfl, -⟩ := List.cons.inj hsteps
        refine hfirst _ ?_ hterm span hspan'
        refine (h.unwrap hnone).shown _ ?_ _ (by rw [Expr.preorder_eq]; exact List.mem_cons_self)
        rw [Expr.children, hform]
        exact List.mem_cons_self
      | cons first steps =>
        obtain ⟨rfl, -⟩ := List.cons.inj hsteps
        exact (hself.mono (.refl _) hstep.reaches).step _ _ _ hform hterm span hspan'
  · refine Sited.wrap ?_ (termStart?_eq_none rfl) ⟨?_⟩
      ⟨fun hterm => absurd hterm Bool.false_ne_true, ?_⟩
    · have hparts := h.append hstep
      have hsteps : [step].filterMap Step.index? = step.index?.toList := by
        cases h : step.index? <;> simp [h]
      rw [Expr.children, Expr.form, Form.children, hsteps]
      exact hparts
    · intro root' steps' heq
      obtain ⟨rfl, -⟩ := Form.traversal.inj heq
      exact hspan
    · intro root' step' steps' heq hterm span hspan'
      obtain ⟨rfl, hsteps⟩ := Form.traversal.inj heq
      obtain ⟨rfl, -⟩ := List.cons.inj hsteps
      exact hfirst _ hself hterm span hspan'

theorem dotStep_spec {start : Nat} {c d : Cursor} {step : Step}
    (h : c.dotStep start = some (step, d)) : step.index? = none ∧ step.EndsAt c d := by
  unfold Cursor.dotStep at h
  obtain ⟨c₁, hskip, h⟩ := Option.bind_eq_some_iff.1 h
  split at h
  · obtain ⟨rfl, rfl⟩ := Prod.mk.inj (Option.some.inj h)
    exact ⟨rfl, rfl, fun _ _ _ _ => trivial⟩
  · dsimp only at h
    split at h
    · obtain ⟨⟨name, c₂⟩, hname, h⟩ := Option.bind_eq_some_iff.1 h
      obtain ⟨rfl, rfl⟩ := Prod.mk.inj (Option.some.inj h)
      exact ⟨rfl, rfl, fun e text hreach hreads =>
        ⟨hreads.isSuffix_name (hreach.trans (Cursor.reaches_skip hskip)) hname,
          (Cursor.isName_of_name hname).1⟩⟩
    · split at h
      · obtain ⟨rfl, rfl⟩ := Prod.mk.inj (Option.some.inj h)
        exact ⟨rfl, rfl, fun _ _ _ _ => trivial⟩
      · cases h

theorem span_addStep (start : Nat) (e : Expr) (step : Step) :
    (addStep start e step).span = some ⟨start, step.span.stop⟩ := by
  unfold addStep
  dsimp only
  split <;> rfl

/-- The expressions of the entries of an object. -/
def entryExprs (entries : List Entry) : List Expr := entries.flatMap Entry.exprs

theorem subperm_insertEntry {α : Type} (f : Entry → List α) (entry : Entry) (entries : List Entry) :
    ((insertEntry entry entries).flatMap f).Subperm (entries.flatMap f ++ f entry) := by
  induction entries with
  | nil =>
    rw [insertEntry, List.flatMap_singleton]
    exact List.Subperm.refl _
  | cons e entries ih =>
    unfold insertEntry
    split
    · have hperm : (f entry ++ entries.flatMap f).Perm (entries.flatMap f ++ f entry) :=
        List.perm_append_comm
      rw [List.flatMap_cons, List.flatMap_cons, List.append_assoc]
      exact hperm.subperm.trans (List.sublist_append_right _ _).subperm
    · rw [List.flatMap_cons, List.flatMap_cons, List.append_assoc]
      exact (List.subperm_append_left _).2 ih

theorem Sited.insertEntry {b c d : Cursor} {entries : List Entry} {entry : Entry}
    (h : Sited b c (entryExprs entries)) (hentry : Sited c d entry.exprs) :
    Sited b d (entryExprs (insertEntry entry entries)) := by
  have hall := h.append hentry
  have hsub := subperm_insertEntry Entry.exprs entry entries
  have hstarts := subperm_insertEntry (fun e => e.exprs.flatMap Expr.termStarts) entry entries
  have hflat : ∀ es : List Entry, (entryExprs es).flatMap Expr.termStarts =
      es.flatMap fun e => e.exprs.flatMap Expr.termStarts := fun es => List.flatMap_assoc
  refine ⟨hall.tokens.sub ?_, fun x hx => hall.spanned x (hsub.subset hx),
    fun x hx => hall.shown x (hsub.subset hx)⟩
  rw [List.flatMap_append, hflat, hflat]
  exact hstarts

theorem Sited.entry {c d e : Cursor} {key value : Expr} (colon : Bool) (ending : EntryEnd)
    (hkey : Sited c d [key]) (hvalue : Sited d e [value]) :
    Sited c e (Entry.mk key value colon ending).exprs := by
  unfold Entry.exprs Entry.key Entry.value
  dsimp only
  split
  · exact hvalue.after hkey.reaches
  · exact hkey.append hvalue

/-- The expressions interpolated into a template. -/
def interpolated (parts : List Part) : List Expr := parts.filterMap Part.interpolation?

theorem interpolated_dedentBy (n : Nat) (atStart : Bool) (parts : List Part) :
    interpolated (Heredoc.dedentBy n atStart parts) = interpolated parts := by
  induction parts generalizing atStart with
  | nil => rfl
  | cons part parts ih =>
    cases part with
    | literal text => exact ih _
    | interpolation s e => exact congrArg (e :: ·) (ih _)
    | choice _ _ _ _ _ _ => exact ih _
    | repetition _ _ _ _ _ _ => exact ih _

theorem interpolated_dedent (parts : List Part) :
    interpolated (Heredoc.dedent parts).2 = interpolated parts := by
  unfold Heredoc.dedent
  split
  · rfl
  · rfl
  · exact interpolated_dedentBy _ _ _

theorem interpolated_dedentIf (indented : Bool) (parts : List Part) :
    interpolated (dedentIf indented parts).2 = interpolated parts := by
  unfold dedentIf
  split
  · exact interpolated_dedent parts
  · rfl

theorem interpolated_appendBreak (br : List Char) (parts : List Part) :
    interpolated (Heredoc.appendBreak br parts) = interpolated parts := by
  fun_induction Heredoc.appendBreak br parts with
  | case1 => rfl
  | case2 text => rfl
  | case3 part parts hne ih =>
    simp only [interpolated, List.filterMap_cons] at ih ⊢
    rw [ih]

theorem children_quotedForm (parts : List Part) :
    (quotedForm parts).children = interpolated parts := by
  unfold quotedForm
  split
  · rfl
  · rfl
  · rfl

theorem isPlain_quotedForm (parts : List Part) : (quotedForm parts).isPlain = true := by
  unfold quotedForm
  split <;> rfl

theorem wordForm_spec (name : String) :
    (wordForm name).isTerm = true ∧ (wordForm name).children = [] ∧
      (Cursor.IsName name.toList → (wordForm name).ShownAs name.toList) := by
  unfold wordForm
  repeat' split
  · exact ⟨rfl, rfl, fun _ => trivial⟩
  · exact ⟨rfl, rfl, fun _ => trivial⟩
  · exact ⟨rfl, rfl, fun _ => trivial⟩
  · exact ⟨rfl, rfl, fun hname => ⟨rfl, hname⟩⟩

theorem TermSited.children {c d : Cursor} {form : Form} (h : TermSited c d form) :
    Sited c d form.children := by
  obtain ⟨c', hreach, -, hparts⟩ := h.parts
  exact hparts.after hreach

/-- An operand stands nowhere, so it starts no term. -/
theorem TermSited.detached {c d : Cursor} {form : Form} (h : TermSited c d form) :
    Sited c d [.node none form] := by
  refine h.children.wrap ?_ (.of_isTerm h.isTerm)
    (.of_not_isTerm (fun _ => rfl) fun root steps hform => ?_)
  · unfold Expr.termStart?
    split <;> rfl
  · have hterm := h.isTerm
    rw [show form = .traversal root steps from hform] at hterm
    cases hterm

/-- A bracket, a quote or a sign starts a term. -/
theorem TermSited.of_cons {c d : Cursor} {ch : Char} {rest : List Char} {form : Form}
    (hrest : c.rest = ch :: rest) (hsize : ch.utf8Size = 1) (hblank : isBlank ch = false)
    (hform : form.isPlain = true) (h : Sited ⟨rest, c.byte + 1⟩ d form.children) :
    TermSited c d form where
  isTerm := Form.isTerm_of_isPlain hform
  token := ⟨ch, rest, hrest, hblank⟩
  parts := ⟨⟨rest, c.byte + 1⟩, reaches_cons hrest hsize, Nat.lt_succ_self _, h⟩
  shownAs text _ := Form.shownAs_of_isPlain hform text

/-- Behind a prefix operator stands no variable and no heredoc, if another operator comes first. -/
theorem TermSited.isPlain {c d : Cursor} {form : Form} (h : TermSited c d form) {ch : Char}
    {rest : List Char} (hrest : c.rest = ch :: rest) (hname : Cursor.isNameStart ch = false)
    (hsign : ch ≠ '<') : form.isPlain = true := by
  obtain ⟨text, hreads⟩ := h.reads
  have hshown := h.shownAs text hreads
  obtain ⟨first, more, rfl, -⟩ := hreads.token
  obtain rfl : ch = first := by
    have hcons := hreads.rest
    rw [hrest] at hcons
    exact (List.cons.inj hcons).1
  cases form with
  | «variable» name =>
    obtain ⟨-, ⟨first', more', heq, hstart⟩, -⟩ := hshown
    obtain ⟨rfl, -⟩ := List.cons.inj heq
    rw [hname] at hstart
    cases hstart
  | heredoc marker parts => exact absurd (List.cons_prefix_cons.1 hshown).1.symm hsign
  | _ => exact h.isTerm

theorem TermSited.of_name {c c₁ d : Cursor} {name : String} {form : Form}
    (hname : c.name = some (name, c₁)) (hform : form.isTerm = true)
    (h : Sited c₁ d form.children) (hshown : ∀ text, Reads c d text → form.ShownAs text) :
    TermSited c d form := by
  obtain ⟨⟨⟨ch, rest, hcs, hstart⟩, -⟩, hrest, -⟩ := Cursor.isName_of_name hname
  have hcloses := Cursor.closes_name hname
  have hblank : isBlank ch = false :=
    Cursor.not_isBlank_of_isNameRest (Cursor.isNameRest_of_isNameStart hstart)
  refine ⟨hform, ⟨ch, rest ++ c₁.rest, by rw [hrest, hcs]; rfl, hblank⟩, ⟨c₁, hcloses.reaches,
    hcloses.byte_lt, h⟩, hshown⟩

/-- The start of a heredoc is its sign and what follows that. -/
theorem heredocStart_spec {c d : Cursor} {indented : Bool} {id : List Char}
    (h : c.heredocStart = some (indented, id, d)) :
    ∃ more, Reads c d ('<' :: '<' :: more) := by
  unfold Cursor.heredocStart at h
  obtain ⟨c₁, h₁, h⟩ := Option.bind_eq_some_iff.1 h
  obtain ⟨⟨name, c₂⟩, h₂, h⟩ := Option.bind_eq_some_iff.1 h
  obtain ⟨hrest, hbyte⟩ := Cursor.expect_eq_some.1 h₁
  have hsign : Reads c c₁ ['<', '<'] := ⟨hrest, hbyte, '<', ['<'], rfl, by decide⟩
  have hname := (Cursor.reaches_skipIf ['-'] c₁).trans (Cursor.closes_name h₂).reaches
  dsimp only at h
  split at h
  · cases h
  · obtain ⟨-, h⟩ := Prod.mk.inj (Option.some.inj h)
    obtain ⟨-, rfl⟩ := Prod.mk.inj h
    exact hsign.trans (hname.trans (Cursor.reaches_lineBreakText c₂))

/-- A heredoc starts with its sign. -/
theorem TermSited.of_heredocStart {c c₁ d : Cursor} {indented : Bool} {id : List Char}
    {marker : Marker} {parts : List Part} (hstart : c.heredocStart = some (indented, id, c₁))
    (h : Sited c₁ d (interpolated parts)) : TermSited c d (.heredoc marker parts) := by
  obtain ⟨more, hopen⟩ := heredocStart_spec hstart
  refine ⟨rfl, ⟨'<', _, hopen.rest, by decide⟩, ⟨c₁, hopen.reaches, ?_, h⟩, fun text hreads => ?_⟩
  · rw [hopen.byte, byteLength_cons]
    exact Nat.lt_add_of_pos_right (Nat.lt_add_right _ (by decide))
  · obtain ⟨others, hall⟩ := hopen.trans h.reaches
    have hsame := hall.rest
    rw [hreads.rest] at hsame
    rw [List.append_cancel_right hsame]
    exact ⟨more ++ others, rfl⟩

theorem interpolated_append (parts parts' : List Part) :
    interpolated (parts ++ parts') = interpolated parts ++ interpolated parts' :=
  List.filterMap_append

theorem interpolation?_of_choice {n start : Nat} {before : Bool} {c d : Cursor} {part : Part}
    (h : choice n start before c = .ok (part, d)) : part.interpolation? = none := by
  cases n with
  | zero => simp [choice] at h
  | succ n => cases choice_succ_iff.1 h <;> rfl

theorem interpolation?_of_repetition {n start : Nat} {before : Bool} {c d : Cursor} {part : Part}
    (h : repetition n start before c = .ok (part, d)) : part.interpolation? = none := by
  cases n with
  | zero => simp [repetition] at h
  | succ n =>
    cases repetition_succ_iff.1 h
    rfl

/-! ## What the readers give -/

/-- What the readers with a bound give stands where it was read. -/
structure Sites (n : Nat) : Prop where
  expr : ∀ {m c e d}, expr n m c = .ok (e, d) → Sited c d [e] ∧ e.span = some ⟨c.byte, d.byte⟩
  operations : ∀ {m start e c e' d b}, operations n m start e c = .ok (e', d) → Sited b c [e] →
    e.span = some ⟨start, c.byte⟩ → Sited b d [e'] ∧ e'.span = some ⟨start, d.byte⟩
  index : ∀ {start c step d}, indexStep n start c = .ok (step, d) →
    Sited c d step.index?.toList ∧ step.EndsAt c d
  term : ∀ {m c form a d}, term n m c = .ok (form, a, d) → TermSited c d form
  operand : ∀ {op m c form a d}, prefixed n op m c = .ok (form, a, d) →
    form.isPlain = true ∧ Sited c d form.children
  word : ∀ {m c form a d}, word n m c = .ok (form, a, d) → TermSited c d form
  arguments : ∀ {m args c args' spread closing d b},
    arguments n m args c = .ok (args', spread, closing, d) → Sited b c args → Sited b d args'
  items : ∀ {m items c items' closing d b}, arrayItems n m items c = .ok (items', closing, d) →
    Sited b c items → Sited b d items'
  entries : ∀ {entries c entries' gap d b}, objectEntries n entries c = .ok (entries', gap, d) →
    Sited b c (entryExprs entries) → Sited b d (entryExprs entries')
  comprehension : ∀ {m keyed c form d}, comprehension n m keyed c = .ok (form, d) →
    form.isPlain = true ∧ Sited c d form.children
  yielded : ∀ {m keyed c key value grouped d}, yielded n m keyed c = .ok (key, value, grouped, d) →
    Sited c d (key.toList ++ [value])
  heredoc : ∀ {c form d}, heredoc n c = .ok (form, d) → TermSited c d form
  heredocBody : ∀ {id c parts gap d}, heredocBody n id c = .ok (parts, gap, d) → Solid id →
    Sited c d (interpolated parts)
  parts : ∀ {closer parts c parts' d b}, templateParts n closer parts c = .ok (parts', d) →
    Sited b c (interpolated parts) → Sited b d (interpolated parts')

namespace Sites

open Cursor

variable {n : Nat} (ih : Sites n)

include ih

theorem expr_succ {m : Mode} {c d : Cursor} {e : Expr} (h : Hcl.expr (n + 1) m c = .ok (e, d)) :
    Sited c d [e] ∧ e.span = some ⟨c.byte, d.byte⟩ := by
  obtain ⟨form, a, next, hterm, hops⟩ := expr_succ_iff.1 h
  exact ih.operations hops (ih.term hterm).sited rfl

theorem operations_succ {m : Mode} {start : Nat} {b c d : Cursor} {e e' : Expr}
    (h : Hcl.operations (n + 1) m start e c = .ok (e', d)) (he : Sited b c [e])
    (hspan : e.span = some ⟨start, c.byte⟩) :
    Sited b d [e'] ∧ e'.span = some ⟨start, d.byte⟩ := by
  cases operations_succ_iff.1 h with
  | stay => exact ⟨he, hspan⟩
  | @dot next c₁ _ x rest step _ hskip hrest hx hstep hops =>
    have hdot := (reaches_skip hskip).trans (reaches_cons hrest rfl)
    obtain ⟨hnone, hends⟩ := dotStep_spec hstep
    have hsited : Sited c c₁ step.index?.toList := by
      rw [hnone]
      exact .nil (hdot.trans (closes_dotStep hstep).reaches)
    exact ih.operations hops (he.addStep start (hspan ▸ rfl) hsited (hends.after hdot))
      (by rw [span_addStep, hends.stop])
  | index hskip hrest hindex hops =>
    obtain ⟨hindex, hends⟩ := ih.index hindex
    have hopen := (reaches_skip hskip).trans (reaches_cons hrest rfl)
    exact ih.operations hops (he.addStep start (hspan ▸ rfl) (hindex.after hopen) (hends.after hopen))
      (by rw [span_addStep, hends.stop])
  | conditional hskip hrest hmode h₁ hyes h₃ hcolon h₅ hno =>
    have hyes := (ih.expr hyes).1.after
      (((reaches_skip hskip).trans (reaches_cons hrest rfl)).trans (reaches_skip h₁))
    have hno := (ih.expr hno).1.after
      (((reaches_skip h₃).trans (reaches_expect hcolon)).trans (reaches_skip h₅))
    exact ⟨((he.append hyes).append hno).wrap (termStart?_eq_none rfl) ⟨nofun⟩
      (.of_not_isTerm nofun nofun), rfl⟩
  | @binary next c₁ c₂ _ op length rhs _ hskip hop h₁ hrhs hops =>
    have hrhs := (ih.expr hrhs).1.after
      (((reaches_skip hskip).trans (reaches_drop hop).1).trans (reaches_skip h₁))
    have hboth := (he.append hrhs).wrap (x := .node (some ⟨start, c₂.byte⟩) (.binary e op rhs))
      (termStart?_eq_none rfl) ⟨nofun⟩ (.of_not_isTerm nofun nofun)
    exact ih.operations hops hboth rfl

theorem index_succ {start : Nat} {c d : Cursor} {step : Step}
    (h : indexStep (n + 1) start c = .ok (step, d)) :
    Sited c d step.index?.toList ∧ step.EndsAt c d := by
  cases index_succ_iff.1 h with
  | splat h₁ hrest h₂ hclose =>
    exact ⟨.nil ((((reaches_skip h₁).trans (reaches_cons hrest rfl)).trans (reaches_skip h₂)).trans
      (reaches_expect hclose)), rfl, fun _ _ _ _ => trivial⟩
  | key h₁ hne hkey h₃ hclose =>
    exact ⟨((ih.expr hkey).1.after (reaches_skip h₁)).before
      ((reaches_skip h₃).trans (reaches_expect hclose)), rfl, fun _ _ _ _ => trivial⟩

theorem term_succ {m a : Mode} {c d : Cursor} {form : Form}
    (h : Hcl.term (n + 1) m c = .ok (form, a, d)) : TermSited c d form := by
  cases term_succ_iff.1 h with
  | quoted hrest hparts hclose =>
    have hsited := (ih.parts hparts (.nil (.refl _))).before (reaches_expect hclose)
    refine .of_cons hrest rfl (by decide) (isPlain_quotedForm _) ?_
    rw [children_quotedForm]
    exact hsited
  | arrayFor hrest hskip hfor hform hclose | objectFor hrest hskip hfor hform hclose =>
    obtain ⟨hterm, hsited⟩ := ih.comprehension hform
    exact .of_cons hrest rfl (by decide) hterm
      ((hsited.after (reaches_skip hskip)).before (reaches_expect hclose))
  | array hrest hskip hfor hitems =>
    exact .of_cons hrest rfl (by decide) rfl (ih.items hitems (.nil (.refl _)))
  | object hrest hskip hfor hentries =>
    exact .of_cons hrest rfl (by decide) rfl (ih.entries hentries (.nil (.refl _)))
  | parens hrest h₁ hinner h₃ hclose =>
    exact .of_cons hrest rfl (by decide) rfl (((ih.expr hinner).1.after (reaches_skip h₁)).before
      ((reaches_skip h₃).trans (reaches_expect hclose)))
  | heredoc hrest hdoc => exact ih.heredoc hdoc
  | not hrest hoperand | neg hrest _ _ _ hoperand =>
    obtain ⟨hterm, hsited⟩ := ih.operand hoperand
    exact .of_cons hrest rfl (by decide) hterm hsited
  | negative hrest hskip hnumber =>
    exact .of_cons hrest rfl (by decide) rfl
      (.nil ((reaches_skip hskip).trans (closes_number hnumber).reaches))
  | number hnumber =>
    obtain ⟨x, rest, hrest, hx⟩ := isDigit_of_number hnumber
    have hcloses := closes_number hnumber
    exact ⟨rfl, ⟨x, rest, hrest, not_isBlank_of_isDigit hx⟩, ⟨d, hcloses.reaches, hcloses.byte_lt,
      .nil (.refl _)⟩, fun _ _ => trivial⟩
  | word hrest hx hword => exact ih.word hword

/-- The operand of a prefix operator stands nowhere itself, but its parts do. -/
theorem operand_succ {op : UnaryOp} {m a : Mode} {c d : Cursor} {form : Form}
    (h : prefixed (n + 1) op m c = .ok (form, a, d)) :
    form.isPlain = true ∧ Sited c d form.children := by
  cases operand_succ_iff.1 h with
  | not h₁ hrest hterm | neg h₁ hrest _ _ _ hterm =>
    have hsited := ih.term hterm
    exact ⟨hsited.isPlain hrest (by decide) (by decide), hsited.children.after (reaches_skip h₁)⟩
  | @negative c₁ _ _ _ number h₁ hrest hskip hnumber =>
    have hsited : TermSited c₁ d (.number number.neg) := .of_cons hrest rfl (by decide) rfl
      (.nil ((reaches_skip hskip).trans (closes_number hnumber).reaches))
    exact ⟨rfl, hsited.detached.after (reaches_skip h₁)⟩
  | term h₁ hnot hneg hterm => exact ⟨rfl, (ih.term hterm).detached.after (reaches_skip h₁)⟩

theorem word_succ {m a : Mode} {c d : Cursor} {form : Form}
    (h : Hcl.word (n + 1) m c = .ok (form, a, d)) : TermSited c d form := by
  cases word_succ_iff.1 h with
  | @bare c₁ _ next name names hname hnames hskip hcall hone =>
    obtain ⟨hterm, hchildren, hshown⟩ := wordForm_spec name
    obtain ⟨hword, hrest, -⟩ := isName_of_name hname
    refine .of_name hname hterm ?_ fun text hreads => ?_
    · rw [hchildren]
      exact .nil (reaches_of_qualifiers hnames)
    · -- A word without qualifiers ends where its only name does.
      obtain rfl := eq_of_qualifiers hnames hone
      obtain rfl : name.toList = text := by
        rw [hreads.rest] at hrest
        exact (List.append_cancel_right hrest).symm
      exact hshown hword
  | call hname hnames hskip hrest hargs =>
    have hopen := ((reaches_of_qualifiers hnames).trans (reaches_skip hskip)).trans
      (reaches_cons hrest rfl)
    exact .of_name hname rfl (ih.arguments hargs (.nil hopen)) fun _ _ => trivial

theorem arguments_succ {m : Mode} {args args' : List Expr} {spread : Bool} {closing : Closing}
    {b c d : Cursor} (h : Hcl.arguments (n + 1) m args c = .ok (args', spread, closing, d))
    (hargs : Sited b c args) : Sited b d args' := by
  -- The argument that is read next, and the blanks behind it.
  have hcons : ∀ {next c₁ c₂ : Cursor} {arg : Expr}, c.skipLines = some next →
      Hcl.expr n m next = .ok (arg, c₁) → c₁.skipLines = some c₂ → Sited b c₂ (args ++ [arg]) :=
    fun hskip harg h₂ =>
      (hargs.append ((ih.expr harg).1.after (reaches_skip hskip))).before (reaches_skip h₂)
  cases arguments_succ_iff.1 h with
  | stop hskip hrest => exact hargs.before ((reaches_skip hskip).trans (reaches_cons hrest rfl))
  | last hskip hne harg h₂ hrest => exact (hcons hskip harg h₂).before (reaches_cons hrest rfl)
  | more hskip hne harg h₂ hrest hmore =>
    exact ih.arguments hmore ((hcons hskip harg h₂).before (reaches_cons hrest rfl))
  | @spread next c₁ c₂ c₃ _ rest arg hskip hne harg h₂ hrest h₃ hclose =>
    have hdots : Reaches c₂ ⟨rest, c₂.byte + 3⟩ := ⟨['.', '.', '.'], hrest, rfl⟩
    exact (hcons hskip harg h₂).before ((hdots.trans (reaches_skip h₃)).trans (reaches_expect hclose))

theorem items_succ {m : Mode} {items items' : List Expr} {closing : Closing} {b c d : Cursor}
    (h : arrayItems (n + 1) m items c = .ok (items', closing, d)) (hitems : Sited b c items) :
    Sited b d items' := by
  -- The item that is read next, and the blanks behind it.
  have hcons : ∀ {next c₁ c₂ : Cursor} {item : Expr}, c.skipLines = some next →
      Hcl.expr n m next = .ok (item, c₁) → c₁.skipLines = some c₂ → Sited b c₂ (items ++ [item]) :=
    fun hskip hitem h₂ =>
      (hitems.append ((ih.expr hitem).1.after (reaches_skip hskip))).before (reaches_skip h₂)
  cases array_succ_iff.1 h with
  | stop hskip hrest => exact hitems.before ((reaches_skip hskip).trans (reaches_cons hrest rfl))
  | last hskip hne hitem h₂ hrest => exact (hcons hskip hitem h₂).before (reaches_cons hrest rfl)
  | more hskip hne hitem h₂ hrest hmore =>
    exact ih.items hmore ((hcons hskip hitem h₂).before (reaches_cons hrest rfl))

theorem entry_of_step {c d : Cursor} {entry : EntryEnd → Entry} (h : EntryStep n c entry d)
    (ending : EntryEnd) : Sited c d (entry ending).exprs := by
  obtain @⟨c₁, c₂, c₃, c₄, c₅, _, key, value, colon, hkey, h₂, hsign, h₄, hvalue, h₆⟩ := h
  have hvalue := ((ih.expr hvalue).1.after
    (((reaches_skip h₂).trans (reaches_expect hsign)).trans (reaches_skip h₄))).before (reaches_skip h₆)
  exact (ih.expr hkey).1.entry colon ending hvalue

theorem entries_succ {entries entries' : List Entry} {gap : Option Span} {b c d : Cursor}
    (h : objectEntries (n + 1) entries c = .ok (entries', gap, d))
    (hentries : Sited b c (entryExprs entries)) : Sited b d (entryExprs entries') := by
  -- The entry that is read next.
  have hcons : ∀ {next c₁ : Cursor} {entry : EntryEnd → Entry} (ending : EntryEnd),
      c.skipLines = some next → EntryStep n next entry c₁ →
        Sited b c₁ (entryExprs (Hcl.insertEntry (entry ending) entries)) :=
    fun ending hskip hentry =>
      hentries.insertEntry ((ih.entry_of_step hentry ending).after (reaches_skip hskip))
  cases entries_succ_iff.1 h with
  | stop hskip hrest => exact hentries.before ((reaches_skip hskip).trans (reaches_cons hrest rfl))
  | last hskip hne hentry hrest => exact (hcons .brace hskip hentry).before (reaches_cons hrest rfl)
  | comma hskip hne hentry hrest hmore =>
    exact ih.entries hmore ((hcons .comma hskip hentry).before (reaches_cons hrest rfl))
  | line hskip hne hentry hbreak hmore =>
    exact ih.entries hmore ((hcons .newline hskip hentry).before (reaches_lineBreak hbreak))

theorem generator_of_step {m : Mode} {keyed : Bool} {c d : Cursor} {form : Option Expr → Form}
    (h : GeneratorStep n m keyed c form d) : (∀ cond, (form cond).isPlain = true) ∧
      ∃ es, Sited c d es ∧ ∀ cond, (form cond).children = es ++ cond.toList := by
  obtain @⟨_, _, _, _, _, _, _, _, _, _, collection, value, key, _, hfor, hnames, h₃, hcollection, h₅,
    hcolon, h₇, hyielded⟩ := h
  have hcollection := (ih.expr hcollection).1.after
    (((reaches_expect hfor).trans (reaches_loopNames hnames)).trans (reaches_skip h₃))
  have hyielded := (ih.yielded hyielded).after
    (((reaches_skip h₅).trans (reaches_expect hcolon)).trans (reaches_skip h₇))
  refine ⟨fun _ => rfl, collection :: (key.toList ++ [value]), hcollection.append hyielded,
    fun cond => ?_⟩
  simp [Form.children]

theorem comprehension_succ {m : Mode} {keyed : Bool} {c d : Cursor} {form : Form}
    (h : Hcl.comprehension (n + 1) m keyed c = .ok (form, d)) :
    form.isPlain = true ∧ Sited c d form.children := by
  cases comprehension_succ_iff.1 h with
  | unfiltered hgenerator hif =>
    obtain ⟨hplain, es, hsited, hchildren⟩ := ih.generator_of_step hgenerator
    rw [hchildren, Option.toList_none, List.append_nil]
    exact ⟨hplain none, hsited⟩
  | filtered hgenerator hif h₃ hcond h₅ =>
    obtain ⟨hplain, es, hsited, hchildren⟩ := ih.generator_of_step hgenerator
    have hcond := (ih.expr hcond).1.after ((reaches_expect hif).trans (reaches_skip h₃))
    rw [hchildren]
    exact ⟨hplain _, (hsited.append hcond).before (reaches_skip h₅)⟩

theorem yielded_succ {m : Mode} {keyed grouped : Bool} {c d : Cursor} {key : Option Expr}
    {value : Expr} (h : Hcl.yielded (n + 1) m keyed c = .ok (key, value, grouped, d)) :
    Sited c d (key.toList ++ [value]) := by
  cases yielded_succ_iff.1 h with
  | value hvalue h₁ => exact (ih.expr hvalue).1.before (reaches_skip h₁)
  | @entry _ _ _ _ _ c₆ _ _ _ _ _ hkey h₂ harrow h₄ hvalue h₆ hdots h₇ =>
    have hvalue := (ih.expr hvalue).1.after
      (((reaches_skip h₂).trans (reaches_expect harrow)).trans (reaches_skip h₄))
    have hdots := congrArg Prod.snd hdots ▸ reaches_skipIf ['.', '.', '.'] c₆
    exact ((ih.expr hkey).1.append hvalue).before
      (((reaches_skip h₆).trans hdots).trans (reaches_skip h₇))

theorem heredoc_succ {c d : Cursor} {form : Form} (h : Hcl.heredoc (n + 1) c = .ok (form, d)) :
    TermSited c d form := by
  cases heredoc_succ_iff.1 h with
  | body hstart hbody =>
    have hsited := ih.heredocBody hbody (isName_of_heredocStart hstart).1.solid
    refine .of_heredocStart hstart ?_
    rw [interpolated_dedentIf]
    exact hsited
  | brief hstart hbody hstop =>
    have hid := (isName_of_heredocStart hstart).1.solid
    exact .of_heredocStart hstart (.nil (closes_heredocStop hid hstop).reaches)

theorem heredocBody_succ {id : List Char} {c d : Cursor} {parts : List Part} {gap : Option Span}
    (h : Hcl.heredocBody (n + 1) id c = .ok (parts, gap, d)) (hid : Solid id) :
    Sited c d (interpolated parts) := by
  obtain ⟨hparts, -, hstop⟩ := heredocBody_succ_iff.1 h
  rw [interpolated_appendBreak]
  exact (ih.parts hparts (.nil (.refl _))).before
    ((reaches_lineBreakText _).trans (closes_heredocStop hid hstop).reaches)

theorem parts_succ {closer : Closer} {parts parts' : List Part} {b c d : Cursor}
    (h : templateParts (n + 1) closer parts c = .ok (parts', d))
    (hparts : Sited b c (interpolated parts)) : Sited b d (interpolated parts') := by
  -- A part that is no interpolation adds no expression.
  have hother : ∀ {c₁ : Cursor} {part : Part}, Reaches c c₁ → part.interpolation? = none →
      Sited b c₁ (interpolated (parts ++ [part])) := by
    intro c₁ part hreach hpart
    have hnone : interpolated [part] = [] := by simp [interpolated, hpart]
    rw [interpolated_append, hnone, List.append_nil]
    exact hparts.before hreach
  cases parts_succ_iff.1 h with
  | @interpolation _ _ _ _ rest _ _ _ _ hrest hopen hinner hclose hmore =>
    have hstart : Reaches c ⟨rest, c.byte + 2⟩ := ⟨['$', '{'], hrest, rfl⟩
    have hinner := ((ih.expr hinner).1.after (hstart.trans (reaches_openSequence hopen))).before
      (closes_closeSequence hclose).reaches
    refine ih.parts hmore ?_
    rw [interpolated_append]
    exact hparts.append hinner
  | @choice c₁ c₂ _ rest inner _ _ _ hrest hopen hinner hpart hmore =>
    have hstart : Reaches c ⟨rest, c.byte + 2⟩ := ⟨['%', '{'], hrest, rfl⟩
    have hword : Reaches c₁ ⟨inner, c₁.byte + 2⟩ := ⟨['i', 'f'], hinner, rfl⟩
    have hmoves : Closes _ c₂ := ((sound n).choice hpart).moves
    exact ih.parts hmore (hother (((hstart.trans (reaches_openSequence hopen)).trans hword).trans
      hmoves.reaches) (interpolation?_of_choice hpart))
  | @repetition c₁ c₂ _ rest inner _ _ _ hrest hopen hinner hpart hmore =>
    have hstart : Reaches c ⟨rest, c.byte + 2⟩ := ⟨['%', '{'], hrest, rfl⟩
    have hword : Reaches c₁ ⟨inner, c₁.byte + 3⟩ := ⟨['f', 'o', 'r'], hinner, rfl⟩
    have hmoves : Closes _ c₂ := ((sound n).repetition hpart).moves
    exact ih.parts hmore (hother (((hstart.trans (reaches_openSequence hopen)).trans hword).trans
      hmoves.reaches) (interpolation?_of_repetition hpart))
  | directive | stop => exact hparts
  | literal hne hend hrun hmore =>
    exact ih.parts hmore (hother (Closer.literalRun_moves hne hend hrun).1 rfl)

end Sites

theorem sites (n : Nat) : Sites n := by
  induction n with
  | zero =>
    constructor
    all_goals simp [expr, operations, indexStep, term, prefixed, word, arguments, arrayItems,
      objectEntries, comprehension, yielded, heredoc, heredocBody, templateParts]
  | succ n ih =>
    exact ⟨ih.expr_succ, ih.operations_succ, ih.index_succ, ih.term_succ, ih.operand_succ,
      ih.word_succ, ih.arguments_succ, ih.items_succ, ih.entries_succ, ih.comprehension_succ,
      ih.yielded_succ, ih.heredoc_succ, ih.heredocBody_succ, ih.parts_succ⟩

/-- What the reader of expressions gives starts its terms at tokens, no two at the same one. -/
theorem expr_sited {n : Nat} {m : Mode} {c d : Cursor} {e : Expr} (h : expr n m c = .ok (e, d)) :
    Sited c d [e] :=
  ((sites n).expr h).1

/-- An expression stands from its first character up to where the reader stops. -/
theorem span_of_expr {n : Nat} {m : Mode} {c d : Cursor} {e : Expr} (h : expr n m c = .ok (e, d)) :
    e.span = some ⟨c.byte, d.byte⟩ :=
  ((sites n).expr h).2

end TerraLint.Hcl
