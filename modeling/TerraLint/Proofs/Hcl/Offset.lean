import TerraLint.Proofs.Hcl.Progress

/-!
# Reading from another offset

Offsets are counted from the start of a text, and nothing that is read depends on them but for where
it stands. So what is read from an offset further on is the same, standing as much further on.

* `Offset`: what stands somewhere, moved by a number of bytes.
* `Expr.same_shift`, `addStep_shift`, `insertEntry_shift`, `dedent_shift`: what is done with trees.
* `skip_shift`, `number_shift`, `Closer.literalRun_shift`: tokens.

The readers of expressions follow in `Depth`, together with the bound on their calls.
-/

namespace TerraLint.Hcl

open Text

/-- What stands at offsets of a text, or is read there. -/
class Offset (α : Type) where
  /-- The same, `k` bytes further on. -/
  shift (k : Nat) : α → α

open Offset

namespace Offset

instance : Offset Cursor := ⟨fun k c => ⟨c.rest, k + c.byte⟩⟩
instance : Offset Span := ⟨fun k s => ⟨k + s.start, k + s.stop⟩⟩
instance : Offset Sequence := ⟨fun k s => { s with span := shift k s.span }⟩
instance {α : Type} [Offset α] : Offset (Option α) := ⟨fun k => Option.map (shift k)⟩
instance {α : Type} [Offset α] : Offset (Reading α) := ⟨fun k => Except.map (shift k)⟩
instance {α β : Type} [Offset α] [Offset β] : Offset (α × β) :=
  ⟨fun k p => (shift k p.1, shift k p.2)⟩
instance : Offset Closing := ⟨fun k z => { z with gap := shift k z.gap }⟩
instance : Offset Marker := ⟨fun k m => { m with gap := shift k m.gap }⟩
instance : Offset Bool := ⟨fun _ b => b⟩
instance : Offset Int := ⟨fun _ i => i⟩
instance : Offset Number := ⟨fun _ x => x⟩
instance : Offset Mode := ⟨fun _ m => m⟩
instance : Offset String := ⟨fun _ s => s⟩
instance : Offset (List Char) := ⟨fun _ s => s⟩
instance : Offset (List String) := ⟨fun _ s => s⟩

end Offset

mutual

/-- An expression `k` bytes further on. -/
def Expr.shift (k : Nat) : Expr → Expr
  | .node span form => .node (Offset.shift k span) (form.shift k)

/-- A form `k` bytes further on. -/
def Form.shift (k : Nat) : Form → Form
  | .null => .null
  | .bool b => .bool b
  | .number x => .number x
  | .string s => .string s
  | .array items z => .array (shiftExprs k items) (Offset.shift k z)
  | .object entries gap => .object (shiftEntries k entries) (Offset.shift k gap)
  | .template parts => .template (shiftParts k parts)
  | .heredoc m parts => .heredoc (Offset.shift k m) (shiftParts k parts)
  | .parens e => .parens (e.shift k)
  | .variable name => .variable name
  | .conditional a b c => .conditional (a.shift k) (b.shift k) (c.shift k)
  | .call name args spread z => .call name (shiftExprs k args) spread (Offset.shift k z)
  | .traversal root steps => .traversal (root.shift k) (shiftSteps k steps)
  | .unary op place e => .unary op (Offset.shift k place) (e.shift k)
  | .binary a op b => .binary (a.shift k) op (b.shift k)
  | .comprehension key name c ke v g cond =>
    .comprehension key name (c.shift k) (shiftOption k ke) (v.shift k) g (shiftOption k cond)

/-- `Expr.shift` on a list. -/
def shiftExprs (k : Nat) : List Expr → List Expr
  | [] => []
  | e :: es => e.shift k :: shiftExprs k es

/-- `Expr.shift` on an optional expression. -/
def shiftOption (k : Nat) : Option Expr → Option Expr
  | none => none
  | some e => some (e.shift k)

/-- Entries `k` bytes further on. -/
def shiftEntries (k : Nat) : List Entry → List Entry
  | [] => []
  | .mk key value colon ending :: es =>
    .mk (key.shift k) (value.shift k) colon ending :: shiftEntries k es

/-- A step `k` bytes further on. -/
def Step.shift (k : Nat) : Step → Step
  | .attr s name => .attr (Offset.shift k s) name
  | .index s key => .index (Offset.shift k s) (key.shift k)
  | .position s i => .position (Offset.shift k s) i
  | .attributeSplat s => .attributeSplat (Offset.shift k s)
  | .fullSplat s => .fullSplat (Offset.shift k s)

/-- `Step.shift` on a list. -/
def shiftSteps (k : Nat) : List Step → List Step
  | [] => []
  | step :: steps => step.shift k :: shiftSteps k steps

/-- A part `k` bytes further on. -/
def Part.shift (k : Nat) : Part → Part
  | .literal text => .literal text
  | .interpolation s e => .interpolation (Offset.shift k s) (e.shift k)
  | .choice o c y m n z =>
    .choice (Offset.shift k o) (c.shift k) (shiftParts k y) (Offset.shift k m) (shiftParts k n)
      (Offset.shift k z)
  | .repetition o key name c b z =>
    .repetition (Offset.shift k o) key name (c.shift k) (shiftParts k b) (Offset.shift k z)

/-- `Part.shift` on a list. -/
def shiftParts (k : Nat) : List Part → List Part
  | [] => []
  | part :: parts => part.shift k :: shiftParts k parts

end

namespace Offset

instance : Offset Expr := ⟨Expr.shift⟩
instance : Offset Form := ⟨Form.shift⟩
instance : Offset Step := ⟨Step.shift⟩
instance : Offset Part := ⟨Part.shift⟩
instance : Offset (List Expr) := ⟨shiftExprs⟩
instance : Offset (List Entry) := ⟨shiftEntries⟩
instance : Offset (List Part) := ⟨shiftParts⟩

end Offset

variable {k : Nat}

theorem shiftExprs_eq_map (es : List Expr) : shiftExprs k es = es.map (Expr.shift k) := by
  induction es with
  | nil => rfl
  | cons e es ih => rw [shiftExprs, ih, List.map_cons]

theorem shiftSteps_eq_map (es : List Step) : shiftSteps k es = es.map (Step.shift k) := by
  induction es with
  | nil => rfl
  | cons e es ih => rw [shiftSteps, ih, List.map_cons]

theorem shiftParts_eq_map (es : List Part) : shiftParts k es = es.map (Part.shift k) := by
  induction es with
  | nil => rfl
  | cons e es ih => rw [shiftParts, ih, List.map_cons]

/-- Moving takes no entry away. -/
theorem length_shiftEntries (es : List Entry) : (shiftEntries k es).length = es.length := by
  induction es with
  | nil => rfl
  | cons e es ih => cases e; rw [shiftEntries, List.length_cons, ih, List.length_cons]

/-! ## Not moved at all -/

theorem Cursor.shift_zero (c : Cursor) : shift 0 c = c :=
  congrArg (Cursor.mk c.rest) (Nat.zero_add c.byte)

theorem Span.shift_zero (s : Span) : shift 0 s = s :=
  congrArg₂ Span.mk (Nat.zero_add s.start) (Nat.zero_add s.stop)

theorem Sequence.shift_zero (s : Sequence) : shift 0 s = s :=
  congrArg (fun span => { s with span }) s.span.shift_zero

/-- What stands nowhere is not moved. -/
theorem Offset.shift_zero_option {α : Type} [Offset α] (h : ∀ a : α, shift 0 a = a) (x : Option α) :
    shift 0 x = x := by
  cases x with
  | none => rfl
  | some a => exact congrArg some (h a)

theorem Closing.shift_zero (z : Closing) : shift 0 z = z :=
  congrArg (Closing.mk z.comma) (shift_zero_option Span.shift_zero z.gap)

theorem Marker.shift_zero (m : Marker) : shift 0 m = m :=
  congrArg (fun gap => { m with gap }) (shift_zero_option Span.shift_zero m.gap)

mutual

/-- Moved by no byte, a tree is the same. -/
theorem Expr.shift_zero : ∀ e : Expr, e.shift 0 = e
  | .node span form => by
    rw [Expr.shift, shift_zero_option Span.shift_zero, form.shift_zero]

theorem Form.shift_zero : ∀ a : Form, a.shift 0 = a
  | .null | .bool _ | .number _ | .string _ | .variable _ => by rw [Form.shift]
  | .array items z => by rw [Form.shift, shiftExprs_zero items, z.shift_zero]
  | .object entries gap => by
    rw [Form.shift, shiftEntries_zero entries, shift_zero_option Span.shift_zero]
  | .template parts => by rw [Form.shift, shiftParts_zero parts]
  | .heredoc m parts => by rw [Form.shift, m.shift_zero, shiftParts_zero parts]
  | .parens e => by rw [Form.shift, e.shift_zero]
  | .conditional a b c => by rw [Form.shift, a.shift_zero, b.shift_zero, c.shift_zero]
  | .call name args spread z => by rw [Form.shift, shiftExprs_zero args, z.shift_zero]
  | .traversal root steps => by rw [Form.shift, root.shift_zero, shiftSteps_zero steps]
  | .unary op place e => by rw [Form.shift, place.shift_zero, e.shift_zero]
  | .binary a op b => by rw [Form.shift, a.shift_zero, b.shift_zero]
  | .comprehension _ _ c ke v _ cond => by
    rw [Form.shift, c.shift_zero, shiftOption_zero ke, v.shift_zero, shiftOption_zero cond]

theorem shiftExprs_zero : ∀ es : List Expr, shiftExprs 0 es = es
  | [] => rfl
  | e :: es => by rw [shiftExprs, e.shift_zero, shiftExprs_zero es]

theorem shiftOption_zero : ∀ e : Option Expr, shiftOption 0 e = e
  | none => rfl
  | some e => by rw [shiftOption, e.shift_zero]

theorem shiftEntries_zero : ∀ es : List Entry, shiftEntries 0 es = es
  | [] => rfl
  | .mk key value _ _ :: es => by
    rw [shiftEntries, key.shift_zero, value.shift_zero, shiftEntries_zero es]

theorem Step.shift_zero : ∀ step : Step, step.shift 0 = step
  | .attr s _ | .position s _ | .attributeSplat s | .fullSplat s => by rw [Step.shift, s.shift_zero]
  | .index s key => by rw [Step.shift, s.shift_zero, key.shift_zero]

theorem shiftSteps_zero : ∀ steps : List Step, shiftSteps 0 steps = steps
  | [] => rfl
  | step :: steps => by rw [shiftSteps, step.shift_zero, shiftSteps_zero steps]

theorem Part.shift_zero : ∀ part : Part, part.shift 0 = part
  | .literal _ => by rw [Part.shift]
  | .interpolation s e => by rw [Part.shift, s.shift_zero, e.shift_zero]
  | .choice o c y m n z => by
    rw [Part.shift, o.shift_zero, c.shift_zero, shiftParts_zero y,
      shift_zero_option Sequence.shift_zero m, shiftParts_zero n, z.shift_zero]
  | .repetition o _ _ c b z => by
    rw [Part.shift, o.shift_zero, c.shift_zero, shiftParts_zero b, z.shift_zero]

theorem shiftParts_zero : ∀ parts : List Part, shiftParts 0 parts = parts
  | [] => rfl
  | part :: parts => by rw [shiftParts, part.shift_zero, shiftParts_zero parts]

end

/-! ## Equality wherever expressions stand -/

/-- Two gaps are the same here if they are the same further on. -/
theorem shift_gap_inj {s s' : Option Span} : shift k s = shift k s' ↔ s = s' := by
  cases s with
  | none => cases s' <;> simp [Offset.shift]
  | some s =>
    cases s' with
    | none => simp [Offset.shift]
    | some s' =>
      obtain ⟨a, b⟩ := s
      obtain ⟨a', b'⟩ := s'
      simp [Offset.shift]

theorem shift_gap_beq (s s' : Option Span) : (shift k s == shift k s') = (s == s') := by
  rw [Bool.eq_iff_iff, beq_iff_eq, beq_iff_eq, shift_gap_inj]

theorem shift_closing_beq (z z' : Closing) : (shift k z == shift k z') = (z == z') := by
  obtain ⟨comma, gap⟩ := z
  obtain ⟨comma', gap'⟩ := z'
  have hgap := @shift_gap_inj k gap gap'
  rw [Bool.eq_iff_iff, beq_iff_eq, beq_iff_eq, Closing.mk.injEq, Closing.mk.injEq]
  exact and_congr_right fun _ => hgap

/-- Of the middle directive of a choice only its marks are compared. -/
theorem sameMiddle_shift (m m' : Option Sequence) :
    sameMiddle (shift k m) (shift k m') = sameMiddle m m' := by
  cases m <;> cases m' <;> rfl

/-- Forms of different kinds are not equal. -/
theorem Form.same_of_ne {a b : Form} (h : a.ctorIdx ≠ b.ctorIdx) : a.same b = false := by
  unfold Form.same
  split
  all_goals first
    | exact absurd rfl h
    | rfl

theorem Form.ctorIdx_shift (k : Nat) (a : Form) : (a.shift k).ctorIdx = a.ctorIdx := by
  cases a <;> rw [Form.shift] <;> rfl

theorem Form.same_shift_of_ne {a b : Form} (h : a.ctorIdx ≠ b.ctorIdx) :
    (a.shift k).same (b.shift k) = a.same b := by
  rw [same_of_ne h, same_of_ne (by rwa [ctorIdx_shift, ctorIdx_shift])]

mutual

/-- Equality of expressions looks at no offsets but those of gaps, so it holds further on just when
it holds here. -/
theorem Expr.same_shift (k : Nat) (e e' : Expr) : (e.shift k).same (e'.shift k) = e.same e' := by
  obtain ⟨s, a⟩ := e
  obtain ⟨s', b⟩ := e'
  rw [Expr.shift, Expr.shift, Expr.same, Expr.same, Form.same_shift k a b]

theorem Form.same_shift (k : Nat) (a b : Form) : (a.shift k).same (b.shift k) = a.same b := by
  cases a with
  | array items z =>
    cases b with
    | array items' z' =>
      simp only [Form.shift, Form.same]
      rw [sameExprs_shift k items, shift_closing_beq]
    | _ => exact Form.same_shift_of_ne (Nat.ne_of_beq_eq_false rfl)
  | object entries gap =>
    cases b with
    | object entries' gap' =>
      simp only [Form.shift, Form.same]
      rw [length_shiftEntries, length_shiftEntries, sameEntries_shift k entries, shift_gap_beq]
    | _ => exact Form.same_shift_of_ne (Nat.ne_of_beq_eq_false rfl)
  | template parts =>
    cases b with
    | template parts' =>
      simp only [Form.shift, Form.same]
      rw [sameParts_shift k parts]
    | _ => exact Form.same_shift_of_ne (Nat.ne_of_beq_eq_false rfl)
  | heredoc m parts =>
    cases b with
    | heredoc m' parts' =>
      simp only [Form.shift, Form.same]
      rw [sameParts_shift k parts]
      exact congrArg (_ && ·) (shift_gap_beq _ _)
    | _ => exact Form.same_shift_of_ne (Nat.ne_of_beq_eq_false rfl)
  | parens e =>
    cases b with
    | parens e' =>
      simp only [Form.shift, Form.same]
      rw [Expr.same_shift k e]
    | _ => exact Form.same_shift_of_ne (Nat.ne_of_beq_eq_false rfl)
  | conditional x y z =>
    cases b with
    | conditional x' y' z' =>
      simp only [Form.shift, Form.same]
      rw [Expr.same_shift k x, Expr.same_shift k y, Expr.same_shift k z]
    | _ => exact Form.same_shift_of_ne (Nat.ne_of_beq_eq_false rfl)
  | call name args spread z =>
    cases b with
    | call name' args' spread' z' =>
      simp only [Form.shift, Form.same]
      rw [sameExprs_shift k args, shift_closing_beq]
    | _ => exact Form.same_shift_of_ne (Nat.ne_of_beq_eq_false rfl)
  | traversal root steps =>
    cases b with
    | traversal root' steps' =>
      simp only [Form.shift, Form.same]
      rw [Expr.same_shift k root, sameSteps_shift k steps]
    | _ => exact Form.same_shift_of_ne (Nat.ne_of_beq_eq_false rfl)
  | unary op place e =>
    cases b with
    | unary op' place' e' =>
      simp only [Form.shift, Form.same]
      rw [Expr.same_shift k e]
    | _ => exact Form.same_shift_of_ne (Nat.ne_of_beq_eq_false rfl)
  | binary x op y =>
    cases b with
    | binary x' op' y' =>
      simp only [Form.shift, Form.same]
      rw [Expr.same_shift k x, Expr.same_shift k y]
    | _ => exact Form.same_shift_of_ne (Nat.ne_of_beq_eq_false rfl)
  | comprehension key name c ke v g cond =>
    cases b with
    | comprehension key' name' c' ke' v' g' cond' =>
      simp only [Form.shift, Form.same]
      rw [Expr.same_shift k c, sameOption_shift k ke, Expr.same_shift k v, sameOption_shift k cond]
    | _ => exact Form.same_shift_of_ne (Nat.ne_of_beq_eq_false rfl)
  | _ =>
    cases b
    all_goals first
      | exact Form.same_shift_of_ne (Nat.ne_of_beq_eq_false rfl)
      | simp only [Form.shift, Form.same]

theorem sameExprs_shift (k : Nat) (as bs : List Expr) :
    sameExprs (shiftExprs k as) (shiftExprs k bs) = sameExprs as bs := by
  cases as with
  | nil => cases bs <;> simp only [shiftExprs, sameExprs]
  | cons a as =>
    cases bs with
    | nil => simp only [shiftExprs, sameExprs]
    | cons b bs =>
      simp only [shiftExprs, sameExprs]
      rw [Expr.same_shift k a, sameExprs_shift k as]

theorem sameOption_shift (k : Nat) (a b : Option Expr) :
    sameOption (shiftOption k a) (shiftOption k b) = sameOption a b := by
  cases a with
  | none => cases b <;> simp only [shiftOption, sameOption]
  | some a =>
    cases b with
    | none => simp only [shiftOption, sameOption]
    | some b =>
      simp only [shiftOption, sameOption]
      rw [Expr.same_shift k a]

theorem sameEntries_shift (k : Nat) (as bs : List Entry) :
    sameEntries (shiftEntries k as) (shiftEntries k bs) = sameEntries as bs := by
  cases as with
  | nil => simp only [shiftEntries, sameEntries]
  | cons a as =>
    obtain ⟨key, value, colon, ending⟩ := a
    have hany : ∀ bs : List Entry, ((shiftEntries k bs).any fun b =>
        Entry.same (.mk (key.shift k) (value.shift k) colon ending) b) =
        bs.any fun b => Entry.same (.mk key value colon ending) b := by
      intro bs
      induction bs with
      | nil => rfl
      | cons b bs ih =>
        obtain ⟨key', value', colon', ending'⟩ := b
        rw [shiftEntries, List.any_cons, List.any_cons, ih, Entry.same, Entry.same,
          Expr.same_shift k key, Expr.same_shift k value]
    simp only [shiftEntries, sameEntries]
    rw [hany, sameEntries_shift k as]

theorem sameSteps_shift (k : Nat) (as bs : List Step) :
    sameSteps (shiftSteps k as) (shiftSteps k bs) = sameSteps as bs := by
  cases as with
  | nil => cases bs <;> simp only [shiftSteps, sameSteps]
  | cons a as =>
    cases bs with
    | nil => cases a <;> simp only [shiftSteps, Step.shift, sameSteps]
    | cons b bs =>
      have hrest := sameSteps_shift k as bs
      cases a with
      | index s key =>
        cases b <;> simp only [shiftSteps, Step.shift, sameSteps]
        rw [Expr.same_shift k key, hrest]
      | _ => cases b <;> simp only [shiftSteps, Step.shift, sameSteps, hrest]

theorem sameParts_shift (k : Nat) (as bs : List Part) :
    sameParts (shiftParts k as) (shiftParts k bs) = sameParts as bs := by
  cases as with
  | nil => cases bs <;> simp only [shiftParts, sameParts]
  | cons a as =>
    cases bs with
    | nil => cases a <;> simp only [shiftParts, Part.shift, sameParts]
    | cons b bs =>
      have hrest := sameParts_shift k as bs
      cases a with
      | literal text => cases b <;> simp only [shiftParts, Part.shift, sameParts, hrest]
      | interpolation s e =>
        cases b <;> simp only [shiftParts, Part.shift, sameParts]
        rw [Expr.same_shift k e, hrest]
        rfl
      | choice o c y m n z =>
        cases b <;> simp only [shiftParts, Part.shift, sameParts]
        rw [Expr.same_shift k c, sameParts_shift k y, sameParts_shift k n, hrest, sameMiddle_shift]
        rfl
      | repetition o key name c b z =>
        cases ‹Part› <;> simp only [shiftParts, Part.shift, sameParts]
        rw [Expr.same_shift k c, sameParts_shift k b, hrest]
        rfl

end

/-! ## Trees as they are built -/

theorem shiftExprs_append (es : List Expr) (e : Expr) :
    shift k (es ++ [e]) = shift k es ++ [shift k e] := by
  change shiftExprs k _ = shiftExprs k _ ++ _
  rw [shiftExprs_eq_map, shiftExprs_eq_map, List.map_append]
  rfl

theorem shiftParts_append (ps : List Part) (p : Part) :
    shift k (ps ++ [p]) = shift k ps ++ [shift k p] := by
  change shiftParts k _ = shiftParts k _ ++ _
  rw [shiftParts_eq_map, shiftParts_eq_map, List.map_append]
  rfl

/-- A step is added to the tree that was read before it. -/
theorem addStep_shift (start : Nat) (e : Expr) (step : Step) :
    addStep (k + start) (shift k e) (shift k step) = shift k (addStep start e step) := by
  have hstop : (shift k step : Step).span.stop = k + step.span.stop := by
    cases step <;> rfl
  obtain ⟨span, form⟩ := e
  have hform : (shift k (Expr.node span form) : Expr).form = form.shift k := rfl
  unfold addStep
  rw [hstop, hform]
  cases form with
  | traversal root steps =>
    dsimp only [Form.shift, Expr.form, Offset.shift, Expr.shift]
    rw [shiftSteps_eq_map, shiftSteps_eq_map, List.map_append]
    rfl
  | _ => rfl

theorem insertEntry_cons (key value key' value' : Expr) (colon colon' : Bool)
    (ending ending' : EntryEnd) (es : List Entry) :
    insertEntry (.mk key value colon ending) (.mk key' value' colon' ending' :: es) =
      if key'.same key then .mk key value colon ending :: es
      else .mk key' value' colon' ending' :: insertEntry (.mk key value colon ending) es := rfl

/-- An entry replaces one with an equal key, wherever both stand. -/
theorem insertEntry_shift (key value : Expr) (colon : Bool) (ending : EntryEnd) (es : List Entry) :
    insertEntry (.mk (key.shift k) (value.shift k) colon ending) (shiftEntries k es) =
      shiftEntries k (insertEntry (.mk key value colon ending) es) := by
  induction es with
  | nil => rfl
  | cons e es ih =>
    obtain ⟨key', value', colon', ending'⟩ := e
    rw [shiftEntries, insertEntry_cons, insertEntry_cons, Expr.same_shift]
    split
    · rw [shiftEntries]
    · rw [shiftEntries, ih]

theorem wordForm_shift (name : String) : shift k (wordForm name) = wordForm name := by
  unfold wordForm
  split
  · rfl
  split
  · rfl
  split <;> rfl

/-- Whether a quoted text is a string or a template is decided by its parts. -/
theorem quotedForm_shift (ps : List Part) : quotedForm (shift k ps) = shift k (quotedForm ps) := by
  match ps with
  | [] => rfl
  | [.literal text] => rfl
  | [.interpolation _ _] | [.choice _ _ _ _ _ _] | [.repetition _ _ _ _ _ _] => rfl
  | p :: p' :: ps => cases p <;> rfl

namespace Heredoc

theorem indents_shift (atStart : Bool) (ps : List Part) :
    indents atStart (shift k ps) = indents atStart ps := by
  induction ps generalizing atStart with
  | nil => rfl
  | cons p ps ih =>
    cases p with
    | literal text => exact congrArg (_ ++ ·) (ih _)
    | _ => exact congrArg (_ ++ ·) (ih _)

theorem dedentBy_shift (n : Nat) (atStart : Bool) (ps : List Part) :
    dedentBy n atStart (shift k ps) = shift k (dedentBy n atStart ps) := by
  induction ps generalizing atStart with
  | nil => rfl
  | cons p ps ih =>
    cases p with
    | literal text => exact congrArg (_ :: ·) (ih _)
    | _ => exact congrArg (_ :: ·) (ih _)

/-- How far a heredoc is indented is decided by its literal text, which stands nowhere. -/
theorem dedent_shift (ps : List Part) :
    dedent (shift k ps) = ((dedent ps).1, shift k (dedent ps).2) := by
  unfold dedent
  rw [indents_shift]
  split
  · rfl
  · rfl
  · rw [dedentBy_shift]

theorem appendBreak_shift (br : List Char) (ps : List Part) :
    appendBreak br (shift k ps) = shift k (appendBreak br ps) := by
  induction ps with
  | nil => rfl
  | cons p ps ih =>
    match p, ps with
    | .literal text, [] => rfl
    | .interpolation _ _, [] | .choice _ _ _ _ _ _, [] | .repetition _ _ _ _ _ _, [] => rfl
    | p, p' :: ps =>
      cases p <;> exact congrArg (_ :: ·) ih

end Heredoc

/-! ## Readings one after the other -/

section Bind

variable {α β : Type} [Offset α] [Offset β]

/-- Two readings one after the other: the second one goes on from what the first one gave. -/
theorem Reading.bind_shift {x x' : Reading α} {f f' : α → Reading β} (hx : x' = shift k x)
    (hf : ∀ a, x = .ok a → f' (shift k a) = shift k (f a)) : (x' >>= f') = shift k (x >>= f) := by
  subst hx
  cases x with
  | error e => rfl
  | ok a => exact hf a rfl

theorem Reading.lift_shift {x x' : Option α} (hx : x' = shift k x) :
    (liftM x' : Reading α) = shift k (liftM x : Reading α) := by
  subst hx
  cases x <;> rfl

theorem Reading.lift_bind_shift {x x' : Option α} {f f' : α → Reading β} (hx : x' = shift k x)
    (hf : ∀ a, x = some a → f' (shift k a) = shift k (f a)) :
    ((liftM x' : Reading α) >>= f') = shift k ((liftM x : Reading α) >>= f) :=
  bind_shift (lift_shift hx) fun a ha => hf a (lift_eq_ok.1 ha)

theorem Reading.settle_shift (x : Reading α) : (shift k x).settle = shift k x.settle := by
  cases x <;> rfl

theorem Option.bind_shift {x x' : Option α} {f f' : α → Option β} (hx : x' = shift k x)
    (hf : ∀ a, x = some a → f' (shift k a) = shift k (f a)) : (x' >>= f') = shift k (x >>= f) := by
  subst hx
  cases x with
  | none => rfl
  | some a => exact hf a rfl

end Bind

/-! ## Tokens -/

namespace Cursor

/-- Tokens are read by their characters only. Lemmas that say so end in `shift`. -/
theorem expect_shift (w : List Char) (c : Cursor) : (shift k c).expect w = shift k (c.expect w) := by
  obtain ⟨cs, byte⟩ := c
  unfold expect
  dsimp only [Offset.shift]
  split
  · exact congrArg (fun b => some (Cursor.mk _ b)) (Nat.add_assoc k byte _)
  · rfl

theorem skipIf_shift (w : List Char) (c : Cursor) : (shift k c).skipIf w = shift k (c.skipIf w) := by
  unfold skipIf
  rw [expect_shift]
  cases c.expect w <;> rfl

theorem takeWhile_shift (p : Char → Bool) (c : Cursor) :
    (shift k c).takeWhile p = shift k (c.takeWhile p) :=
  congrArg (fun b => (_, Cursor.mk _ b)) (Nat.add_assoc k c.byte _)

theorem name_shift (c : Cursor) : (shift k c).name = shift k c.name := by
  obtain ⟨cs, byte⟩ := c
  cases cs with
  | nil => rfl
  | cons ch cs =>
    have htake := @takeWhile_shift k isNameRest ⟨ch :: cs, byte⟩
    unfold name
    dsimp only [Offset.shift] at htake ⊢
    split
    · rw [htake]
      rfl
    · rfl

/-- The readers of blanks and comments count offsets and decide nothing by them. -/
theorem trivia_shift (k : Nat) (s : Trivia) (byte : Nat) (cs : List Char) :
    s.skip (k + byte) cs = shift k (s.skip byte cs) := by
  induction s, cs using Trivia.induction generalizing byte with
  | ends h =>
    rw [Trivia.skip_of_ends h, Trivia.skip_of_ends h]
    rfl
  | takes h ih => rw [Trivia.skip_of_takes h, Trivia.skip_of_takes h, Nat.add_assoc, ih]
  | refuses h =>
    rw [h, h]
    rfl

theorem skip_shift (m : Bool) (c : Cursor) : (shift k c).skip m = shift k (c.skip m) :=
  trivia_shift k (.between m) c.byte c.rest

theorem lineBreak_shift (c : Cursor) : (shift k c).lineBreak = shift k c.lineBreak := by
  obtain ⟨cs, byte⟩ := c
  by_cases h : ∃ w rest, cs = w ++ rest ∧ LineBreak w rest
  · obtain ⟨w, rest, rfl, hw⟩ := h
    refine (lineBreak_of_text hw (k + byte)).trans ?_
    rw [lineBreak_of_text hw, Nat.add_assoc]
    rfl
  · have hnone : ∀ byte, lineBreak ⟨cs, byte⟩ = none := by
      refine fun byte => Option.eq_none_iff_forall_ne_some.2 fun d hd => ?_
      obtain ⟨w, hw, hrest, -⟩ := lineBreak_iff.1 hd
      exact h ⟨w, d.rest, hrest, hw⟩
    refine (hnone (k + byte)).trans ?_
    rw [hnone]
    rfl

/-- The value of an exponent is that of its digits; only the cursor behind it moves. -/
theorem exponent_shift (c : Cursor) : (shift k c).exponent = shift k c.exponent := by
  have hmark : ((shift k c).expect ['e']).or ((shift k c).expect ['E']) =
      shift k ((c.expect ['e']).or (c.expect ['E'])) := by
    rw [expect_shift, expect_shift]
    cases c.expect ['e'] <;> rfl
  have hdigits : ∀ (negative : Bool) (c : Cursor),
      (if ((shift k c).takeWhile Char.isDigit).1.isEmpty then none
        else some (if negative then -(decimalNumber ((shift k c).takeWhile Char.isDigit).1 : Int)
          else decimalNumber ((shift k c).takeWhile Char.isDigit).1,
          ((shift k c).takeWhile Char.isDigit).2)) =
      shift k (if (c.takeWhile Char.isDigit).1.isEmpty then none
        else some (if negative then -(decimalNumber (c.takeWhile Char.isDigit).1 : Int)
          else decimalNumber (c.takeWhile Char.isDigit).1, (c.takeWhile Char.isDigit).2)) := by
    intro negative c
    rw [takeWhile_shift]
    dsimp only [Offset.shift]
    split <;> rfl
  unfold exponent
  refine Option.bind_shift hmark fun c _ => ?_
  dsimp only
  rw [skipIf_shift]
  obtain ⟨negative, c'⟩ := c.skipIf ['-']
  cases negative with
  | true => exact hdigits true c'
  | false =>
    dsimp only [Offset.shift]
    have hplus := @skipIf_shift k ['+'] c'
    dsimp only [Offset.shift] at hplus
    simp only [Bool.false_eq_true, if_false, hplus]
    exact hdigits false _

theorem fractionDigits_shift (c : Cursor) :
    (shift k c).fractionDigits = shift k c.fractionDigits := by
  unfold fractionDigits
  refine Option.bind_shift (expect_shift ['.'] c) fun c _ => ?_
  dsimp only
  rw [takeWhile_shift]
  dsimp only [Offset.shift]
  split <;> rfl

/-- A number has no offset in it. -/
theorem number_shift (c : Cursor) : (shift k c).number = shift k c.number := by
  have hmap : ∀ (x : Option Number) (c : Cursor),
      x.map (·, shift k c) = shift k (x.map (·, c)) := fun x c => by cases x <;> rfl
  unfold Cursor.number
  rw [takeWhile_shift]
  obtain ⟨digits, c'⟩ := c.takeWhile Char.isDigit
  have hfraction := @fractionDigits_shift k c'
  have hexponent := @exponent_shift k c'
  dsimp only [Offset.shift] at hfraction hexponent ⊢
  rw [hfraction, hexponent]
  split
  · rfl
  · cases c'.fractionDigits with
    | some p =>
      obtain ⟨fraction, c₁⟩ := p
      have hexponent := @exponent_shift k c₁
      dsimp only [Offset.shift, Option.map_some] at hexponent ⊢
      rw [hexponent]
      cases c₁.exponent with
      | some p => exact hmap _ _
      | none => exact hmap _ _
    | none =>
      cases c'.exponent with
      | some p => exact hmap _ _
      | none =>
        dsimp only [Option.map_none]
        split <;> rfl

theorem openSequence_shift (c : Cursor) : (shift k c).openSequence = shift k c.openSequence := by
  unfold openSequence
  rw [skipIf_shift]
  exact Option.bind_shift (skip_shift true _) fun _ _ => rfl

theorem closeSequence_shift (c : Cursor) : (shift k c).closeSequence = shift k c.closeSequence := by
  unfold closeSequence
  refine Option.bind_shift (skip_shift true c) fun c _ => ?_
  dsimp only
  rw [skipIf_shift]
  exact Option.bind_shift (expect_shift ['}'] _) fun _ _ => rfl

theorem bareDirective_shift (word : List Char) (c : Cursor) :
    (shift k c).bareDirective word = shift k (c.bareDirective word) := by
  unfold bareDirective
  refine Option.bind_shift (expect_shift ['%', '{'] c) fun c₁ _ => ?_
  refine Option.bind_shift (openSequence_shift c₁) ?_
  rintro ⟨before, c₂⟩ _
  refine Option.bind_shift (expect_shift word c₂) fun c₃ _ => ?_
  exact Option.bind_shift (closeSequence_shift c₃) fun _ _ => rfl

/-- A gap is there if the second cursor stands behind the first one. -/
theorem gap_shift (c next : Cursor) : (shift k c).gap (shift k next) = shift k (c.gap next) := by
  unfold gap
  dsimp only [Offset.shift]
  by_cases h : c.byte < next.byte
  · rw [if_pos h, if_pos (Nat.add_lt_add_left h k)]
    rfl
  · rw [if_neg h, if_neg (mt Nat.lt_of_add_lt_add_left h)]
    rfl

theorem loopNames_shift (c : Cursor) : (shift k c).loopNames = shift k c.loopNames := by
  unfold loopNames
  refine Option.bind_shift (skip_shift true c) fun c₁ _ => ?_
  refine Option.bind_shift (name_shift c₁) ?_
  rintro ⟨first, c₂⟩ _
  refine Option.bind_shift (skip_shift true c₂) fun c₃ _ => ?_
  rw [skipIf_shift]
  obtain ⟨two, c₄⟩ := c₃.skipIf [',']
  cases two with
  | true =>
    refine Option.bind_shift (skip_shift true c₄) fun c₅ _ => ?_
    refine Option.bind_shift (name_shift c₅) ?_
    rintro ⟨second, c₆⟩ _
    refine Option.bind_shift (skip_shift true c₆) fun c₇ _ => ?_
    exact Option.bind_shift (expect_shift ['i', 'n'] c₇) fun _ _ => rfl
  | false => exact Option.bind_shift (expect_shift ['i', 'n'] c₄) fun _ _ => rfl

theorem heredocStart_shift (c : Cursor) : (shift k c).heredocStart = shift k c.heredocStart := by
  unfold heredocStart
  refine Option.bind_shift (expect_shift ['<', '<'] c) fun c₁ _ => ?_
  dsimp only
  rw [skipIf_shift]
  refine Option.bind_shift (name_shift _) ?_
  rintro ⟨name, c₂⟩ _
  dsimp only [Offset.shift]
  split
  · rfl
  · exact congrArg (fun b => some (_, _, Cursor.mk _ b)) (Nat.add_assoc k c₂.byte _)

theorem heredocStop_shift (id : List Char) (c : Cursor) :
    (shift k c).heredocStop id = shift k (c.heredocStop id) := by
  unfold heredocStop
  rw [takeWhile_shift]
  refine Option.bind_shift (expect_shift id _) fun stop _ => ?_
  exact congrArg (fun gap => some (gap, shift k stop)) (gap_shift c _)

theorem positionDigits_shift (c : Cursor) :
    (shift k c).positionDigits = shift k c.positionDigits := by
  unfold positionDigits
  dsimp only [Offset.shift]
  split
  · rfl
  · exact takeWhile_shift _ c

/-- A step stands from its point on. -/
theorem dotStep_shift (start : Nat) (c : Cursor) :
    (shift k c).dotStep (k + start) = shift k (c.dotStep start) := by
  unfold dotStep
  refine Option.bind_shift (skip_shift true c) ?_
  rintro ⟨cs, byte⟩ _
  have hdigits := @positionDigits_shift k ⟨cs, byte⟩
  dsimp only [Offset.shift] at hdigits ⊢
  split
  · rfl
  · rw [hdigits]
    split
    · exact Option.bind_shift (name_shift ⟨cs, byte⟩) fun _ _ => rfl
    · split <;> rfl

end Cursor

namespace Closer

/-- Literal text ends where its closer says, by the text alone. -/
theorem run_shift (closer : Closer) (taken : List Char) (byte : Nat) (cs : List Char) :
    closer.run taken ⟨cs, k + byte⟩ = shift k (closer.run taken ⟨cs, byte⟩) := by
  induction cs using closer.induction generalizing taken byte with
  | ends hends =>
    rw [run_of_ends hends, run_of_ends hends, Nat.add_assoc]
    split <;> rfl
  | takes htakes ih =>
    rw [run_of_takes htakes, run_of_takes htakes, Nat.add_assoc]
    exact ih _ _
  | refuses hnone =>
    rw [hnone, hnone]
    rfl

theorem literalRun_shift (closer : Closer) (c : Cursor) :
    closer.literalRun (shift k c) = shift k (closer.literalRun c) := by
  have hrun := @run_shift k closer [] c.byte c.rest
  cases closer with
  | quote => exact Reading.lift_shift hrun
  | terminator id =>
    unfold literalRun
    dsimp only [Offset.shift, run] at hrun ⊢
    rw [hrun]
    cases Cursor.heredocRun id [] c.byte c.rest <;> rfl
  | endOfText => exact congrArg Except.ok (Option.some.inj hrun)

end Closer

end TerraLint.Hcl
