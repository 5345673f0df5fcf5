import TerraLint.Proofs.Hcl.Completeness
import TerraLint.Proofs.Hcl.Offset

/-!
# Another bound, another offset

A reader may make as many calls as its bound says. A text is read alike under all bounds that allow as
many calls as the text that is left can need, and wherever it stands: what is read `k` bytes further on
is the same, `k` bytes further on.

* `SameBound`: two bounds that allow a number of calls alike.
* `Lockstep`, `lockstep`: with such bounds the readers read the same `k` bytes further on.
* `expr_shift`, `expr_of_enough`: only the offset changes, or only the bound.

Both are said at once, of refusals too: a heredoc whose body is refused as unfinished is read as a brief
one, so what is read depends on what is refused. That is why the readers are opened here instead of
being taken apart by their steps, which only say what was read.
-/

namespace TerraLint.Hcl

open Text Cursor Offset

section Length

variable {n : Nat} {m : Mode} {c d : Cursor}

theorem length_le_of_skip {multiline : Bool} (h : c.skip multiline = some d) :
    d.rest.length ≤ c.rest.length := (reaches_skip h).length_le

theorem length_le_of_expect {w : List Char} (h : c.expect w = some d) :
    d.rest.length ≤ c.rest.length := (reaches_expect h).length_le

/-- An expression takes text away, so the calls behind it need fewer. -/
theorem length_lt_of_expr {e : Expr} (h : expr n m c = .ok (e, d)) :
    d.rest.length < c.rest.length := Closes.length_lt ((sound n).expr h).moves

theorem length_lt_of_name {name : String} (h : c.name = some (name, d)) :
    d.rest.length < c.rest.length := (closes_name h).length_lt

theorem length_lt_of_closeSequence {strip : Bool} (h : c.closeSequence = some (strip, d)) :
    d.rest.length < c.rest.length := (closes_closeSequence h).length_lt

theorem length_lt_of_bareDirective {word : List Char} {seq : Sequence}
    (h : c.bareDirective word = some (seq, d)) : d.rest.length < c.rest.length :=
  (closes_bareDirective h).length_lt

theorem length_le_of_directiveBody {ps : List Part} (h : directiveBody n c = .ok (ps, d)) :
    d.rest.length ≤ c.rest.length := Reaches.length_le ((sound n).directiveBody h).moves

end Length

/-- Two bounds that allow `calls` calls alike: they are the same, or both allow so many. -/
abbrev SameBound (n n' calls : Nat) : Prop := n = n' ∨ calls ≤ n ∧ calls ≤ n'

/-- Every qualifier takes one call, and at least one character. -/
theorem Cursor.qualifiers_shift (k : Nat) (m : Bool) {n n' : Nat} (names : List String) {c : Cursor}
    (hn : SameBound n n' (c.rest.length + 1)) :
    (shift k c).qualifiers m n' names = shift k (c.qualifiers m n names) := by
  induction n generalizing n' names c with
  | zero =>
    obtain rfl : n' = 0 := by omega
    rfl
  | succ n ih =>
    obtain ⟨n', rfl⟩ : ∃ l, n' = l + 1 := ⟨n' - 1, by omega⟩
    unfold qualifiers
    refine Option.bind_shift (skip_shift m c) fun next h₁ => ?_
    rw [expect_shift]
    cases h₂ : next.expect [':', ':'] with
    | none => rfl
    | some c₁ =>
      refine Option.bind_shift (skip_shift m c₁) fun c₂ h₃ => ?_
      refine Option.bind_shift (name_shift c₂) ?_
      rintro ⟨name, c₃⟩ h₄
      have hle := ((reaches_skip h₁).trans (reaches_expect h₂)).trans (reaches_skip h₃)
      have hlt := (hle.closes (closes_name h₄)).length_lt
      exact ih _ (by dsimp only; omega)

/-- Read with bounds that allow the calls it needs alike, a text gives the same `k` bytes further on. -/
structure Lockstep (k n n' : Nat) : Prop where
  expr : ∀ m c, SameBound n n' (4 * c.rest.length + 3) →
    expr n' m (shift k c) = shift k (expr n m c)
  operations : ∀ m start e c, SameBound n n' (4 * c.rest.length + 1) →
    operations n' m (k + start) (shift k e) (shift k c) = shift k (operations n m start e c)
  index : ∀ start c, SameBound n n' (4 * c.rest.length + 4) →
    indexStep n' (k + start) (shift k c) = shift k (indexStep n start c)
  term : ∀ m c, SameBound n n' (4 * c.rest.length + 2) →
    term n' m (shift k c) = shift k (term n m c)
  operand : ∀ op m c, SameBound n n' (4 * c.rest.length + 3) →
    prefixed n' op m (shift k c) = shift k (prefixed n op m c)
  word : ∀ m c, SameBound n n' (4 * c.rest.length + 1) →
    word n' m (shift k c) = shift k (word n m c)
  arguments : ∀ m args c, SameBound n n' (4 * c.rest.length + 4) →
    arguments n' m (shift k args) (shift k c) = shift k (arguments n m args c)
  items : ∀ m items c, SameBound n n' (4 * c.rest.length + 4) →
    arrayItems n' m (shift k items) (shift k c) = shift k (arrayItems n m items c)
  entries : ∀ es c, SameBound n n' (4 * c.rest.length + 4) →
    objectEntries n' (shift k es) (shift k c) = shift k (objectEntries n es c)
  comprehension : ∀ m keyed c, SameBound n n' (4 * c.rest.length + 2) →
    comprehension n' m keyed (shift k c) = shift k (comprehension n m keyed c)
  yielded : ∀ m keyed c, SameBound n n' (4 * c.rest.length + 4) →
    yielded n' m keyed (shift k c) = shift k (yielded n m keyed c)
  heredoc : ∀ c, SameBound n n' (4 * c.rest.length + 1) →
    heredoc n' (shift k c) = shift k (heredoc n c)
  heredocBody : ∀ id c, SameBound n n' (4 * c.rest.length + 2) →
    heredocBody n' id (shift k c) = shift k (heredocBody n id c)
  parts : ∀ closer ps c, SameBound n n' (4 * c.rest.length + 1) →
    templateParts n' closer (shift k ps) (shift k c) = shift k (templateParts n closer ps c)
  choice : ∀ start before c, SameBound n n' (4 * c.rest.length + 4) →
    choice n' (k + start) before (shift k c) = shift k (choice n start before c)
  repetition : ∀ start before c, SameBound n n' (4 * c.rest.length + 4) →
    repetition n' (k + start) before (shift k c) = shift k (repetition n start before c)
  directiveBody : ∀ c, SameBound n n' (4 * c.rest.length + 2) →
    directiveBody n' (shift k c) = shift k (directiveBody n c)

namespace Lockstep

variable {k n n' : Nat} (ih : Lockstep k n n')

include ih

theorem expr_succ (m : Mode) (c : Cursor) (hn : SameBound (n + 1) (n' + 1) (4 * c.rest.length + 3)) :
    Hcl.expr (n' + 1) m (shift k c) = shift k (Hcl.expr (n + 1) m c) := by
  rw [Hcl.expr, Hcl.expr]
  refine Reading.bind_shift (ih.term m c (by omega)) ?_
  rintro ⟨form, after, next⟩ h
  have hlt := Closes.length_lt ((sound _).term h).moves
  exact ih.operations after c.byte (.node (some ⟨c.byte, next.byte⟩) form) next (by omega)

theorem operations_succ (m : Mode) (start : Nat) (e : Expr) (c : Cursor)
    (hn : SameBound (n + 1) (n' + 1) (4 * c.rest.length + 1)) :
    Hcl.operations (n' + 1) m (k + start) (shift k e) (shift k c) =
      shift k (Hcl.operations (n + 1) m start e c) := by
  rw [Hcl.operations, Hcl.operations]
  refine Reading.lift_bind_shift (skip_shift _ c) ?_
  rintro ⟨cs, byte⟩ h
  have hnext := length_le_of_skip h
  dsimp only [Offset.shift] at hnext ⊢
  split
  · rfl
  · rename_i x rest _
    rw [List.length_cons, List.length_cons] at hnext
    refine Reading.lift_bind_shift (dotStep_shift byte ⟨x :: rest, byte + 1⟩) ?_
    rintro ⟨step, c₁⟩ h₁
    have hlt := (closes_dotStep h₁).length_lt
    rw [List.length_cons] at hlt
    rw [← ih.operations _ _ _ _ (by dsimp only; omega), ← addStep_shift]
    rfl
  · rename_i x rest
    rw [List.length_cons, List.length_cons] at hnext
    refine Reading.bind_shift (ih.index byte ⟨x :: rest, byte + 1⟩ ?_) ?_
    · rw [List.length_cons]
      omega
    rintro ⟨step, c₁⟩ h₁
    have hlt := Closes.length_lt ((sound _).index h₁).moves
    rw [List.length_cons] at hlt
    rw [← ih.operations _ _ _ _ (by dsimp only; omega), ← addStep_shift]
    rfl
  · rename_i x rest
    rw [List.length_cons, List.length_cons] at hnext
    split
    · refine Reading.lift_bind_shift (skip_shift _ ⟨x :: rest, byte + 1⟩) fun c₁ h₁ => ?_
      have hle := length_le_of_skip h₁
      rw [List.length_cons] at hle
      refine Reading.bind_shift (ih.expr _ c₁ (by omega)) ?_
      rintro ⟨yes, c₂⟩ h₂
      refine Reading.lift_bind_shift (skip_shift _ c₂) fun c₃ h₃ => ?_
      refine Reading.lift_bind_shift (expect_shift _ c₃) fun c₄ h₄ => ?_
      refine Reading.lift_bind_shift (skip_shift _ c₄) fun c₅ h₅ => ?_
      have hyes := length_lt_of_expr h₂
      have hcolon := (((reaches_skip h₃).trans (reaches_expect h₄)).trans
        (reaches_skip h₅)).length_le
      dsimp only at hcolon
      exact Reading.bind_shift (ih.expr _ c₅ (by omega)) fun _ _ => rfl
    · rfl
  · split
    · rfl
    · rename_i op length hop
      have hlength := length_drop_lt hop
      rw [Nat.add_assoc]
      refine Reading.lift_bind_shift (skip_shift _ ⟨cs.drop length, byte + length⟩)
        fun c₁ h₁ => ?_
      have hle := length_le_of_skip h₁
      dsimp only at hle
      refine Reading.bind_shift (ih.expr _ c₁ (by omega)) ?_
      rintro ⟨rhs, c₂⟩ h₂
      have hlt := length_lt_of_expr h₂
      exact ih.operations m.operated start (.node (some ⟨start, c₂.byte⟩) (.binary e op rhs)) c₂
        (by omega)

theorem index_succ (start : Nat) (c : Cursor)
    (hn : SameBound (n + 1) (n' + 1) (4 * c.rest.length + 4)) :
    indexStep (n' + 1) (k + start) (shift k c) = shift k (indexStep (n + 1) start c) := by
  rw [indexStep, indexStep]
  refine Reading.lift_bind_shift (skip_shift true c) ?_
  rintro ⟨cs, byte⟩ h
  have hnext := length_le_of_skip h
  dsimp only [Offset.shift] at hnext ⊢
  split
  · rename_i rest
    refine Reading.lift_bind_shift (skip_shift true ⟨rest, byte + 1⟩) fun c₁ _ => ?_
    exact Reading.lift_bind_shift (expect_shift [']'] c₁) fun _ _ => rfl
  · refine Reading.bind_shift (ih.expr .enclosed ⟨cs, byte⟩ (by dsimp only; omega)) ?_
    rintro ⟨key, c₁⟩ _
    refine Reading.lift_bind_shift (skip_shift true c₁) fun c₂ _ => ?_
    exact Reading.lift_bind_shift (expect_shift [']'] c₂) fun _ _ => rfl

theorem term_succ (m : Mode) (c : Cursor)
    (hn : SameBound (n + 1) (n' + 1) (4 * c.rest.length + 2)) :
    Hcl.term (n' + 1) m (shift k c) = shift k (Hcl.term (n + 1) m c) := by
  obtain ⟨cs, byte⟩ := c
  rw [Hcl.term, Hcl.term]
  dsimp only [Offset.shift] at hn ⊢
  split
  · rfl
  · rename_i rest
    rw [List.length_cons] at hn
    refine Reading.bind_shift ?_ ?_
    · rw [← Reading.settle_shift, ← ih.parts _ _ _ (by dsimp only; omega)]
      rfl
    · rintro ⟨ps, c₁⟩ _
      refine Reading.lift_bind_shift (expect_shift ['"'] c₁) fun c₂ _ => ?_
      exact congrArg (fun form => Except.ok (form, _, _)) (quotedForm_shift ps)
  · rename_i rest
    rw [List.length_cons] at hn
    refine Reading.lift_bind_shift (skip_shift true ⟨rest, byte + 1⟩) fun next h => ?_
    have hle := length_le_of_skip h
    dsimp only [Offset.shift] at hle ⊢
    split
    · refine Reading.bind_shift (ih.comprehension _ false next (by omega)) ?_
      rintro ⟨form, c₁⟩ _
      exact Reading.lift_bind_shift (expect_shift [']'] c₁) fun _ _ => rfl
    · exact Reading.bind_shift (ih.items _ [] ⟨rest, byte + 1⟩ (by dsimp only; omega))
        fun _ _ => rfl
  · rename_i rest
    rw [List.length_cons] at hn
    refine Reading.lift_bind_shift (skip_shift true ⟨rest, byte + 1⟩) fun next h => ?_
    have hle := length_le_of_skip h
    dsimp only [Offset.shift] at hle ⊢
    split
    · refine Reading.bind_shift (ih.comprehension _ true next (by omega)) ?_
      rintro ⟨form, c₁⟩ _
      exact Reading.lift_bind_shift (expect_shift ['}'] c₁) fun _ _ => rfl
    · exact Reading.bind_shift (ih.entries [] ⟨rest, byte + 1⟩ (by dsimp only; omega))
        fun _ _ => rfl
  · rename_i rest
    rw [List.length_cons] at hn
    refine Reading.lift_bind_shift (skip_shift true ⟨rest, byte + 1⟩) fun c₁ h₁ => ?_
    have hle := length_le_of_skip h₁
    dsimp only at hle
    refine Reading.bind_shift (ih.expr .enclosed c₁ (by omega)) ?_
    rintro ⟨inner, c₂⟩ _
    refine Reading.lift_bind_shift (skip_shift true c₂) fun c₃ _ => ?_
    exact Reading.lift_bind_shift (expect_shift [')'] c₃) fun _ _ => rfl
  · exact Reading.bind_shift (ih.heredoc ⟨_, byte⟩ (by dsimp only; omega)) fun _ _ => rfl
  · rw [List.length_cons] at hn
    exact ih.operand .not m ⟨_, byte + 1⟩ (by dsimp only; omega)
  · rename_i rest
    rw [List.length_cons] at hn
    refine Reading.lift_bind_shift (skip_shift false ⟨rest, byte + 1⟩) ?_
    rintro ⟨cs', byte'⟩ _
    dsimp only [Offset.shift]
    split
    · split
      · exact Reading.lift_bind_shift (number_shift ⟨_, byte'⟩) fun _ _ => rfl
      · exact ih.operand .neg m ⟨rest, byte + 1⟩ (by dsimp only; omega)
    · rfl
  · split
    · exact Reading.lift_bind_shift (number_shift ⟨_, byte⟩) fun _ _ => rfl
    · exact ih.word m ⟨_, byte⟩ (by dsimp only; omega)

theorem operand_succ (op : UnaryOp) (m : Mode) (c : Cursor)
    (hn : SameBound (n + 1) (n' + 1) (4 * c.rest.length + 3)) :
    prefixed (n' + 1) op m (shift k c) = shift k (prefixed (n + 1) op m c) := by
  rw [prefixed, prefixed]
  refine Reading.lift_bind_shift (skip_shift false c) fun next h => ?_
  have hle := length_le_of_skip h
  have hterm := ih.term m next (by omega)
  obtain ⟨cs, byte⟩ := next
  dsimp only [Offset.shift] at hterm ⊢
  split
  · exact hterm
  · rename_i rest
    refine Reading.lift_bind_shift (skip_shift false ⟨rest, byte + 1⟩) ?_
    rintro ⟨cs', byte'⟩ _
    dsimp only [Offset.shift]
    split
    · split
      · exact Reading.lift_bind_shift (number_shift ⟨_, byte'⟩) fun _ _ => rfl
      · exact hterm
    · rfl
  · exact Reading.bind_shift hterm fun _ _ => rfl

theorem word_succ (m : Mode) (c : Cursor)
    (hn : SameBound (n + 1) (n' + 1) (4 * c.rest.length + 1)) :
    Hcl.word (n' + 1) m (shift k c) = shift k (Hcl.word (n + 1) m c) := by
  rw [Hcl.word, Hcl.word]
  refine Reading.lift_bind_shift (name_shift c) ?_
  rintro ⟨name, c₁⟩ hname
  have hlt := length_lt_of_name hname
  refine Reading.lift_bind_shift (qualifiers_shift k m.multiline [name] (by dsimp only; omega)) ?_
  rintro ⟨names, c₂⟩ hnames
  have hle := (reaches_of_qualifiers hnames).length_le
  refine Reading.lift_bind_shift (skip_shift m.multiline c₂) ?_
  rintro ⟨cs, byte⟩ h
  have hnext := length_le_of_skip h
  dsimp only [Offset.shift] at hnext ⊢
  split
  · rename_i rest
    rw [List.length_cons] at hnext
    exact Reading.bind_shift (ih.arguments m.spread.inner [] ⟨rest, byte + 1⟩
      (by dsimp only; omega)) fun _ _ => rfl
  · split
    · exact congrArg (fun form => Except.ok (form, _, _)) (wordForm_shift name).symm
    · rfl

theorem arguments_succ (m : Mode) (args : List Expr) (c : Cursor)
    (hn : SameBound (n + 1) (n' + 1) (4 * c.rest.length + 4)) :
    Hcl.arguments (n' + 1) m (shift k args) (shift k c) =
      shift k (Hcl.arguments (n + 1) m args c) := by
  rw [Hcl.arguments, Hcl.arguments]
  refine Reading.lift_bind_shift (skip_shift true c) fun next h => ?_
  have hnext := length_le_of_skip h
  have hgap := @gap_shift k c next
  obtain ⟨cs, byte⟩ := next
  dsimp only [Offset.shift] at hgap hnext ⊢
  split
  · rw [hgap]
    cases args <;> rfl
  · refine Reading.bind_shift (ih.expr m ⟨cs, byte⟩ (by dsimp only; omega)) ?_
    rintro ⟨arg, c₁⟩ h₁
    refine Reading.lift_bind_shift (skip_shift true c₁) ?_
    rintro ⟨cs', byte'⟩ h₂
    have hlt := length_lt_of_expr h₁
    have hle := length_le_of_skip h₂
    dsimp only [Offset.shift] at hlt hle ⊢
    split
    · exact congrArg (fun args => Except.ok (args, _, _)) (shiftExprs_append args arg).symm
    · rename_i rest
      rw [List.length_cons] at hle
      have hmore := ih.arguments m (args ++ [arg]) ⟨rest, byte' + 1⟩ (by dsimp only; omega)
      rw [shiftExprs_append] at hmore
      exact hmore
    · rename_i rest
      refine Reading.lift_bind_shift (skip_shift true ⟨rest, byte' + 3⟩) fun next _ => ?_
      refine Reading.lift_bind_shift (expect_shift [')'] next) fun stop _ => ?_
      have hgap := @gap_shift k ⟨rest, byte' + 3⟩ next
      exact congrArg Except.ok (Prod.ext (shiftExprs_append args arg).symm
        (congrArg (fun gap => (true, Closing.mk false gap, shift k stop)) hgap))
    · rfl

theorem items_succ (m : Mode) (items : List Expr) (c : Cursor)
    (hn : SameBound (n + 1) (n' + 1) (4 * c.rest.length + 4)) :
    arrayItems (n' + 1) m (shift k items) (shift k c) =
      shift k (arrayItems (n + 1) m items c) := by
  rw [arrayItems, arrayItems]
  refine Reading.lift_bind_shift (skip_shift true c) fun next h => ?_
  have hnext := length_le_of_skip h
  have hgap := @gap_shift k c next
  obtain ⟨cs, byte⟩ := next
  dsimp only [Offset.shift] at hgap hnext ⊢
  split
  · rw [hgap]
    cases items <;> rfl
  · refine Reading.bind_shift (ih.expr m ⟨cs, byte⟩ (by dsimp only; omega)) ?_
    rintro ⟨item, c₁⟩ h₁
    refine Reading.lift_bind_shift (skip_shift true c₁) ?_
    rintro ⟨cs', byte'⟩ h₂
    have hlt := length_lt_of_expr h₁
    have hle := length_le_of_skip h₂
    dsimp only [Offset.shift] at hlt hle ⊢
    split
    · exact congrArg (fun items => Except.ok (items, _, _)) (shiftExprs_append items item).symm
    · rename_i rest
      rw [List.length_cons] at hle
      have hmore := ih.items m (items ++ [item]) ⟨rest, byte' + 1⟩ (by dsimp only; omega)
      rw [shiftExprs_append] at hmore
      exact hmore
    · rfl

theorem entries_succ (es : List Entry) (c : Cursor)
    (hn : SameBound (n + 1) (n' + 1) (4 * c.rest.length + 4)) :
    objectEntries (n' + 1) (shift k es) (shift k c) = shift k (objectEntries (n + 1) es c) := by
  rw [objectEntries, objectEntries]
  refine Reading.lift_bind_shift (skip_shift true c) fun next h => ?_
  have hnext := length_le_of_skip h
  have hgap := @gap_shift k c next
  obtain ⟨cs, byte⟩ := next
  dsimp only [Offset.shift] at hgap hnext ⊢
  split
  · rw [hgap]
    rfl
  · refine Reading.bind_shift (ih.expr .inline ⟨cs, byte⟩ (by dsimp only; omega)) ?_
    rintro ⟨key, c₁⟩ h₁
    refine Reading.lift_bind_shift (skip_shift false c₁) fun c₂ h₂ => ?_
    have hkey := length_lt_of_expr h₁
    have hstart := ((reaches_skip h₂).trans (reaches_skipIf [':'] c₂)).length_le
    rw [skipIf_shift]
    generalize c₂.skipIf [':'] = r at hstart ⊢
    obtain ⟨colon, c₃⟩ := r
    rw [ite_bind, ite_bind]
    refine Reading.bind_shift ?_ fun c₄ h₄ => ?_
    · cases colon with
      | true => rfl
      | false => exact Reading.lift_shift (expect_shift ['='] c₃)
    have hsign : c₄.rest.length ≤ c₃.rest.length := by
      split at h₄
      · exact (pure_eq_ok.1 h₄ ▸ le_refl _)
      · exact length_le_of_expect (lift_eq_ok.1 h₄)
    refine Reading.lift_bind_shift (skip_shift false c₄) fun c₅ h₅ => ?_
    have hle₅ := length_le_of_skip h₅
    dsimp only at hkey hstart
    refine Reading.bind_shift (ih.expr .inline c₅ (by omega)) ?_
    rintro ⟨value, c₆⟩ h₆
    refine Reading.lift_bind_shift (skip_shift false c₆) ?_
    rintro ⟨cs', byte'⟩ h₇
    have hvalue := length_lt_of_expr h₆
    have hle₇ := length_le_of_skip h₇
    dsimp only [Offset.shift] at hle₇ ⊢
    split
    · exact congrArg (fun es => Except.ok (es, _, _)) (insertEntry_shift key value colon .brace es)
    · rename_i rest
      rw [List.length_cons] at hle₇
      have hentry := @insertEntry_shift k key value colon .comma es
      exact (congrArg (objectEntries n' · _) hentry).trans
        (ih.entries _ ⟨rest, byte' + 1⟩ (by dsimp only; omega))
    · refine Reading.lift_bind_shift (lineBreak_shift ⟨cs', byte'⟩) fun c₈ h₈ => ?_
      have hle₈ := (reaches_lineBreak h₈).length_le
      dsimp only at hle₈
      have hentry := @insertEntry_shift k key value colon .newline es
      exact (congrArg (objectEntries n' · _) hentry).trans (ih.entries _ c₈ (by omega))

theorem comprehension_succ (m : Mode) (keyed : Bool) (c : Cursor)
    (hn : SameBound (n + 1) (n' + 1) (4 * c.rest.length + 2)) :
    Hcl.comprehension (n' + 1) m keyed (shift k c) =
      shift k (Hcl.comprehension (n + 1) m keyed c) := by
  rw [Hcl.comprehension, Hcl.comprehension]
  refine Reading.lift_bind_shift (expect_shift _ c) fun c₁ h₁ => ?_
  refine Reading.lift_bind_shift (loopNames_shift c₁) ?_
  rintro ⟨keyName, valueName, c₂⟩ h₂
  refine Reading.lift_bind_shift (skip_shift true c₂) fun c₃ h₃ => ?_
  have hfor := (closes_expect ⟨by simp, by decide⟩ h₁).length_lt
  have hnames := ((reaches_loopNames h₂).trans (reaches_skip h₃)).length_le
  refine Reading.bind_shift (ih.expr .inline c₃ (by omega)) ?_
  rintro ⟨collection, c₄⟩ h₄
  refine Reading.lift_bind_shift (skip_shift true c₄) fun c₅ h₅ => ?_
  refine Reading.lift_bind_shift (expect_shift [':'] c₅) fun c₆ h₆ => ?_
  refine Reading.lift_bind_shift (skip_shift true c₆) fun c₇ h₇ => ?_
  have hcollection := length_lt_of_expr h₄
  have hcolon := (((reaches_skip h₅).trans (reaches_expect h₆)).trans (reaches_skip h₇)).length_le
  refine Reading.bind_shift (ih.yielded m keyed c₇ (by omega)) ?_
  rintro ⟨key, value, grouped, c₈⟩ h₈
  have hyielded := Reaches.length_le ((sound _).yielded h₈).moves
  have hform : ∀ cond : Option Expr, (shift k (Form.comprehension keyName valueName collection key
      value grouped cond) : Form) = .comprehension (shift k keyName) valueName (shift k collection)
        (shift k key) (shift k value) grouped (shift k cond) := by
    intro cond
    cases keyName <;> cases key <;> cases cond <;> rfl
  have hif := @expect_shift k ['i', 'f'] c₈
  dsimp only [Offset.shift] at hform hif ⊢
  rw [hif]
  cases h₉ : c₈.expect ['i', 'f'] with
  | none => exact congrArg (fun form => Except.ok (form, _)) (hform none).symm
  | some c₉ =>
    refine Reading.lift_bind_shift (skip_shift true c₉) fun c₁₀ h₁₀ => ?_
    have hif := ((reaches_expect h₉).trans (reaches_skip h₁₀)).length_le
    refine Reading.bind_shift (ih.expr m.inner c₁₀ (by omega)) ?_
    rintro ⟨cond, c₁₁⟩ _
    refine Reading.lift_bind_shift (skip_shift true c₁₁) fun c₁₂ _ => ?_
    exact congrArg (fun form => Except.ok (form, _)) (hform (some cond)).symm

theorem yielded_succ (m : Mode) (keyed : Bool) (c : Cursor)
    (hn : SameBound (n + 1) (n' + 1) (4 * c.rest.length + 4)) :
    Hcl.yielded (n' + 1) m keyed (shift k c) = shift k (Hcl.yielded (n + 1) m keyed c) := by
  rw [Hcl.yielded, Hcl.yielded]
  cases keyed with
  | true =>
    rw [if_pos rfl, if_pos rfl]
    refine Reading.bind_shift (ih.expr .inline c (by omega)) ?_
    rintro ⟨key, c₁⟩ h₁
    refine Reading.lift_bind_shift (skip_shift true c₁) fun c₂ h₂ => ?_
    refine Reading.lift_bind_shift (expect_shift ['=', '>'] c₂) fun c₃ h₃ => ?_
    refine Reading.lift_bind_shift (skip_shift true c₃) fun c₄ h₄ => ?_
    have hkey := length_lt_of_expr h₁
    have harrow := (((reaches_skip h₂).trans (reaches_expect h₃)).trans
      (reaches_skip h₄)).length_le
    refine Reading.bind_shift (ih.expr .inline c₄ (by omega)) ?_
    rintro ⟨value, c₅⟩ _
    refine Reading.lift_bind_shift (skip_shift true c₅) fun c₆ _ => ?_
    rw [skipIf_shift]
    exact Reading.lift_bind_shift (skip_shift true _) fun _ _ => rfl
  | false =>
    rw [if_neg Bool.false_ne_true, if_neg Bool.false_ne_true]
    refine Reading.bind_shift (ih.expr m.inner c (by omega)) ?_
    rintro ⟨value, c₁⟩ _
    exact Reading.lift_bind_shift (skip_shift true c₁) fun _ _ => rfl

theorem heredoc_succ (c : Cursor) (hn : SameBound (n + 1) (n' + 1) (4 * c.rest.length + 1)) :
    Hcl.heredoc (n' + 1) (shift k c) = shift k (Hcl.heredoc (n + 1) c) := by
  rw [Hcl.heredoc, Hcl.heredoc]
  refine Reading.lift_bind_shift (heredocStart_shift c) ?_
  rintro ⟨indented, id, c₁⟩ h₁
  have hlt := length_lt_of_heredocStart h₁
  have hbody := ih.heredocBody id c₁ (by omega)
  dsimp only [Offset.shift] at hbody ⊢
  rw [hbody]
  -- An unfinished body is one outcome of the body's reader; both readings meet it or neither does.
  cases Hcl.heredocBody n id c₁ with
  | ok r =>
    obtain ⟨ps, gap, stop⟩ := r
    cases indented with
    | true =>
      have hdedent := @Heredoc.dedent_shift k ps
      dsimp only [Offset.shift, Except.map] at hdedent ⊢
      rw [if_pos rfl, if_pos rfl, hdedent]
      rfl
    | false => rfl
  | error e =>
    cases e with
    | unfinished => exact Reading.lift_bind_shift (heredocStop_shift id c₁) fun _ _ => rfl
    | final => rfl

theorem heredocBody_succ (id : List Char) (c : Cursor)
    (hn : SameBound (n + 1) (n' + 1) (4 * c.rest.length + 2)) :
    Hcl.heredocBody (n' + 1) id (shift k c) = shift k (Hcl.heredocBody (n + 1) id c) := by
  rw [Hcl.heredocBody, Hcl.heredocBody]
  refine Reading.bind_shift (ih.parts (.terminator id) [] c (by omega)) ?_
  rintro ⟨ps, cs, byte⟩ _
  dsimp only [Offset.shift]
  split
  · rfl
  · rw [Nat.add_assoc]
    refine Reading.lift_bind_shift (heredocStop_shift id
      ⟨cs.drop (lineBreakText cs).length, byte + (lineBreakText cs).length⟩) ?_
    rintro ⟨gap, stop⟩ _
    exact congrArg (fun ps => Except.ok (ps, _, _)) (Heredoc.appendBreak_shift _ ps)

theorem parts_succ (closer : Closer) (ps : List Part) (c : Cursor)
    (hn : SameBound (n + 1) (n' + 1) (4 * c.rest.length + 1)) :
    templateParts (n' + 1) closer (shift k ps) (shift k c) =
      shift k (templateParts (n + 1) closer ps c) := by
  obtain ⟨cs, byte⟩ := c
  rw [templateParts, templateParts]
  dsimp only [Offset.shift] at hn ⊢
  split
  · rename_i rest
    rw [List.length_cons, List.length_cons] at hn
    refine Reading.lift_bind_shift (openSequence_shift ⟨rest, byte + 2⟩) ?_
    rintro ⟨before, c₁⟩ h₁
    have hopen := (reaches_openSequence h₁).length_le
    dsimp only at hopen
    refine Reading.bind_shift (ih.expr .enclosed c₁ (by omega)) ?_
    rintro ⟨e, c₂⟩ h₂
    refine Reading.lift_bind_shift (closeSequence_shift c₂) ?_
    rintro ⟨after, stop⟩ h₃
    have hlt := length_lt_of_expr h₂
    have hclose := length_lt_of_closeSequence h₃
    dsimp only at hlt hclose
    rw [← ih.parts _ _ _ (by dsimp only; omega), shiftParts_append]
    rfl
  · rename_i rest
    rw [List.length_cons, List.length_cons] at hn
    refine Reading.lift_bind_shift (openSequence_shift ⟨rest, byte + 2⟩) ?_
    rintro ⟨before, cs', byte'⟩ h₁
    have hopen := (reaches_openSequence h₁).length_le
    dsimp only [Offset.shift] at hopen ⊢
    split
    · rename_i rest'
      rw [List.length_cons, List.length_cons] at hopen
      refine Reading.bind_shift (ih.choice byte before ⟨rest', byte' + 2⟩
        (by dsimp only; omega)) ?_
      rintro ⟨part, c₁⟩ h₂
      have hlt := Closes.length_lt ((sound _).choice h₂).moves
      dsimp only at hlt
      rw [← ih.parts _ _ _ (by dsimp only; omega), shiftParts_append]
      rfl
    · rename_i rest'
      rw [List.length_cons, List.length_cons, List.length_cons] at hopen
      refine Reading.bind_shift (ih.repetition byte before ⟨rest', byte' + 3⟩
        (by dsimp only; omega)) ?_
      rintro ⟨part, c₁⟩ h₂
      have hlt := Closes.length_lt ((sound _).repetition h₂).moves
      dsimp only at hlt
      rw [← ih.parts _ _ _ (by dsimp only; omega), shiftParts_append]
      rfl
    · rfl
  · rename_i hdollar hpercent
    have hne : startsSequence cs = false := by
      unfold startsSequence
      split
      · exact (hdollar _ rfl).elim
      · exact (hpercent _ rfl).elim
      · rfl
    split
    · rfl
    · rename_i hend
      refine Reading.bind_shift (closer.literalRun_shift ⟨cs, byte⟩) ?_
      rintro ⟨text, c₁⟩ h₁
      have hlt := (Closer.literalRun_moves hne (Bool.eq_false_iff.2 hend) h₁).2
      dsimp only at hlt
      rw [← ih.parts _ _ _ (by dsimp only; omega), shiftParts_append]
      rfl

theorem choice_succ (start : Nat) (before : Bool) (c : Cursor)
    (hn : SameBound (n + 1) (n' + 1) (4 * c.rest.length + 4)) :
    Hcl.choice (n' + 1) (k + start) before (shift k c) =
      shift k (Hcl.choice (n + 1) start before c) := by
  rw [Hcl.choice, Hcl.choice]
  refine Reading.lift_bind_shift (skip_shift true c) fun c₁ h₁ => ?_
  have hle := length_le_of_skip h₁
  refine Reading.bind_shift (ih.expr .inline c₁ (by omega)) ?_
  rintro ⟨cond, c₂⟩ h₂
  refine Reading.lift_bind_shift (closeSequence_shift c₂) ?_
  rintro ⟨after, c₃⟩ h₃
  have hcond := length_lt_of_expr h₂
  have hclose := length_lt_of_closeSequence h₃
  refine Reading.bind_shift (ih.directiveBody c₃ (by omega)) ?_
  rintro ⟨yes, c₄⟩ h₄
  have hyes := length_le_of_directiveBody h₄
  have helse := @bareDirective_shift k ['e', 'l', 's', 'e'] c₄
  dsimp only [Offset.shift] at helse ⊢
  rw [helse]
  cases h₅ : c₄.bareDirective ['e', 'l', 's', 'e'] with
  | some r =>
    obtain ⟨middle, c₅⟩ := r
    have hlt := length_lt_of_bareDirective h₅
    refine Reading.bind_shift (ih.directiveBody c₅ (by omega)) ?_
    rintro ⟨no, c₆⟩ _
    exact Reading.lift_bind_shift (bareDirective_shift _ c₆) fun _ _ => rfl
  | none => exact Reading.lift_bind_shift (bareDirective_shift _ c₄) fun _ _ => rfl

theorem repetition_succ (start : Nat) (before : Bool) (c : Cursor)
    (hn : SameBound (n + 1) (n' + 1) (4 * c.rest.length + 4)) :
    Hcl.repetition (n' + 1) (k + start) before (shift k c) =
      shift k (Hcl.repetition (n + 1) start before c) := by
  rw [Hcl.repetition, Hcl.repetition]
  refine Reading.lift_bind_shift (loopNames_shift c) ?_
  rintro ⟨keyName, valueName, c₁⟩ h₁
  refine Reading.lift_bind_shift (skip_shift true c₁) fun c₂ h₂ => ?_
  have hnames := ((reaches_loopNames h₁).trans (reaches_skip h₂)).length_le
  refine Reading.bind_shift (ih.expr .inline c₂ (by omega)) ?_
  rintro ⟨collection, c₃⟩ h₃
  refine Reading.lift_bind_shift (closeSequence_shift c₃) ?_
  rintro ⟨after, c₄⟩ h₄
  have hcollection := length_lt_of_expr h₃
  have hclose := length_lt_of_closeSequence h₄
  refine Reading.bind_shift (ih.directiveBody c₄ (by omega)) ?_
  rintro ⟨body, c₅⟩ _
  refine Reading.lift_bind_shift (bareDirective_shift _ c₅) ?_
  rintro ⟨closing, c₆⟩ _
  cases keyName <;> rfl

theorem directiveBody_succ (c : Cursor) (hn : SameBound (n + 1) (n' + 1) (4 * c.rest.length + 2)) :
    Hcl.directiveBody (n' + 1) (shift k c) = shift k (Hcl.directiveBody (n + 1) c) := by
  rw [Hcl.directiveBody, Hcl.directiveBody]
  refine Reading.bind_shift (ih.parts .endOfText [] c (by omega)) ?_
  rintro ⟨ps, cs, byte⟩ _
  dsimp only [Offset.shift]
  split <;> rfl

end Lockstep

/-- Without a single call everything is refused. -/
theorem lockstep_zero (k n' : Nat) : Lockstep k 0 n' := by
  constructor
  all_goals
    intros
    obtain rfl : n' = 0 := by omega
    simp only [expr, operations, indexStep, term, prefixed, word, arguments, arrayItems,
      objectEntries, comprehension, yielded, heredoc, heredocBody, templateParts, choice,
      repetition, directiveBody]
    rfl

/-- What is read `k` bytes further on, under another bound that allows as many calls as the text that
is left can need, is the same, `k` bytes further on. -/
theorem lockstep (k n n' : Nat) : Lockstep k n n' := by
  induction n generalizing n' with
  | zero => exact lockstep_zero k n'
  | succ n ih =>
    cases n' with
    | zero => constructor <;> intros <;> omega
    | succ n' =>
      have ih := ih n'
      exact ⟨ih.expr_succ, ih.operations_succ, ih.index_succ, ih.term_succ, ih.operand_succ,
        ih.word_succ, ih.arguments_succ, ih.items_succ, ih.entries_succ, ih.comprehension_succ,
        ih.yielded_succ, ih.heredoc_succ, ih.heredocBody_succ, ih.parts_succ, ih.choice_succ,
        ih.repetition_succ, ih.directiveBody_succ⟩

/-- An expression is read `k` bytes further on as it is read here. -/
theorem expr_shift (k n : Nat) (m : Mode) (c : Cursor) :
    expr n m (shift k c) = shift k (expr n m c) :=
  (lockstep k n n).expr m c (.inl rfl)

/-- What is read of an expression does not depend on the bound, if that is large enough. -/
theorem expr_of_enough {m : Mode} {c : Cursor} {n n' : Nat} (hn : 4 * c.rest.length + 3 ≤ n)
    (hn' : 4 * c.rest.length + 3 ≤ n') : expr n' m c = expr n m c := by
  have h := (lockstep 0 n n').expr m c (.inr ⟨hn, hn'⟩)
  rw [Cursor.shift_zero] at h
  rw [h]
  cases expr n m c with
  | error e => rfl
  | ok r =>
    obtain ⟨e, d⟩ := r
    exact congrArg Except.ok (congrArg₂ Prod.mk e.shift_zero d.shift_zero)

end TerraLint.Hcl
