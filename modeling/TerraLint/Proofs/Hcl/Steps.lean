import TerraLint.Proofs.Hcl.Advance

/-!
# Steps of the readers

What the readers of expressions do in one call, given what the calls inside it do. Each reader has a
relation between what it is called with and what it gives, with one constructor for each form, and the
reader gives just what the relation allows. Nothing else about the readers opens their definitions, as
long as it is about what is read.

* `OperationsStep`, `TermStep`, `PartsStep` and the others: one call of each reader.
* `operations_succ_iff`, `term_succ_iff`, `parts_succ_iff` and the others: a reader and its relation.
-/

namespace TerraLint.Hcl

open Text Cursor

/-! ## Readings taken apart -/

section Reading

variable {α β : Type}

theorem bind_eq_ok {x : Reading α} {f : α → Reading β} {b : β} :
    (x >>= f) = .ok b ↔ ∃ a, x = .ok a ∧ f a = .ok b := by
  cases x with
  | error e => simp [bind, Except.bind]
  | ok a => simp [bind, Except.bind]

theorem lift_eq_ok {o : Option α} {a : α} : (liftM o : Reading α) = .ok a ↔ o = some a := by
  cases o with
  | none => simp [liftM, monadLift, MonadLift.monadLift]
  | some a => simp [liftM, monadLift, MonadLift.monadLift]

theorem pure_eq_ok {a b : α} : (pure a : Reading α) = .ok b ↔ a = b := by
  simp [pure, Except.pure]

/-- Refusals may be changed on the way; what is read is not. -/
theorem settle_eq_ok {x : Reading α} {a : α} : x.settle = .ok a ↔ x = .ok a := by
  cases x <;> simp [Reading.settle]

theorem ite_bind {p : Prop} [Decidable p] (x y : Reading α) (f : α → Reading β) :
    (if p then x >>= f else y >>= f) = (if p then x else y) >>= f := by
  split <;> rfl

theorem lift_bind (a : α) (f : α → Reading β) :
    ((liftM (some a) : Reading α) >>= f) = f a := rfl

theorem ok_bind (a : α) (f : α → Reading β) : ((.ok a : Reading α) >>= f) = f a := rfl

end Reading

theorem Cursor.skipIf_cases (w : List Char) (c : Cursor) :
    (∃ d, c.expect w = some d ∧ c.skipIf w = (true, d)) ∨
      c.expect w = none ∧ c.skipIf w = (false, c) := by
  unfold skipIf
  cases h : c.expect w with
  | none => exact .inr ⟨rfl, rfl⟩
  | some d => exact .inl ⟨d, rfl, rfl⟩

theorem ne_of_head {cs : List Char} {x : Char} (h : cs.head? ≠ some x) (rest : List Char) :
    cs ≠ x :: rest := by
  rintro rfl
  exact h rfl

theorem head?_ne_of_forall {cs : List Char} {x : Char} (h : ∀ rest, cs ≠ x :: rest) :
    cs.head? ≠ some x := by
  intro hhead
  obtain ⟨rest, hrest⟩ := List.head?_eq_some_iff.1 hhead
  exact h rest hrest

theorem isDigit_of_number {c d : Cursor} {number : Number} (h : c.number = some (number, d)) :
    ∃ x rest, c.rest = x :: rest ∧ x.isDigit = true := by
  unfold Cursor.number at h
  cases hrest : c.rest with
  | nil => simp [takeWhile, hrest] at h
  | cons x rest =>
    refine ⟨x, rest, rfl, ?_⟩
    by_contra hx
    simp [takeWhile, hrest, hx] at h

/-! ## What decides between forms -/

/-- No operation starts here. -/
def Stays (mode : Mode) : List Char → Prop
  | '.' :: '.' :: _ => True
  | '.' :: _ :: _ => False
  | '[' :: _ :: _ => False
  | '?' :: _ :: _ => mode.conditional = false
  | rest => operator? rest = none

/-- Whether a character starts a word, if it starts a term at all. -/
def startsWord (ch : Char) : Bool := !(ch.isDigit || ['"', '[', '{', '(', '<', '!', '-'].contains ch)

/-- Whether a directive that opens a part of a template starts here, after its opening. -/
def startsDirective : List Char → Bool
  | 'i' :: 'f' :: _ => true
  | 'f' :: 'o' :: 'r' :: _ => true
  | _ => false

/-- The sign between a key and a value of an object. -/
def entrySign (colon : Bool) : Char := if colon then ':' else '='

/-! ## One call of a reader -/

/-- A call of the reader of operations: none follows, or one does, and then the others. -/
inductive OperationsStep (n : Nat) (m : Mode) (start : Nat) (e : Expr) (c : Cursor) :
    Expr → Cursor → Prop
  | stay {next : Cursor} (hskip : c.skip m.multiline = some next) (hstay : Stays m next.rest) :
    OperationsStep n m start e c e c
  | dot {next c₁ d : Cursor} {x : Char} {rest : List Char} {step : Step} {e' : Expr}
    (hskip : c.skip m.multiline = some next) (hrest : next.rest = '.' :: x :: rest) (hx : x ≠ '.')
    (hstep : dotStep next.byte ⟨x :: rest, next.byte + 1⟩ = some (step, c₁))
    (hops : operations n m start (addStep start e step) c₁ = .ok (e', d)) :
    OperationsStep n m start e c e' d
  | index {next c₁ d : Cursor} {x : Char} {rest : List Char} {step : Step} {e' : Expr}
    (hskip : c.skip m.multiline = some next) (hrest : next.rest = '[' :: x :: rest)
    (hindex : indexStep n next.byte ⟨x :: rest, next.byte + 1⟩ = .ok (step, c₁))
    (hops : operations n m start (addStep start e step) c₁ = .ok (e', d)) :
    OperationsStep n m start e c e' d
  | conditional {next c₁ c₂ c₃ c₄ c₅ d : Cursor} {x : Char} {rest : List Char} {yes no : Expr}
    (hskip : c.skip m.multiline = some next) (hrest : next.rest = '?' :: x :: rest)
    (hmode : m.conditional = true) (h₁ : skip m.multiline ⟨x :: rest, next.byte + 1⟩ = some c₁)
    (hyes : expr n m.inner c₁ = .ok (yes, c₂)) (h₃ : c₂.skip m.multiline = some c₃)
    (hcolon : c₃.expect [':'] = some c₄) (h₅ : c₄.skip m.multiline = some c₅)
    (hno : expr n m.inner c₅ = .ok (no, d)) :
    OperationsStep n m start e c (.node (some ⟨start, d.byte⟩) (.conditional e yes no)) d
  | binary {next c₁ c₂ d : Cursor} {op : BinaryOp} {length : Nat} {rhs e' : Expr}
    (hskip : c.skip m.multiline = some next) (hop : operator? next.rest = some (op, length))
    (h₁ : skip m.multiline ⟨next.rest.drop length, next.byte + length⟩ = some c₁)
    (hrhs : expr n m.operand c₁ = .ok (rhs, c₂))
    (hops : operations n m.operated start (.node (some ⟨start, c₂.byte⟩) (.binary e op rhs)) c₂ =
      .ok (e', d)) : OperationsStep n m start e c e' d

/-- A call of the reader of an index: `[*]` or a key. -/
inductive IndexStep (n : Nat) (start : Nat) (c : Cursor) : Step → Cursor → Prop
  | splat {c₁ c₂ d : Cursor} {rest : List Char} (h₁ : c.skipLines = some c₁)
    (hrest : c₁.rest = '*' :: rest) (h₂ : skipLines ⟨rest, c₁.byte + 1⟩ = some c₂)
    (hclose : c₂.expect [']'] = some d) : IndexStep n start c (.fullSplat ⟨start, d.byte⟩) d
  | key {c₁ c₂ c₃ d : Cursor} {key : Expr} (h₁ : c.skipLines = some c₁)
    (hne : c₁.rest.head? ≠ some '*') (hkey : expr n .enclosed c₁ = .ok (key, c₂))
    (h₃ : c₂.skipLines = some c₃) (hclose : c₃.expect [']'] = some d) :
    IndexStep n start c (.index ⟨start, d.byte⟩ key) d

/-- A call of the reader of terms. The first character tells which one it is, behind an opening bracket
also the word that follows. -/
inductive TermStep (n : Nat) (m : Mode) (c : Cursor) : Form → Mode → Cursor → Prop
  | quoted {c₁ d : Cursor} {rest : List Char} {ps : List Part} (hrest : c.rest = '"' :: rest)
    (hparts : templateParts n .quote [] ⟨rest, c.byte + 1⟩ = .ok (ps, c₁))
    (hclose : c₁.expect ['"'] = some d) : TermStep n m c (quotedForm ps) m d
  | arrayFor {next c₁ d : Cursor} {rest : List Char} {form : Form} (hrest : c.rest = '[' :: rest)
    (hskip : skipLines ⟨rest, c.byte + 1⟩ = some next) (hfor : startsComprehension next.rest = true)
    (hform : comprehension n m.spread false next = .ok (form, c₁))
    (hclose : c₁.expect [']'] = some d) : TermStep n m c form m.spread d
  | array {next d : Cursor} {rest : List Char} {es : List Expr} {closing : Closing}
    (hrest : c.rest = '[' :: rest) (hskip : skipLines ⟨rest, c.byte + 1⟩ = some next)
    (hfor : startsComprehension next.rest = false)
    (hitems : arrayItems n m.spread.inner [] ⟨rest, c.byte + 1⟩ = .ok (es, closing, d)) :
    TermStep n m c (.array es closing) m.spread d
  | objectFor {next c₁ d : Cursor} {rest : List Char} {form : Form} (hrest : c.rest = '{' :: rest)
    (hskip : skipLines ⟨rest, c.byte + 1⟩ = some next) (hfor : startsComprehension next.rest = true)
    (hform : comprehension n m.spread true next = .ok (form, c₁))
    (hclose : c₁.expect ['}'] = some d) : TermStep n m c form m.spread d
  | object {next d : Cursor} {rest : List Char} {es : List Entry} {gap : Option Span}
    (hrest : c.rest = '{' :: rest) (hskip : skipLines ⟨rest, c.byte + 1⟩ = some next)
    (hfor : startsComprehension next.rest = false)
    (hentries : objectEntries n [] ⟨rest, c.byte + 1⟩ = .ok (es, gap, d)) :
    TermStep n m c (.object es gap) m d
  | parens {c₁ c₂ c₃ d : Cursor} {rest : List Char} {inner : Expr} (hrest : c.rest = '(' :: rest)
    (h₁ : skipLines ⟨rest, c.byte + 1⟩ = some c₁) (hinner : expr n .enclosed c₁ = .ok (inner, c₂))
    (h₃ : c₂.skipLines = some c₃) (hclose : c₃.expect [')'] = some d) :
    TermStep n m c (.parens inner) m d
  | heredoc {d : Cursor} {rest : List Char} {form : Form} (hrest : c.rest = '<' :: rest)
    (hdoc : heredoc n c = .ok (form, d)) : TermStep n m c form m d
  | not {a : Mode} {d : Cursor} {rest : List Char} {form : Form} (hrest : c.rest = '!' :: rest)
    (hoperand : prefixed n .not m ⟨rest, c.byte + 1⟩ = .ok (form, a, d)) : TermStep n m c form a d
  | negative {next d : Cursor} {rest : List Char} {number : Number} (hrest : c.rest = '-' :: rest)
    (hskip : skipInline ⟨rest, c.byte + 1⟩ = some next) (hnumber : next.number = some (number, d)) :
    TermStep n m c (.number number.neg) m d
  | neg {a : Mode} {next d : Cursor} {x : Char} {xs rest : List Char} {form : Form}
    (hrest : c.rest = '-' :: rest) (hskip : skipInline ⟨rest, c.byte + 1⟩ = some next)
    (hnext : next.rest = x :: xs) (hx : x.isDigit = false)
    (hoperand : prefixed n .neg m ⟨rest, c.byte + 1⟩ = .ok (form, a, d)) : TermStep n m c form a d
  | number {d : Cursor} {number : Number} (hnumber : c.number = some (number, d)) :
    TermStep n m c (.number number) m d
  | word {a : Mode} {d : Cursor} {x : Char} {rest : List Char} {form : Form}
    (hrest : c.rest = x :: rest) (hx : startsWord x = true)
    (hword : word n m c = .ok (form, a, d)) : TermStep n m c form a d

/-- A call of the reader of an operand. Before another operator it leaves the term to that one; a
minus and the digits behind it are one number. -/
inductive OperandStep (n : Nat) (op : UnaryOp) (m : Mode) (c : Cursor) :
    Form → Mode → Cursor → Prop
  | not {a : Mode} {c₁ d : Cursor} {rest : List Char} {form : Form} (h₁ : c.skipInline = some c₁)
    (hrest : c₁.rest = '!' :: rest) (hterm : term n m c₁ = .ok (form, a, d)) :
    OperandStep n op m c form a d
  | negative {c₁ next d : Cursor} {rest : List Char} {number : Number} (h₁ : c.skipInline = some c₁)
    (hrest : c₁.rest = '-' :: rest) (hskip : skipInline ⟨rest, c₁.byte + 1⟩ = some next)
    (hnumber : next.number = some (number, d)) :
    OperandStep n op m c (.unary op ⟨c₁.byte, d.byte⟩ (.node none (.number number.neg))) m d
  | neg {a : Mode} {c₁ next d : Cursor} {x : Char} {xs rest : List Char} {form : Form}
    (h₁ : c.skipInline = some c₁) (hrest : c₁.rest = '-' :: rest)
    (hskip : skipInline ⟨rest, c₁.byte + 1⟩ = some next) (hnext : next.rest = x :: xs)
    (hx : x.isDigit = false) (hterm : term n m c₁ = .ok (form, a, d)) : OperandStep n op m c form a d
  | term {a : Mode} {c₁ d : Cursor} {form : Form} (h₁ : c.skipInline = some c₁)
    (hnot : c₁.rest.head? ≠ some '!') (hneg : c₁.rest.head? ≠ some '-')
    (hterm : term n m c₁ = .ok (form, a, d)) :
    OperandStep n op m c (.unary op ⟨c₁.byte, d.byte⟩ (.node none form)) a d

/-- A call of the reader of words: a name without qualifiers, or a function with its arguments. -/
inductive WordStep (n : Nat) (m : Mode) (c : Cursor) : Form → Mode → Cursor → Prop
  | bare {c₁ c₂ next : Cursor} {name : String} {names : List String} (hname : c.name = some (name, c₁))
    (hnames : c₁.qualifiers m.multiline n [name] = some (names, c₂))
    (hskip : c₂.skip m.multiline = some next) (hcall : next.rest.head? ≠ some '(')
    (hone : names.length = 1) : WordStep n m c (wordForm name) m c₂
  | call {c₁ c₂ next d : Cursor} {name : String} {names : List String} {rest : List Char}
    {args : List Expr} {spread : Bool} {closing : Closing} (hname : c.name = some (name, c₁))
    (hnames : c₁.qualifiers m.multiline n [name] = some (names, c₂))
    (hskip : c₂.skip m.multiline = some next) (hrest : next.rest = '(' :: rest)
    (hargs : arguments n m.spread.inner [] ⟨rest, next.byte + 1⟩ = .ok (args, spread, closing, d)) :
    WordStep n m c (.call names args spread closing) m.spread d

/-- A call of the reader of arguments: the closing parenthesis comes next, or an argument and what
stands behind that. -/
inductive ArgumentsStep (n : Nat) (m : Mode) (args : List Expr) (c : Cursor) :
    List Expr → Bool → Closing → Cursor → Prop
  | stop {next : Cursor} {rest : List Char} (hskip : c.skipLines = some next)
    (hrest : next.rest = ')' :: rest) :
    ArgumentsStep n m args c args false ⟨!args.isEmpty, c.gap next⟩ ⟨rest, next.byte + 1⟩
  | last {next c₁ c₂ : Cursor} {rest : List Char} {arg : Expr} (hskip : c.skipLines = some next)
    (hne : next.rest.head? ≠ some ')') (harg : expr n m next = .ok (arg, c₁))
    (h₂ : c₁.skipLines = some c₂) (hrest : c₂.rest = ')' :: rest) :
    ArgumentsStep n m args c (args ++ [arg]) false ⟨false, none⟩ ⟨rest, c₂.byte + 1⟩
  | more {next c₁ c₂ d : Cursor} {rest : List Char} {arg : Expr} {args' : List Expr} {spread : Bool}
    {closing : Closing} (hskip : c.skipLines = some next) (hne : next.rest.head? ≠ some ')')
    (harg : expr n m next = .ok (arg, c₁)) (h₂ : c₁.skipLines = some c₂)
    (hrest : c₂.rest = ',' :: rest)
    (hmore : arguments n m (args ++ [arg]) ⟨rest, c₂.byte + 1⟩ = .ok (args', spread, closing, d)) :
    ArgumentsStep n m args c args' spread closing d
  | spread {next c₁ c₂ c₃ d : Cursor} {rest : List Char} {arg : Expr} (hskip : c.skipLines = some next)
    (hne : next.rest.head? ≠ some ')') (harg : expr n m next = .ok (arg, c₁))
    (h₂ : c₁.skipLines = some c₂) (hrest : c₂.rest = '.' :: '.' :: '.' :: rest)
    (h₃ : skipLines ⟨rest, c₂.byte + 3⟩ = some c₃) (hclose : c₃.expect [')'] = some d) :
    ArgumentsStep n m args c (args ++ [arg]) true ⟨false, gap ⟨rest, c₂.byte + 3⟩ c₃⟩ d

/-- A call of the reader of a list: the closing bracket comes next, or an item and what stands behind
that. -/
inductive ArrayStep (n : Nat) (m : Mode) (es : List Expr) (c : Cursor) :
    List Expr → Closing → Cursor → Prop
  | stop {next : Cursor} {rest : List Char} (hskip : c.skipLines = some next)
    (hrest : next.rest = ']' :: rest) :
    ArrayStep n m es c es ⟨!es.isEmpty, c.gap next⟩ ⟨rest, next.byte + 1⟩
  | last {next c₁ c₂ : Cursor} {rest : List Char} {e : Expr} (hskip : c.skipLines = some next)
    (hne : next.rest.head? ≠ some ']') (hitem : expr n m next = .ok (e, c₁))
    (h₂ : c₁.skipLines = some c₂) (hrest : c₂.rest = ']' :: rest) :
    ArrayStep n m es c (es ++ [e]) ⟨false, none⟩ ⟨rest, c₂.byte + 1⟩
  | more {next c₁ c₂ d : Cursor} {rest : List Char} {e : Expr} {es' : List Expr} {closing : Closing}
    (hskip : c.skipLines = some next) (hne : next.rest.head? ≠ some ']')
    (hitem : expr n m next = .ok (e, c₁)) (h₂ : c₁.skipLines = some c₂) (hrest : c₂.rest = ',' :: rest)
    (hmore : arrayItems n m (es ++ [e]) ⟨rest, c₂.byte + 1⟩ = .ok (es', closing, d)) :
    ArrayStep n m es c es' closing d

/-- An entry of an object, up to what ends it. -/
inductive EntryStep (n : Nat) (c : Cursor) : (EntryEnd → Entry) → Cursor → Prop
  | mk {c₁ c₂ c₃ c₄ c₅ d : Cursor} {key value : Expr} {colon : Bool}
    (hkey : expr n .inline c = .ok (key, c₁)) (h₂ : c₁.skipInline = some c₂)
    (hsign : c₂.expect [entrySign colon] = some c₃) (h₄ : c₃.skipInline = some c₄)
    (hvalue : expr n .inline c₄ = .ok (value, c₅)) (h₆ : c₅.skipInline = some d) :
    EntryStep n c (.mk key value colon) d

/-- A call of the reader of an object: the closing brace comes next, or an entry and what ends it. -/
inductive EntriesStep (n : Nat) (es : List Entry) (c : Cursor) :
    List Entry → Option Span → Cursor → Prop
  | stop {next : Cursor} {rest : List Char} (hskip : c.skipLines = some next)
    (hrest : next.rest = '}' :: rest) : EntriesStep n es c es (c.gap next) ⟨rest, next.byte + 1⟩
  | last {next c₁ : Cursor} {rest : List Char} {entry : EntryEnd → Entry}
    (hskip : c.skipLines = some next) (hne : next.rest.head? ≠ some '}')
    (hentry : EntryStep n next entry c₁) (hrest : c₁.rest = '}' :: rest) :
    EntriesStep n es c (insertEntry (entry .brace) es) none ⟨rest, c₁.byte + 1⟩
  | comma {next c₁ d : Cursor} {rest : List Char} {entry : EntryEnd → Entry} {es' : List Entry}
    {gap : Option Span} (hskip : c.skipLines = some next) (hne : next.rest.head? ≠ some '}')
    (hentry : EntryStep n next entry c₁) (hrest : c₁.rest = ',' :: rest)
    (hmore : objectEntries n (insertEntry (entry .comma) es) ⟨rest, c₁.byte + 1⟩ = .ok (es', gap, d)) :
    EntriesStep n es c es' gap d
  | line {next c₁ c₂ d : Cursor} {entry : EntryEnd → Entry} {es' : List Entry} {gap : Option Span}
    (hskip : c.skipLines = some next) (hne : next.rest.head? ≠ some '}')
    (hentry : EntryStep n next entry c₁) (hbreak : c₁.lineBreak = some c₂)
    (hmore : objectEntries n (insertEntry (entry .newline) es) c₂ = .ok (es', gap, d)) :
    EntriesStep n es c es' gap d

/-- A comprehension without its condition. -/
inductive GeneratorStep (n : Nat) (m : Mode) (keyed : Bool) (c : Cursor) :
    (Option Expr → Form) → Cursor → Prop
  | mk {c₁ c₂ c₃ c₄ c₅ c₆ c₇ d : Cursor} {keyName : Option String} {valueName : String}
    {collection value : Expr} {key : Option Expr} {grouped : Bool}
    (hfor : c.expect ['f', 'o', 'r'] = some c₁)
    (hnames : c₁.loopNames = some (keyName, valueName, c₂)) (h₃ : c₂.skipLines = some c₃)
    (hcollection : expr n .inline c₃ = .ok (collection, c₄)) (h₅ : c₄.skipLines = some c₅)
    (hcolon : c₅.expect [':'] = some c₆) (h₇ : c₆.skipLines = some c₇)
    (hyielded : yielded n m keyed c₇ = .ok (key, value, grouped, d)) :
    GeneratorStep n m keyed c (.comprehension keyName valueName collection key value grouped) d

/-- A call of the reader of comprehensions. -/
inductive ComprehensionStep (n : Nat) (m : Mode) (keyed : Bool) (c : Cursor) : Form → Cursor → Prop
  | unfiltered {d : Cursor} {form : Option Expr → Form} (hgenerator : GeneratorStep n m keyed c form d)
    (hif : d.expect ['i', 'f'] = none) : ComprehensionStep n m keyed c (form none) d
  | filtered {c₁ c₂ c₃ c₄ d : Cursor} {form : Option Expr → Form} {cond : Expr}
    (hgenerator : GeneratorStep n m keyed c form c₁) (hif : c₁.expect ['i', 'f'] = some c₂)
    (h₃ : c₂.skipLines = some c₃) (hcond : expr n m.inner c₃ = .ok (cond, c₄))
    (h₅ : c₄.skipLines = some d) : ComprehensionStep n m keyed c (form (some cond)) d

/-- A call of the reader of what a comprehension yields. -/
inductive YieldedStep (n : Nat) (m : Mode) (c : Cursor) :
    Bool → Option Expr → Expr → Bool → Cursor → Prop
  | value {c₁ d : Cursor} {value : Expr} (hvalue : expr n m.inner c = .ok (value, c₁))
    (h₁ : c₁.skipLines = some d) : YieldedStep n m c false none value false d
  | entry {c₁ c₂ c₃ c₄ c₅ c₆ c₇ d : Cursor} {key value : Expr} {grouped : Bool}
    (hkey : expr n .inline c = .ok (key, c₁)) (h₂ : c₁.skipLines = some c₂)
    (harrow : c₂.expect ['=', '>'] = some c₃) (h₄ : c₃.skipLines = some c₄)
    (hvalue : expr n .inline c₄ = .ok (value, c₅)) (h₆ : c₅.skipLines = some c₆)
    (hdots : c₆.skipIf ['.', '.', '.'] = (grouped, c₇)) (h₇ : c₇.skipLines = some d) :
    YieldedStep n m c true (some key) value grouped d

/-- The indentation and the parts of a heredoc, if it is indented without the blanks that are no part of
its text. -/
def dedentIf (indented : Bool) (ps : List Part) : Option Nat × List Part :=
  if indented then (some (Heredoc.dedent ps).1, (Heredoc.dedent ps).2) else (none, ps)

/-- A call of the reader of heredocs. Only if its body is refused as unfinished, the line behind the
marker may be the terminator. -/
inductive HeredocStep (n : Nat) (c : Cursor) : Form → Cursor → Prop
  | body {c₁ d : Cursor} {indented : Bool} {id : List Char} {ps : List Part} {gap : Option Span}
    (hstart : c.heredocStart = some (indented, id, c₁))
    (hbody : heredocBody n id c₁ = .ok (ps, gap, d)) :
    HeredocStep n c (.heredoc ⟨String.ofList id, (dedentIf indented ps).1, gap⟩ (dedentIf indented ps).2)
      d
  | brief {c₁ d : Cursor} {indented : Bool} {id : List Char} {gap : Option Span}
    (hstart : c.heredocStart = some (indented, id, c₁))
    (hbody : heredocBody n id c₁ = .error .unfinished) (hstop : c₁.heredocStop id = some (gap, d)) :
    HeredocStep n c (.heredoc ⟨String.ofList id, if indented then some 0 else none, gap⟩ []) d

/-- The cursor behind the line break that comes next. -/
def afterBreak (c : Cursor) : Cursor :=
  ⟨c.rest.drop (lineBreakText c.rest).length, c.byte + (lineBreakText c.rest).length⟩

/-- A call of the reader of a heredoc's body. -/
inductive HeredocBodyStep (n : Nat) (id : List Char) (c : Cursor) :
    List Part → Option Span → Cursor → Prop
  | mk {c₁ d : Cursor} {ps : List Part} {gap : Option Span}
    (hparts : templateParts n (.terminator id) [] c = .ok (ps, c₁))
    (hbreak : lineBreakText c₁.rest ≠ []) (hstop : (afterBreak c₁).heredocStop id = some (gap, d)) :
    HeredocBodyStep n id c (Heredoc.appendBreak (lineBreakText c₁.rest) ps) gap d

/-- A call of the reader of a template: it stops at the closer or at a directive that opens no part, or
it reads a part, and then the others. -/
inductive PartsStep (n : Nat) (closer : Closer) (ps : List Part) (c : Cursor) :
    List Part → Cursor → Prop
  | interpolation {c₁ c₂ c₃ d : Cursor} {rest : List Char} {before after : Bool} {e : Expr}
    {ps' : List Part} (hrest : c.rest = '$' :: '{' :: rest)
    (hopen : openSequence ⟨rest, c.byte + 2⟩ = some (before, c₁))
    (hinner : expr n .enclosed c₁ = .ok (e, c₂)) (hclose : c₂.closeSequence = some (after, c₃))
    (hmore : templateParts n closer
      (ps ++ [.interpolation ⟨⟨c.byte, c₃.byte⟩, before, after⟩ e]) c₃ = .ok (ps', d)) :
    PartsStep n closer ps c ps' d
  | choice {c₁ c₂ d : Cursor} {rest inner : List Char} {before : Bool} {part : Part}
    {ps' : List Part} (hrest : c.rest = '%' :: '{' :: rest)
    (hopen : openSequence ⟨rest, c.byte + 2⟩ = some (before, c₁))
    (hinner : c₁.rest = 'i' :: 'f' :: inner)
    (hpart : choice n c.byte before ⟨inner, c₁.byte + 2⟩ = .ok (part, c₂))
    (hmore : templateParts n closer (ps ++ [part]) c₂ = .ok (ps', d)) : PartsStep n closer ps c ps' d
  | repetition {c₁ c₂ d : Cursor} {rest inner : List Char} {before : Bool} {part : Part}
    {ps' : List Part} (hrest : c.rest = '%' :: '{' :: rest)
    (hopen : openSequence ⟨rest, c.byte + 2⟩ = some (before, c₁))
    (hinner : c₁.rest = 'f' :: 'o' :: 'r' :: inner)
    (hpart : repetition n c.byte before ⟨inner, c₁.byte + 3⟩ = .ok (part, c₂))
    (hmore : templateParts n closer (ps ++ [part]) c₂ = .ok (ps', d)) : PartsStep n closer ps c ps' d
  | directive {c₁ : Cursor} {rest : List Char} {before : Bool} (hrest : c.rest = '%' :: '{' :: rest)
    (hopen : openSequence ⟨rest, c.byte + 2⟩ = some (before, c₁))
    (hinner : startsDirective c₁.rest = false) : PartsStep n closer ps c ps c
  | stop (hne : startsSequence c.rest = false) (hend : closer.comesNext c.rest = true) :
    PartsStep n closer ps c ps c
  | literal {c₁ d : Cursor} {text : String} {ps' : List Part} (hne : startsSequence c.rest = false)
    (hend : closer.comesNext c.rest = false) (hrun : closer.literalRun c = .ok (text, c₁))
    (hmore : templateParts n closer (ps ++ [.literal text]) c₁ = .ok (ps', d)) :
    PartsStep n closer ps c ps' d

/-- The condition of a choice and what is written if it holds. -/
inductive ConditionStep (n start : Nat) (before : Bool) (c : Cursor) :
    Sequence → Expr → List Part → Cursor → Prop
  | mk {c₁ c₂ c₃ d : Cursor} {cond : Expr} {after : Bool} {yes : List Part}
    (h₁ : c.skipLines = some c₁) (hcond : expr n .inline c₁ = .ok (cond, c₂))
    (hclose : c₂.closeSequence = some (after, c₃)) (hyes : directiveBody n c₃ = .ok (yes, d)) :
    ConditionStep n start before c ⟨⟨start, c₃.byte⟩, before, after⟩ cond yes d

/-- A call of the reader of a choice. -/
inductive ChoiceStep (n start : Nat) (before : Bool) (c : Cursor) : Part → Cursor → Prop
  | single {c₁ d : Cursor} {opening closing : Sequence} {cond : Expr} {yes : List Part}
    (hcond : ConditionStep n start before c opening cond yes c₁)
    (helse : c₁.bareDirective ['e', 'l', 's', 'e'] = none)
    (hclose : c₁.bareDirective ['e', 'n', 'd', 'i', 'f'] = some (closing, d)) :
    ChoiceStep n start before c (.choice opening cond yes none [] closing) d
  | both {c₁ c₂ c₃ d : Cursor} {opening middle closing : Sequence} {cond : Expr} {yes no : List Part}
    (hcond : ConditionStep n start before c opening cond yes c₁)
    (helse : c₁.bareDirective ['e', 'l', 's', 'e'] = some (middle, c₂))
    (hno : directiveBody n c₂ = .ok (no, c₃))
    (hclose : c₃.bareDirective ['e', 'n', 'd', 'i', 'f'] = some (closing, d)) :
    ChoiceStep n start before c (.choice opening cond yes (some middle) no closing) d

/-- A call of the reader of a repetition. -/
inductive RepetitionStep (n start : Nat) (before : Bool) (c : Cursor) : Part → Cursor → Prop
  | mk {c₁ c₂ c₃ c₄ c₅ d : Cursor} {keyName : Option String} {valueName : String} {collection : Expr}
    {after : Bool} {body : List Part} {closing : Sequence}
    (hnames : c.loopNames = some (keyName, valueName, c₁)) (h₂ : c₁.skipLines = some c₂)
    (hcollection : expr n .inline c₂ = .ok (collection, c₃))
    (hopen : c₃.closeSequence = some (after, c₄)) (hbody : directiveBody n c₄ = .ok (body, c₅))
    (hclose : c₅.bareDirective ['e', 'n', 'd', 'f', 'o', 'r'] = some (closing, d)) :
    RepetitionStep n start before c
      (.repetition ⟨⟨start, c₄.byte⟩, before, after⟩ keyName valueName collection body closing) d

/-! ## The readers and their relations -/

section Iff

variable {n : Nat} {m a : Mode} {c d : Cursor}

theorem expr_succ_iff {e : Expr} : expr (n + 1) m c = .ok (e, d) ↔
    ∃ form a next, term n m c = .ok (form, a, next) ∧
      operations n a c.byte (.node (some ⟨c.byte, next.byte⟩) form) next = .ok (e, d) := by
  simp only [expr, bind_eq_ok, Prod.exists]

theorem OperationsStep.of_operations {start : Nat} {e e' : Expr}
    (h : operations (n + 1) m start e c = .ok (e', d)) : OperationsStep n m start e c e' d := by
  rw [operations] at h
  simp only [bind_eq_ok, lift_eq_ok] at h
  obtain ⟨next, hskip, h⟩ := h
  split at h
  · rename_i rest hrest
    obtain ⟨rfl, rfl⟩ := Prod.mk.inj (pure_eq_ok.1 h)
    exact .stay hskip (by rw [hrest]; trivial)
  · rename_i x rest hx hrest
    simp only [bind_eq_ok, lift_eq_ok, Prod.exists] at h
    obtain ⟨step, c₁, hstep, hops⟩ := h
    exact .dot hskip hrest (fun heq => hx heq) hstep hops
  · rename_i x rest hrest
    simp only [bind_eq_ok, Prod.exists] at h
    obtain ⟨step, c₁, hindex, hops⟩ := h
    exact .index hskip hrest hindex hops
  · rename_i x rest hrest
    split at h
    · rename_i hmode
      simp only [bind_eq_ok, lift_eq_ok, Prod.exists, pure_eq_ok, Prod.mk.injEq] at h
      obtain ⟨c₁, h₁, yes, c₂, hyes, c₃, h₃, c₄, hcolon, c₅, h₅, no, c₆, hno, rfl, rfl⟩ := h
      exact .conditional hskip hrest hmode h₁ hyes h₃ hcolon h₅ hno
    · rename_i hmode
      obtain ⟨rfl, rfl⟩ := Prod.mk.inj (pure_eq_ok.1 h)
      exact .stay hskip (by rw [hrest]; exact Bool.eq_false_iff.2 hmode)
  · rename_i hdots hdot hbracket hmark
    split at h
    · rename_i hop
      obtain ⟨rfl, rfl⟩ := Prod.mk.inj (pure_eq_ok.1 h)
      refine .stay hskip ?_
      unfold Stays
      split
      · trivial
      · rename_i heq
        exact hdot _ _ heq
      · rename_i heq
        exact hbracket _ _ heq
      · rename_i heq
        exact (hmark _ _ heq).elim
      · exact hop
    · rename_i op length hop
      simp only [bind_eq_ok, lift_eq_ok, Prod.exists] at h
      obtain ⟨c₁, h₁, rhs, c₂, hrhs, hops⟩ := h
      exact .binary hskip hop h₁ hrhs hops

theorem OperationsStep.read {start : Nat} {e e' : Expr} (h : OperationsStep n m start e c e' d) :
    operations (n + 1) m start e c = .ok (e', d) := by
  cases h with
  | stay hskip hstay =>
    rw [operations, hskip, lift_bind]
    unfold Stays at hstay
    split
    · rfl
    · rename_i hrest
      simp [hrest] at hstay
    · rename_i hrest
      simp [hrest] at hstay
    · rename_i hrest
      simp only [hrest] at hstay
      rw [if_neg (by rw [hstay]; simp)]
      rfl
    · split at hstay
      all_goals simp_all
      rfl
  | dot hskip hrest hx hstep hops =>
    rw [operations, hskip, lift_bind]
    split
    · rename_i heq
      rw [hrest] at heq
      exact absurd (List.cons.inj (List.cons.inj heq).2).1 hx
    · simp_all [lift_bind]
    all_goals simp_all
  | index hskip hrest hindex hops =>
    rw [operations, hskip, lift_bind, hrest]
    simp only [hindex, ok_bind, hops]
  | conditional hskip hrest hmode h₁ hyes h₃ hcolon h₅ hno =>
    rw [operations, hskip, lift_bind, hrest]
    simp only [hmode, h₁, hyes, h₃, hcolon, h₅, hno, lift_bind, ok_bind, if_true]
    rfl
  | binary hskip hop h₁ hrhs hops =>
    rw [operations, hskip, lift_bind]
    split
    · rename_i hrest
      simp [hrest, operator?] at hop
    · rename_i hrest
      simp [hrest, operator?] at hop
    · rename_i hrest
      simp [hrest, operator?] at hop
    · rename_i hrest
      simp [hrest, operator?] at hop
    · rw [hop]
      simp only [h₁, hrhs, lift_bind, ok_bind, hops]

theorem operations_succ_iff {start : Nat} {e e' : Expr} :
    operations (n + 1) m start e c = .ok (e', d) ↔ OperationsStep n m start e c e' d :=
  ⟨.of_operations, OperationsStep.read⟩

theorem index_succ_iff {start : Nat} {step : Step} :
    indexStep (n + 1) start c = .ok (step, d) ↔ IndexStep n start c step d := by
  constructor
  · intro h
    rw [indexStep] at h
    simp only [bind_eq_ok, lift_eq_ok] at h
    obtain ⟨c₁, h₁, h⟩ := h
    split at h
    · rename_i rest hrest
      simp only [bind_eq_ok, lift_eq_ok, pure_eq_ok, Prod.mk.injEq] at h
      obtain ⟨c₂, h₂, c₃, hclose, rfl, rfl⟩ := h
      exact .splat h₁ hrest h₂ hclose
    · rename_i hne
      simp only [bind_eq_ok, lift_eq_ok, Prod.exists, pure_eq_ok, Prod.mk.injEq] at h
      obtain ⟨key, c₂, hkey, c₃, h₃, c₄, hclose, rfl, rfl⟩ := h
      exact .key h₁ (head?_ne_of_forall hne) hkey h₃ hclose
  · rintro (⟨h₁, hrest, h₂, hclose⟩ | ⟨h₁, hne, hkey, h₃, hclose⟩)
    · rw [indexStep, h₁, lift_bind, hrest]
      simp only [h₂, hclose, lift_bind]
      rfl
    · rw [indexStep, h₁, lift_bind]
      split
      · rename_i hrest
        exact absurd hrest (ne_of_head hne _)
      · simp only [hkey, h₃, hclose, lift_bind, ok_bind]
        rfl

theorem TermStep.of_term {form : Form} (h : term (n + 1) m c = .ok (form, a, d)) :
    TermStep n m c form a d := by
  rw [term] at h
  split at h
  · cases h
  · rename_i rest hrest
    simp only [bind_eq_ok, lift_eq_ok, settle_eq_ok, Prod.exists, pure_eq_ok, Prod.mk.injEq] at h
    obtain ⟨ps, c₁, hparts, c₂, hclose, rfl, rfl, rfl⟩ := h
    exact .quoted hrest hparts hclose
  · rename_i rest hrest
    simp only [bind_eq_ok, lift_eq_ok] at h
    obtain ⟨next, hskip, h⟩ := h
    split at h
    · rename_i hfor
      simp only [bind_eq_ok, lift_eq_ok, Prod.exists, pure_eq_ok, Prod.mk.injEq] at h
      obtain ⟨form, c₁, hform, c₂, hclose, rfl, rfl, rfl⟩ := h
      exact .arrayFor hrest hskip hfor hform hclose
    · rename_i hfor
      simp only [bind_eq_ok, Prod.exists, pure_eq_ok, Prod.mk.injEq] at h
      obtain ⟨es, closing, c₁, hitems, rfl, rfl, rfl⟩ := h
      exact .array hrest hskip (Bool.eq_false_iff.2 hfor) hitems
  · rename_i rest hrest
    simp only [bind_eq_ok, lift_eq_ok] at h
    obtain ⟨next, hskip, h⟩ := h
    split at h
    · rename_i hfor
      simp only [bind_eq_ok, lift_eq_ok, Prod.exists, pure_eq_ok, Prod.mk.injEq] at h
      obtain ⟨form, c₁, hform, c₂, hclose, rfl, rfl, rfl⟩ := h
      exact .objectFor hrest hskip hfor hform hclose
    · rename_i hfor
      simp only [bind_eq_ok, Prod.exists, pure_eq_ok, Prod.mk.injEq] at h
      obtain ⟨es, gap, c₁, hentries, rfl, rfl, rfl⟩ := h
      exact .object hrest hskip (Bool.eq_false_iff.2 hfor) hentries
  · rename_i rest hrest
    simp only [bind_eq_ok, lift_eq_ok, Prod.exists, pure_eq_ok, Prod.mk.injEq] at h
    obtain ⟨c₁, h₁, inner, c₂, hinner, c₃, h₃, c₄, hclose, rfl, rfl, rfl⟩ := h
    exact .parens hrest h₁ hinner h₃ hclose
  · rename_i rest hrest
    simp only [bind_eq_ok, Prod.exists, pure_eq_ok, Prod.mk.injEq] at h
    obtain ⟨form, c₁, hdoc, rfl, rfl, rfl⟩ := h
    exact .heredoc hrest hdoc
  · rename_i rest hrest
    exact .not hrest h
  · rename_i rest hrest
    simp only [bind_eq_ok, lift_eq_ok] at h
    obtain ⟨next, hskip, h⟩ := h
    split at h
    · rename_i x xs hnext
      split at h
      · simp only [bind_eq_ok, lift_eq_ok, Prod.exists, pure_eq_ok, Prod.mk.injEq] at h
        obtain ⟨number, c₁, hnumber, rfl, rfl, rfl⟩ := h
        exact .negative hrest hskip hnumber
      · rename_i hx
        exact .neg hrest hskip hnext (Bool.eq_false_iff.2 hx) h
    · cases h
  · rename_i x rest hquote hbracket hbrace hparen hless hnot hminus hrest
    split at h
    · simp only [bind_eq_ok, lift_eq_ok, Prod.exists, pure_eq_ok, Prod.mk.injEq] at h
      obtain ⟨number, c₁, hnumber, rfl, rfl, rfl⟩ := h
      exact .number hnumber
    · rename_i hx
      refine .word hrest ?_ h
      simp only [startsWord, List.contains_cons, List.contains_nil, Bool.not_eq_true',
        Bool.or_eq_false_iff, beq_eq_false_iff_ne]
      exact ⟨Bool.eq_false_iff.2 hx, hquote, hbracket, hbrace, hparen, hless, hnot, hminus, trivial⟩

/-- A number starts no other term. -/
theorem term_of_number {number : Number} (hnumber : c.number = some (number, d)) :
    term (n + 1) m c = .ok (.number number, m, d) := by
  obtain ⟨x, xs, hrest, hx⟩ := isDigit_of_number hnumber
  have hne : ∀ y, y.isDigit = false → x ≠ y := by
    rintro y hy rfl
    rw [hx] at hy
    cases hy
  rw [term, hrest]
  split
  any_goals
    rename_i heq
    exact absurd (List.cons.inj heq).1 (hne _ rfl)
  · rename_i heq
    cases heq
  · rename_i heq
    obtain ⟨rfl, -⟩ := List.cons.inj heq
    simp only [hx, if_true, hnumber, lift_bind]
    rfl

/-- A term that starts with no other character is left to the reader of words. -/
theorem term_of_startsWord {x : Char} {rest : List Char} (hrest : c.rest = x :: rest)
    (hx : startsWord x = true) : term (n + 1) m c = word n m c := by
  simp only [startsWord, List.contains_cons, List.contains_nil, Bool.not_eq_true',
    Bool.or_eq_false_iff, beq_eq_false_iff_ne] at hx
  obtain ⟨hdigit, h₁, h₂, h₃, h₄, h₅, h₆, h₇, -⟩ := hx
  rw [term, hrest]
  split
  · rename_i heq
    cases heq
  any_goals
    rename_i heq
    first
      | exact absurd (List.cons.inj heq).1 ‹_›
      | skip
  · rename_i heq
    obtain ⟨rfl, -⟩ := List.cons.inj heq
    simp only [hdigit, Bool.false_eq_true, if_false]

theorem TermStep.read {form : Form} (h : TermStep n m c form a d) :
    term (n + 1) m c = .ok (form, a, d) := by
  cases h with
  | quoted hrest hparts hclose =>
    rw [term, hrest]
    simp only [hparts, Reading.settle, hclose, lift_bind, ok_bind]
    rfl
  | arrayFor hrest hskip hfor hform hclose =>
    rw [term, hrest]
    simp only [hskip, hfor, hform, hclose, lift_bind, ok_bind, if_true]
    rfl
  | array hrest hskip hfor hitems =>
    rw [term, hrest]
    simp only [hskip, hfor, hitems, lift_bind, ok_bind, Bool.false_eq_true, if_false]
    rfl
  | objectFor hrest hskip hfor hform hclose =>
    rw [term, hrest]
    simp only [hskip, hfor, hform, hclose, lift_bind, ok_bind, if_true]
    rfl
  | object hrest hskip hfor hentries =>
    rw [term, hrest]
    simp only [hskip, hfor, hentries, lift_bind, ok_bind, Bool.false_eq_true, if_false]
    rfl
  | parens hrest h₁ hinner h₃ hclose =>
    rw [term, hrest]
    simp only [h₁, hinner, h₃, hclose, lift_bind, ok_bind]
    rfl
  | heredoc hrest hdoc =>
    rw [term, hrest]
    simp only [hdoc, ok_bind]
    rfl
  | not hrest hoperand =>
    rw [term, hrest]
    exact hoperand
  | negative hrest hskip hnumber =>
    obtain ⟨x, xs, hnext, hx⟩ := isDigit_of_number hnumber
    rw [term, hrest]
    simp only [hskip, hnext, hx, hnumber, lift_bind, if_true]
    rfl
  | neg hrest hskip hnext hx hoperand =>
    rw [term, hrest]
    simp only [hskip, hnext, hx, lift_bind, Bool.false_eq_true, if_false, hoperand]
  | number hnumber => exact term_of_number hnumber
  | word hrest hx hword => rw [term_of_startsWord hrest hx, hword]

theorem term_succ_iff {form : Form} :
    term (n + 1) m c = .ok (form, a, d) ↔ TermStep n m c form a d :=
  ⟨.of_term, TermStep.read⟩

theorem operand_succ_iff {op : UnaryOp} {form : Form} :
    prefixed (n + 1) op m c = .ok (form, a, d) ↔ OperandStep n op m c form a d := by
  constructor
  · intro h
    rw [prefixed] at h
    simp only [bind_eq_ok, lift_eq_ok] at h
    obtain ⟨c₁, h₁, h⟩ := h
    split at h
    · rename_i rest hrest
      exact .not h₁ hrest h
    · rename_i rest hrest
      simp only [bind_eq_ok, lift_eq_ok] at h
      obtain ⟨next, hskip, h⟩ := h
      split at h
      · rename_i x xs hnext
        split at h
        · simp only [bind_eq_ok, lift_eq_ok, Prod.exists, pure_eq_ok, Prod.mk.injEq] at h
          obtain ⟨number, c₂, hnumber, rfl, rfl, rfl⟩ := h
          exact .negative h₁ hrest hskip hnumber
        · rename_i hx
          exact .neg h₁ hrest hskip hnext (Bool.eq_false_iff.2 hx) h
      · cases h
    · rename_i hnot hneg
      simp only [bind_eq_ok, Prod.exists, pure_eq_ok, Prod.mk.injEq] at h
      obtain ⟨form, a', c₂, hterm, rfl, rfl, rfl⟩ := h
      exact .term h₁ (head?_ne_of_forall hnot) (head?_ne_of_forall hneg) hterm
  · rintro (⟨h₁, hrest, hterm⟩ | ⟨h₁, hrest, hskip, hnumber⟩ | ⟨h₁, hrest, hskip, hnext, hx, hterm⟩ |
      ⟨h₁, hnot, hneg, hterm⟩)
    · rw [prefixed, h₁, lift_bind, hrest]
      exact hterm
    · obtain ⟨x, xs, hnext, hx⟩ := isDigit_of_number hnumber
      rw [prefixed, h₁, lift_bind, hrest]
      simp only [hskip, hnext, hx, hnumber, lift_bind, if_true]
      rfl
    · rw [prefixed, h₁, lift_bind, hrest]
      simp only [hskip, hnext, hx, lift_bind, Bool.false_eq_true, if_false, hterm]
    · rw [prefixed, h₁, lift_bind]
      split
      · rename_i hrest
        exact absurd hrest (ne_of_head hnot _)
      · rename_i hrest
        exact absurd hrest (ne_of_head hneg _)
      · simp only [hterm, ok_bind]
        rfl

theorem word_succ_iff {form : Form} :
    word (n + 1) m c = .ok (form, a, d) ↔ WordStep n m c form a d := by
  constructor
  · intro h
    rw [word] at h
    simp only [bind_eq_ok, lift_eq_ok, Prod.exists] at h
    obtain ⟨name, c₁, hname, names, c₂, hnames, next, hskip, h⟩ := h
    split at h
    · rename_i rest hrest
      simp only [bind_eq_ok, Prod.exists, pure_eq_ok, Prod.mk.injEq] at h
      obtain ⟨args, spread, closing, c₃, hargs, rfl, rfl, rfl⟩ := h
      exact .call hname hnames hskip hrest hargs
    · rename_i hne
      split at h
      · rename_i hone
        simp only [pure_eq_ok, Prod.mk.injEq] at h
        obtain ⟨rfl, rfl, rfl⟩ := h
        exact .bare hname hnames hskip (head?_ne_of_forall hne) hone
      · cases h
  · rintro (⟨hname, hnames, hskip, hcall, hone⟩ | ⟨hname, hnames, hskip, hrest, hargs⟩)
    · rw [word]
      simp only [hname, hnames, hskip, lift_bind]
      split
      · rename_i hrest
        exact absurd hrest (ne_of_head hcall _)
      · rw [if_pos hone]
        rfl
    · rw [word]
      simp only [hname, hnames, hskip, hrest, hargs, lift_bind, ok_bind]
      rfl

theorem arguments_succ_iff {args args' : List Expr} {spread : Bool} {closing : Closing} :
    arguments (n + 1) m args c = .ok (args', spread, closing, d) ↔
      ArgumentsStep n m args c args' spread closing d := by
  constructor
  · intro h
    rw [arguments] at h
    simp only [bind_eq_ok, lift_eq_ok] at h
    obtain ⟨next, hskip, h⟩ := h
    split at h
    · rename_i rest hrest
      simp only [pure_eq_ok, Prod.mk.injEq] at h
      obtain ⟨rfl, rfl, rfl, rfl⟩ := h
      exact .stop hskip hrest
    · rename_i hne
      have hne := head?_ne_of_forall hne
      simp only [bind_eq_ok, lift_eq_ok, Prod.exists] at h
      obtain ⟨arg, c₁, harg, c₂, h₂, h⟩ := h
      split at h
      · rename_i rest hrest
        simp only [pure_eq_ok, Prod.mk.injEq] at h
        obtain ⟨rfl, rfl, rfl, rfl⟩ := h
        exact .last hskip hne harg h₂ hrest
      · rename_i rest hrest
        exact .more hskip hne harg h₂ hrest h
      · rename_i rest hrest
        simp only [bind_eq_ok, lift_eq_ok, pure_eq_ok, Prod.mk.injEq] at h
        obtain ⟨c₃, h₃, c₄, hclose, rfl, rfl, rfl, rfl⟩ := h
        exact .spread hskip hne harg h₂ hrest h₃ hclose
      · cases h
  · intro h
    rw [arguments]
    cases h with
    | stop hskip hrest =>
      rw [hskip, lift_bind, hrest]
      rfl
    | last hskip hne harg h₂ hrest =>
      rw [hskip, lift_bind]
      split
      · rename_i heq
        exact absurd heq (ne_of_head hne _)
      · simp only [harg, h₂, hrest, ok_bind, lift_bind]
        rfl
    | more hskip hne harg h₂ hrest hmore =>
      rw [hskip, lift_bind]
      split
      · rename_i heq
        exact absurd heq (ne_of_head hne _)
      · simp only [harg, h₂, hrest, ok_bind, lift_bind, hmore]
    | spread hskip hne harg h₂ hrest h₃ hclose =>
      rw [hskip, lift_bind]
      split
      · rename_i heq
        exact absurd heq (ne_of_head hne _)
      · simp only [harg, h₂, hrest, h₃, hclose, ok_bind, lift_bind]
        rfl

theorem array_succ_iff {es es' : List Expr} {closing : Closing} :
    arrayItems (n + 1) m es c = .ok (es', closing, d) ↔ ArrayStep n m es c es' closing d := by
  constructor
  · intro h
    rw [arrayItems] at h
    simp only [bind_eq_ok, lift_eq_ok] at h
    obtain ⟨next, hskip, h⟩ := h
    split at h
    · rename_i rest hrest
      simp only [pure_eq_ok, Prod.mk.injEq] at h
      obtain ⟨rfl, rfl, rfl⟩ := h
      exact .stop hskip hrest
    · rename_i hne
      have hne := head?_ne_of_forall hne
      simp only [bind_eq_ok, lift_eq_ok, Prod.exists] at h
      obtain ⟨e, c₁, hitem, c₂, h₂, h⟩ := h
      split at h
      · rename_i rest hrest
        simp only [pure_eq_ok, Prod.mk.injEq] at h
        obtain ⟨rfl, rfl, rfl⟩ := h
        exact .last hskip hne hitem h₂ hrest
      · rename_i rest hrest
        exact .more hskip hne hitem h₂ hrest h
      · cases h
  · intro h
    rw [arrayItems]
    cases h with
    | stop hskip hrest =>
      rw [hskip, lift_bind, hrest]
      rfl
    | last hskip hne hitem h₂ hrest =>
      rw [hskip, lift_bind]
      split
      · rename_i heq
        exact absurd heq (ne_of_head hne _)
      · simp only [hitem, h₂, hrest, ok_bind, lift_bind]
        rfl
    | more hskip hne hitem h₂ hrest hmore =>
      rw [hskip, lift_bind]
      split
      · rename_i heq
        exact absurd heq (ne_of_head hne _)
      · simp only [hitem, h₂, hrest, ok_bind, lift_bind, hmore]

theorem EntriesStep.of_entries {es es' : List Entry} {gap : Option Span}
    (h : objectEntries (n + 1) es c = .ok (es', gap, d)) : EntriesStep n es c es' gap d := by
  rw [objectEntries] at h
  simp only [bind_eq_ok, lift_eq_ok] at h
  obtain ⟨next, hskip, h⟩ := h
  split at h
  · rename_i rest hrest
    simp only [pure_eq_ok, Prod.mk.injEq] at h
    obtain ⟨rfl, rfl, rfl⟩ := h
    exact .stop hskip hrest
  · rename_i hne
    have hne := head?_ne_of_forall hne
    simp only [bind_eq_ok, lift_eq_ok, Prod.exists] at h
    obtain ⟨key, c₁, hkey, c₂, h₂, h⟩ := h
    rw [ite_bind] at h
    simp only [bind_eq_ok, lift_eq_ok, Prod.exists] at h
    obtain ⟨c₃, hsign, c₄, h₄, value, c₅, hvalue, c₆, h₆, h⟩ := h
    have hsign : c₂.expect [entrySign (c₂.skipIf [':']).1] = some c₃ := by
      rcases skipIf_cases [':'] c₂ with ⟨c', hcolon, hskipIf⟩ | ⟨-, hskipIf⟩
      · rw [hskipIf, if_pos rfl, pure_eq_ok] at hsign
        rw [hskipIf, ← hsign]
        exact hcolon
      · rw [hskipIf, if_neg (by simp), lift_eq_ok] at hsign
        rw [hskipIf]
        exact hsign
    have hentry : EntryStep n next (.mk key value (c₂.skipIf [':']).1) c₆ :=
      .mk hkey h₂ hsign h₄ hvalue h₆
    split at h
    · rename_i rest hrest
      simp only [pure_eq_ok, Prod.mk.injEq] at h
      obtain ⟨rfl, rfl, rfl⟩ := h
      exact .last hskip hne hentry hrest
    · rename_i rest hrest
      exact .comma hskip hne hentry hrest h
    · simp only [bind_eq_ok, lift_eq_ok] at h
      obtain ⟨c₇, hbreak, h⟩ := h
      exact .line hskip hne hentry hbreak h

/-- The sign that comes next is the one that is taken. -/
theorem skipIf_of_entrySign {colon : Bool} (h : c.expect [entrySign colon] = some d) :
    ∃ c', c.skipIf [':'] = (colon, c') ∧
      (if colon then pure c' else liftM (c'.expect ['=']) : Reading Cursor) = .ok d := by
  rcases skipIf_cases [':'] c with ⟨c', hcolon, hskipIf⟩ | ⟨hcolon, hskipIf⟩
  · cases colon with
    | true =>
      obtain rfl := Option.some.inj (hcolon.symm.trans h)
      exact ⟨c', hskipIf, rfl⟩
    | false =>
      have hrest := (expect_eq_some.1 hcolon).1.symm.trans (expect_eq_some.1 h).1
      simp [entrySign] at hrest
  · cases colon with
    | true => cases hcolon.symm.trans h
    | false => exact ⟨c, hskipIf, lift_eq_ok.2 h⟩

/-- What an object reads behind an entry: its closing brace, or more entries after a comma or a line
end. -/
def behindEntry (n : Nat) (es : List Entry) (entry : EntryEnd → Entry) (c : Cursor) :
    Reading (List Entry × Option Span × Cursor) :=
  match c.rest with
  | '}' :: rest => .ok (insertEntry (entry .brace) es, none, ⟨rest, c.byte + 1⟩)
  | ',' :: rest => objectEntries n (insertEntry (entry .comma) es) ⟨rest, c.byte + 1⟩
  | _ => do
    let c ← c.lineBreak
    objectEntries n (insertEntry (entry .newline) es) c

theorem entries_of_entry {es : List Entry} {entry : EntryEnd → Entry} {next : Cursor}
    (hskip : c.skipLines = some next) (hne : next.rest.head? ≠ some '}')
    (hentry : EntryStep n next entry d) : objectEntries (n + 1) es c = behindEntry n es entry d := by
  obtain ⟨hkey, h₂, hsign, h₄, hvalue, h₆⟩ := hentry
  obtain ⟨c', hskipIf, hpick⟩ := skipIf_of_entrySign hsign
  rw [objectEntries, hskip, lift_bind]
  split
  · rename_i hrest
    exact absurd hrest (ne_of_head hne _)
  · simp only [hkey, h₂, hskipIf, ok_bind, lift_bind]
    rw [ite_bind, hpick]
    simp only [h₄, hvalue, h₆, ok_bind, lift_bind]
    rfl

theorem entries_succ_iff {es es' : List Entry} {gap : Option Span} :
    objectEntries (n + 1) es c = .ok (es', gap, d) ↔ EntriesStep n es c es' gap d := by
  refine ⟨.of_entries, fun h => ?_⟩
  cases h with
  | stop hskip hrest =>
    rw [objectEntries, hskip, lift_bind]
    simp only [hrest]
    rfl
  | last hskip hne hentry hrest =>
    rw [entries_of_entry hskip hne hentry, behindEntry, hrest]
    rfl
  | comma hskip hne hentry hrest hmore =>
    rw [entries_of_entry hskip hne hentry, behindEntry, hrest]
    exact hmore
  | line hskip hne hentry hbreak hmore =>
    rw [entries_of_entry hskip hne hentry, behindEntry]
    split
    · rename_i hrest
      simp [lineBreak, hrest] at hbreak
    · rename_i hrest
      simp [lineBreak, hrest] at hbreak
    · rw [hbreak, lift_bind]
      exact hmore

theorem comprehension_succ_iff {keyed : Bool} {form : Form} :
    comprehension (n + 1) m keyed c = .ok (form, d) ↔ ComprehensionStep n m keyed c form d := by
  constructor
  · intro h
    rw [comprehension] at h
    simp only [bind_eq_ok, lift_eq_ok, Prod.exists] at h
    obtain ⟨c₁, hfor, keyName, valueName, c₂, hnames, c₃, h₃, collection, c₄, hcollection, c₅, h₅, c₆,
      hcolon, c₇, h₇, key, value, grouped, c₈, hyielded, h⟩ := h
    have hgenerator : GeneratorStep n m keyed c
        (.comprehension keyName valueName collection key value grouped) c₈ :=
      .mk hfor hnames h₃ hcollection h₅ hcolon h₇ hyielded
    split at h
    · rename_i hif
      obtain ⟨rfl, rfl⟩ := Prod.mk.inj (pure_eq_ok.1 h)
      exact .unfiltered hgenerator hif
    · rename_i c₉ hif
      simp only [bind_eq_ok, lift_eq_ok, Prod.exists, pure_eq_ok, Prod.mk.injEq] at h
      obtain ⟨c₁₀, h₁₀, cond, c₁₁, hcond, c₁₂, h₁₂, rfl, rfl⟩ := h
      exact .filtered hgenerator hif h₁₀ hcond h₁₂
  · intro h
    rw [comprehension]
    cases h with
    | unfiltered hgenerator hif =>
      obtain ⟨hfor, hnames, h₃, hcollection, h₅, hcolon, h₇, hyielded⟩ := hgenerator
      simp only [hfor, hnames, h₃, hcollection, h₅, hcolon, h₇, hyielded, hif, ok_bind, lift_bind]
      rfl
    | filtered hgenerator hif h₃ hcond h₅ =>
      obtain ⟨hfor, hnames, h₃', hcollection, h₅', hcolon, h₇, hyielded⟩ := hgenerator
      simp only [hfor, hnames, h₃', hcollection, h₅', hcolon, h₇, hyielded, hif, h₃, hcond, h₅, ok_bind,
        lift_bind]
      rfl

theorem yielded_succ_iff {keyed grouped : Bool} {key : Option Expr} {value : Expr} :
    yielded (n + 1) m keyed c = .ok (key, value, grouped, d) ↔
      YieldedStep n m c keyed key value grouped d := by
  constructor
  · intro h
    rw [yielded] at h
    split at h
    · rename_i hkeyed
      subst hkeyed
      simp only [bind_eq_ok, lift_eq_ok, Prod.exists, pure_eq_ok, Prod.mk.injEq] at h
      obtain ⟨key, c₁, hkey, c₂, h₂, c₃, harrow, c₄, h₄, value, c₅, hvalue, c₆, h₆, c₇, h₇, rfl, rfl, rfl,
        rfl⟩ := h
      exact .entry hkey h₂ harrow h₄ hvalue h₆ rfl h₇
    · rename_i hkeyed
      obtain rfl := Bool.eq_false_iff.2 hkeyed
      simp only [bind_eq_ok, lift_eq_ok, Prod.exists, pure_eq_ok, Prod.mk.injEq] at h
      obtain ⟨value, c₁, hvalue, c₂, h₂, rfl, rfl, rfl, rfl⟩ := h
      exact .value hvalue h₂
  · rintro (⟨hvalue, h₁⟩ | ⟨hkey, h₂, harrow, h₄, hvalue, h₆, hdots, h₇⟩)
    · rw [yielded]
      simp only [hvalue, h₁, ok_bind, lift_bind, Bool.false_eq_true, if_false]
      rfl
    · rw [yielded]
      simp only [hkey, h₂, harrow, h₄, hvalue, h₆, hdots, h₇, ok_bind, lift_bind, if_true]
      rfl

theorem heredoc_succ_iff {form : Form} :
    heredoc (n + 1) c = .ok (form, d) ↔ HeredocStep n c form d := by
  constructor
  · intro h
    rw [heredoc] at h
    simp only [bind_eq_ok, lift_eq_ok, Prod.exists] at h
    obtain ⟨indented, id, c₁, hstart, h⟩ := h
    split at h
    · rename_i ps gap stop hbody
      have hstep := HeredocStep.body hstart hbody
      cases indented with
      | true =>
        obtain ⟨rfl, rfl⟩ := Prod.mk.inj (pure_eq_ok.1 h)
        exact hstep
      | false =>
        obtain ⟨rfl, rfl⟩ := Prod.mk.inj (pure_eq_ok.1 h)
        exact hstep
    · rename_i hbody
      simp only [bind_eq_ok, lift_eq_ok, Prod.exists, pure_eq_ok, Prod.mk.injEq] at h
      obtain ⟨gap, c₂, hstop, rfl, rfl⟩ := h
      exact .brief hstart hbody hstop
    · cases h
  · intro h
    rw [heredoc]
    cases h with
    | @body _ _ indented id ps gap hstart hbody =>
      rw [hstart, lift_bind]
      simp only [hbody]
      cases indented <;> rfl
    | brief hstart hbody hstop =>
      rw [hstart, lift_bind]
      simp only [hbody, hstop, lift_bind]
      rfl

theorem heredocBody_succ_iff {id : List Char} {ps : List Part} {gap : Option Span} :
    heredocBody (n + 1) id c = .ok (ps, gap, d) ↔ HeredocBodyStep n id c ps gap d := by
  constructor
  · intro h
    rw [heredocBody] at h
    simp only [bind_eq_ok, Prod.exists] at h
    obtain ⟨ps, c₁, hparts, h⟩ := h
    split at h
    · cases h
    · rename_i hbreak
      simp only [bind_eq_ok, lift_eq_ok, Prod.exists, pure_eq_ok, Prod.mk.injEq] at h
      obtain ⟨gap, c₂, hstop, rfl, rfl, rfl⟩ := h
      exact .mk hparts hbreak hstop
  · rintro ⟨hparts, hbreak, hstop⟩
    rw [heredocBody, hparts, ok_bind]
    dsimp only
    split
    · rename_i hnil
      exact absurd hnil hbreak
    · rw [afterBreak] at hstop
      simp only [hstop, lift_bind]
      rfl

theorem PartsStep.of_parts {closer : Closer} {ps ps' : List Part}
    (h : templateParts (n + 1) closer ps c = .ok (ps', d)) : PartsStep n closer ps c ps' d := by
  rw [templateParts] at h
  split at h
  · rename_i rest hrest
    simp only [bind_eq_ok, lift_eq_ok, Prod.exists] at h
    obtain ⟨before, c₁, hopen, e, c₂, hinner, after, c₃, hclose, h⟩ := h
    exact .interpolation hrest hopen hinner hclose h
  · rename_i rest hrest
    simp only [bind_eq_ok, lift_eq_ok, Prod.exists] at h
    obtain ⟨before, c₁, hopen, h⟩ := h
    split at h
    · rename_i inner hinner
      simp only [bind_eq_ok, Prod.exists] at h
      obtain ⟨part, c₂, hpart, h⟩ := h
      exact .choice hrest hopen hinner hpart h
    · rename_i inner hinner
      simp only [bind_eq_ok, Prod.exists] at h
      obtain ⟨part, c₂, hpart, h⟩ := h
      exact .repetition hrest hopen hinner hpart h
    · rename_i hif hfor
      obtain ⟨rfl, rfl⟩ := Prod.mk.inj (pure_eq_ok.1 h)
      refine .directive hrest hopen ?_
      unfold startsDirective
      split
      · rename_i heq
        exact (hif _ heq).elim
      · rename_i heq
        exact (hfor _ heq).elim
      · rfl
  · rename_i hdollar hpercent
    have hne : startsSequence c.rest = false := by
      unfold startsSequence
      split
      · rename_i heq
        exact (hdollar _ heq).elim
      · rename_i heq
        exact (hpercent _ heq).elim
      · rfl
    split at h
    · rename_i hend
      obtain ⟨rfl, rfl⟩ := Prod.mk.inj (Except.ok.inj h)
      exact .stop hne hend
    · rename_i hend
      simp only [bind_eq_ok, Prod.exists] at h
      obtain ⟨text, c₁, hrun, h⟩ := h
      exact .literal hne (Bool.eq_false_iff.2 hend) hrun h

/-- Where no sequence starts, the closer comes next or literal text. -/
theorem parts_of_literal {closer : Closer} {ps : List Part} (hne : startsSequence c.rest = false) :
    templateParts (n + 1) closer ps c =
      if closer.comesNext c.rest then .ok (ps, c)
      else (do
        let (text, c) ← closer.literalRun c
        templateParts n closer (ps ++ [.literal text]) c) := by
  rw [templateParts]
  split
  · rename_i heq
    simp [heq, startsSequence] at hne
  · rename_i heq
    simp [heq, startsSequence] at hne
  · rfl

theorem PartsStep.read {closer : Closer} {ps ps' : List Part} (h : PartsStep n closer ps c ps' d) :
    templateParts (n + 1) closer ps c = .ok (ps', d) := by
  cases h with
  | interpolation hrest hopen hinner hclose hmore =>
    simp only [templateParts, hrest, hopen, hinner, hclose, ok_bind, lift_bind, hmore]
  | choice hrest hopen hinner hpart hmore =>
    simp only [templateParts, hrest, hopen, hinner, hpart, ok_bind, lift_bind, hmore]
  | repetition hrest hopen hinner hpart hmore =>
    simp only [templateParts, hrest, hopen, hinner, hpart, ok_bind, lift_bind, hmore]
  | directive hrest hopen hinner =>
    simp only [templateParts, hrest, hopen, lift_bind]
    split
    · rename_i heq
      simp [heq, startsDirective] at hinner
    · rename_i heq
      simp [heq, startsDirective] at hinner
    · rfl
  | stop hne hend => rw [parts_of_literal hne, if_pos hend]
  | literal hne hend hrun hmore =>
    rw [parts_of_literal hne, hend, if_neg Bool.false_ne_true, hrun, ok_bind]
    exact hmore

theorem parts_succ_iff {closer : Closer} {ps ps' : List Part} :
    templateParts (n + 1) closer ps c = .ok (ps', d) ↔ PartsStep n closer ps c ps' d :=
  ⟨.of_parts, PartsStep.read⟩

theorem choice_succ_iff {start : Nat} {before : Bool} {part : Part} :
    choice (n + 1) start before c = .ok (part, d) ↔ ChoiceStep n start before c part d := by
  constructor
  · intro h
    rw [choice] at h
    simp only [bind_eq_ok, lift_eq_ok, Prod.exists] at h
    obtain ⟨c₁, h₁, cond, c₂, hcond, after, c₃, hclose, yes, c₄, hyes, h⟩ := h
    have hcondition : ConditionStep n start before c ⟨⟨start, c₃.byte⟩, before, after⟩ cond yes c₄ :=
      .mk h₁ hcond hclose hyes
    split at h
    · rename_i middle c₅ helse
      simp only [bind_eq_ok, lift_eq_ok, Prod.exists, pure_eq_ok, Prod.mk.injEq] at h
      obtain ⟨no, c₆, hno, closing, c₇, hend, rfl, rfl⟩ := h
      exact .both hcondition helse hno hend
    · rename_i helse
      simp only [bind_eq_ok, lift_eq_ok, Prod.exists, pure_eq_ok, Prod.mk.injEq] at h
      obtain ⟨closing, c₅, hend, rfl, rfl⟩ := h
      exact .single hcondition helse hend
  · intro h
    rw [choice]
    cases h with
    | single hcondition helse hend =>
      obtain ⟨h₁, hcond, hclose, hyes⟩ := hcondition
      simp only [h₁, hcond, hclose, hyes, helse, hend, ok_bind, lift_bind]
      rfl
    | both hcondition helse hno hend =>
      obtain ⟨h₁, hcond, hclose, hyes⟩ := hcondition
      simp only [h₁, hcond, hclose, hyes, helse, hno, hend, ok_bind, lift_bind]
      rfl

theorem repetition_succ_iff {start : Nat} {before : Bool} {part : Part} :
    repetition (n + 1) start before c = .ok (part, d) ↔ RepetitionStep n start before c part d := by
  constructor
  · intro h
    rw [repetition] at h
    simp only [bind_eq_ok, lift_eq_ok, Prod.exists, pure_eq_ok, Prod.mk.injEq] at h
    obtain ⟨keyName, valueName, c₁, hnames, c₂, h₂, collection, c₃, hcollection, after, c₄, hopen, body,
      c₅, hbody, closing, c₆, hclose, rfl, rfl⟩ := h
    exact .mk hnames h₂ hcollection hopen hbody hclose
  · rintro ⟨hnames, h₂, hcollection, hopen, hbody, hclose⟩
    rw [repetition]
    simp only [hnames, h₂, hcollection, hopen, hbody, hclose, ok_bind, lift_bind]
    rfl

theorem directiveBody_succ_iff {ps : List Part} : directiveBody (n + 1) c = .ok (ps, d) ↔
    templateParts n .endOfText [] c = .ok (ps, d) ∧ d.rest ≠ [] := by
  constructor
  · intro h
    rw [directiveBody] at h
    simp only [bind_eq_ok, Prod.exists] at h
    obtain ⟨ps, c₁, hparts, h⟩ := h
    split at h
    · cases h
    · rename_i hne
      obtain ⟨rfl, rfl⟩ := Prod.mk.inj (pure_eq_ok.1 h)
      exact ⟨hparts, by simpa using hne⟩
  · rintro ⟨hparts, hne⟩
    rw [directiveBody, hparts, ok_bind]
    simp only [List.isEmpty_iff, hne, if_false]
    rfl

end Iff

end TerraLint.Hcl
