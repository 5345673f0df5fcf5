import TerraLint.Proofs.Hcl.Steps

/-!
# The grammar of expressions

What the readers of expressions read, as a relation between the cursor before a phrase and the
cursor after it. A derivation has one node for each call of a reader, without bounds and without the
trees that readers build.

* `Derives`: a phrase stands between two cursors.
* `sound`: what a reader reads is derived.
-/

namespace TerraLint.Hcl

open Text

/-- What stands between two cursors. The mode after a term is part of the phrase. -/
inductive Phrase where
  | expr (mode : Mode)
  | operations (mode : Mode)
  | index
  | term (mode after : Mode)
  | operand (mode after : Mode)
  | word (mode after : Mode)
  /-- The items of a list up to its closing bracket, or the arguments of a call. -/
  | elements (call : Bool) (mode : Mode)
  | entries
  /-- A key, a sign, a value and the blanks behind it. -/
  | entry
  | comprehension (mode : Mode) (keyed : Bool)
  /-- A comprehension without its condition. -/
  | generator (mode : Mode) (keyed : Bool)
  | yielded (mode : Mode) (keyed : Bool)
  | heredoc
  | heredocBody (id : List Char)
  | parts (closer : Closer)
  | choice
  /-- A condition and what is written if it holds. -/
  | condition
  | repetition
  | directiveBody
deriving DecidableEq, Repr

/-- The bracket that closes a call or a list. -/
def closing (call : Bool) : Char := if call then ')' else ']'

/-- A phrase stands between two cursors. Without `brief` every heredoc has a line between its marker
and its terminator. -/
inductive Derives (brief : Bool) : Phrase → Cursor → Cursor → Prop
  | expr {m a : Mode} {c c₁ d : Cursor} (hterm : Derives brief (.term m a) c c₁)
    (hops : Derives brief (.operations a) c₁ d) : Derives brief (.expr m) c d
  -- Operations
  | stay {m : Mode} {c next : Cursor} (hskip : c.skip m.multiline = some next)
    (hstay : Stays m next.rest) : Derives brief (.operations m) c c
  | dot {m : Mode} {c next c₁ d : Cursor} {x : Char} {rest : List Char} {step : Step}
    (hskip : c.skip m.multiline = some next) (hrest : next.rest = '.' :: x :: rest) (hx : x ≠ '.')
    (hstep : Cursor.dotStep next.byte ⟨x :: rest, next.byte + 1⟩ = some (step, c₁))
    (hops : Derives brief (.operations m) c₁ d) : Derives brief (.operations m) c d
  | indexed {m : Mode} {c next c₁ d : Cursor} {x : Char} {rest : List Char}
    (hskip : c.skip m.multiline = some next) (hrest : next.rest = '[' :: x :: rest)
    (hindex : Derives brief .index ⟨x :: rest, next.byte + 1⟩ c₁)
    (hops : Derives brief (.operations m) c₁ d) : Derives brief (.operations m) c d
  | conditional {m : Mode} {c next c₁ c₂ c₃ c₄ c₅ d : Cursor} {x : Char} {rest : List Char}
    (hskip : c.skip m.multiline = some next) (hrest : next.rest = '?' :: x :: rest)
    (hmode : m.conditional = true)
    (h₁ : Cursor.skip m.multiline ⟨x :: rest, next.byte + 1⟩ = some c₁)
    (hyes : Derives brief (.expr m.inner) c₁ c₂) (h₃ : c₂.skip m.multiline = some c₃)
    (hcolon : c₃.expect [':'] = some c₄) (h₅ : c₄.skip m.multiline = some c₅)
    (hno : Derives brief (.expr m.inner) c₅ d) : Derives brief (.operations m) c d
  | binary {m : Mode} {c next c₁ c₂ d : Cursor} {op : BinaryOp} {length : Nat}
    (hskip : c.skip m.multiline = some next) (hop : operator? next.rest = some (op, length))
    (h₁ : Cursor.skip m.multiline ⟨next.rest.drop length, next.byte + length⟩ = some c₁)
    (hrhs : Derives brief (.expr m.operand) c₁ c₂)
    (hops : Derives brief (.operations m.operated) c₂ d) : Derives brief (.operations m) c d
  | splat {c c₁ c₂ d : Cursor} {rest : List Char} (h₁ : c.skipLines = some c₁)
    (hrest : c₁.rest = '*' :: rest) (h₂ : Cursor.skipLines ⟨rest, c₁.byte + 1⟩ = some c₂)
    (hclose : c₂.expect [']'] = some d) : Derives brief .index c d
  | index {c c₁ c₂ c₃ d : Cursor} (h₁ : c.skipLines = some c₁) (hne : c₁.rest.head? ≠ some '*')
    (hkey : Derives brief (.expr .enclosed) c₁ c₂) (h₃ : c₂.skipLines = some c₃)
    (hclose : c₃.expect [']'] = some d) : Derives brief .index c d
  -- Terms
  | quoted {m : Mode} {c c₁ d : Cursor} {rest : List Char} (hrest : c.rest = '"' :: rest)
    (hparts : Derives brief (.parts .quote) ⟨rest, c.byte + 1⟩ c₁)
    (hclose : c₁.expect ['"'] = some d) : Derives brief (.term m m) c d
  | arrayFor {m : Mode} {c next c₁ d : Cursor} {rest : List Char} (hrest : c.rest = '[' :: rest)
    (hskip : Cursor.skipLines ⟨rest, c.byte + 1⟩ = some next)
    (hfor : startsComprehension next.rest = true)
    (hform : Derives brief (.comprehension m.spread false) next c₁)
    (hclose : c₁.expect [']'] = some d) : Derives brief (.term m m.spread) c d
  | array {m : Mode} {c next d : Cursor} {rest : List Char} (hrest : c.rest = '[' :: rest)
    (hskip : Cursor.skipLines ⟨rest, c.byte + 1⟩ = some next)
    (hfor : startsComprehension next.rest = false)
    (hitems : Derives brief (.elements false m.spread.inner) ⟨rest, c.byte + 1⟩ d) :
    Derives brief (.term m m.spread) c d
  | objectFor {m : Mode} {c next c₁ d : Cursor} {rest : List Char} (hrest : c.rest = '{' :: rest)
    (hskip : Cursor.skipLines ⟨rest, c.byte + 1⟩ = some next)
    (hfor : startsComprehension next.rest = true)
    (hform : Derives brief (.comprehension m.spread true) next c₁)
    (hclose : c₁.expect ['}'] = some d) : Derives brief (.term m m.spread) c d
  | object {m : Mode} {c next d : Cursor} {rest : List Char} (hrest : c.rest = '{' :: rest)
    (hskip : Cursor.skipLines ⟨rest, c.byte + 1⟩ = some next)
    (hfor : startsComprehension next.rest = false)
    (hentries : Derives brief .entries ⟨rest, c.byte + 1⟩ d) : Derives brief (.term m m) c d
  | parens {m : Mode} {c c₁ c₂ c₃ d : Cursor} {rest : List Char} (hrest : c.rest = '(' :: rest)
    (h₁ : Cursor.skipLines ⟨rest, c.byte + 1⟩ = some c₁)
    (hinner : Derives brief (.expr .enclosed) c₁ c₂) (h₃ : c₂.skipLines = some c₃)
    (hclose : c₃.expect [')'] = some d) : Derives brief (.term m m) c d
  | heredocTerm {m : Mode} {c d : Cursor} {rest : List Char} (hrest : c.rest = '<' :: rest)
    (hdoc : Derives brief .heredoc c d) : Derives brief (.term m m) c d
  | not {m a : Mode} {c d : Cursor} {rest : List Char} (hrest : c.rest = '!' :: rest)
    (hoperand : Derives brief (.operand m a) ⟨rest, c.byte + 1⟩ d) : Derives brief (.term m a) c d
  | negative {m : Mode} {c next d : Cursor} {rest : List Char} {number : Number}
    (hrest : c.rest = '-' :: rest) (hskip : Cursor.skipInline ⟨rest, c.byte + 1⟩ = some next)
    (hnumber : next.number = some (number, d)) : Derives brief (.term m m) c d
  | neg {m a : Mode} {c next d : Cursor} {x : Char} {xs rest : List Char}
    (hrest : c.rest = '-' :: rest) (hskip : Cursor.skipInline ⟨rest, c.byte + 1⟩ = some next)
    (hnext : next.rest = x :: xs) (hx : x.isDigit = false)
    (hoperand : Derives brief (.operand m a) ⟨rest, c.byte + 1⟩ d) : Derives brief (.term m a) c d
  | number {m : Mode} {c d : Cursor} {number : Number} (hnumber : c.number = some (number, d)) :
    Derives brief (.term m m) c d
  | wordTerm {m a : Mode} {c d : Cursor} {x : Char} {rest : List Char} (hrest : c.rest = x :: rest)
    (hx : startsWord x = true) (hword : Derives brief (.word m a) c d) : Derives brief (.term m a) c d
  | operand {m a : Mode} {c c₁ d : Cursor} (h₁ : c.skipInline = some c₁)
    (hterm : Derives brief (.term m a) c₁ d) : Derives brief (.operand m a) c d
  | word {m : Mode} {c c₁ c₂ next : Cursor} {name : String} {names : List String} {n : Nat}
    (hname : c.name = some (name, c₁)) (hnames : c₁.qualifiers m.multiline n [name] = some (names, c₂))
    (hskip : c₂.skip m.multiline = some next) (hcall : next.rest.head? ≠ some '(')
    (hone : names.length = 1) : Derives brief (.word m m) c c₂
  | call {m : Mode} {c c₁ c₂ next d : Cursor} {name : String} {names : List String} {n : Nat}
    {rest : List Char} (hname : c.name = some (name, c₁))
    (hnames : c₁.qualifiers m.multiline n [name] = some (names, c₂))
    (hskip : c₂.skip m.multiline = some next) (hrest : next.rest = '(' :: rest)
    (hargs : Derives brief (.elements true m.spread.inner) ⟨rest, next.byte + 1⟩ d) :
    Derives brief (.word m m.spread) c d
  -- Lists and objects
  | elementsEnd {call : Bool} {m : Mode} {c next : Cursor} {rest : List Char}
    (hskip : c.skipLines = some next) (hrest : next.rest = closing call :: rest) :
    Derives brief (.elements call m) c ⟨rest, next.byte + 1⟩
  | elementsLast {call : Bool} {m : Mode} {c next c₁ c₂ : Cursor} {rest : List Char}
    (hskip : c.skipLines = some next) (hne : next.rest.head? ≠ some (closing call))
    (helement : Derives brief (.expr m) next c₁) (h₂ : c₁.skipLines = some c₂)
    (hrest : c₂.rest = closing call :: rest) : Derives brief (.elements call m) c ⟨rest, c₂.byte + 1⟩
  | elementsMore {call : Bool} {m : Mode} {c next c₁ c₂ d : Cursor} {rest : List Char}
    (hskip : c.skipLines = some next) (hne : next.rest.head? ≠ some (closing call))
    (helement : Derives brief (.expr m) next c₁) (h₂ : c₁.skipLines = some c₂)
    (hrest : c₂.rest = ',' :: rest)
    (hmore : Derives brief (.elements call m) ⟨rest, c₂.byte + 1⟩ d) :
    Derives brief (.elements call m) c d
  | elementsSpread {m : Mode} {c next c₁ c₂ c₃ d : Cursor} {rest : List Char}
    (hskip : c.skipLines = some next) (hne : next.rest.head? ≠ some ')')
    (helement : Derives brief (.expr m) next c₁) (h₂ : c₁.skipLines = some c₂)
    (hrest : c₂.rest = '.' :: '.' :: '.' :: rest)
    (h₃ : Cursor.skipLines ⟨rest, c₂.byte + 3⟩ = some c₃) (hclose : c₃.expect [')'] = some d) :
    Derives brief (.elements true m) c d
  | entriesEnd {c next : Cursor} {rest : List Char} (hskip : c.skipLines = some next)
    (hrest : next.rest = '}' :: rest) : Derives brief .entries c ⟨rest, next.byte + 1⟩
  | entriesLast {c next c₁ : Cursor} {rest : List Char} (hskip : c.skipLines = some next)
    (hne : next.rest.head? ≠ some '}') (hentry : Derives brief .entry next c₁)
    (hrest : c₁.rest = '}' :: rest) : Derives brief .entries c ⟨rest, c₁.byte + 1⟩
  | entriesComma {c next c₁ d : Cursor} {rest : List Char} (hskip : c.skipLines = some next)
    (hne : next.rest.head? ≠ some '}') (hentry : Derives brief .entry next c₁)
    (hrest : c₁.rest = ',' :: rest) (hmore : Derives brief .entries ⟨rest, c₁.byte + 1⟩ d) :
    Derives brief .entries c d
  | entriesLine {c next c₁ c₂ d : Cursor} (hskip : c.skipLines = some next)
    (hne : next.rest.head? ≠ some '}') (hentry : Derives brief .entry next c₁)
    (hbreak : c₁.lineBreak = some c₂) (hmore : Derives brief .entries c₂ d) :
    Derives brief .entries c d
  | entry {c c₁ c₂ c₃ c₄ c₅ d : Cursor} (hkey : Derives brief (.expr .inline) c c₁)
    (h₂ : c₁.skipInline = some c₂)
    (hsign : c₂.expect [':'] = some c₃ ∨ c₂.expect ['='] = some c₃)
    (h₄ : c₃.skipInline = some c₄) (hvalue : Derives brief (.expr .inline) c₄ c₅)
    (h₆ : c₅.skipInline = some d) : Derives brief .entry c d
  -- Comprehensions
  | unfiltered {m : Mode} {keyed : Bool} {c d : Cursor}
    (hgenerator : Derives brief (.generator m keyed) c d) (hif : d.expect ['i', 'f'] = none) :
    Derives brief (.comprehension m keyed) c d
  | filtered {m : Mode} {keyed : Bool} {c c₁ c₂ c₃ c₄ d : Cursor}
    (hgenerator : Derives brief (.generator m keyed) c c₁) (hif : c₁.expect ['i', 'f'] = some c₂)
    (h₃ : c₂.skipLines = some c₃) (hcond : Derives brief (.expr m.inner) c₃ c₄)
    (h₅ : c₄.skipLines = some d) : Derives brief (.comprehension m keyed) c d
  | generator {m : Mode} {keyed : Bool} {c c₁ c₂ c₃ c₄ c₅ c₆ c₇ d : Cursor} {key : Option String}
    {value : String} (hfor : c.expect ['f', 'o', 'r'] = some c₁)
    (hnames : c₁.loopNames = some (key, value, c₂)) (h₃ : c₂.skipLines = some c₃)
    (hcollection : Derives brief (.expr .inline) c₃ c₄) (h₅ : c₄.skipLines = some c₅)
    (hcolon : c₅.expect [':'] = some c₆) (h₇ : c₆.skipLines = some c₇)
    (hyielded : Derives brief (.yielded m keyed) c₇ d) : Derives brief (.generator m keyed) c d
  | yieldedValue {m : Mode} {c c₁ d : Cursor} (hvalue : Derives brief (.expr m.inner) c c₁)
    (h₁ : c₁.skipLines = some d) : Derives brief (.yielded m false) c d
  | yieldedEntry {m : Mode} {c c₁ c₂ c₃ c₄ c₅ c₆ d : Cursor}
    (hkey : Derives brief (.expr .inline) c c₁) (h₂ : c₁.skipLines = some c₂)
    (harrow : c₂.expect ['=', '>'] = some c₃) (h₄ : c₃.skipLines = some c₄)
    (hvalue : Derives brief (.expr .inline) c₄ c₅) (h₆ : c₅.skipLines = some c₆)
    (h₇ : (c₆.skipIf ['.', '.', '.']).2.skipLines = some d) : Derives brief (.yielded m true) c d
  -- Heredocs
  | heredoc {c c₁ d : Cursor} {indented : Bool} {id : List Char}
    (hstart : c.heredocStart = some (indented, id, c₁))
    (hbody : Derives brief (.heredocBody id) c₁ d) : Derives brief .heredoc c d
  | heredocBrief {c c₁ d : Cursor} {indented : Bool} {id : List Char} {gap : Option Span}
    (hbrief : brief = true) (hstart : c.heredocStart = some (indented, id, c₁))
    (hstop : c₁.heredocStop id = some (gap, d)) : Derives brief .heredoc c d
  | heredocBody {id : List Char} {c c₁ d : Cursor} {gap : Option Span}
    (hparts : Derives brief (.parts (.terminator id)) c c₁)
    (hbreak : Cursor.lineBreakText c₁.rest ≠ [])
    (hstop : Cursor.heredocStop id ⟨c₁.rest.drop (Cursor.lineBreakText c₁.rest).length,
      c₁.byte + (Cursor.lineBreakText c₁.rest).length⟩ = some (gap, d)) :
    Derives brief (.heredocBody id) c d
  -- Templates
  | interpolation {closer : Closer} {c c₁ c₂ c₃ d : Cursor} {rest : List Char} {before after : Bool}
    (hrest : c.rest = '$' :: '{' :: rest)
    (hopen : Cursor.openSequence ⟨rest, c.byte + 2⟩ = some (before, c₁))
    (hinner : Derives brief (.expr .enclosed) c₁ c₂)
    (hclose : c₂.closeSequence = some (after, c₃))
    (hmore : Derives brief (.parts closer) c₃ d) : Derives brief (.parts closer) c d
  | choicePart {closer : Closer} {c c₁ c₂ d : Cursor} {rest inner : List Char} {before : Bool}
    (hrest : c.rest = '%' :: '{' :: rest)
    (hopen : Cursor.openSequence ⟨rest, c.byte + 2⟩ = some (before, c₁))
    (hinner : c₁.rest = 'i' :: 'f' :: inner)
    (hpart : Derives brief .choice ⟨inner, c₁.byte + 2⟩ c₂)
    (hmore : Derives brief (.parts closer) c₂ d) : Derives brief (.parts closer) c d
  | repetitionPart {closer : Closer} {c c₁ c₂ d : Cursor} {rest inner : List Char} {before : Bool}
    (hrest : c.rest = '%' :: '{' :: rest)
    (hopen : Cursor.openSequence ⟨rest, c.byte + 2⟩ = some (before, c₁))
    (hinner : c₁.rest = 'f' :: 'o' :: 'r' :: inner)
    (hpart : Derives brief .repetition ⟨inner, c₁.byte + 3⟩ c₂)
    (hmore : Derives brief (.parts closer) c₂ d) : Derives brief (.parts closer) c d
  | partsDirective {closer : Closer} {c c₁ : Cursor} {rest : List Char} {before : Bool}
    (hrest : c.rest = '%' :: '{' :: rest)
    (hopen : Cursor.openSequence ⟨rest, c.byte + 2⟩ = some (before, c₁))
    (hinner : startsDirective c₁.rest = false) : Derives brief (.parts closer) c c
  | partsEnd {closer : Closer} {c : Cursor} (hne : startsSequence c.rest = false)
    (hend : closer.comesNext c.rest = true) : Derives brief (.parts closer) c c
  | literal {closer : Closer} {c c₁ d : Cursor} {text : String}
    (hne : startsSequence c.rest = false) (hend : closer.comesNext c.rest = false)
    (hrun : closer.literalRun c = .ok (text, c₁)) (hmore : Derives brief (.parts closer) c₁ d) :
    Derives brief (.parts closer) c d
  | choice {c c₁ d : Cursor} {closing : Sequence} (hcond : Derives brief .condition c c₁)
    (helse : c₁.bareDirective ['e', 'l', 's', 'e'] = none)
    (hclose : c₁.bareDirective ['e', 'n', 'd', 'i', 'f'] = some (closing, d)) :
    Derives brief .choice c d
  | choiceElse {c c₁ c₂ c₃ d : Cursor} {middle closing : Sequence}
    (hcond : Derives brief .condition c c₁)
    (helse : c₁.bareDirective ['e', 'l', 's', 'e'] = some (middle, c₂))
    (hno : Derives brief .directiveBody c₂ c₃)
    (hclose : c₃.bareDirective ['e', 'n', 'd', 'i', 'f'] = some (closing, d)) :
    Derives brief .choice c d
  | condition {c c₁ c₂ c₃ d : Cursor} {after : Bool} (h₁ : c.skipLines = some c₁)
    (hcond : Derives brief (.expr .inline) c₁ c₂) (hclose : c₂.closeSequence = some (after, c₃))
    (hyes : Derives brief .directiveBody c₃ d) : Derives brief .condition c d
  | repetition {c c₁ c₂ c₃ c₄ c₅ d : Cursor} {key : Option String} {value : String} {after : Bool}
    {closing : Sequence} (hnames : c.loopNames = some (key, value, c₁)) (h₂ : c₁.skipLines = some c₂)
    (hcollection : Derives brief (.expr .inline) c₂ c₃)
    (hopen : c₃.closeSequence = some (after, c₄)) (hbody : Derives brief .directiveBody c₄ c₅)
    (hclose : c₅.bareDirective ['e', 'n', 'd', 'f', 'o', 'r'] = some (closing, d)) :
    Derives brief .repetition c d
  | directiveBody {c d : Cursor} (hparts : Derives brief (.parts .endOfText) c d)
    (hne : d.rest ≠ []) : Derives brief .directiveBody c d

/-! ## What is read is derived -/

/-- What the readers with a bound give is derived. -/
structure Sound (n : Nat) : Prop where
  expr : ∀ {m c e d}, expr n m c = .ok (e, d) → Derives true (.expr m) c d
  operations : ∀ {m start e c e' d}, operations n m start e c = .ok (e', d) →
    Derives true (.operations m) c d
  index : ∀ {start c step d}, indexStep n start c = .ok (step, d) → Derives true .index c d
  term : ∀ {m c form a d}, term n m c = .ok (form, a, d) → Derives true (.term m a) c d
  operand : ∀ {op m c form a d}, prefixed n op m c = .ok (form, a, d) →
    Derives true (.operand m a) c d
  word : ∀ {m c form a d}, word n m c = .ok (form, a, d) → Derives true (.word m a) c d
  arguments : ∀ {m args c args' spread closing d},
    arguments n m args c = .ok (args', spread, closing, d) → Derives true (.elements true m) c d
  items : ∀ {m items c items' closing d}, arrayItems n m items c = .ok (items', closing, d) →
    Derives true (.elements false m) c d
  entries : ∀ {entries c entries' gap d}, objectEntries n entries c = .ok (entries', gap, d) →
    Derives true .entries c d
  comprehension : ∀ {m keyed c form d}, comprehension n m keyed c = .ok (form, d) →
    Derives true (.comprehension m keyed) c d
  yielded : ∀ {m keyed c key value grouped d},
    yielded n m keyed c = .ok (key, value, grouped, d) → Derives true (.yielded m keyed) c d
  heredoc : ∀ {c form d}, heredoc n c = .ok (form, d) → Derives true .heredoc c d
  heredocBody : ∀ {id c parts gap d}, heredocBody n id c = .ok (parts, gap, d) →
    Derives true (.heredocBody id) c d
  parts : ∀ {closer parts c parts' d}, templateParts n closer parts c = .ok (parts', d) →
    Derives true (.parts closer) c d
  choice : ∀ {start before c part d}, choice n start before c = .ok (part, d) →
    Derives true .choice c d
  repetition : ∀ {start before c part d}, repetition n start before c = .ok (part, d) →
    Derives true .repetition c d
  directiveBody : ∀ {c parts d}, directiveBody n c = .ok (parts, d) → Derives true .directiveBody c d

namespace Sound

variable {n : Nat} (ih : Sound n)

include ih

theorem expr_succ {m : Mode} {c d : Cursor} {e : Expr} (h : Hcl.expr (n + 1) m c = .ok (e, d)) :
    Derives true (.expr m) c d := by
  obtain ⟨form, a, next, hterm, hops⟩ := expr_succ_iff.1 h
  exact .expr (ih.term hterm) (ih.operations hops)

theorem operations_succ {m : Mode} {start : Nat} {c d : Cursor} {e e' : Expr}
    (h : Hcl.operations (n + 1) m start e c = .ok (e', d)) : Derives true (.operations m) c d := by
  cases operations_succ_iff.1 h with
  | stay hskip hstay => exact .stay hskip hstay
  | dot hskip hrest hx hstep hops => exact .dot hskip hrest hx hstep (ih.operations hops)
  | index hskip hrest hindex hops =>
    exact .indexed hskip hrest (ih.index hindex) (ih.operations hops)
  | conditional hskip hrest hmode h₁ hyes h₃ hcolon h₅ hno =>
    exact .conditional hskip hrest hmode h₁ (ih.expr hyes) h₃ hcolon h₅ (ih.expr hno)
  | binary hskip hop h₁ hrhs hops => exact .binary hskip hop h₁ (ih.expr hrhs) (ih.operations hops)

theorem index_succ {start : Nat} {c d : Cursor} {step : Step}
    (h : indexStep (n + 1) start c = .ok (step, d)) : Derives true .index c d := by
  cases index_succ_iff.1 h with
  | splat h₁ hrest h₂ hclose => exact .splat h₁ hrest h₂ hclose
  | key h₁ hne hkey h₃ hclose => exact .index h₁ hne (ih.expr hkey) h₃ hclose

theorem term_succ {m a : Mode} {c d : Cursor} {form : Form}
    (h : Hcl.term (n + 1) m c = .ok (form, a, d)) : Derives true (.term m a) c d := by
  cases term_succ_iff.1 h with
  | quoted hrest hparts hclose => exact .quoted hrest (ih.parts hparts) hclose
  | arrayFor hrest hskip hfor hform hclose =>
    exact .arrayFor hrest hskip hfor (ih.comprehension hform) hclose
  | array hrest hskip hfor hitems => exact .array hrest hskip hfor (ih.items hitems)
  | objectFor hrest hskip hfor hform hclose =>
    exact .objectFor hrest hskip hfor (ih.comprehension hform) hclose
  | object hrest hskip hfor hentries => exact .object hrest hskip hfor (ih.entries hentries)
  | parens hrest h₁ hinner h₃ hclose => exact .parens hrest h₁ (ih.expr hinner) h₃ hclose
  | heredoc hrest hdoc => exact .heredocTerm hrest (ih.heredoc hdoc)
  | not hrest hoperand => exact .not hrest (ih.operand hoperand)
  | negative hrest hskip hnumber => exact .negative hrest hskip hnumber
  | neg hrest hskip hnext hx hoperand => exact .neg hrest hskip hnext hx (ih.operand hoperand)
  | number hnumber => exact .number hnumber
  | word hrest hx hword => exact .wordTerm hrest hx (ih.word hword)

theorem operand_succ {op : UnaryOp} {m a : Mode} {c d : Cursor} {form : Form}
    (h : prefixed (n + 1) op m c = .ok (form, a, d)) : Derives true (.operand m a) c d := by
  cases operand_succ_iff.1 h with
  | not h₁ hrest hterm => exact .operand h₁ (ih.term hterm)
  | negative h₁ hrest hskip hnumber => exact .operand h₁ (.negative hrest hskip hnumber)
  | neg h₁ hrest hskip hnext hx hterm => exact .operand h₁ (ih.term hterm)
  | term h₁ hnot hneg hterm => exact .operand h₁ (ih.term hterm)

theorem word_succ {m a : Mode} {c d : Cursor} {form : Form}
    (h : Hcl.word (n + 1) m c = .ok (form, a, d)) : Derives true (.word m a) c d := by
  cases word_succ_iff.1 h with
  | bare hname hnames hskip hcall hone => exact .word hname hnames hskip hcall hone
  | call hname hnames hskip hrest hargs =>
    exact .call hname hnames hskip hrest (ih.arguments hargs)

theorem arguments_succ {m : Mode} {args args' : List Expr} {spread : Bool} {closing : Closing}
    {c d : Cursor} (h : Hcl.arguments (n + 1) m args c = .ok (args', spread, closing, d)) :
    Derives true (.elements true m) c d := by
  cases arguments_succ_iff.1 h with
  | stop hskip hrest => exact .elementsEnd hskip hrest
  | last hskip hne harg h₂ hrest => exact .elementsLast hskip hne (ih.expr harg) h₂ hrest
  | more hskip hne harg h₂ hrest hmore =>
    exact .elementsMore hskip hne (ih.expr harg) h₂ hrest (ih.arguments hmore)
  | spread hskip hne harg h₂ hrest h₃ hclose =>
    exact .elementsSpread hskip hne (ih.expr harg) h₂ hrest h₃ hclose

theorem items_succ {m : Mode} {items items' : List Expr} {closing : Closing} {c d : Cursor}
    (h : arrayItems (n + 1) m items c = .ok (items', closing, d)) :
    Derives true (.elements false m) c d := by
  cases array_succ_iff.1 h with
  | stop hskip hrest => exact .elementsEnd hskip hrest
  | last hskip hne hitem h₂ hrest => exact .elementsLast hskip hne (ih.expr hitem) h₂ hrest
  | more hskip hne hitem h₂ hrest hmore =>
    exact .elementsMore hskip hne (ih.expr hitem) h₂ hrest (ih.items hmore)

theorem entry_of_step {c d : Cursor} {entry : EntryEnd → Entry} (h : EntryStep n c entry d) :
    Derives true .entry c d := by
  obtain @⟨_, c₂, c₃, _, _, _, _, _, colon, hkey, h₂, hsign, h₄, hvalue, h₆⟩ := h
  have hsign : c₂.expect [':'] = some c₃ ∨ c₂.expect ['='] = some c₃ := by
    cases colon with
    | true => exact .inl hsign
    | false => exact .inr hsign
  exact .entry (ih.expr hkey) h₂ hsign h₄ (ih.expr hvalue) h₆

theorem entries_succ {entries entries' : List Entry} {gap : Option Span} {c d : Cursor}
    (h : objectEntries (n + 1) entries c = .ok (entries', gap, d)) : Derives true .entries c d := by
  cases entries_succ_iff.1 h with
  | stop hskip hrest => exact .entriesEnd hskip hrest
  | last hskip hne hentry hrest => exact .entriesLast hskip hne (ih.entry_of_step hentry) hrest
  | comma hskip hne hentry hrest hmore =>
    exact .entriesComma hskip hne (ih.entry_of_step hentry) hrest (ih.entries hmore)
  | line hskip hne hentry hbreak hmore =>
    exact .entriesLine hskip hne (ih.entry_of_step hentry) hbreak (ih.entries hmore)

theorem generator_of_step {m : Mode} {keyed : Bool} {c d : Cursor} {form : Option Expr → Form}
    (h : GeneratorStep n m keyed c form d) : Derives true (.generator m keyed) c d := by
  obtain ⟨hfor, hnames, h₃, hcollection, h₅, hcolon, h₇, hyielded⟩ := h
  exact .generator hfor hnames h₃ (ih.expr hcollection) h₅ hcolon h₇ (ih.yielded hyielded)

theorem comprehension_succ {m : Mode} {keyed : Bool} {c d : Cursor} {form : Form}
    (h : Hcl.comprehension (n + 1) m keyed c = .ok (form, d)) :
    Derives true (.comprehension m keyed) c d := by
  cases comprehension_succ_iff.1 h with
  | unfiltered hgenerator hif => exact .unfiltered (ih.generator_of_step hgenerator) hif
  | filtered hgenerator hif h₃ hcond h₅ =>
    exact .filtered (ih.generator_of_step hgenerator) hif h₃ (ih.expr hcond) h₅

theorem yielded_succ {m : Mode} {keyed grouped : Bool} {c d : Cursor} {key : Option Expr}
    {value : Expr} (h : Hcl.yielded (n + 1) m keyed c = .ok (key, value, grouped, d)) :
    Derives true (.yielded m keyed) c d := by
  cases yielded_succ_iff.1 h with
  | value hvalue h₁ => exact .yieldedValue (ih.expr hvalue) h₁
  | entry hkey h₂ harrow h₄ hvalue h₆ hdots h₇ =>
    exact .yieldedEntry (ih.expr hkey) h₂ harrow h₄ (ih.expr hvalue) h₆ (by rw [hdots]; exact h₇)

theorem heredoc_succ {c d : Cursor} {form : Form} (h : Hcl.heredoc (n + 1) c = .ok (form, d)) :
    Derives true .heredoc c d := by
  cases heredoc_succ_iff.1 h with
  | body hstart hbody => exact .heredoc hstart (ih.heredocBody hbody)
  | brief hstart hbody hstop => exact .heredocBrief rfl hstart hstop

theorem heredocBody_succ {id : List Char} {c d : Cursor} {parts : List Part} {gap : Option Span}
    (h : Hcl.heredocBody (n + 1) id c = .ok (parts, gap, d)) :
    Derives true (.heredocBody id) c d := by
  obtain ⟨hparts, hbreak, hstop⟩ := heredocBody_succ_iff.1 h
  exact .heredocBody (ih.parts hparts) hbreak hstop

theorem parts_succ {closer : Closer} {parts parts' : List Part} {c d : Cursor}
    (h : templateParts (n + 1) closer parts c = .ok (parts', d)) :
    Derives true (.parts closer) c d := by
  cases parts_succ_iff.1 h with
  | interpolation hrest hopen hinner hclose hmore =>
    exact .interpolation hrest hopen (ih.expr hinner) hclose (ih.parts hmore)
  | choice hrest hopen hinner hpart hmore =>
    exact .choicePart hrest hopen hinner (ih.choice hpart) (ih.parts hmore)
  | repetition hrest hopen hinner hpart hmore =>
    exact .repetitionPart hrest hopen hinner (ih.repetition hpart) (ih.parts hmore)
  | directive hrest hopen hinner => exact .partsDirective hrest hopen hinner
  | stop hne hend => exact .partsEnd hne hend
  | literal hne hend hrun hmore => exact .literal hne hend hrun (ih.parts hmore)

theorem condition_of_step {start : Nat} {before : Bool} {c d : Cursor} {opening : Sequence}
    {cond : Expr} {yes : List Part} (h : ConditionStep n start before c opening cond yes d) :
    Derives true .condition c d := by
  obtain ⟨h₁, hcond, hclose, hyes⟩ := h
  exact .condition h₁ (ih.expr hcond) hclose (ih.directiveBody hyes)

theorem choice_succ {start : Nat} {before : Bool} {c d : Cursor} {part : Part}
    (h : Hcl.choice (n + 1) start before c = .ok (part, d)) : Derives true .choice c d := by
  cases choice_succ_iff.1 h with
  | single hcond helse hclose => exact .choice (ih.condition_of_step hcond) helse hclose
  | both hcond helse hno hclose =>
    exact .choiceElse (ih.condition_of_step hcond) helse (ih.directiveBody hno) hclose

theorem repetition_succ {start : Nat} {before : Bool} {c d : Cursor} {part : Part}
    (h : Hcl.repetition (n + 1) start before c = .ok (part, d)) : Derives true .repetition c d := by
  obtain ⟨hnames, h₂, hcollection, hopen, hbody, hclose⟩ := repetition_succ_iff.1 h
  exact .repetition hnames h₂ (ih.expr hcollection) hopen (ih.directiveBody hbody) hclose

theorem directiveBody_succ {c d : Cursor} {parts : List Part}
    (h : Hcl.directiveBody (n + 1) c = .ok (parts, d)) : Derives true .directiveBody c d := by
  obtain ⟨hparts, hne⟩ := directiveBody_succ_iff.1 h
  exact .directiveBody (ih.parts hparts) hne

end Sound

/-- What is read is derived. -/
theorem sound (n : Nat) : Sound n := by
  induction n with
  | zero =>
    constructor
    all_goals
      intros
      rename_i h
      simp only [expr, operations, indexStep, term, prefixed, word, arguments, arrayItems,
        objectEntries, comprehension, yielded, heredoc, heredocBody, templateParts, choice,
        repetition, directiveBody, reduceCtorEq] at h
  | succ n ih =>
    exact ⟨ih.expr_succ, ih.operations_succ, ih.index_succ, ih.term_succ, ih.operand_succ,
      ih.word_succ, ih.arguments_succ, ih.items_succ, ih.entries_succ, ih.comprehension_succ,
      ih.yielded_succ, ih.heredoc_succ, ih.heredocBody_succ, ih.parts_succ, ih.choice_succ,
      ih.repetition_succ, ih.directiveBody_succ⟩

end TerraLint.Hcl
