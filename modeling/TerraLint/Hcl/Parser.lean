import TerraLint.Hcl.Trivia
import TerraLint.Hcl.Literal
import TerraLint.Hcl.Heredoc

/-!
# Reading the configuration language

Each reader decides by the next characters alone which form follows, so a text is read in one pass
and refused at the first character that fits no form. Readers of nested forms take a bound on the
depth of the calls below them; a text never needs more than its length allows, which is what
`parseBody` gives.

* Operators have no precedence: the right operand takes all that follows.
* A conditional is no right operand, nor does it stand in an expression that follows an operator,
  its own branches included; parentheses, interpolations, indices and objects admit it again.
* Once a list, a call or an object comprehension has been read, the rest of that expression may go
  on in the next line.
* Inside a directive of a template neither a quote nor a terminator ends the text.
-/

namespace TerraLint.Hcl

open Text

/-- Why a text is not read. -/
inductive Refusal where
  /-- The text ends where more has to come; what stands before may be read in another way. -/
  | unfinished
  /-- No other way is tried. -/
  | final
deriving DecidableEq, Repr

/-- What a reader gives: a result, or the reason why there is none. -/
abbrev Reading (α : Type) := Except Refusal α

/-- What is no token where one has to stand is refused for good. -/
instance : MonadLift Option (Except Refusal) where
  monadLift
    | some a => .ok a
    | none => .error .final

/-- The reading, refused for good if it is refused. -/
def Reading.settle {α : Type} : Reading α → Reading α
  | .ok a => .ok a
  | .error _ => .error .final

/-- What an expression may do where it stands: whether it may go on in another line, and where
conditionals may stand. -/
structure Mode where
  multiline : Bool
  /-- It may be a conditional. -/
  conditional : Bool
  /-- The expressions inside it may be conditionals. -/
  nested : Bool
deriving DecidableEq, Repr

namespace Mode

/-- A value at the end of a line. -/
def inline : Mode := ⟨false, true, true⟩

/-- An expression between brackets of its own. -/
def enclosed : Mode := ⟨true, true, true⟩

/-- The mode after a bracket that admits line ends for good. -/
def spread (m : Mode) : Mode := { m with multiline := true }

/-- The mode of an expression inside the one at hand. -/
def inner (m : Mode) : Mode := { m with conditional := m.nested }

/-- The mode of a right operand. -/
def operand (m : Mode) : Mode := ⟨m.multiline, false, false⟩

/-- The mode after an operator and its right operand. -/
def operated (m : Mode) : Mode := { m with nested := false }

end Mode

/-- What closes a template: a quote, the terminator of a heredoc, or the end of the text. -/
inductive Closer where
  | quote
  | terminator (id : List Char)
  | endOfText
deriving DecidableEq, Repr

namespace Closer

/-- Whether the end of the template comes next. -/
def comesNext : Closer → List Char → Bool
  | .quote, cs => cs.head? == some '"'
  | .terminator id, cs => Cursor.closesHeredoc id cs
  | .endOfText, cs => cs.isEmpty

/-- Reads a run of literal text. -/
def literalRun : Closer → Cursor → Reading (String × Cursor)
  | .quote, c => Cursor.quotedRun [] c.byte c.rest
  | .terminator id, c =>
    match Cursor.heredocRun id [] c.byte c.rest with
    | some run => .ok run
    | none => .error .unfinished
  | .endOfText, c => .ok (Cursor.plainRun [] c.byte c.rest)

end Closer

/-- The operator that starts the text, and its length. A comment is no operator. -/
def operator? : List Char → Option (BinaryOp × Nat)
  | '=' :: '=' :: _ => some (.eq, 2)
  | '!' :: '=' :: _ => some (.ne, 2)
  | '<' :: '=' :: _ => some (.le, 2)
  | '>' :: '=' :: _ => some (.ge, 2)
  | '&' :: '&' :: _ => some (.and, 2)
  | '|' :: '|' :: _ => some (.or, 2)
  | '/' :: '/' :: _ => none
  | '<' :: _ :: _ => some (.lt, 1)
  | '>' :: _ :: _ => some (.gt, 1)
  | '+' :: _ :: _ => some (.add, 1)
  | '-' :: _ :: _ => some (.sub, 1)
  | '*' :: _ :: _ => some (.mul, 1)
  | '/' :: _ :: _ => some (.div, 1)
  | '%' :: _ :: _ => some (.mod, 1)
  | _ => none

/-- Whether `for` and a blank or a comment come next: the start of a comprehension. -/
def startsComprehension : List Char → Bool
  | 'f' :: 'o' :: 'r' :: c :: _ =>
    c == ' ' || c == '\t' || c == '\n' || c == '#' || c == '/'
  | _ => false

/-- An object with an entry put in: it takes the place of an entry with an equal key. -/
def insertEntry (entry : Entry) : List Entry → List Entry
  | [] => [entry]
  | e :: entries =>
    if e.key.same entry.key then entry :: entries else e :: insertEntry entry entries

/-- A traversal with a step added to it. -/
def addStep (start : Nat) (e : Expr) (step : Step) : Expr :=
  let span : Span := ⟨start, step.span.stop⟩
  match e.form with
  | .traversal root steps => .node (some span) (.traversal root (steps ++ [step]))
  | _ => .node (some span) (.traversal e [step])

/-- The form of a bare word. -/
def wordForm (name : String) : Form :=
  if name = "null" then .null
  else if name = "true" then .bool true
  else if name = "false" then .bool false
  else .variable name

/-- The form of a quoted template: a string when it is one run of literal text. -/
def quotedForm : List Part → Form
  | [] => .string ""
  | [.literal text] => .string text
  | parts => .template parts

namespace Cursor

/-- Reads `name` or `name, name` and `in`: the variables of a loop. -/
def loopNames (c : Cursor) : Option (Option String × String × Cursor) := do
  let c ← c.skipLines
  let (first, c) ← c.name
  let c ← c.skipLines
  let (two, c) := c.skipIf [',']
  if two then
    let c ← c.skipLines
    let (second, c) ← c.name
    let c ← c.skipLines
    let c ← c.expect ['i', 'n']
    return (some first, second, c)
  else
    let c ← c.expect ['i', 'n']
    return (none, first, c)

/-- Reads the opening of a template sequence after its brace: whether it strips the blanks before
it. -/
def openSequence (c : Cursor) : Option (Bool × Cursor) := do
  let (strip, c) := c.skipIf ['~']
  let c ← c.skipLines
  return (strip, c)

/-- Reads the closing of a template sequence: whether it strips the blanks after it. -/
def closeSequence (c : Cursor) : Option (Bool × Cursor) := do
  let c ← c.skipLines
  let (strip, c) := c.skipIf ['~']
  let c ← c.expect ['}']
  return (strip, c)

/-- Where the blanks stand between two cursors, if there are any. -/
def gap (c next : Cursor) : Option Span :=
  if c.byte < next.byte then some ⟨c.byte, next.byte⟩ else none

/-- Reads a whole directive without an expression, such as `%{ endif }`. -/
def bareDirective (word : List Char) (c : Cursor) : Option (Sequence × Cursor) := do
  let inner ← c.expect ['%', '{']
  let (before, inner) ← inner.openSequence
  let inner ← inner.expect word
  let (after, stop) ← inner.closeSequence
  return (⟨⟨c.byte, stop.byte⟩, before, after⟩, stop)

/-- The parts of a function's name after the first: `::name` as often as it comes. -/
def qualifiers (multiline : Bool) : Nat → List String → Cursor → Option (List String × Cursor)
  | 0, _, _ => none
  | n + 1, names, c => do
    let next ← c.skip multiline
    match next.expect [':', ':'] with
    | none => return (names, c)
    | some c =>
      let c ← c.skip multiline
      let (name, c) ← c.name
      qualifiers multiline n (names ++ [name]) c

/-- Reads the marker of a heredoc: whether it is indented, its identifier, and the line end. -/
def heredocStart (c : Cursor) : Option (Bool × List Char × Cursor) := do
  let c ← c.expect ['<', '<']
  let (indented, c) := c.skipIf ['-']
  let (id, c) ← c.name
  match lineBreakText c.rest with
  | [] => none
  | br => return (indented, id.toList, ⟨c.rest.drop br.length, c.byte + br.length⟩)

/-- Reads the terminator of a heredoc: blanks and its identifier. -/
def heredocStop (id : List Char) (c : Cursor) : Option (Option Span × Cursor) := do
  let next := (c.takeWhile fun ch => ch == ' ' || ch == '\t').2
  let stop ← next.expect id
  return (c.gap next, stop)

/-- Reads digits without a leading zero, or a single zero. -/
def positionDigits (c : Cursor) : List Char × Cursor :=
  match c.rest with
  | '0' :: cs => (['0'], ⟨cs, c.byte + 1⟩)
  | _ => c.takeWhile Char.isDigit

/-- Reads `.name`, `.0` or `.*` after the dot at offset `start`. -/
def dotStep (start : Nat) (c : Cursor) : Option (Step × Cursor) := do
  let c ← c.skipLines
  match c.rest with
  | '*' :: cs => return (.attributeSplat ⟨start, c.byte + 1⟩, ⟨cs, c.byte + 1⟩)
  | _ =>
    let (digits, after) := c.positionDigits
    if digits.isEmpty then
      let (name, c) ← c.name
      return (.attr ⟨start, c.byte⟩ name, c)
    else
      let n := decimalNumber digits
      if n < Nat.pow 2 64 then return (.position ⟨start, after.byte⟩ n, after) else none

end Cursor

/-! ## Expressions -/

mutual

/-- Reads an expression: a term and the operations that follow it. -/
def expr : Nat → Mode → Cursor → Reading (Expr × Cursor)
  | 0, _, _ => .error .final
  | n + 1, mode, c => do
    let (form, after, next) ← term n mode c
    operations n after c.byte (.node (some ⟨c.byte, next.byte⟩) form) next

/-- Reads the operations that follow an expression which starts at offset `start`. -/
def operations : Nat → Mode → Nat → Expr → Cursor → Reading (Expr × Cursor)
  | 0, _, _, _, _ => .error .final
  | n + 1, mode, start, e, c => do
    let next ← c.skip mode.multiline
    match next.rest with
    | '.' :: '.' :: _ => return (e, c)
    | '.' :: rest@(_ :: _) =>
      let (step, c) ← Cursor.dotStep next.byte ⟨rest, next.byte + 1⟩
      operations n mode start (addStep start e step) c
    | '[' :: rest@(_ :: _) =>
      let (step, c) ← indexStep n next.byte ⟨rest, next.byte + 1⟩
      operations n mode start (addStep start e step) c
    | '?' :: rest@(_ :: _) =>
      if mode.conditional then
        let c ← (⟨rest, next.byte + 1⟩ : Cursor).skip mode.multiline
        let (yes, c) ← expr n mode.inner c
        let c ← c.skip mode.multiline
        let c ← c.expect [':']
        let c ← c.skip mode.multiline
        let (no, c) ← expr n mode.inner c
        return (.node (some ⟨start, c.byte⟩) (.conditional e yes no), c)
      else return (e, c)
    | rest =>
      match operator? rest with
      | none => return (e, c)
      | some (op, length) =>
        let c ← (⟨rest.drop length, next.byte + length⟩ : Cursor).skip mode.multiline
        let (rhs, c) ← expr n mode.operand c
        operations n mode.operated start (.node (some ⟨start, c.byte⟩) (.binary e op rhs)) c

/-- Reads `[key]` or `[*]` after the bracket at offset `start`. -/
def indexStep : Nat → Nat → Cursor → Reading (Step × Cursor)
  | 0, _, _ => .error .final
  | n + 1, start, c => do
    let c ← c.skipLines
    match c.rest with
    | '*' :: rest =>
      let c ← (⟨rest, c.byte + 1⟩ : Cursor).skipLines
      let c ← c.expect [']']
      return (.fullSplat ⟨start, c.byte⟩, c)
    | _ =>
      let (key, c) ← expr n .enclosed c
      let c ← c.skipLines
      let c ← c.expect [']']
      return (.index ⟨start, c.byte⟩ key, c)

/-- Reads a term; the result is its form, the mode of what follows it, and the cursor after it. -/
def term : Nat → Mode → Cursor → Reading (Form × Mode × Cursor)
  | 0, _, _ => .error .final
  | n + 1, mode, c =>
    match c.rest with
    | [] => .error .unfinished
    | '"' :: rest => do
      let (parts, c) ← (templateParts n .quote [] ⟨rest, c.byte + 1⟩).settle
      let c ← c.expect ['"']
      return (quotedForm parts, mode, c)
    | '[' :: rest => do
      let c : Cursor := ⟨rest, c.byte + 1⟩
      let next ← c.skipLines
      if startsComprehension next.rest then
        let (form, c) ← comprehension n mode.spread false next
        let c ← c.expect [']']
        return (form, mode.spread, c)
      else
        let (items, closing, c) ← arrayItems n mode.spread.inner [] c
        return (.array items closing, mode.spread, c)
    | '{' :: rest => do
      let c : Cursor := ⟨rest, c.byte + 1⟩
      let next ← c.skipLines
      if startsComprehension next.rest then
        let (form, c) ← comprehension n mode.spread true next
        let c ← c.expect ['}']
        return (form, mode.spread, c)
      else
        let (entries, gap, c) ← objectEntries n [] c
        return (.object entries gap, mode, c)
    | '(' :: rest => do
      let c ← (⟨rest, c.byte + 1⟩ : Cursor).skipLines
      let (inner, c) ← expr n .enclosed c
      let c ← c.skipLines
      let c ← c.expect [')']
      return (.parens inner, mode, c)
    | '<' :: _ => do
      let (form, c) ← heredoc n c
      return (form, mode, c)
    | '!' :: rest => prefixed n .not mode ⟨rest, c.byte + 1⟩
    | '-' :: rest => do
      let next ← (⟨rest, c.byte + 1⟩ : Cursor).skipInline
      match next.rest with
      | d :: _ =>
        if d.isDigit then
          let (number, c) ← next.number
          return (.number number.neg, mode, c)
        else prefixed n .neg mode ⟨rest, c.byte + 1⟩
      | [] => .error .unfinished
    | d :: _ =>
      if d.isDigit then do
        let (number, c) ← c.number
        return (.number number, mode, c)
      else word n mode c

/-- Reads the operand of a prefix operator, which stands in the same line. Of several operators in a
row the last one counts. -/
def prefixed : Nat → UnaryOp → Mode → Cursor → Reading (Form × Mode × Cursor)
  | 0, _, _, _ => .error .final
  | n + 1, op, mode, c => do
    let c ← c.skipInline
    match c.rest with
    | '!' :: _ => term n mode c
    | '-' :: rest =>
      let next ← (⟨rest, c.byte + 1⟩ : Cursor).skipInline
      match next.rest with
      | d :: _ =>
        if d.isDigit then
          let (number, stop) ← next.number
          return (.unary op ⟨c.byte, stop.byte⟩ (.node none (.number number.neg)), mode, stop)
        else term n mode c
      | [] => .error .unfinished
    | _ =>
      let (form, mode, stop) ← term n mode c
      return (.unary op ⟨c.byte, stop.byte⟩ (.node none form), mode, stop)

/-- Reads a word: a constant, a variable, or a function with its arguments. -/
def word : Nat → Mode → Cursor → Reading (Form × Mode × Cursor)
  | 0, _, _ => .error .final
  | n + 1, mode, c => do
    let (name, c) ← c.name
    let (names, c) ← c.qualifiers mode.multiline n [name]
    let next ← c.skip mode.multiline
    match next.rest with
    | '(' :: rest =>
      let (args, spread, closing, c) ← arguments n mode.spread.inner [] ⟨rest, next.byte + 1⟩
      return (.call names args spread closing, mode.spread, c)
    | _ => if names.length = 1 then return (wordForm name, mode, c) else .error .final

/-- Reads the arguments of a call up to the closing parenthesis; `args` are those read so far. -/
def arguments : Nat → Mode → List Expr → Cursor → Reading (List Expr × Bool × Closing × Cursor)
  | 0, _, _, _ => .error .final
  | n + 1, mode, args, c => do
    let next ← c.skipLines
    match next.rest with
    | ')' :: rest => return (args, false, ⟨!args.isEmpty, c.gap next⟩, ⟨rest, next.byte + 1⟩)
    | _ =>
      let (arg, c) ← expr n mode next
      let c ← c.skipLines
      match c.rest with
      | ')' :: rest => return (args ++ [arg], false, ⟨false, none⟩, ⟨rest, c.byte + 1⟩)
      | ',' :: rest => arguments n mode (args ++ [arg]) ⟨rest, c.byte + 1⟩
      | '.' :: '.' :: '.' :: rest =>
        let c : Cursor := ⟨rest, c.byte + 3⟩
        let next ← c.skipLines
        let stop ← next.expect [')']
        return (args ++ [arg], true, ⟨false, c.gap next⟩, stop)
      | _ => .error .final

/-- Reads the items of a list up to the closing bracket; `items` are those read so far. -/
def arrayItems : Nat → Mode → List Expr → Cursor → Reading (List Expr × Closing × Cursor)
  | 0, _, _, _ => .error .final
  | n + 1, mode, items, c => do
    let next ← c.skipLines
    match next.rest with
    | ']' :: rest => return (items, ⟨!items.isEmpty, c.gap next⟩, ⟨rest, next.byte + 1⟩)
    | _ =>
      let (item, c) ← expr n mode next
      let c ← c.skipLines
      match c.rest with
      | ']' :: rest => return (items ++ [item], ⟨false, none⟩, ⟨rest, c.byte + 1⟩)
      | ',' :: rest => arrayItems n mode (items ++ [item]) ⟨rest, c.byte + 1⟩
      | _ => .error .final

/-- Reads the entries of an object up to the closing brace; `entries` are those read so far. An
entry ends with a comma or a line end. -/
def objectEntries : Nat → List Entry → Cursor → Reading (List Entry × Option Span × Cursor)
  | 0, _, _ => .error .final
  | n + 1, entries, c => do
    let next ← c.skipLines
    match next.rest with
    | '}' :: rest => return (entries, c.gap next, ⟨rest, next.byte + 1⟩)
    | _ =>
      let (key, c) ← expr n .inline next
      let c ← c.skipInline
      let (colon, c) := c.skipIf [':']
      let c ← if colon then pure c else c.expect ['=']
      let c ← c.skipInline
      let (value, c) ← expr n .inline c
      let c ← c.skipInline
      match c.rest with
      | '}' :: rest =>
        return (insertEntry (.mk key value colon .brace) entries, none, ⟨rest, c.byte + 1⟩)
      | ',' :: rest =>
        objectEntries n (insertEntry (.mk key value colon .comma) entries) ⟨rest, c.byte + 1⟩
      | _ =>
        let c ← c.lineBreak
        objectEntries n (insertEntry (.mk key value colon .newline) entries) c

/-- Reads a comprehension between its brackets, of an object when `keyed`. The collection stands in
one line, and so do the key and the value of an object. -/
def comprehension : Nat → Mode → Bool → Cursor → Reading (Form × Cursor)
  | 0, _, _, _ => .error .final
  | n + 1, mode, keyed, c => do
    let c ← c.expect ['f', 'o', 'r']
    let (keyName, valueName, c) ← c.loopNames
    let c ← c.skipLines
    let (collection, c) ← expr n .inline c
    let c ← c.skipLines
    let c ← c.expect [':']
    let c ← c.skipLines
    let (key, value, grouped, c) ← yielded n mode keyed c
    match c.expect ['i', 'f'] with
    | none => return (.comprehension keyName valueName collection key value grouped none, c)
    | some c =>
      let c ← c.skipLines
      let (cond, c) ← expr n mode.inner c
      let c ← c.skipLines
      return (.comprehension keyName valueName collection key value grouped (some cond), c)

/-- Reads what a comprehension yields: a value, or a key, a value and whether values are grouped. -/
def yielded : Nat → Mode → Bool → Cursor → Reading (Option Expr × Expr × Bool × Cursor)
  | 0, _, _, _ => .error .final
  | n + 1, mode, keyed, c => do
    if keyed then
      let (key, c) ← expr n .inline c
      let c ← c.skipLines
      let c ← c.expect ['=', '>']
      let c ← c.skipLines
      let (value, c) ← expr n .inline c
      let c ← c.skipLines
      let (grouped, c) := c.skipIf ['.', '.', '.']
      let c ← c.skipLines
      return (some key, value, grouped, c)
    else
      let (value, c) ← expr n mode.inner c
      let c ← c.skipLines
      return (none, value, false, c)

/-- Reads a heredoc from its marker to its terminator. The line after the marker belongs to the
body, unless what follows cannot be read as a body and that line closes the heredoc. -/
def heredoc : Nat → Cursor → Reading (Form × Cursor)
  | 0, _ => .error .final
  | n + 1, c => do
    let (indented, id, c) ← c.heredocStart
    match heredocBody n id c with
    | .ok (parts, gap, stop) =>
      let (indent, parts) := if indented then Heredoc.dedent parts else (0, parts)
      return (.heredoc ⟨String.ofList id, if indented then some indent else none, gap⟩ parts, stop)
    | .error .unfinished =>
      let (gap, stop) ← c.heredocStop id
      return (.heredoc ⟨String.ofList id, if indented then some 0 else none, gap⟩ [], stop)
    | .error .final => .error .final

/-- Reads the body of a heredoc, the line break that ends it, and its terminator. -/
def heredocBody : Nat → List Char → Cursor → Reading (List Part × Option Span × Cursor)
  | 0, _, _ => .error .final
  | n + 1, id, c => do
    let (parts, c) ← templateParts n (.terminator id) [] c
    match Cursor.lineBreakText c.rest with
    | [] => .error .unfinished
    | br =>
      let (gap, stop) ← Cursor.heredocStop id ⟨c.rest.drop br.length, c.byte + br.length⟩
      return (Heredoc.appendBreak br parts, gap, stop)

/-- Reads the parts of a template up to its end, or up to a directive that ends a part of it;
`parts` are those read so far. -/
def templateParts : Nat → Closer → List Part → Cursor → Reading (List Part × Cursor)
  | 0, _, _, _ => .error .final
  | n + 1, closer, parts, c =>
    match c.rest with
    | '$' :: '{' :: rest => do
      let (before, inner) ← Cursor.openSequence ⟨rest, c.byte + 2⟩
      let (e, inner) ← expr n .enclosed inner
      let (after, stop) ← inner.closeSequence
      templateParts n closer (parts ++ [.interpolation ⟨⟨c.byte, stop.byte⟩, before, after⟩ e]) stop
    | '%' :: '{' :: rest => do
      let (before, inner) ← Cursor.openSequence ⟨rest, c.byte + 2⟩
      match inner.rest with
      | 'i' :: 'f' :: rest =>
        let (part, c) ← choice n c.byte before ⟨rest, inner.byte + 2⟩
        templateParts n closer (parts ++ [part]) c
      | 'f' :: 'o' :: 'r' :: rest =>
        let (part, c) ← repetition n c.byte before ⟨rest, inner.byte + 3⟩
        templateParts n closer (parts ++ [part]) c
      | _ => return (parts, c)
    | rest =>
      if closer.comesNext rest then .ok (parts, c)
      else do
        let (text, c) ← closer.literalRun c
        templateParts n closer (parts ++ [.literal text]) c

/-- Reads an `if` directive that starts at offset `start`, after its keyword, to the end of its
`endif`. -/
def choice : Nat → Nat → Bool → Cursor → Reading (Part × Cursor)
  | 0, _, _, _ => .error .final
  | n + 1, start, before, c => do
    let c ← c.skipLines
    let (cond, c) ← expr n .inline c
    let (after, c) ← c.closeSequence
    let opening : Sequence := ⟨⟨start, c.byte⟩, before, after⟩
    let (yes, c) ← directiveBody n c
    match c.bareDirective ['e', 'l', 's', 'e'] with
    | some (middle, c) =>
      let (no, c) ← directiveBody n c
      let (closing, c) ← c.bareDirective ['e', 'n', 'd', 'i', 'f']
      return (.choice opening cond yes (some middle) no closing, c)
    | none =>
      let (closing, c) ← c.bareDirective ['e', 'n', 'd', 'i', 'f']
      return (.choice opening cond yes none [] closing, c)

/-- Reads a `for` directive that starts at offset `start`, after its keyword, to the end of its
`endfor`. -/
def repetition : Nat → Nat → Bool → Cursor → Reading (Part × Cursor)
  | 0, _, _, _ => .error .final
  | n + 1, start, before, c => do
    let (keyName, valueName, c) ← c.loopNames
    let c ← c.skipLines
    let (collection, c) ← expr n .inline c
    let (after, c) ← c.closeSequence
    let opening : Sequence := ⟨⟨start, c.byte⟩, before, after⟩
    let (body, c) ← directiveBody n c
    let (closing, c) ← c.bareDirective ['e', 'n', 'd', 'f', 'o', 'r']
    return (.repetition opening keyName valueName collection body closing, c)

/-- Reads the body of a directive, up to the directive that ends it. -/
def directiveBody : Nat → Cursor → Reading (List Part × Cursor)
  | 0, _ => .error .final
  | n + 1, c => do
    let (parts, c) ← templateParts n .endOfText [] c
    if c.rest.isEmpty then .error .unfinished else return (parts, c)

end

/-! ## Bodies -/

namespace Cursor

/-- Reads a quoted label: a string without interpolations. -/
def quotedLabel (c : Cursor) : Option (String × Cursor) := do
  let c ← c.expect ['"']
  match c.rest with
  | '"' :: rest => return ("", ⟨rest, c.byte + 1⟩)
  | _ =>
    let (text, c) ← quotedRun [] c.byte c.rest
    let c ← c.expect ['"']
    return (text, c)

/-- Reads the labels of a block up to its opening brace; `labels` are those read so far. -/
def labels : Nat → List String → Cursor → Option (List String × Cursor)
  | 0, _, _ => none
  | n + 1, read, c =>
    match c.rest with
    | '{' :: _ => some (read, c)
    | '"' :: _ => do
      let (label, c) ← c.quotedLabel
      let c ← c.skipInline
      labels n (read ++ [label]) c
    | _ => do
      let (label, c) ← c.name
      let c ← c.skipInline
      labels n (read ++ [label]) c

end Cursor

/-- Reads the value of an attribute after the key and the blanks behind it. -/
def attributeValue (fuel : Nat) (key : String) (keySpan : Span) (c : Cursor) :
    Option (Attribute × Cursor) := do
  let c ← c.expect ['=']
  let c ← c.skipInline
  let (value, c) ← (expr fuel .inline c).toOption
  return (⟨key, keySpan, value, ⟨keySpan.start, c.byte⟩⟩, c)

mutual

/-- Reads structures, each on lines of its own, up to a closing brace or the end of the text;
`items` are those read so far. No key is assigned twice. -/
def items : Nat → List Item → Cursor → Option (List Item × Cursor)
  | 0, _, _ => none
  | n + 1, read, c => do
    let c ← c.skipLines
    match c.rest with
    | [] => return (read, c)
    | '}' :: _ => return (read, c)
    | _ =>
      let (item, c) ← item n c
      let repeated := match item with
        | .attr a => read.any fun
          | .attr b => a.key == b.key
          | .block _ => false
        | .block _ => false
      if repeated then none
      else
        let c ← c.endOfLine
        items n (read ++ [item]) c

/-- Reads an attribute or a block. -/
def item : Nat → Cursor → Option (Item × Cursor)
  | 0, _ => none
  | n + 1, c => do
    let (name, next) ← c.name
    let keySpan : Span := ⟨c.byte, next.byte⟩
    let next ← next.skipInline
    match next.rest with
    | '=' :: _ =>
      let (a, c) ← attributeValue n name keySpan next
      return (.attr a, c)
    | _ =>
      let (labels, next) ← next.labels n []
      let (body, next) ← blockBody n next
      return (.block ⟨name, labels, body, ⟨c.byte, next.byte⟩⟩, next)

/-- Reads a block's body with its braces: structures on lines of their own, or at most one
attribute within the line. -/
def blockBody : Nat → Cursor → Option (List Item × Cursor)
  | 0, _ => none
  | n + 1, c => do
    let c ← c.expect ['{']
    let c ← c.skipInline
    match c.rest with
    | '}' :: rest => return ([], ⟨rest, c.byte + 1⟩)
    | _ =>
      match c.lineBreak with
      | some c =>
        let (body, c) ← items n [] c
        let c ← c.expect ['}']
        return (body, c)
      | none =>
        let (name, next) ← c.name
        let keySpan : Span := ⟨c.byte, next.byte⟩
        let next ← next.skipInline
        let (a, c) ← attributeValue n name keySpan next
        let c ← c.skipInline
        let c ← c.expect ['}']
        return ([.attr a], c)

end

/-- A bound on the depth of calls that reading a text needs. -/
def depthBound (text : List Char) : Nat := 4 * text.length + 8

/-- The parts of a template that a text without quotes writes, if it writes one. -/
def parseTemplate (text : List Char) : Option (List Part) := do
  let (parts, c) ← (templateParts (depthBound text) .endOfText [] (.ofText text)).toOption
  if c.rest.isEmpty then some parts else none

/-- The body that a text writes, if it writes one. -/
def parseBody (text : List Char) : Option Body := do
  let (body, c) ← items (depthBound text) [] (.ofText text)
  if c.rest.isEmpty then some body else none

end TerraLint.Hcl
