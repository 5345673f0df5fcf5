import TerraLint.Hcl.Number

/-!
# Trees of the configuration language

A body is a sequence of attributes and blocks; an attribute assigns an expression to a key. Every
node that a message can point at carries its span of byte offsets. The operand of a prefix operator
is the one expression without a span.

* `Expr.children`: the direct sub-expressions, in source order. The parts of template directives are
  not among them.
* `Expr.same`: equality of expressions wherever they stand. Blanks around the parts of an expression
  do not count, but the signs between them do, and so do blanks that belong to no part: an empty
  pair of brackets is equal to one that holds a blank in no case.
-/

namespace TerraLint.Hcl

/-- The bytes from `start` up to `stop`. -/
structure Span where
  start : Nat
  stop : Nat
deriving DecidableEq, Repr

/-- Prefix operators. -/
inductive UnaryOp where
  | neg
  | not
deriving DecidableEq, Repr

/-- Operators between two operands. -/
inductive BinaryOp where
  | eq | ne | le | ge | lt | gt | add | sub | mul | div | mod | and | or
deriving DecidableEq, Repr

/-- A template sequence: where it stands, from its marker to its closing brace, and whether it
strips the blanks around it. -/
structure Sequence where
  span : Span
  /-- `~` right after the opening brace: the blanks before the sequence are stripped. -/
  before : Bool
  /-- `~` right before the closing brace: the blanks after the sequence are stripped. -/
  after : Bool
deriving DecidableEq, Repr

/-- Whether two sequences strip the same blanks. -/
def Sequence.same (a b : Sequence) : Bool := a.before == b.before && a.after == b.after

/-- How a list of items ends at its closing bracket: `gap` is where the blanks stand that follow no
item, if there are any. -/
structure Closing where
  comma : Bool
  gap : Option Span
deriving DecidableEq, Repr

/-- What ends an entry of an object. -/
inductive EntryEnd where
  | brace
  | comma
  | newline
deriving DecidableEq, Repr

/-- The lines that open and close a heredoc; `gap` is where the blanks stand before the closing
identifier, if there are any. -/
structure Marker where
  id : String
  /-- The characters taken from the start of each line, in a heredoc that is indented. -/
  indent : Option Nat
  gap : Option Span
deriving DecidableEq, Repr

mutual

/-- An expression and where it stands. -/
inductive Expr where
  | node (span : Option Span) (form : Form)

/-- The forms of expressions. -/
inductive Form where
  | null
  | bool (value : Bool)
  | number (value : Number)
  | string (value : String)
  | array (items : List Expr) (closing : Closing)
  /-- An object; `gap` is where the blanks stand that follow no entry, if there are any. -/
  | object (entries : List Entry) (gap : Option Span)
  /-- A quoted string with interpolations or directives. -/
  | template (parts : List Part)
  | heredoc (marker : Marker) (parts : List Part)
  | parens (inner : Expr)
  | variable (name : String)
  | conditional (cond yes no : Expr)
  /-- A call; `spread` when the last argument is followed by `...`. -/
  | call (name : List String) (args : List Expr) (spread : Bool) (closing : Closing)
  | traversal (root : Expr) (steps : List Step)
  /-- A prefix operator; `place` is where its operand stands, which has no span itself. -/
  | unary (op : UnaryOp) (place : Span) (operand : Expr)
  | binary (lhs : Expr) (op : BinaryOp) (rhs : Expr)
  /-- `[for k, v in collection : value if cond]`, or an object when there is a key; `grouped` when
  the value is followed by `...`. -/
  | comprehension (keyName : Option String) (valueName : String) (collection : Expr)
      (key : Option Expr) (value : Expr) (grouped : Bool) (cond : Option Expr)

/-- One entry of an object, assigned with a colon or an equals sign. A key that is a bare variable
is a name. -/
inductive Entry where
  | mk (key value : Expr) (colon : Bool) (ending : EntryEnd)

/-- One step of a traversal. -/
inductive Step where
  /-- `.name` -/
  | attr (span : Span) (name : String)
  /-- `[key]` -/
  | index (span : Span) (key : Expr)
  /-- `.0` -/
  | position (span : Span) (index : Nat)
  /-- `.*` -/
  | attributeSplat (span : Span)
  /-- `[*]` -/
  | fullSplat (span : Span)

/-- One part of a template. -/
inductive Part where
  | literal (text : String)
  /-- `${expr}` -/
  | interpolation (sequence : Sequence) (expr : Expr)
  /-- `%{ if cond }yes%{ else }no%{ endif }` -/
  | choice (opening : Sequence) (cond : Expr) (yes : List Part) (middle : Option Sequence)
      (no : List Part) (closing : Sequence)
  /-- `%{ for k, v in collection }body%{ endfor }` -/
  | repetition (opening : Sequence) (keyName : Option String) (valueName : String)
      (collection : Expr) (body : List Part) (closing : Sequence)

end

namespace Step

/-- Where the step stands, its dot or bracket included. -/
def span : Step → Span
  | .attr s _ | .index s _ | .position s _ | .attributeSplat s | .fullSplat s => s

/-- The expression inside the brackets of an index. -/
def index? : Step → Option Expr
  | .index _ key => some key
  | _ => none

end Step

namespace Entry

/-- The key of an entry. -/
def key : Entry → Expr
  | .mk k _ _ _ => k

/-- The value of an entry. -/
def value : Entry → Expr
  | .mk _ v _ _ => v

end Entry

namespace Part

/-- The expression of an interpolation. -/
def interpolation? : Part → Option Expr
  | .interpolation _ e => some e
  | _ => none

/-- The text of a literal part. -/
def literal? : Part → Option String
  | .literal text => some text
  | _ => none

end Part

namespace Expr

/-- Where an expression stands. -/
def span : Expr → Option Span
  | .node s _ => s

/-- What an expression is. -/
def form : Expr → Form
  | .node _ f => f

/-- The same expression, standing nowhere. -/
def detached : Expr → Expr
  | .node _ f => .node none f

/-- The name that an object key is, when it is one. -/
def name? (e : Expr) : Option String :=
  match e.form with
  | .variable name => some name
  | _ => none

end Expr

/-- The expressions of an object entry: the key unless it is a name, then the value. -/
def Entry.exprs (entry : Entry) : List Expr :=
  match entry.key.name? with
  | some _ => [entry.value]
  | none => [entry.key, entry.value]

/-- The direct sub-expressions of a form, in source order. -/
def Form.children : Form → List Expr
  | .null | .bool _ | .number _ | .string _ | .variable _ => []
  | .array items _ => items
  | .object entries _ => entries.flatMap Entry.exprs
  | .template parts | .heredoc _ parts => parts.filterMap Part.interpolation?
  | .parens inner => [inner]
  | .conditional cond yes no => [cond, yes, no]
  | .call _ args _ _ => args
  | .traversal root steps => root :: steps.filterMap Step.index?
  | .unary _ _ operand => [operand]
  | .binary lhs _ rhs => [lhs, rhs]
  | .comprehension _ _ collection key value _ cond =>
    collection :: key.toList ++ value :: cond.toList

/-- The direct sub-expressions, in source order. -/
def Expr.children (e : Expr) : List Expr := e.form.children

/-- Whether two optional sequences strip the same blanks. -/
def sameMiddle : Option Sequence → Option Sequence → Bool
  | none, none => true
  | some a, some b => a.same b
  | _, _ => false

mutual

/-- Whether two expressions are equal, wherever they stand. The order of entries does not count, nor
does it whether the last argument of a call is spread. -/
def Expr.same : Expr → Expr → Bool
  | .node _ a, .node _ b => a.same b

/-- Whether two forms are equal, wherever their parts stand. -/
def Form.same : Form → Form → Bool
  | .null, .null => true
  | .bool a, .bool b => a == b
  | .number a, .number b => a.eq b
  | .string a, .string b => a == b
  | .array a z, .array b z' => sameExprs a b && z == z'
  | .object a g, .object b g' => a.length == b.length && sameEntries a b && g == g'
  | .template a, .template b => sameParts a b
  | .heredoc m a, .heredoc m' b => m.id == m'.id && sameParts a b && m.gap == m'.gap
  | .parens a, .parens b => a.same b
  | .variable a, .variable b => a == b
  | .conditional a b c, .conditional a' b' c' => a.same a' && b.same b' && c.same c'
  | .call n as _ z, .call n' as' _ z' => n == n' && sameExprs as as' && z == z'
  | .traversal r steps, .traversal r' steps' => r.same r' && sameSteps steps steps'
  | .unary o _ a, .unary o' _ a' => o == o' && a.same a'
  | .binary a o b, .binary a' o' b' => a.same a' && o == o' && b.same b'
  | .comprehension k v c key value g cond, .comprehension k' v' c' key' value' g' cond' =>
    k == k' && v == v' && c.same c' && sameOption key key' && value.same value' && g == g' &&
      sameOption cond cond'
  | _, _ => false

/-- `Expr.same` on two lists. -/
def sameExprs : List Expr → List Expr → Bool
  | [], [] => true
  | a :: as, b :: bs => a.same b && sameExprs as bs
  | _, _ => false

/-- `Expr.same` on two optional expressions. -/
def sameOption : Option Expr → Option Expr → Bool
  | none, none => true
  | some a, some b => a.same b
  | _, _ => false

/-- Whether two entries are equal. -/
def Entry.same : Entry → Entry → Bool
  | .mk k v s e, .mk k' v' s' e' => k.same k' && v.same v' && s == s' && e == e'

/-- Whether each of some entries has an equal one among others. -/
def sameEntries : List Entry → List Entry → Bool
  | [], _ => true
  | a :: as, bs => (bs.any fun b => a.same b) && sameEntries as bs

/-- Whether two lists of steps are equal. -/
def sameSteps : List Step → List Step → Bool
  | [], [] => true
  | .attr _ n :: as, .attr _ n' :: bs => n == n' && sameSteps as bs
  | .index _ e :: as, .index _ e' :: bs => e.same e' && sameSteps as bs
  | .position _ n :: as, .position _ n' :: bs => n == n' && sameSteps as bs
  | .attributeSplat _ :: as, .attributeSplat _ :: bs => sameSteps as bs
  | .fullSplat _ :: as, .fullSplat _ :: bs => sameSteps as bs
  | _, _ => false

/-- Whether two lists of template parts are equal. -/
def sameParts : List Part → List Part → Bool
  | [], [] => true
  | .literal s :: as, .literal s' :: bs => s == s' && sameParts as bs
  | .interpolation s e :: as, .interpolation s' e' :: bs => s.same s' && e.same e' && sameParts as bs
  | .choice o c y m n z :: as, .choice o' c' y' m' n' z' :: bs =>
    o.same o' && c.same c' && sameParts y y' && sameMiddle m m' && sameParts n n' && z.same z' &&
      sameParts as bs
  | .repetition o k v c b z :: as, .repetition o' k' v' c' b' z' :: bs =>
    o.same o' && k == k' && v == v' && c.same c' && sameParts b b' && z.same z' && sameParts as bs
  | _, _ => false

end

/-- An attribute: a key and its value, from the key to the end of the value. -/
structure Attribute where
  key : String
  keySpan : Span
  value : Expr
  span : Span

mutual

/-- A structure of a body: an attribute or a block. -/
inductive Item where
  | attr (a : Attribute)
  | block (b : Block)

/-- A block: its type, its labels without quotes, its body, and its span from the type to the
closing brace. -/
structure Block where
  kind : String
  labels : List String
  body : List Item
  span : Span

end

/-- The structures of a file or of a block, in source order. -/
abbrev Body := List Item

end TerraLint.Hcl
