import TerraLint.Hcl.Parser
import TerraLint.Hcl.Precedence
import TerraLint.Hcl.Query
import TerraLint.Hcl.Template
import TerraLint.Hcl.Value.Printer

/-!
# Evaluation

Expressions are evaluated without variables and functions, except for the variables that loops bind:
any other reference has no value. Both operands of an operation are evaluated, but only the chosen
branch of a conditional. A template is evaluated from its text: it is written, read anew as text
without quotes, and what was read is evaluated. Evaluation takes a bound on its depth, which the
length of the text gives.
-/

namespace TerraLint.Hcl

open Text

/-- The variables that the loops around an expression bind, innermost first. -/
abbrev Bindings := List (String × Value)

namespace Template

/-- Whether a character is a blank within a line. -/
def isSpace (c : Char) : Bool := c == ' ' || c == '\t'

/-- The text without the blanks at its start, up to and with one line break. -/
def stripStart (cs : List Char) : List Char :=
  match cs.dropWhile isSpace with
  | '\n' :: cs => cs
  | '\r' :: '\n' :: cs => cs
  | cs => cs

/-- The text without the blanks at its end, back to and with one line break. -/
def stripEnd (cs : List Char) : List Char :=
  match cs.reverse.dropWhile isSpace with
  | '\n' :: '\r' :: cs => cs.reverse
  | '\n' :: cs => cs.reverse
  | cs => cs.reverse

/-- Literal text between two sequences that may strip it. -/
def literalText (start stop : Bool) (text : String) : String :=
  let cs := text.toList
  let cs := if start then stripStart cs else cs
  String.ofList (if stop then stripEnd cs else cs)

/-- Whether a part strips the text before it. -/
def stripsBefore : Part → Bool
  | .literal _ => false
  | .interpolation sequence _ => sequence.before
  | .choice opening _ _ _ _ _ => opening.before
  | .repetition opening _ _ _ _ _ => opening.before

/-- Whether a part strips the text after it. -/
def stripsAfter : Part → Bool
  | .literal _ => false
  | .interpolation sequence _ => sequence.after
  | .choice _ _ _ _ _ closing => closing.after
  | .repetition _ _ _ _ _ closing => closing.after

end Template

/-- The value of a comparison, an arithmetic or a logical operation. -/
def BinaryOp.apply : BinaryOp → Value → Value → Option Value
  | .eq, a, b => some (.bool (a.eq b))
  | .ne, a, b => some (.bool !(a.eq b))
  | .and, .bool a, .bool b => some (.bool (a && b))
  | .or, .bool a, .bool b => some (.bool (a || b))
  | .lt, .number a, .number b => some (.bool (a.lt b))
  | .le, .number a, .number b => some (.bool (a.le b))
  | .gt, .number a, .number b => some (.bool (b.lt a))
  | .ge, .number a, .number b => some (.bool (b.le a))
  | .add, .number a, .number b => some (.number (a.add b))
  | .sub, .number a, .number b => some (.number (a.sub b))
  | .mul, .number a, .number b => some (.number (a.mul b))
  | .div, .number a, .number b => some (.number (a.div b))
  | .mod, .number a, .number b => some (.number (a.mod b))
  | _, _, _ => none

/-- The value of a prefix operation. -/
def UnaryOp.apply : UnaryOp → Value → Option Value
  | .neg, .number n => some (.number n.neg)
  | .not, .bool b => some (.bool !b)
  | _, _ => none

/-- The value at an index: a list by position, an object by key. -/
def Value.index : Value → Value → Option Value
  | .list items, .number (.unsigned i) => items[i]?
  | .object entries, .string key => Value.lookup key entries
  | _, _ => none

/-- The values that a splat ranges over. -/
def Value.splat : Value → List Value
  | .null => []
  | .list items => items
  | v => [v]

/-- The pairs that a loop ranges over: positions or keys, and values. -/
def Value.pairs : Value → Option (List (Value × Value))
  | .list items => some (items.mapIdx fun i v => (.number (.unsigned i), v))
  | .object entries => some (entries.map fun (k, v) => (.string k, v))
  | _ => none

/-- The bindings inside a loop. -/
def bindLoop (keyName : Option String) (valueName : String) (env : Bindings) (pair : Value × Value) :
    Bindings :=
  match keyName with
  | none => (valueName, pair.2) :: env
  | some key => (valueName, pair.2) :: (key, pair.1) :: env

/-- An object with the result of one round of a loop put in: a key comes once, or its values are
grouped in a list. -/
def addYield (grouped : Bool) (entries : List (String × Value)) (key : String) (value : Value) :
    Option (List (String × Value)) :=
  match Value.lookup key entries, grouped with
  | none, false => some (Value.insert key value entries)
  | none, true => some (Value.insert key (.list [value]) entries)
  | some (.list items), true => some (Value.insert key (.list (items ++ [value])) entries)
  | some _, _ => none

/-- Whether a step is an attribute access. -/
def Step.isAttr : Step → Bool
  | .attr _ _ => true
  | _ => false

mutual

/-- The value of an expression of a source text, if it has one. -/
def eval (source : List Char) : Nat → Bindings → Expr → Option Value
  | 0, _, _ => none
  | n + 1, env, e =>
    match e.form with
    | .null => some .null
    | .bool b => some (.bool b)
    | .number x => some (.number x)
    | .string s => some (.string s)
    | .array items _ => (items.mapM (eval source n env)).map .list
    | .object entries _ =>
      (entries.foldlM (fun done (entry : Entry) => do
        let key ← match entry.key.name? with
          | some name => some name
          | none => (eval source n env entry.key) >>= Value.key?
        let value ← eval source n env entry.value
        return Value.insert key value done) []).map .object
    | .template parts => evalTemplate n env (Template.text source parts)
    | .heredoc marker parts =>
      let text := Template.text source parts
      evalTemplate n env (if marker.indent.isSome then Heredoc.dedentLines text else text)
    | .parens inner => eval source n env inner
    | .variable name => Value.lookup name env
    | .conditional cond yes no => do
      match ← eval source n env cond with
      | .bool true => eval source n env yes
      | .bool false => eval source n env no
      | _ => none
    | .call _ _ _ _ => none
    | .traversal root steps => do
      let v ← eval source n env root
      evalSteps source n env v steps
    | .unary op _ operand => do op.apply (← eval source n env operand)
    | .binary lhs op rhs => do
      let o := Operation.regroup lhs.regrouped op rhs.regrouped
      let l ← eval source n env o.lhs
      let r ← eval source n env o.rhs
      o.op.apply l r
    | .comprehension keyName valueName collection key value grouped cond => do
      let pairs ← (← eval source n env collection).pairs
      let rounds ← pairs.filterMapM fun pair => do
        let env := bindLoop keyName valueName env pair
        let chosen ← match cond with
          | none => some true
          | some cond =>
            match eval source n env cond with
            | some (.bool b) => some b
            | _ => none
        return if chosen then some env else none
      match key with
      | none => (rounds.mapM fun env => eval source n env value).map .list
      | some key =>
        (rounds.foldlM (fun done env => do
          let k ← (eval source n env key) >>= Value.key?
          let v ← eval source n env value
          addYield grouped done k v) []).map .object

/-- The value that steps lead to. A splat in brackets applies all further steps to each item, one
after a dot only the attribute accesses right behind it. -/
def evalSteps (source : List Char) : Nat → Bindings → Value → List Step → Option Value
  | 0, _, _, _ => none
  | _ + 1, _, v, [] => some v
  | n + 1, env, v, step :: steps =>
    match step with
    | .attr _ name =>
      match v with
      | .object entries => do evalSteps source n env (← Value.lookup name entries) steps
      | _ => none
    | .index _ key => do evalSteps source n env (← v.index (← eval source n env key)) steps
    | .position _ i => do evalSteps source n env (← v.index (.number (.unsigned i))) steps
    | .attributeSplat _ => do
      let items ← v.splat.mapM fun item => evalSteps source n env item (steps.takeWhile Step.isAttr)
      evalSteps source n env (.list items) (steps.dropWhile Step.isAttr)
    | .fullSplat _ => do
      let items ← v.splat.mapM fun item => evalSteps source n env item steps
      return .list items

/-- The value of a template that a text without quotes writes: that of its interpolation if it is
nothing else, a string otherwise. -/
def evalTemplate : Nat → Bindings → List Char → Option Value
  | 0, _, _ => none
  | n + 1, env, text => do
    match ← parseTemplate text with
    | [.interpolation _ inner] => eval text n env inner
    | parts => (evalParts text n env false false parts).map .string

/-- The text of template parts between two sequences that may strip them. -/
def evalParts (source : List Char) : Nat → Bindings → Bool → Bool → List Part → Option String
  | 0, _, _, _, _ => none
  | _ + 1, _, _, _, [] => some ""
  | n + 1, env, start, stop, part :: parts => do
    let text ← match part with
      | .literal text =>
        let stop := match parts with
          | [] => stop
          | next :: _ => Template.stripsBefore next
        some (Template.literalText start stop text)
      | .interpolation _ e => (eval source n env e).map Value.text
      | .choice opening cond yes middle no closing =>
        match eval source n env cond with
        | some (.bool true) =>
          evalParts source n env opening.after (middle.getD closing).before yes
        | some (.bool false) =>
          evalParts source n env ((middle.map (·.after)).getD false) closing.before no
        | _ => none
      | .repetition opening keyName valueName collection body closing =>
        match (eval source n env collection) >>= Value.pairs with
        | none => none
        | some pairs =>
          (pairs.mapM fun pair =>
            evalParts source n (bindLoop keyName valueName env pair) opening.after closing.before body).map
              String.join
    let rest ← evalParts source n env (Template.stripsAfter part) stop parts
    return text ++ rest

end

/-- The value of the first attribute that a text writes; null if it writes none, nothing if the text
cannot be read or the attribute has no value. -/
def evaluateText (text : List Char) : Option Value := do
  let body ← parseBody text
  match body.attributes with
  | [] => some .null
  | a :: _ => eval text (depthBound text) [] a.value

end TerraLint.Hcl
