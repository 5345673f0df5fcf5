import TerraLint.Regex.Reader

/-!
# Reading patterns

A pattern is a choice between sequences of repeated parts: characters, classes, positions and
groups. Options set inside a group hold to its end. Neither references to groups nor conditions on
what stands around a match are part of the language.

* `Pattern.parse?`: the pattern that a text writes.
-/

namespace TerraLint.Regex

open Text

/-- What is left to read, whether blanks and comments count, and the groups that were read. -/
structure Reader where
  rest : List Char
  /-- Whether blanks and comments do not count. -/
  verbose : Bool
  /-- The number of groups to be captured. -/
  groups : Nat
  /-- The names of groups. -/
  names : List (List Char)

/-! ## Repetitions -/

/-- Reads a number in a repetition, with blanks around it. -/
def readCount (verbose : Bool) (cs : List Char) : Option (Nat × List Char) :=
  let (digits, rest) := spanVerbose verbose Char.isDigit (cs.dropWhile isBlank)
  let n := decimalNumber digits
  if digits.isEmpty || Nat.pow 2 32 ≤ n then none
  else some (n, (spanVerbose verbose isBlank rest).2)

/-- Reads the bounds of a repetition after its opening brace, up to its closing brace. -/
def readBounds (verbose : Bool) (cs : List Char) : Option ((Nat × Option Nat) × List Char) := do
  let (least, cs) ← readCount verbose (skipVerbose verbose false cs)
  match cs with
  | '}' :: rest => return ((least, some least), rest)
  | ',' :: cs =>
    match skipVerbose verbose false cs with
    | '}' :: rest => return ((least, none), rest)
    | cs =>
      let (most, cs) ← readCount verbose cs
      match cs with
      | '}' :: rest => if least ≤ most then return ((least, some most), rest) else none
      | _ => none
  | _ => none

/-- Reads the operator of a repetition: how often, and what is left. Only after braces may blanks
and comments stand before the question mark. -/
def readOperator (verbose : Bool) (cs : List Char) : Option ((Nat × Option Nat) × List Char) :=
  match cs with
  | '*' :: rest => some ((0, none), rest)
  | '+' :: rest => some ((1, none), rest)
  | '?' :: rest => some ((0, some 1), rest)
  | '{' :: rest =>
    (readBounds verbose rest).map fun (bounds, rest) => (bounds, skipVerbose verbose false rest)
  | _ => none

/-- Repeats a part as the operator of a repetition says. -/
def readRepetition (verbose : Bool) (p : Pattern) (cs : List Char) :
    Option (Pattern × List Char) := do
  let ((least, most), rest) ← readOperator verbose cs
  match rest with
  | '?' :: rest => return (.times p least most true, rest)
  | _ => return (.times p least most false, rest)

/-- Whether the operator of a repetition comes next. -/
def atRepetition : List Char → Bool
  | c :: _ => c == '*' || c == '+' || c == '?' || c == '{'
  | [] => false

/-! ## Groups -/

/-- The options that letters set, those after a hyphen switched off. No letter and no hyphen stands
twice, and no hyphen last. -/
def readOptions (on : Bool) (seen : List Char) : List Char → Option OptionChanges
  | [] => if seen.head? = some '-' then none else some []
  | c :: cs =>
    if seen.contains c then none
    else if c = '-' then readOptions false (c :: seen) cs
    else do
      let option ← OptionName.ofLetter? c
      return (option, on) :: (← readOptions on (c :: seen) cs)

/-- Whether a character is alphabetic. -/
def isAlphabetic (c : Char) : Bool :=
  Unicode.alphabetic.contains c.toNat || Unicode.newAlphabetic.contains c.toNat

/-- Whether a character is numeric. -/
def isNumeric (c : Char) : Bool :=
  Unicode.hasCategory Unicode.Category.numbers c.toNat || Unicode.newNumeric.contains c.toNat

/-- Whether a text is the name of a group. -/
def isGroupName : List Char → Bool
  | [] => false
  | c :: cs =>
    (c == '_' || isAlphabetic c) &&
      cs.all fun c => c == '_' || c == '.' || c == '[' || c == ']' || isAlphabetic c || isNumeric c

/-- How a group starts. -/
inductive GroupStart where
  | options (changes : OptionChanges)
  /-- A group with options of its own. -/
  | within (changes : OptionChanges)
  /-- A group to be captured, and its name if it has one. -/
  | capture (name : Option (List Char))

/-- Reads the name of a group and the angle bracket after it. -/
def readName (cs : List Char) : Option (GroupStart × List Char) :=
  let (name, rest) := cs.span (· != '>')
  match rest with
  | '>' :: rest => if isGroupName name then some (.capture (some name), rest) else none
  | _ => none

/-- Reads the start of a group after its parenthesis. -/
def readGroupStart (cs : List Char) : Option (GroupStart × List Char) :=
  match cs with
  | '?' :: 'P' :: '<' :: cs => readName cs
  | '?' :: '<' :: '=' :: _ | '?' :: '<' :: '!' :: _ => none
  | '?' :: '<' :: cs => readName cs
  | '?' :: cs =>
    let (letters, rest) := cs.span fun c => c != ':' && c != ')'
    match readOptions true [] letters, rest with
    | some changes, ':' :: rest => some (.within changes, rest)
    | some changes, ')' :: rest => if letters.isEmpty then none else some (.options changes, rest)
    | _, _ => none
  | _ => some (.capture none, cs)

namespace Reader

/-- The reader with something else left. -/
def leaving (r : Reader) (rest : List Char) : Reader := { r with rest }

/-- The reader after options were set. -/
def setting (r : Reader) (changes : OptionChanges) : Reader :=
  { r with verbose := (changes.lookup .verbose).getD r.verbose }

/-- The reader after the start of a group to be captured, unless its name was read before. -/
def capturing (r : Reader) (name : Option (List Char)) : Option Reader :=
  if name.any r.names.contains then none
  else some { r with groups := r.groups + 1, names := name.toList ++ r.names }

/-- The pattern of an escape. -/
def ofEscape : Escape → Pattern
  | .literal l => .literal l
  | .named c => .named c
  | .anchor a => .anchor a

mutual

/-- Reads a choice, up to the end of its group. -/
def choice : Nat → Reader → Option (List Pattern × Reader)
  | 0, _ => none
  | fuel + 1, r => do
    let (first, r) ← sequence fuel [] r
    match r.rest with
    | '|' :: rest =>
      let (others, r) ← choice fuel (r.leaving rest)
      return (first :: others, r)
    | _ => return ([first], r)

/-- Reads a sequence, where `before` was read, the last part first. -/
def sequence : Nat → List Pattern → Reader → Option (Pattern × Reader)
  | 0, _, _ => none
  | fuel + 1, before, r =>
    let rest := skipVerbose r.verbose false r.rest
    match rest with
    | [] => some (.sequence before.reverse, r.leaving [])
    | c :: cs =>
      if c = '|' ∨ c = ')' then some (.sequence before.reverse, r.leaving (c :: cs))
      else if atRepetition rest then
        match before with
        | [] => none
        | last :: before =>
          if last.isRepeatable then do
            let (repeated, rest) ← readRepetition r.verbose last rest
            sequence fuel (repeated :: before) (r.leaving rest)
          else none
      else do
        let (part, r) ← part fuel (r.leaving rest)
        sequence fuel (part :: before) r

/-- Reads a part of a sequence. -/
def part : Nat → Reader → Option (Pattern × Reader)
  | 0, _ => none
  | fuel + 1, r =>
    match r.rest with
    | [] => none
    | '(' :: cs => group fuel (r.leaving (skipVerbose r.verbose false cs))
    | '[' :: cs => do
      let (negated, inner, rest) ← readBracket (cs.length + 1) r.verbose cs
      return (.bracket negated inner, r.leaving rest)
    | '\\' :: cs => do
      let (escape, rest) ← readEscape r.verbose cs
      return (ofEscape escape, r.leaving rest)
    | '.' :: cs => some (.dot, r.leaving cs)
    | '^' :: cs => some (.anchor .caret, r.leaving cs)
    | '$' :: cs => some (.anchor .dollar, r.leaving cs)
    | c :: cs => some (.literal ⟨c, false⟩, r.leaving cs)

/-- Reads a group after its parenthesis. -/
def group : Nat → Reader → Option (Pattern × Reader)
  | 0, _ => none
  | fuel + 1, r => do
    let (start, rest) ← readGroupStart r.rest
    match start with
    | .options changes => return (.options changes, (r.leaving rest).setting changes)
    | .within changes =>
      let (inner, after) ← enclosed fuel ((r.leaving rest).setting changes)
      return (.group (.options changes) inner, { after with verbose := r.verbose })
    | .capture name =>
      let inside ← (r.leaving rest).capturing name
      let (inner, after) ← enclosed fuel inside
      return (.group (.capture inside.groups) inner, { after with verbose := r.verbose })

/-- Reads what is inside a group and its closing parenthesis. -/
def enclosed : Nat → Reader → Option (Pattern × Reader)
  | 0, _ => none
  | fuel + 1, r => do
    let (alternatives, after) ← choice fuel r
    match after.rest with
    | ')' :: rest => return (.choice alternatives, after.leaving rest)
    | _ => none

end

end Reader

/-- How deep a pattern may be nested. -/
def maxDepth : Nat := 250

/-- The pattern that a text writes, unless it is nested too deep. Each step of the reader takes a
character or is followed by one that does. -/
def Pattern.parse? (text : List Char) : Option Pattern := do
  let (alternatives, after) ← Reader.choice (4 * text.length + 4) ⟨text, false, 0, []⟩
  let p := Pattern.choice alternatives
  if after.rest.isEmpty && p.depth ≤ maxDepth then some p else none

end TerraLint.Regex
