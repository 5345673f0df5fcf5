import TerraLint.Text.Blank
import TerraLint.Text.Digits
import TerraLint.Regex.Pattern
import TerraLint.Regex.Property

/-!
# Reading characters, escapes and brackets

The parts of a pattern that stand for one character or for a position. Where blanks and comments do
not count, they are skipped between the characters of an escape too.

* `readEscape`: an escape after its backslash.
* `readBracket`: a class in brackets.
-/

namespace TerraLint.Regex

open Text

/-! ## Blanks and comments -/

/-- What is left after blanks and comments, where they do not count. -/
def skipVerbose (verbose : Bool) (inComment : Bool) : List Char → List Char
  | [] => []
  | c :: cs =>
    if !verbose then c :: cs
    else if inComment then skipVerbose verbose (c != '\n') cs
    else if isBlank c then skipVerbose verbose false cs
    else if c = '#' then skipVerbose verbose true cs
    else c :: cs

/-- Takes the characters that satisfy a predicate, and skips blanks and comments after each. -/
def takeVerbose (verbose : Bool) (test : Char → Bool) :
    Nat → List Char → List Char × List Char
  | 0, cs => ([], cs)
  | n + 1, cs =>
    match cs with
    | [] => ([], [])
    | c :: rest =>
      if test c then
        let (taken, rest) := takeVerbose verbose test n (skipVerbose verbose false rest)
        (c :: taken, rest)
      else ([], cs)

/-- All characters at the start that satisfy a predicate, with blanks and comments after each. -/
def spanVerbose (verbose : Bool) (test : Char → Bool) (cs : List Char) : List Char × List Char :=
  takeVerbose verbose test cs.length cs

/-! ## Escapes -/

/-- What an escape stands for. -/
inductive Escape where
  | literal (l : Literal)
  | named (c : NamedClass)
  | anchor (a : Anchor)

/-- The character that hexadecimal digits write. -/
def hexLiteral (digits : List Char) : Option Char :=
  if digits.isEmpty then none else hexNumber digits >>= charOfCode

/-- Reads a character by its hexadecimal digits: as many as `width`, or any number in braces. -/
def readHex (verbose : Bool) (width : Nat) (cs : List Char) : Option (Literal × List Char) :=
  match skipVerbose verbose false cs with
  | '{' :: cs =>
    let (digits, rest) := spanVerbose verbose (· != '}') (skipVerbose verbose false cs)
    match rest with
    | '}' :: rest => (hexLiteral digits).map fun c => (⟨c, false⟩, rest)
    | _ => none
  | cs =>
    let (digits, rest) := takeVerbose verbose (fun _ => true) width cs
    if digits.length < width then none
    else (hexLiteral digits).map fun c => (⟨c, width == 2⟩, rest)

/-- The parts of a text before and after the first place where another one stands in it. -/
def splitAt? (mark : List Char) : List Char → Option (List Char × List Char)
  | [] => none
  | c :: cs =>
    if mark.isPrefixOf (c :: cs) then some ([], (c :: cs).drop mark.length)
    else (splitAt? mark cs).map fun (before, after) => (c :: before, after)

/-- The class of what stands between the braces of a property: a name, or a property and its value
with a mark between them that says whether they are equal. -/
def propertyClass? (negated : Bool) (text : List Char) : Option NamedClass :=
  match splitAt? ['!', '='] text with
  | some (p, v) => (valuedProperty? (looseName p) (looseName v)).map (.property !negated)
  | none =>
    match (splitAt? [':'] text).or (splitAt? ['='] text) with
    | some (p, v) => (valuedProperty? (looseName p) (looseName v)).map (.property negated)
    | none => (namedProperty? (looseName text)).map (.property negated)

/-- Reads a property: one letter, or anything in braces. -/
def readProperty (verbose negated : Bool) (cs : List Char) : Option (NamedClass × List Char) :=
  match skipVerbose verbose false cs with
  | '{' :: cs =>
    let (name, rest) := spanVerbose verbose (· != '}') (skipVerbose verbose false cs)
    match rest with
    | '}' :: rest => (propertyClass? negated name).map fun c => (c, rest)
    | _ => none
  | '\\' :: _ | [] => none
  | c :: rest => ((namedProperty? (looseName [c])).map (.property negated)).map fun c => (c, rest)

/-- The position that a name in braces stands for after the escape of a word boundary. -/
def boundary? (name : List Char) : Option Anchor :=
  match String.ofList name with
  | "start" => some .wordStart
  | "end" => some .wordEnd
  | "start-half" => some .noWordBefore
  | "end-half" => some .noWordAfter
  | _ => none

/-- Reads what may stand in braces after the escape of a word boundary. Where no letter comes first,
the brace starts a repetition. -/
def readBoundary (verbose : Bool) (cs : List Char) : Option (Anchor × List Char) :=
  let isPart (c : Char) := c.isAlpha || c == '-'
  match cs with
  | '{' :: inner =>
    let (name, rest) := spanVerbose verbose isPart (skipVerbose verbose false inner)
    match name, rest with
    | [], _ => some (.boundary, cs)
    | _, '}' :: rest => (boundary? name).map fun a => (a, rest)
    | _, _ => none
  | _ => some (.boundary, cs)

/-- Whether a character stands for itself after a backslash: punctuation of ASCII, the angle
brackets apart. -/
def isEscapable (c : Char) : Bool :=
  c.toNat < 128 && !c.isAlphanum && c != '<' && c != '>'

/-- Reads an escape after its backslash. -/
def readEscape (verbose : Bool) (cs : List Char) : Option (Escape × List Char) :=
  let literal (c : Char) (rest : List Char) := some (Escape.literal ⟨c, false⟩, rest)
  let basic (negated : Bool) (kind : BasicClass) (rest : List Char) :=
    some (Escape.named (.basic negated kind), rest)
  let anchor (a : Anchor) (rest : List Char) := some (Escape.anchor a, rest)
  match cs with
  | [] => none
  | c :: rest =>
    match c with
    | 'd' => basic false .digit rest
    | 'D' => basic true .digit rest
    | 's' => basic false .space rest
    | 'S' => basic true .space rest
    | 'w' => basic false .word rest
    | 'W' => basic true .word rest
    | 'p' => (readProperty verbose false rest).map fun (c, rest) => (.named c, rest)
    | 'P' => (readProperty verbose true rest).map fun (c, rest) => (.named c, rest)
    | 'x' => (readHex verbose 2 rest).map fun (l, rest) => (.literal l, rest)
    | 'u' => (readHex verbose 4 rest).map fun (l, rest) => (.literal l, rest)
    | 'U' => (readHex verbose 8 rest).map fun (l, rest) => (.literal l, rest)
    | 'A' => anchor .textStart rest
    | 'z' => anchor .textEnd rest
    | 'b' => (readBoundary verbose rest).map fun (a, rest) => (.anchor a, rest)
    | 'B' => anchor .noBoundary rest
    | '<' => anchor .wordStart rest
    | '>' => anchor .wordEnd rest
    | 'a' => literal '\x07' rest
    | 'f' => literal '\x0c' rest
    | 't' => literal '\t' rest
    | 'n' => literal '\n' rest
    | 'r' => literal '\r' rest
    | 'v' => literal '\x0b' rest
    | c => if isEscapable c then literal c rest else none

/-! ## Brackets -/

/-- What was read of a class: a part with the operation after it, if there is one, and the members
since, the last one first. -/
structure ClassPart where
  /-- The part before the last operation, and the operation. -/
  left : Option (ClassPattern × SetOp)
  /-- The members since. -/
  members : List ClassPattern

namespace ClassPart

/-- Adds a member. -/
def add (part : ClassPart) (p : ClassPattern) : ClassPart :=
  { part with members := p :: part.members }

/-- All that was read. -/
def result (part : ClassPart) : ClassPattern :=
  let members := ClassPattern.ofList part.members.reverse
  match part.left with
  | none => members
  | some (left, op) => .operation op left members

/-- Puts an operation after all that was read. -/
def operate (part : ClassPart) (op : SetOp) : ClassPart := ⟨some (part.result, op), []⟩

end ClassPart

/-- Reads a class of ASCII by name, after its opening bracket. -/
def readAsciiClass (cs : List Char) : Option (NamedClass × List Char) :=
  match cs with
  | ':' :: cs =>
    let (negated, cs) := match cs with
      | '^' :: rest => (true, rest)
      | _ => (false, cs)
    let (name, rest) := cs.span Char.isAlpha
    match rest with
    | ':' :: ']' :: rest => (asciiClass? name).map fun s => (.ascii negated s, rest)
    | _ => none
  | _ => none

/-- Reads a member of a class that is written as a character or as an escape. -/
def readMember (verbose : Bool) (cs : List Char) : Option (Escape × List Char) :=
  match cs with
  | [] => none
  | '\\' :: rest => readEscape verbose rest
  | c :: rest => some (.literal ⟨c, false⟩, rest)

/-- A member of a class. A position is none. -/
def Escape.member? : Escape → Option ClassPattern
  | .literal l => some (.literal l)
  | .named c => some (.named c)
  | .anchor _ => none

/-- The range between two members. Both are characters in order. -/
def rangeOf? : Escape → Escape → Option ClassPattern
  | .literal low, .literal high => if low.char ≤ high.char then some (.range low high) else none
  | _, _ => none

/-- The character that decides whether a hyphen before a text starts a range. Where blanks and
comments do not count, it is the first one that is no blank and opens no comment. -/
def afterHyphen (verbose : Bool) (cs : List Char) : Option Char :=
  if !verbose then cs.head?
  else
    match cs.dropWhile isBlank with
    | '#' :: rest => (rest.find? fun c => !isBlank c).or cs.head?
    | [] => cs.head?
    | c :: _ => some c

/-- Reads a member of a class, or a range between two of them. A hyphen before the closing bracket
or before another hyphen starts no range. -/
def readRange (verbose : Bool) (cs : List Char) : Option (ClassPattern × List Char) := do
  let (first, cs) ← readMember verbose cs
  match skipVerbose verbose false cs with
  | '-' :: rest =>
    let next := afterHyphen verbose rest
    if next = some ']' ∨ next = some '-' then return (← first.member?, '-' :: rest)
    else
      let (last, rest) ← readMember verbose (skipVerbose verbose false rest)
      return (← rangeOf? first last, rest)
  | cs => return (← first.member?, cs)

/-- Reads what may stand first in a class: hyphens, or else a closing bracket. -/
def readFirst (verbose : Bool) (cs : List Char) : List ClassPattern × List Char :=
  match spanVerbose verbose (· == '-') cs with
  | ([], ']' :: rest) => ([.literal ⟨']', false⟩], rest)
  | (hyphens, rest) => (hyphens.map fun c => .literal ⟨c, false⟩, rest)

mutual

/-- Reads a class in brackets, after its opening bracket: whether it is negated, and what is inside.
-/
def readBracket : Nat → Bool → List Char → Option (Bool × ClassPattern × List Char)
  | 0, _, _ => none
  | fuel + 1, verbose, cs => do
    let (negated, cs) := match skipVerbose verbose false cs with
      | '^' :: rest => (true, skipVerbose verbose false rest)
      | cs => (false, cs)
    let (first, cs) := readFirst verbose cs
    let (members, rest) ← readMembers fuel verbose ⟨none, first⟩ cs
    return (negated, members, rest)

/-- Reads the members of a class and its closing bracket. -/
def readMembers : Nat → Bool → ClassPart → List Char → Option (ClassPattern × List Char)
  | 0, _, _, _ => none
  | fuel + 1, verbose, part, cs =>
    match skipVerbose verbose false cs with
    | [] => none
    | ']' :: rest => some (part.result, rest)
    | '[' :: rest =>
      match readAsciiClass rest with
      | some (c, rest) => readMembers fuel verbose (part.add (.named c)) rest
      | none => do
        let (negated, inner, rest) ← readBracket fuel verbose rest
        readMembers fuel verbose (part.add (.bracket negated inner)) rest
    | '&' :: '&' :: rest => readMembers fuel verbose (part.operate .inter) rest
    | '-' :: '-' :: rest => readMembers fuel verbose (part.operate .diff) rest
    | '~' :: '~' :: rest => readMembers fuel verbose (part.operate .symmDiff) rest
    | cs => do
      let (p, rest) ← readRange verbose cs
      readMembers fuel verbose (part.add p) rest

end

end TerraLint.Regex
