/-!
# Brackets, strings, comments and heredoc markers on a line

The layout of a text is read off its brackets. A bracket counts only in code: not inside a string
literal and not inside a comment. Strings, interpolations and block comments may go on over several
lines, so `Scan` carries what is still open from one line to the next, and `Scan.line` reads one
line.

* An interpolation opener `${` or `%{` inside a string is itself an opening bracket.
* A heredoc marker counts outside strings and interpolations only; its identifier is queued.
-/

namespace TerraLint.Format

/-- What encloses the character being read. -/
inductive Enclosure where
  | string
  /-- An interpolation, with the number of braces open inside it. -/
  | interpolation (braces : Nat)
deriving DecidableEq, Repr

/-- What is open between two characters. -/
structure Scan where
  /-- Strings and interpolations, innermost first. -/
  enclosing : List Enclosure
  /-- Whether a block comment is open. -/
  inComment : Bool
  /-- Identifiers of heredocs whose bodies have not begun, in order. -/
  heredocs : List (List Char)
deriving DecidableEq, Repr

namespace Scan

/-- Nothing is open at the start of a text. -/
def start : Scan := ⟨[], false, []⟩

/-- First characters of a heredoc identifier or of a bare key. -/
def isWordStart (c : Char) : Bool := c.isAlpha || c == '_'

/-- Further characters of a heredoc identifier or of a bare key. -/
def isWordRest (c : Char) : Bool := c.isAlphanum || c == '_' || c == '-'

/-- The identifier that starts the text, empty if none does. -/
def word : List Char → List Char
  | c :: cs => if isWordStart c then c :: cs.takeWhile isWordRest else []
  | [] => []

/-- The identifier of a heredoc marker `<<ID` or `<<-ID` that starts the text. -/
def heredocMarker : List Char → List Char
  | '<' :: '<' :: '-' :: cs => word cs
  | '<' :: '<' :: cs => word cs
  | _ => []

/-- The state after a heredoc marker, if the text starts with one outside every string. -/
def marked (s : Scan) (cs : List Char) : Scan :=
  match s.enclosing, heredocMarker cs with
  | [], c :: id => { s with heredocs := s.heredocs ++ [c :: id] }
  | _, _ => s

/-- The enclosures after an opening brace in code. -/
def braceOpened : List Enclosure → List Enclosure
  | .interpolation n :: outer => .interpolation (n + 1) :: outer
  | enclosing => enclosing

/-- The enclosures after a closing brace in code: the brace that closes an interpolation returns to
the string around it. -/
def braceClosed : List Enclosure → List Enclosure
  | .interpolation 0 :: outer => outer
  | .interpolation (n + 1) :: outer => .interpolation n :: outer
  | enclosing => enclosing

/-- A reading whose balance is moved by `n`. -/
def shift (n : Int) (r : Scan × Int) : Scan × Int := (r.1, r.2 + n)

mutual

/-- Reads the rest of a line inside a block comment. -/
def comment (s : Scan) : List Char → Scan × Int
  | '*' :: '/' :: cs => code { s with inComment := false } cs
  | _ :: cs => comment s cs
  | [] => (s, 0)

/-- Reads the rest of a line inside a string literal. A backslash hides the next character. -/
def string (s : Scan) : List Char → Scan × Int
  | '\\' :: _ :: cs => string s cs
  | '$' :: '$' :: '{' :: cs => string s cs
  | '%' :: '%' :: '{' :: cs => string s cs
  | '$' :: '{' :: cs => shift 1 (code { s with enclosing := .interpolation 0 :: s.enclosing } cs)
  | '%' :: '{' :: cs => shift 1 (code { s with enclosing := .interpolation 0 :: s.enclosing } cs)
  | '"' :: cs => code { s with enclosing := s.enclosing.tail } cs
  | _ :: cs => string s cs
  | [] => (s, 0)

/-- Reads the rest of a line in code, up to a line comment. -/
def code (s : Scan) : List Char → Scan × Int
  | '#' :: _ => (s, 0)
  | '/' :: '/' :: _ => (s, 0)
  | '/' :: '*' :: cs => comment { s with inComment := true } cs
  | '"' :: cs => string { s with enclosing := .string :: s.enclosing } cs
  | '[' :: cs => shift 1 (code s cs)
  | '(' :: cs => shift 1 (code s cs)
  | '{' :: cs => shift 1 (code { s with enclosing := braceOpened s.enclosing } cs)
  | ']' :: cs => shift (-1) (code s cs)
  | ')' :: cs => shift (-1) (code s cs)
  | '}' :: cs =>
    match braceClosed s.enclosing with
    | .string :: outer => shift (-1) (string { s with enclosing := .string :: outer } cs)
    | enclosing => shift (-1) (code { s with enclosing := enclosing } cs)
  | c :: cs => code (s.marked (c :: cs)) cs
  | [] => (s, 0)

end

/-- Reads a line; the result is the state at its end and its balance, opening minus closing
brackets. -/
def line (s : Scan) (cs : List Char) : Scan × Int :=
  if s.inComment then s.comment cs
  else
    match s.enclosing with
    | .string :: _ => s.string cs
    | _ => s.code cs

end Scan

end TerraLint.Format
