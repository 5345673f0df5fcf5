import TerraLint.Text.Digits
import TerraLint.Yaml.Glyph

/-!
# Scalars

A plain scalar has no quotes. It ends before a colon with a gap after it, before a comment, before
the start or the end of a document, and where the indentation ends; inside brackets also before a
comma or a bracket.

A quoted scalar runs to its closing quote. In single quotes a quote is written twice; in double
quotes a backslash escapes, also a line end. No line of it looks like the start or the end of a
document.

Between two words of a plain or quoted scalar that spans lines, the blanks around line ends do not
count. One line end stands for a space, and of several the first one is dropped, unless it is a
separator.

A block scalar is a sequence of lines that are indented alike. Its header says whether its line ends
are kept or folded, what becomes of the line ends at its end, and perhaps how far it is indented;
otherwise the first line that is not blank says so, unless a blank line before it is longer.

* `Gap`: the blanks and line ends between two words.
* `blockHeader`: the header of a block scalar.
* `blockLines`: the lines of a block scalar without their indentation.
* `BlockHeader.text`: the text that the lines stand for.
-/

namespace TerraLint.Yaml

open Text

/-! ## Line ends -/

/-- The blanks and line ends between two words of a scalar. -/
structure Gap where
  /-- The characters, the last one first. -/
  reversed : List Char
  /-- Whether an escaped line end stands before them. -/
  escaped : Bool
deriving DecidableEq, Repr

namespace Gap

/-- Nothing between two characters of a word. -/
def none : Gap := ⟨[], false⟩

/-- What follows an escaped line end. -/
def afterEscape : Gap := ⟨[], true⟩

/-- The gap with one more character. -/
def push (gap : Gap) (c : Char) : Gap := { gap with reversed := c :: gap.reversed }

/-- Whether there is nothing in the gap. -/
def isEmpty (gap : Gap) : Bool := gap.reversed.isEmpty

/-- Whether the gap holds a line end. -/
def hasBreak (gap : Gap) : Bool := gap.reversed.any isBreak

/-- The line ends in the gap. -/
def breaks (gap : Gap) : List Char := gap.reversed.reverse.filter isBreak

/-- Line ends between two words, folded. -/
def fold : List Char → List Char
  | [] => []
  | ['\n'] => [' ']
  | '\n' :: rest => rest
  | breaks => breaks

/-- What the gap stands for. -/
def text (gap : Gap) : List Char :=
  if gap.escaped then gap.breaks
  else if gap.hasBreak then fold gap.breaks
  else gap.reversed.reverse

end Gap

/-! ## Plain scalars -/

/-- A plain scalar that was read. -/
structure Plain where
  text : List Char
  /-- Whether a line end stands between it and what follows. -/
  endsLine : Bool
  rest : List Glyph

/-- Where plain scalars stand. -/
structure PlainContext where
  inFlow : Bool
  /-- The column that their lines start at or after. -/
  margin : Nat

namespace PlainContext

/-- Whether no word of the scalar comes next after a gap: the indentation ends, a comment starts, or
a document starts or ends. -/
def closesBefore (ctx : PlainContext) (gap : Gap) : List Glyph → Bool
  | [] => true
  | g :: rest =>
    atDocumentMark (g :: rest) ||
      (!gap.isEmpty && (g.char == '#' || (!ctx.inFlow && g.column < ctx.margin)))

/-- Whether a colon comes next that may not stand in a plain scalar: before an indicator inside
brackets. -/
def isStrayColon (ctx : PlainContext) (gs : List Glyph) : Bool :=
  ctx.inFlow && isNext ':' gs && isNextOf [',', '?', '[', ']', '{', '}'] (gs.drop 1)

/-- Whether an indicator comes next that ends a plain scalar. -/
def endsBefore (ctx : PlainContext) (gs : List Glyph) : Bool :=
  (isNext ':' gs && atGap (gs.drop 1)) || (ctx.inFlow && isNextOf [',', '[', ']', '{', '}'] gs)

/-- Reads a plain scalar, where `gap` was read since its last word. A tab does not indent. -/
def read (ctx : PlainContext) (gap : Gap) : List Glyph → Option Plain
  | [] => some ⟨[], gap.hasBreak, []⟩
  | g :: rest =>
    if isGap g.char then
      if gap.hasBreak && g.char == '\t' && g.column < ctx.margin then none
      else read ctx (gap.push g.char) rest
    else if ctx.closesBefore gap (g :: rest) then some ⟨[], gap.hasBreak, g :: rest⟩
    else if ctx.isStrayColon (g :: rest) then none
    else if ctx.endsBefore (g :: rest) then some ⟨[], gap.hasBreak, g :: rest⟩
    else (read ctx .none rest).map fun p => { p with text := gap.text ++ g.char :: p.text }

end PlainContext

/-! ## Quoted scalars -/

/-- The rest of a scalar in single quotes: its text, and what follows the closing quote. -/
def singleQuoted (gap : Gap) : List Glyph → Option (List Char × List Glyph)
  | [] => none
  | g :: rest =>
    if isGap g.char then singleQuoted (gap.push g.char) rest
    else if atDocumentMark (g :: rest) then none
    else if g.char = '\'' then
      match rest with
      | ⟨'\'', _, _, _⟩ :: rest =>
        (singleQuoted .none rest).map fun (cs, rest) => (gap.text ++ '\'' :: cs, rest)
      | rest => some (gap.text, rest)
    else (singleQuoted .none rest).map fun (cs, rest) => (gap.text ++ g.char :: cs, rest)

/-- Single characters after a backslash, and what they stand for. -/
def escaped : Char → Option Char
  | '0' => some '\x00'
  | 'a' => some '\x07'
  | 'b' => some '\x08'
  | 't' => some '\t'
  | '\t' => some '\t'
  | 'n' => some '\n'
  | 'v' => some '\x0b'
  | 'f' => some '\x0c'
  | 'r' => some '\r'
  | 'e' => some '\x1b'
  | ' ' => some ' '
  | '"' => some '"'
  | '/' => some '/'
  | '\\' => some '\\'
  | 'N' => some '\u0085'
  | '_' => some '\u00a0'
  | 'L' => some '\u2028'
  | 'P' => some '\u2029'
  | _ => none

/-- The character whose code point some glyphs write. -/
def ofHex (gs : List Glyph) : Option Char := hexNumber (textOf gs) >>= charOfCode

/-- The rest of a scalar in double quotes: its text, and what follows the closing quote. -/
def doubleQuoted (gap : Gap) : List Glyph → Option (List Char × List Glyph)
  | [] => none
  | g :: rest =>
    if isGap g.char then doubleQuoted (gap.push g.char) rest
    else if atDocumentMark (g :: rest) then none
    else if g.char = '"' then some (gap.text, rest)
    else if g.char = '\\' then
      let continued (c : Option Char) (next : Option (List Char × List Glyph)) := do
        let c ← c
        let (cs, rest) ← next
        return (gap.text ++ c :: cs, rest)
      match rest with
      | ⟨'x', _, _, _⟩ :: a :: b :: rest => continued (ofHex [a, b]) (doubleQuoted .none rest)
      | ⟨'u', _, _, _⟩ :: a :: b :: c :: d :: rest =>
        continued (ofHex [a, b, c, d]) (doubleQuoted .none rest)
      | ⟨'U', _, _, _⟩ :: a :: b :: c :: d :: e :: f :: i :: j :: rest =>
        continued (ofHex [a, b, c, d, e, f, i, j]) (doubleQuoted .none rest)
      | e :: rest =>
        if isBreak e.char then
          (doubleQuoted .afterEscape rest).map fun (cs, rest) => (gap.text ++ cs, rest)
        else continued (escaped e.char) (doubleQuoted .none rest)
      | [] => none
    else (doubleQuoted .none rest).map fun (cs, rest) => (gap.text ++ g.char :: cs, rest)

/-! ## Block scalars -/

/-- What becomes of the line ends at the end of a block scalar: none stays, the first one, or all. -/
inductive Chomping where
  | strip
  | clip
  | keep
deriving DecidableEq, Repr

/-- The header of a block scalar. -/
structure BlockHeader where
  folded : Bool
  chomping : Chomping
  /-- How much farther it is indented than what it stands in, if the header says so. -/
  increment : Option Nat
deriving DecidableEq, Repr

/-- Reads a chomping indicator if there is one. -/
def readChomping : List Glyph → Option Chomping × List Glyph
  | [] => (none, [])
  | g :: rest =>
    if g.char = '+' then (some .keep, rest)
    else if g.char = '-' then (some .strip, rest)
    else (none, g :: rest)

/-- Reads an indentation indicator if there is one; zero is no indentation. -/
def readIncrement : List Glyph → Option (Option Nat × List Glyph)
  | [] => some (none, [])
  | g :: rest =>
    if g.char = '0' then none
    else if g.char.isDigit then some (some (decimalNumber [g.char]), rest)
    else some (none, g :: rest)

/-- Reads the header of a block scalar after its first character, up to the end of its line. The two
indicators stand in either order. -/
def blockHeader (folded : Bool) (gs : List Glyph) : Option (BlockHeader × List Glyph) := do
  let (first, gs) := readChomping gs
  let (increment, gs) ← readIncrement gs
  let (second, gs) := if first.isNone && increment.isSome then readChomping gs else (none, gs)
  let rest ← endLine? gs
  return (⟨folded, (first.or second).getD .clip, increment⟩, rest)

/-- The longest indentation up to the first line that is not blank; nothing if a tab is in it. -/
def longestIndent (longest : Nat) : List Glyph → Option Nat
  | [] => some longest
  | g :: rest =>
    if g.char = ' ' then longestIndent longest rest
    else if g.char = '\t' then none
    else if isBreak g.char then longestIndent (max longest g.column) rest
    else some (max longest g.column)

/-- The lines that are indented by `indent` columns, without their indentation, and what follows
them. A tab does not indent. -/
def blockLines (indent : Nat) (inLine : Bool) : List Glyph → Option (List Char × List Glyph)
  | [] => some ([], [])
  | g :: rest =>
    if inLine || indent ≤ g.column || isBreak g.char then
      (blockLines indent (!isBreak g.char) rest).map fun (cs, rest) => (g.char :: cs, rest)
    else if g.char = ' ' then blockLines indent false rest
    else if g.char = '\t' then none
    else some ([], g :: rest)

/-- Folds lines: `blank` tells whether the current line starts with a blank, and `breaks` are the
line ends since. A single line end between two lines that start with no blank becomes a space, and
of several the first one is dropped. -/
def foldLines (isFirst blank : Bool) (breaks : List Char) : List Char → List Char
  | [] => breaks
  | c :: cs =>
    if isBreak c then foldLines isFirst blank (breaks ++ [c]) cs
    else if isFirst then breaks ++ c :: foldLines false (isBlank c) [] cs
    else
      match breaks with
      | [] => c :: foldLines false blank [] cs
      | b :: more =>
        let joined := if b = '\n' && !blank && !isBlank c then
            if more.isEmpty then [' '] else more
          else b :: more
        joined ++ c :: foldLines false (isBlank c) [] cs

namespace BlockHeader

/-- The column at which the lines start, in a text whose margin is at `margin`. -/
def indent? (header : BlockHeader) (margin : Nat) (gs : List Glyph) : Option Nat :=
  match header.increment with
  | some n => some (margin - 1 + n)
  | none => (longestIndent 0 gs).map fun longest => max (max longest margin) 1

/-- The text that lines stand for. -/
def text (header : BlockHeader) (lines : List Char) : List Char :=
  let ending := (lines.reverse.takeWhile isBreak).reverse
  let content := lines.take (lines.length - ending.length)
  let body := if header.folded then foldLines true false [] content else content
  body ++ match header.chomping with
    | .strip => []
    | .clip => if content.isEmpty then [] else ending.take 1
    | .keep => ending

/-- Reads the lines of a block scalar: its text, and what follows. -/
def read (header : BlockHeader) (margin : Nat) (gs : List Glyph) :
    Option (List Char × List Glyph) := do
  let indent ← header.indent? margin gs
  let (lines, rest) ← blockLines indent false gs
  return (header.text lines, rest)

end BlockHeader

end TerraLint.Yaml
