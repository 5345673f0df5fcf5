import TerraLint.Text.Blank
import TerraLint.Text.Quoted
import TerraLint.Source.LineIndex
import TerraLint.Hcl.Parser
import TerraLint.Hcl.Query

/-!
# Source files

A source file is a named text with the body it writes, if it writes one, and its line index. A file
that cannot be read is kept all the same: some rules look at names only.

* `range`: the range of a span of bytes without the blanks around it.
* `defRange`: the range of a block's type and labels.
-/

namespace TerraLint

open Text Hcl

/-- A named text, read once. -/
structure SourceFile where
  name : String
  text : List Char
  /-- The body that the text writes. -/
  body? : Option Body
  /-- Where the lines of the text start. -/
  index : LineIndex

namespace SourceFile

/-- Reads a text. -/
def parse (name : String) (text : List Char) : SourceFile :=
  ⟨name, text, parseBody text, .ofText text⟩

/-- The file as it is shown to developers: its name, and whether it could be read. -/
def describe (file : SourceFile) : String :=
  "SourceFile \x7b name: " ++ String.ofList (quote file.name.toList) ++ ", parsed: " ++
    (if file.body?.isSome then "true" else "false") ++ " \x7d"

/-- The position of an offset. -/
def pos (file : SourceFile) (byte : Nat) : Pos := file.index.pos file.text byte

/-- The range of the bytes from `start` up to `stop`, without the blanks around them. Reversed or
excessive offsets are clipped; a bound inside a character gives an empty range. -/
def range (file : SourceFile) (start stop : Nat) : SourceRange :=
  let stop := min stop (byteLength file.text)
  let start := min start stop
  let raw := (sliceBytes start stop file.text).getD []
  let leading := byteLength raw - byteLength (trimStart raw)
  let trimmedStop := start + byteLength (trimEnd raw)
  ⟨file.name, file.pos (min (start + leading) trimmedStop), file.pos trimmedStop⟩

/-- The range of a span. -/
def rangeOf (file : SourceFile) (span : Span) : SourceRange := file.range span.start span.stop

/-- The range of an expression; the null range if it has no span. -/
def exprRange (file : SourceFile) (e : Expr) : SourceRange :=
  match e.span with
  | some span => file.rangeOf span
  | none => .null

/-- The text of a range. -/
def slice (file : SourceFile) (range : SourceRange) : List Char :=
  (sliceBytes range.start.byte range.stop.byte file.text).getD []

/-- The text of a span. -/
def textOf (file : SourceFile) (span : Span) : List Char := file.slice (file.rangeOf span)

/-- The text of an expression; empty if it has no span. -/
def exprText (file : SourceFile) (e : Expr) : List Char := file.slice (file.exprRange e)

/-- The number of bytes before the first opening brace that stands outside quotes, or of the whole
text. A backslash hides the next character of a quoted text. -/
def headerLength (quoted escaped : Bool) : List Char → Nat
  | [] => 0
  | c :: cs =>
    if quoted then
      if escaped then c.utf8Size + headerLength true false cs
      else if c = '\\' then c.utf8Size + headerLength true true cs
      else c.utf8Size + headerLength (c != '"') false cs
    else if c = '{' then 0
    else c.utf8Size + headerLength (c == '"') false cs

/-- The range of a block's type and labels, up to its opening brace. -/
def defRange (file : SourceFile) (b : Block) : SourceRange :=
  let text := (sliceBytes b.span.start b.span.stop file.text).getD []
  file.range b.span.start (b.span.start + headerLength false false text)

/-- The range of an attribute's key. -/
def keyRange (file : SourceFile) (a : Attribute) : SourceRange := file.rangeOf a.keySpan

end SourceFile

end TerraLint
