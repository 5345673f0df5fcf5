/-!
# Characters of a YAML text

A YAML text is read as a list of glyphs: characters with the place where they stand. All line ends
that fold are one character. Columns are counted in characters, indices in the bytes of the text.

* `glyphs`: the glyphs of a text.
* `isAllowed`: the characters that a text may hold at all.
-/

namespace TerraLint.Yaml

/-- A character and where it stands. -/
structure Glyph where
  char : Char
  line : Nat
  /-- The column, from zero, in characters. -/
  column : Nat
  /-- The number of bytes before it. -/
  index : Nat
deriving DecidableEq, Repr

/-- The characters that a text may hold. -/
def isAllowed (c : Char) : Bool :=
  let n := c.toNat
  n == 0x9 || n == 0xA || n == 0xD || (0x20 ≤ n && n ≤ 0x7E) || n == 0x85 ||
    (0xA0 ≤ n && n ≤ 0xD7FF) || (0xE000 ≤ n && n ≤ 0xFFFD) || 0x10000 ≤ n

/-- Line separator and paragraph separator: they end a line and stay what they are. -/
def isSeparator (c : Char) : Bool := c.toNat == 0x2028 || c.toNat == 0x2029

/-- The line ends of a text of glyphs. -/
def isBreak (c : Char) : Bool := c == '\n' || isSeparator c

/-- Space and tab. -/
def isBlank (c : Char) : Bool := c == ' ' || c == '\t'

/-- Blanks and line ends. -/
def isGap (c : Char) : Bool := isBlank c || isBreak c

/-- The characters of names: ASCII letters and digits, underscore and hyphen. -/
def isWord (c : Char) : Bool := c.isAlphanum || c == '_' || c == '-'

/-- The glyphs of a text that continues at a place. A carriage return, alone or with a line feed
after it, and a next-line character are line feeds. -/
def glyphsFrom (line column index : Nat) : List Char → List Glyph
  | [] => []
  | '\r' :: '\n' :: rest => ⟨'\n', line, column, index⟩ :: glyphsFrom (line + 1) 0 (index + 2) rest
  | c :: rest =>
    if c = '\n' ∨ c = '\r' ∨ c.toNat = 0x85 then
      ⟨'\n', line, column, index⟩ :: glyphsFrom (line + 1) 0 (index + c.utf8Size) rest
    else if isSeparator c then
      ⟨c, line, column, index⟩ :: glyphsFrom (line + 1) 0 (index + c.utf8Size) rest
    else ⟨c, line, column, index⟩ :: glyphsFrom line (column + 1) (index + c.utf8Size) rest

/-- The glyphs of a text. -/
def glyphs (text : List Char) : List Glyph := glyphsFrom 0 0 0 text

/-- Whether a blank, a line end or the end of the text comes next. -/
def atGap : List Glyph → Bool
  | [] => true
  | g :: _ => isGap g.char

/-- Whether a line end or the end of the text comes next. -/
def atBreak : List Glyph → Bool
  | [] => true
  | g :: _ => isBreak g.char

/-- Whether a character comes next. -/
def isNext (c : Char) : List Glyph → Bool
  | [] => false
  | g :: _ => g.char == c

/-- Whether one of some characters comes next. -/
def isNextOf (cs : List Char) : List Glyph → Bool
  | [] => false
  | g :: _ => cs.contains g.char

/-- Whether three characters and then a gap come next at the start of a line. -/
def isLineOf (c : Char) : List Glyph → Bool
  | a :: b :: d :: rest =>
    a.column == 0 && a.char == c && b.char == c && d.char == c && atGap rest
  | _ => false

/-- Whether a line comes next that starts or ends a document. -/
def atDocumentMark (gs : List Glyph) : Bool := isLineOf '-' gs || isLineOf '.' gs

/-- The rest after the blanks that come next. -/
def skipBlanks (gs : List Glyph) : List Glyph := gs.dropWhile fun g => isBlank g.char

/-- The rest after the line that comes next, without its end. -/
def skipLine (gs : List Glyph) : List Glyph := gs.dropWhile fun g => !isBreak g.char

/-- The rest of a line that holds nothing more than a comment, after its end. -/
def endLine? (gs : List Glyph) : Option (List Glyph) :=
  let gs := skipBlanks gs
  let gs := if isNext '#' gs then skipLine gs else gs
  match gs with
  | [] => some []
  | g :: rest => if isBreak g.char then some rest else none

/-- The text of glyphs. -/
def textOf (gs : List Glyph) : List Char := gs.map Glyph.char

end TerraLint.Yaml
