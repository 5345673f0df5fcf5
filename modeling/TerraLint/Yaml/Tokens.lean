import TerraLint.Yaml.Scalar
import TerraLint.Yaml.Tag

/-!
# The tokens of a YAML text

Tokens are read from left to right. Whether a scalar is the key of a mapping shows only at the colon
after it, so the place of every token that may start a key is kept, one for each level of brackets;
at the colon the key token is put in there. A key stands on one line and is at most 1024 bytes
long. Indentation opens and closes block collections.

* `tokens`: all tokens of a text.
-/

namespace TerraLint.Yaml

/-- A token that may turn out to start a key. -/
structure PossibleKey where
  /-- Whether it must be a key: it starts at the column of the innermost block collection. -/
  required : Bool
  /-- The number of tokens before it. -/
  position : Nat
  start : Glyph
deriving DecidableEq, Repr

/-- What was read so far, and what is left. -/
structure Scanner where
  rest : List Glyph
  /-- The tokens that were read, the last one first. -/
  reversed : List Token
  /-- The columns of the open block collections, the innermost first. -/
  indents : List Nat
  /-- Whether a key may start here. -/
  keyAllowed : Bool
  /-- The possible key outside of all brackets. -/
  outerKey : Option PossibleKey
  /-- The possible key of each open bracket, the innermost first. -/
  innerKeys : List (Option PossibleKey)

namespace Scanner

/-- The scanner at the start of a text. -/
def start (gs : List Glyph) : Scanner := ⟨gs, [], [], true, none, []⟩

/-- Whether brackets are open. -/
def inFlow (s : Scanner) : Bool := !s.innerKeys.isEmpty

/-- The first column inside the innermost block collection. -/
def margin (s : Scanner) : Nat :=
  match s.indents with
  | [] => 0
  | column :: _ => column + 1

/-- Adds a token. -/
def push (s : Scanner) (t : Token) : Scanner := { s with reversed := t :: s.reversed }

/-- Puts a token before all but the first `position` ones. -/
def insertAt (s : Scanner) (position : Nat) (t : Token) : Scanner :=
  let later := s.reversed.length - position
  { s with reversed := s.reversed.take later ++ t :: s.reversed.drop later }

/-! ## Keys -/

/-- The possible key of the innermost level. -/
def key? (s : Scanner) : Option PossibleKey :=
  match s.innerKeys with
  | [] => s.outerKey
  | key :: _ => key

/-- Replaces the possible key of the innermost level. -/
def setKey (s : Scanner) (key : Option PossibleKey) : Scanner :=
  match s.innerKeys with
  | [] => { s with outerKey := key }
  | _ :: outer => { s with innerKeys := key :: outer }

/-- Gives up the possible key of the innermost level, unless it must be a key. -/
def dropKey (s : Scanner) : Option Scanner :=
  if s.key?.any PossibleKey.required then none else some (s.setKey none)

/-- Notes that a key may start at a glyph, if it may. -/
def saveKey (s : Scanner) (g : Glyph) : Option Scanner :=
  if s.keyAllowed then do
    let required := !s.inFlow && s.indents.head? == some g.column
    let s ← s.dropKey
    return s.setKey (some ⟨required, s.reversed.length, g⟩)
  else some s

/-- Whether a possible key is too far behind a glyph to be one. -/
def isStale (g : Glyph) (key : PossibleKey) : Bool :=
  key.start.line < g.line || key.start.index + 1024 < g.index

/-- Gives up the possible keys that are too far behind a glyph. -/
def dropStale (s : Scanner) (g : Glyph) : Option Scanner :=
  let stale (key : Option PossibleKey) := key.any (isStale g)
  let isLost (key : Option PossibleKey) := key.any fun k => isStale g k && k.required
  let kept (key : Option PossibleKey) := if stale key then none else key
  if isLost s.outerKey || s.innerKeys.any isLost then none
  else some { s with outerKey := kept s.outerKey, innerKeys := s.innerKeys.map kept }

/-! ## Indentation -/

/-- Opens a block collection at a column, if the column is farther than that of the innermost one.
Its start is the token at `position`. -/
def openBlock (s : Scanner) (column position : Nat) (t : Token) : Scanner :=
  if !s.inFlow && s.margin ≤ column then
    { s.insertAt position t with indents := column :: s.indents }
  else s

/-- Closes the block collections whose columns are not below `bound`. -/
def closeBlocks (s : Scanner) (bound : Nat) : Scanner :=
  if s.inFlow then s
  else
    let closed := s.indents.takeWhile (bound ≤ ·)
    { s with
      reversed := closed.map (fun _ => .blockEnd) ++ s.reversed
      indents := s.indents.dropWhile (bound ≤ ·) }

/-! ## Readers of one token -/

/-- Reads an indicator of `width` characters. -/
def take (s : Scanner) (width : Nat) (t : Token) : Scanner :=
  { s.push t with rest := s.rest.drop width }

/-- Takes over a token that was read, and what follows it. -/
def accept (s : Scanner) (keyAllowed : Bool) : Option (Token × List Glyph) → Option Scanner
  | none => none
  | some (t, rest) => some { s.push t with rest := rest, keyAllowed := keyAllowed }

/-- Reads a directive. -/
def directive (s : Scanner) : Option Scanner := do
  let s ← (s.closeBlocks 0).dropKey
  s.accept false (readDirective (s.rest.drop 1))

/-- Reads the start or the end of a document. -/
def documentMark (s : Scanner) (t : Token) : Option Scanner := do
  let s ← (s.closeBlocks 0).dropKey
  return { s.take 3 t with keyAllowed := false }

/-- Reads an opening bracket. -/
def openFlow (s : Scanner) (g : Glyph) (t : Token) : Option Scanner := do
  let s ← s.saveKey g
  return { s.take 1 t with innerKeys := none :: s.innerKeys, keyAllowed := true }

/-- Reads a closing bracket. -/
def closeFlow (s : Scanner) (t : Token) : Option Scanner := do
  let s ← s.dropKey
  return { s.take 1 t with innerKeys := s.innerKeys.drop 1, keyAllowed := false }

/-- Reads a comma between brackets. -/
def flowEntry (s : Scanner) : Option Scanner := do
  let s ← s.dropKey
  return { s.take 1 .flowEntry with keyAllowed := true }

/-- Reads the dash of a block sequence. -/
def blockEntry (s : Scanner) (g : Glyph) : Option Scanner :=
  if s.inFlow || s.keyAllowed then do
    let s ← (s.openBlock g.column s.reversed.length .blockSequenceStart).dropKey
    return { s.take 1 .blockEntry with keyAllowed := true }
  else none

/-- Reads the question mark before a key. -/
def keyMark (s : Scanner) (g : Glyph) : Option Scanner :=
  if s.inFlow || s.keyAllowed then do
    let s ← (s.openBlock g.column s.reversed.length .blockMappingStart).dropKey
    return { s.take 1 .key with keyAllowed := !s.inFlow }
  else none

/-- Reads the colon before a value. The possible key of this level is one. -/
def valueMark (s : Scanner) (g : Glyph) : Option Scanner :=
  match s.key? with
  | some key =>
    let s := s.insertAt key.position .key
    let s := s.openBlock key.start.column key.position .blockMappingStart
    some { (s.setKey none).take 1 .value with keyAllowed := false }
  | none =>
    if s.inFlow || s.keyAllowed then
      let s := s.openBlock g.column s.reversed.length .blockMappingStart
      some { s.take 1 .value with keyAllowed := !s.inFlow }
    else none

/-- Reads an anchor or an alias. -/
def anchor (s : Scanner) (g : Glyph) (token : List Char → Token) : Option Scanner := do
  let s ← s.saveKey g
  s.accept false ((readAnchor (s.rest.drop 1)).map fun (name, rest) => (token name, rest))

/-- Reads a tag. -/
def tag (s : Scanner) (g : Glyph) : Option Scanner := do
  let s ← s.saveKey g
  s.accept false (readTag s.inFlow s.rest)

/-- Reads a block scalar. -/
def blockScalar (s : Scanner) (folded : Bool) : Option Scanner := do
  let s ← s.dropKey
  let (header, rest) ← blockHeader folded (s.rest.drop 1)
  s.accept true ((header.read s.margin rest).map fun (text, rest) => (.scalar text false, rest))

/-- Reads a scalar in quotes. -/
def quotedScalar (s : Scanner) (g : Glyph)
    (read : List Glyph → Option (List Char × List Glyph)) : Option Scanner := do
  let s ← s.saveKey g
  s.accept false ((read (s.rest.drop 1)).map fun (text, rest) => (.scalar text false, rest))

/-- Reads a plain scalar. A line end after it allows a key again. -/
def plainScalar (s : Scanner) (g : Glyph) : Option Scanner := do
  let s ← s.saveKey g
  let plain ← PlainContext.read ⟨s.inFlow, s.margin⟩ .none s.rest
  s.accept plain.endsLine (some (.scalar plain.text true, plain.rest))

/-- The characters that start no plain scalar. -/
def indicators : List Char :=
  ['-', '?', ':', ',', '[', ']', '{', '}', '#', '&', '*', '!', '|', '>', '\'', '"', '%', '@', '\x60']

/-- Whether a plain scalar comes next. -/
def atPlain (s : Scanner) (g : Glyph) (after : List Glyph) : Bool :=
  !(isGap g.char || indicators.contains g.char) ||
    (g.char == '-' && !(isNext ' ' after || isNext '\t' after)) ||
    (!s.inFlow && (g.char == '?' || g.char == ':') && !atGap after)

/-- Reads the token that starts at a glyph. -/
def tokenAt (s : Scanner) (g : Glyph) (after : List Glyph) : Option Scanner :=
  let isMark := s.inFlow || atGap after
  if g.column == 0 && g.char == '%' then s.directive
  else if isLineOf '-' s.rest then s.documentMark .documentStart
  else if isLineOf '.' s.rest then s.documentMark .documentEnd
  else
    match g.char with
    | '[' => s.openFlow g .flowSequenceStart
    | '{' => s.openFlow g .flowMappingStart
    | ']' => s.closeFlow .flowSequenceEnd
    | '}' => s.closeFlow .flowMappingEnd
    | ',' => s.flowEntry
    | '*' => s.anchor g .alias
    | '&' => s.anchor g .anchor
    | '!' => s.tag g
    | '\'' => s.quotedScalar g (singleQuoted .none)
    | '"' => s.quotedScalar g (doubleQuoted .none)
    | c =>
      if c == '-' && atGap after then s.blockEntry g
      else if c == '?' && isMark then s.keyMark g
      else if c == ':' && isMark then s.valueMark g
      else if c == '|' && !s.inFlow then s.blockScalar false
      else if c == '>' && !s.inFlow then s.blockScalar true
      else if s.atPlain g after then s.plainScalar g
      else none

/-! ## All tokens -/

/-- What comes before the next token: blanks, comments and line ends. A tab is a blank only where no
key may start, and outside of brackets a key may start after a line end. -/
def skipToToken (inFlow keyAllowed inComment : Bool) : List Glyph → Bool × List Glyph
  | [] => (keyAllowed, [])
  | g :: rest =>
    if isBreak g.char then skipToToken inFlow (keyAllowed || !inFlow) false rest
    else if inComment then skipToToken inFlow keyAllowed true rest
    else if g.char = ' ' then skipToToken inFlow keyAllowed false rest
    else if g.char = '\t' ∧ (inFlow ∨ !keyAllowed) then skipToToken inFlow keyAllowed false rest
    else if g.char = '#' then skipToToken inFlow keyAllowed true rest
    else (keyAllowed, g :: rest)

/-- Reads all tokens. Each step but the last takes a character. -/
def run : Nat → Scanner → Option (List Token)
  | 0, _ => none
  | fuel + 1, s =>
    let (keyAllowed, rest) := skipToToken s.inFlow s.keyAllowed false s.rest
    let s := { s with keyAllowed := keyAllowed, rest := rest }
    match rest with
    | [] => (s.closeBlocks 0).dropKey.map fun s => s.reversed.reverse
    | g :: after => do
      let s ← s.dropStale g
      let s ← (s.closeBlocks (g.column + 1)).tokenAt g after
      run fuel s

end Scanner

/-- The glyphs without a byte order mark at their start. The mark has its column all the same, so
that what follows it does not start its line. -/
def withoutMark : List Glyph → List Glyph
  | [] => []
  | g :: rest => if g.char = '\ufeff' then rest else g :: rest

/-- The tokens of a text. -/
def tokens (text : List Char) : Option (List Token) :=
  (Scanner.start (withoutMark (glyphs text))).run (text.length + 1)

end TerraLint.Yaml
