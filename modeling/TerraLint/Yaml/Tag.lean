import TerraLint.Text.Digits
import TerraLint.Yaml.Token
import TerraLint.Yaml.Glyph

/-!
# Anchors, tags and directives

An anchor is a word. A tag is given in full between angle brackets, by a handle and a suffix, or by
a suffix alone; it is a sequence of octets, since escapes write octets. A directive stands on a line
of its own and names the version of the language or the expansion of a handle.
-/

namespace TerraLint.Yaml

open Text

/-- The word that comes next, and the rest. -/
def spanWord (gs : List Glyph) : List Char × List Glyph :=
  let (word, rest) := gs.span fun g => isWord g.char
  (textOf word, rest)

/-- Reads the name of an anchor or of an alias. A gap or an indicator follows it. -/
def readAnchor (gs : List Glyph) : Option (List Char × List Glyph) :=
  let (name, rest) := spanWord gs
  if name.isEmpty || !(atGap rest || isNextOf ['?', ':', ',', ']', '}', '%', '@', '`'] rest) then
    none
  else some (name, rest)

/-! ## Tags -/

/-- The characters of a tag; those of the second group only where the end is clear. -/
def isTagChar (isOpen : Bool) (c : Char) : Bool :=
  isWord c || ";/?:@&=+$.%!~*'()".toList.contains c || (isOpen && [',', '[', ']'].contains c)

/-- The number of octets in the encoding of a character that starts with an octet. -/
def octetCount (octet : Nat) : Option Nat :=
  if octet < 0x80 then some 1
  else if 0xC0 ≤ octet ∧ octet < 0xE0 then some 2
  else if 0xE0 ≤ octet ∧ octet < 0xF0 then some 3
  else if 0xF0 ≤ octet ∧ octet < 0xF8 then some 4
  else none

/-- The octets of ASCII characters. -/
def octetsOf (cs : List Char) : List Nat := cs.map Char.toNat

/-- The tag in full of something standard. -/
def standardTag (name : String) : List Nat := octetsOf ("tag:yaml.org,2002:" ++ name).toList

/-- The octet that an escape writes. -/
def readOctet : List Char → Option (Nat × List Char)
  | '%' :: a :: b :: rest => (hexNumber [a, b]).map fun n => (n, rest)
  | _ => none

/-- Reads as many octets. -/
def readOctets : Nat → List Char → Option (List Nat × List Char)
  | 0, cs => some ([], cs)
  | n + 1, cs => do
    let (octet, cs) ← readOctet cs
    let (octets, cs) ← readOctets n cs
    return (octet :: octets, cs)

/-- The octets of a tag with its escapes resolved. The escapes of the octets of one character follow
each other. An escape takes several characters, so fewer steps than characters suffice. -/
def resolveEscapes : Nat → List Char → Option (List Nat)
  | _, [] => some []
  | 0, _ => none
  | fuel + 1, c :: cs =>
    if c = '%' then do
      let (first, rest) ← readOctet (c :: cs)
      let count ← octetCount first
      let (others, rest) ← readOctets (count - 1) rest
      if others.all fun o => 0x80 ≤ o && o < 0xC0 then
        return first :: others ++ (← resolveEscapes fuel rest)
      else none
    else (resolveEscapes fuel cs).map (c.toNat :: ·)

/-- Reads the characters of a tag after a start that was read, one of both not empty. The text ends
before an octet that is zero. -/
def readTagText (isOpen : Bool) (start : List Char) (gs : List Glyph) :
    Option (List Nat × List Glyph) := do
  let (raw, rest) := gs.span fun g => isTagChar isOpen g.char
  if start.isEmpty && raw.isEmpty then none
  else
    let text ← resolveEscapes raw.length (textOf raw)
    return ((octetsOf (start.drop 1) ++ text).takeWhile (· != 0), rest)

/-- Reads a handle: an exclamation mark, a word, and perhaps another exclamation mark. -/
def readHandle (gs : List Glyph) : Option (List Char × List Glyph) :=
  if isNext '!' gs then
    let (word, rest) := spanWord (gs.drop 1)
    if isNext '!' rest then some ('!' :: word ++ ['!'], rest.drop 1) else some ('!' :: word, rest)
  else none

/-- Whether a text is a handle with two exclamation marks. -/
def isFullHandle (handle : List Char) : Bool :=
  1 < handle.length && handle.getLast? == some '!'

/-- Reads a tag without checking what follows it. -/
def readTagName (gs : List Glyph) : Option (Token × List Glyph) :=
  if isNext '<' (gs.drop 1) then do
    let (suffix, rest) ← readTagText true [] (gs.drop 2)
    if isNext '>' rest then return (.tag [] suffix, rest.drop 1) else none
  else do
    let (handle, rest) ← readHandle gs
    if isFullHandle handle then
      let (suffix, rest) ← readTagText false [] rest
      return (.tag handle suffix, rest)
    else
      let (suffix, rest) ← readTagText false handle rest
      return (if suffix.isEmpty then .tag [] (octetsOf ['!']) else .tag ['!'] suffix, rest)

/-- Reads a tag. A gap follows it, or a comma inside brackets. -/
def readTag (inFlow : Bool) (gs : List Glyph) : Option (Token × List Glyph) := do
  let (token, rest) ← readTagName gs
  if atGap rest || (inFlow && isNext ',' rest) then some (token, rest) else none

/-! ## Directives -/

/-- Reads a part of a version: one to nine digits. -/
def readVersionNumber (gs : List Glyph) : Option (Nat × List Glyph) :=
  let (digits, rest) := gs.span fun g => g.char.isDigit
  if digits.isEmpty || 9 < digits.length then none
  else some (decimalNumber (textOf digits), rest)

/-- Reads the version of the language. -/
def readVersion (gs : List Glyph) : Option (Token × List Glyph) := do
  let (major, gs) ← readVersionNumber (skipBlanks gs)
  if isNext '.' gs then
    let (minor, gs) ← readVersionNumber (gs.drop 1)
    return (.version major minor, gs)
  else none

/-- Reads a handle and its expansion. -/
def readTagHandle (gs : List Glyph) : Option (Token × List Glyph) := do
  let (handle, gs) ← readHandle (skipBlanks gs)
  if (isFullHandle handle || handle == ['!']) && !atBreak gs && atGap gs then
    let (expansion, gs) ← readTagText true [] (skipBlanks gs)
    if atGap gs then return (.tagHandle handle expansion, gs) else none
  else none

/-- Reads a directive after its percent sign, with its line. -/
def readDirective (gs : List Glyph) : Option (Token × List Glyph) := do
  let (name, gs) := spanWord gs
  if atGap gs then
    let (token, gs) ← if name == "YAML".toList then readVersion gs
      else if name == "TAG".toList then readTagHandle gs
      else none
    return (token, ← endLine? gs)
  else none

end TerraLint.Yaml
