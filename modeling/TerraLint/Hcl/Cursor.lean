import TerraLint.Text.Offset
import TerraLint.Unicode.Identifier

/-!
# Cursors

A reader takes a cursor, the text still to be read with the offset of its first byte, and gives the
cursor after what it read, or nothing when the text is not what it reads. No reader takes a choice
back: a text is refused as soon as one reader refuses it.
-/

namespace TerraLint.Hcl

open Text

/-- The text still to be read, and the offset of its first byte. -/
structure Cursor where
  rest : List Char
  /-- The offset of the first of them. -/
  byte : Nat
deriving DecidableEq, Repr

namespace Cursor

/-- The cursor at the start of a text. -/
def ofText (text : List Char) : Cursor := ⟨text, 0⟩

/-- Reads a fixed text. -/
def expect (expected : List Char) (c : Cursor) : Option Cursor :=
  if expected.isPrefixOf c.rest then
    some ⟨c.rest.drop expected.length, c.byte + byteLength expected⟩
  else none

/-- Reads the longest run of characters with a property. -/
def takeWhile (p : Char → Bool) (c : Cursor) : List Char × Cursor :=
  let taken := c.rest.takeWhile p
  (taken, ⟨c.rest.dropWhile p, c.byte + byteLength taken⟩)

/-- The cursor after a fixed text if that comes next, else the same cursor. -/
def skipIf (expected : List Char) (c : Cursor) : Bool × Cursor :=
  match c.expect expected with
  | some c => (true, c)
  | none => (false, c)

/-- Whether an identifier may start with a character. -/
def isNameStart (ch : Char) : Bool := Unicode.isIdentifierStart ch || ch == '_'

/-- Whether an identifier may go on with a character. -/
def isNameRest (ch : Char) : Bool := Unicode.isIdentifierContinue ch || ch == '-'

/-- Reads an identifier. -/
def name (c : Cursor) : Option (String × Cursor) :=
  match c.rest with
  | ch :: _ =>
    if isNameStart ch then
      let (taken, c) := c.takeWhile isNameRest
      some (String.ofList taken, c)
    else none
  | [] => none

end Cursor

end TerraLint.Hcl
