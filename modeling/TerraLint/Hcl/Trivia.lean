import TerraLint.Hcl.Cursor

/-!
# Blanks and comments

Between two tokens stand blanks and comments. A block comment may stand anywhere; line ends and
line comments only where the text may go on in another line. A comment that is never closed, or a
line comment with a carriage return inside, refuses the text.
-/

namespace TerraLint.Hcl

namespace Cursor

mutual

/-- Skips blanks and comments; line ends and line comments only when `multiline`. -/
def blanks (multiline : Bool) (byte : Nat) : List Char → Option Cursor
  | ' ' :: cs => blanks multiline (byte + 1) cs
  | '\t' :: cs => blanks multiline (byte + 1) cs
  | '\r' :: cs => if multiline then blanks multiline (byte + 1) cs else some ⟨'\r' :: cs, byte⟩
  | '\n' :: cs => if multiline then blanks multiline (byte + 1) cs else some ⟨'\n' :: cs, byte⟩
  | '#' :: cs => if multiline then toLineEnd (byte + 1) cs else some ⟨'#' :: cs, byte⟩
  | '/' :: '/' :: cs =>
    if multiline then toLineEnd (byte + 2) cs else some ⟨'/' :: '/' :: cs, byte⟩
  | '/' :: '*' :: cs => toCommentEnd multiline (byte + 2) cs
  | cs => some ⟨cs, byte⟩

/-- Skips the rest of a line comment, then goes on in the next line. -/
def toLineEnd (byte : Nat) : List Char → Option Cursor
  | '\n' :: cs => blanks true (byte + 1) cs
  | '\r' :: '\n' :: cs => blanks true (byte + 2) cs
  | c :: cs => if c = '\r' then none else toLineEnd (byte + c.utf8Size) cs
  | [] => some ⟨[], byte⟩

/-- Skips the rest of a block comment, then goes on after it. -/
def toCommentEnd (multiline : Bool) (byte : Nat) : List Char → Option Cursor
  | '*' :: '/' :: cs => blanks multiline (byte + 2) cs
  | c :: cs => toCommentEnd multiline (byte + c.utf8Size) cs
  | [] => none

end

/-- Skips blanks and comments; line ends and line comments only when `multiline`. -/
def skip (multiline : Bool) (c : Cursor) : Option Cursor := blanks multiline c.byte c.rest

/-- Skips blanks and block comments within a line. -/
def skipInline (c : Cursor) : Option Cursor := c.skip false

/-- Skips blanks, line ends and comments. -/
def skipLines (c : Cursor) : Option Cursor := c.skip true

/-- Skips the text of a line comment and the line end after it. -/
def dropComment (byte : Nat) : List Char → Option Cursor
  | '\n' :: cs => some ⟨cs, byte + 1⟩
  | '\r' :: '\n' :: cs => some ⟨cs, byte + 2⟩
  | c :: cs => if c = '\r' then none else dropComment (byte + c.utf8Size) cs
  | [] => some ⟨[], byte⟩

/-- Reads a line end, or a line comment with its line end. -/
def lineBreak (c : Cursor) : Option Cursor :=
  match c.rest with
  | '\n' :: cs => some ⟨cs, c.byte + 1⟩
  | '\r' :: '\n' :: cs => some ⟨cs, c.byte + 2⟩
  | '#' :: cs => dropComment (c.byte + 1) cs
  | '/' :: '/' :: cs => dropComment (c.byte + 2) cs
  | _ => none

/-- Reads the end of a structure: blanks, then a line end or the end of the text. -/
def endOfLine (c : Cursor) : Option Cursor := do
  let c ← c.skipInline
  match c.rest with
  | [] => some c
  | _ => c.lineBreak

end Cursor

end TerraLint.Hcl
