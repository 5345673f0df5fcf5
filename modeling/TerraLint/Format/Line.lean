import TerraLint.Text.Blank
import TerraLint.Text.Line
import TerraLint.Format.Scan

/-!
# Kinds of lines

Each line of a text is code, blank, or verbatim: the body and the terminator of a heredoc and the
continuation of a block comment are verbatim, and keep their leading blanks. Only code lines have
brackets that count.
-/

namespace TerraLint.Format

open Text

/-- What a line is, as far as its layout goes. -/
inductive LineKind where
  /-- Code, to be indented. -/
  | code
  /-- Blanks only. -/
  | blank
  /-- Part of a heredoc or the continuation of a block comment. -/
  | verbatim
deriving DecidableEq, Repr

/-- A line with its kind and its bracket balance. -/
structure Line where
  /-- The line as written, without its end. -/
  raw : List Char
  kind : LineKind
  /-- Opening minus closing brackets; zero unless the line is code. -/
  net : Int
deriving DecidableEq, Repr

/-- What is open between two lines. -/
structure Progress where
  scan : Scan
  /-- Identifiers of the heredocs whose terminators are still to come, in order. -/
  pending : List (List Char)
deriving DecidableEq, Repr

namespace Progress

/-- Nothing is open before the first line. -/
def start : Progress := ⟨.start, []⟩

/-- Whether nothing at all is open. -/
def isClosed (p : Progress) : Bool := p == start

/-- Reads one line: a pending heredoc claims it first, then an open block comment; a line that is
not blank is scanned as code, and the heredocs it opens become pending. -/
def step (p : Progress) (raw : List Char) : Progress × Line :=
  match p.pending with
  | id :: others =>
    (if trim raw = id then { p with pending := others } else p, ⟨raw, .verbatim, 0⟩)
  | [] =>
    if p.scan.inComment then
      ({ p with scan := (p.scan.line raw).1 }, ⟨raw, .verbatim, 0⟩)
    else if allBlank raw then
      (p, ⟨raw, .blank, 0⟩)
    else
      let (scan, net) := p.scan.line raw
      (⟨{ scan with heredocs := [] }, scan.heredocs⟩, ⟨raw, .code, net⟩)

/-- Reads lines one after the other; the result is the state after them and the lines read. -/
def run (p : Progress) : List (List Char) → Progress × List Line
  | [] => (p, [])
  | raw :: raws =>
    let (p, line) := p.step raw
    let (p, lines) := p.run raws
    (p, line :: lines)

end Progress

/-- The lines of a text with their kinds. -/
def classify (text : List Char) : List Line := (Progress.start.run (lines text)).2

end TerraLint.Format
