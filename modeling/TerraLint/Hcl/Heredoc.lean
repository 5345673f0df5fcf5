import TerraLint.Text.Blank
import TerraLint.Text.Line
import TerraLint.Hcl.Tree

/-!
# Indented heredocs

A heredoc opened with `<<-` loses the least indentation that one of its literals has: that of the
lines which start in the literal and are not empty. A literal without indentation does not count,
though its lines lose as many characters as all others, but nothing is taken when a line starts with
an interpolation or a directive.
-/

namespace TerraLint.Hcl

open Text

namespace Heredoc

/-- Whether a text ends with a line feed. -/
def endsLine (text : List Char) : Bool := text.getLast? == some '\n'

/-- The number of blanks that start a line. -/
def indentation (line : List Char) : Nat := (line.takeWhile isBlank).length

/-- The least indentation of the lines that start in a literal, zero if none does. -/
def sharedIndent (atStart : Bool) (text : List Char) : Nat :=
  let ls := lines text
  let started := if atStart then ls else ls.drop 1
  ((started.filter fun l => !l.isEmpty).map indentation).min?.getD 0

/-- The least indentations of the literals among the parts, `atStart` telling whether the first part
starts a line. Of a line that starts with another part the indentation is zero. -/
def indents (atStart : Bool) : List Part → List Nat
  | [] => []
  | .literal text :: parts =>
    let n := sharedIndent atStart text.toList
    (if n = 0 then [] else [n]) ++ indents (endsLine text.toList) parts
  | _ :: parts => (if atStart then [0] else []) ++ indents false parts

/-- A literal with `n` characters taken from each line that starts in it. -/
def dedentText (n : Nat) (atStart : Bool) (text : List Char) : List Char :=
  let ls := lines text
  let shortened := if atStart then ls.map (·.drop n) else ls.take 1 ++ (ls.drop 1).map (·.drop n)
  unlines shortened ++ if endsLine text then ['\n'] else []

/-- The parts with `n` characters taken from each line that starts in literal text. -/
def dedentBy (n : Nat) (atStart : Bool) : List Part → List Part
  | [] => []
  | .literal text :: parts =>
    .literal (String.ofList (dedentText n atStart text.toList)) ::
      dedentBy n (endsLine text.toList) parts
  | part :: parts => part :: dedentBy n false parts

/-- The parts without the indentation that their literals share, and its size. -/
def dedent (parts : List Part) : Nat × List Part :=
  match (indents true parts).min? with
  | none | some 0 => (0, parts)
  | some n => (n, dedentBy n true parts)

/-- A text without the indentation that its lines share. -/
def dedentLines (text : List Char) : List Char :=
  match sharedIndent true text with
  | 0 => text
  | n => dedentText n true text

/-- A literal with `n` blanks put before each line that starts in it and is not empty. -/
def indentText (n : Nat) (atStart : Bool) (text : List Char) : List Char :=
  if n = 0 then text
  else
    let shifted (l : List Char) := if l.isEmpty then l else List.replicate n ' ' ++ l
    let ls := lines text
    let widened := if atStart then ls.map shifted else ls.take 1 ++ (ls.drop 1).map shifted
    unlines widened ++ if endsLine text then ['\n'] else []

/-- The parts with a line break added to the literal text at their end. -/
def appendBreak (br : List Char) : List Part → List Part
  | [] => [.literal (String.ofList br)]
  | [.literal text] => [.literal (text ++ String.ofList br)]
  | part :: parts => part :: appendBreak br parts

end Heredoc

end TerraLint.Hcl
