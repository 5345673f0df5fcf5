import TerraLint.Format
import TerraLint.Layout.Order

/-!
# Canonical text

A block is written in canonical form: its header, its sections in canonical order with a blank line
between them, each argument as written in the source and each nested block in canonical form.

* `Tree.misplaced`: the outermost blocks of a tree that are out of order, with their canonical form.
-/

namespace TerraLint.Layout

open Text

/-- Texts joined with a blank line between each two. -/
def joinSections (texts : List (List Char)) : List Char := ['\n', '\n'].intercalate texts

/-- A header with a body in braces. -/
def braced (header body : List Char) : List Char :=
  if allBlank body then header ++ [' ', '{', '}']
  else header ++ [' ', '{', '\n'] ++ body ++ ['\n', '}']

/-- The texts of arguments in canonical order, in normal layout; empty if there are none. -/
def renderSorted (kind : SectionKind) (written : List (Arg × List Char)) : List Char :=
  let inSource := sortBy (fun a b => Section.standsBefore a.1 b.1) written
  let sorted := sortBy (fun a b => Section.precedes kind a.1 b.1) inSource
  if sorted.isEmpty then [] else format (unlines (sorted.map (·.2)))

mutual

/-- The block in canonical form. -/
def Tree.render : Tree → List Char
  | ⟨_, _, _, _, _, header, sections⟩ =>
    let texts := (renderSections sections).filter fun text => !text.isEmpty
    format (braced header.toList (joinSections texts))

/-- The sections in canonical form. -/
def renderSections : List Section → List (List Char)
  | [] => []
  | ⟨kind, args, _⟩ :: rest => renderSorted kind (renderArgs args) :: renderSections rest

/-- Each argument with its canonical form. -/
def renderArgs : List Arg → List (Arg × List Char)
  | [] => []
  | ⟨key, range, priority, content⟩ :: rest =>
    (⟨key, range, priority, content⟩, content.render) :: renderArgs rest

/-- An attribute as written, or a block in canonical form. -/
def Content.render : Content → List Char
  | .attr text => text
  | .block tree => tree.render

end

/-- A block whose arguments are out of order. -/
structure Misplaced where
  /-- The names of the enclosing blocks and of this one, with dots between them. -/
  path : String
  /-- Where its type and labels stand. -/
  range : SourceRange
  suggestion : List Char
deriving DecidableEq, Repr

mutual

/-- The outermost blocks that are out of order: a block that is out of order stands for all blocks
inside it. -/
def Tree.misplaced : Tree → List Misplaced
  | ⟨name, sortField, path, range, defRange, header, sections⟩ =>
    let t : Tree := ⟨name, sortField, path, range, defRange, header, sections⟩
    if t.isOrdered then misplacedSections sections
    else [⟨".".intercalate path, defRange, t.render⟩]

/-- The outermost blocks out of order in some sections. -/
def misplacedSections : List Section → List Misplaced
  | [] => []
  | ⟨_, args, _⟩ :: rest => misplacedArgs args ++ misplacedSections rest

/-- The outermost blocks out of order among some arguments. -/
def misplacedArgs : List Arg → List Misplaced
  | [] => []
  | ⟨_, _, _, content⟩ :: rest => content.misplaced ++ misplacedArgs rest

/-- The outermost blocks out of order in an argument. -/
def Content.misplaced : Content → List Misplaced
  | .attr _ => []
  | .block tree => tree.misplaced

end

end TerraLint.Layout
