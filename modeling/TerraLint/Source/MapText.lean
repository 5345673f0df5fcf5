import TerraLint.Format
import TerraLint.Data.Sorted
import TerraLint.Source.File

/-!
# Map attributes with sorted keys

An attribute whose value is an object is written with its entries in the order of their key texts,
one entry to a line. Any other attribute is kept as written.
-/

namespace TerraLint

open Text Hcl

/-- A map attribute written anew. -/
structure MapText where
  /-- The attribute with its keys in order. -/
  text : List Char
  /-- Whether the keys were in order already. -/
  isSorted : Bool
deriving DecidableEq, Repr

namespace SourceFile

/-- The text of an entry's key, and the entry written on a line of its own. -/
def entryText (file : SourceFile) (entry : Entry) : String × List Char :=
  let key := file.exprText entry.key
  (String.ofList key, key ++ [' ', '=', ' '] ++ file.exprText entry.value)

/-- Lines in braces after a name; empty braces when the lines hold nothing but layout. -/
def enclose (start : List Char) (lines : List (List Char)) : List Char :=
  let body := unlines lines
  if (withoutLayout body).isEmpty then start ++ ['{', '}']
  else start ++ ['{', '\n'] ++ body ++ ['\n', '}']

/-- An attribute with the entries of its map in order. -/
def mapText (file : SourceFile) (a : Attribute) : MapText :=
  match a.value.form with
  | .object entries _ =>
    let entries := entries.map file.entryText
    let sorted := inOrderOn (·.1) entries
    let ordered := if sorted then entries else sortOn (·.1) entries
    ⟨format (enclose (a.key.toList ++ [' ', '=', ' ']) (ordered.map (·.2))), sorted⟩
  | _ => ⟨file.textOf a.span, true⟩

end SourceFile

end TerraLint
