/-!
# YAML tokens

The pieces from which the structure of a YAML text is read. The starts and ends of block collections
are tokens too, though only the indentation shows them.
-/

namespace TerraLint.Yaml

/-- A token. -/
inductive Token where
  /-- `%YAML 1.2` -/
  | version (major minor : Nat)
  /-- `%TAG !e! tag:example.com:` -/
  | tagHandle (handle : List Char) (expansion : List Nat)
  | documentStart
  | documentEnd
  | blockSequenceStart
  | blockMappingStart
  | blockEnd
  | flowSequenceStart
  | flowSequenceEnd
  | flowMappingStart
  | flowMappingEnd
  | blockEntry
  | flowEntry
  | key
  | value
  | alias (name : List Char)
  | anchor (name : List Char)
  /-- A tag: its handle, empty for a tag in full, and the octets that follow. -/
  | tag (handle : List Char) (suffix : List Nat)
  /-- A scalar: its text, and whether it stands without quotes and outside of a block. -/
  | scalar (text : List Char) (plain : Bool)
deriving DecidableEq, Repr

end TerraLint.Yaml
