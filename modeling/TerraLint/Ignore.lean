import TerraLint.Error
import TerraLint.Hcl.Parser
import TerraLint.Hcl.Query
import TerraLint.Regex.Size

/-!
# Ignored files

An ignore configuration tells which rules skip which files. Its `ignore` blocks name patterns of
files that the selected rules skip, its `retain` blocks patterns of files that they check all the
same; inside an `ignore` block, a pattern that starts with `!` is one of the latter.

* `IgnoreBlock.ofBlock`: what a block says, or what is wrong with it.
* `IgnoreFilter.parse`: the filter of a configuration. Every faulty block is reported.
* `IgnoreFilter.isIgnored`: whether a rule skips a file.
-/

namespace TerraLint

open Hcl

/-- The two types of blocks. -/
inductive IgnoreKind where
  | ignore
  | retain
deriving DecidableEq, Repr

namespace IgnoreKind

/-- The type of a block. -/
def ofName? : String → Option IgnoreKind
  | "ignore" => some .ignore
  | "retain" => some .retain
  | _ => none

/-- Whether a pattern in a block of this type retains files, and the pattern without its mark. -/
def split (kind : IgnoreKind) (pattern : String) : Bool × String :=
  match kind, pattern.toList with
  | .ignore, '!' :: rest => (true, String.ofList rest)
  | .ignore, _ => (false, pattern)
  | .retain, _ => (true, pattern)

end IgnoreKind

/-- What a block says: the patterns of files to skip and of files to check, and the rules it is
about. -/
structure IgnoreBlock where
  ignores : List Regex
  retains : List Regex
  rules : List String

namespace IgnoreBlock

/-- The strings of a list that is written out. -/
def stringList (e : Expr) : Except ConfigFault (List String) :=
  match e.form with
  | .array items _ =>
    items.mapM fun item =>
      match item.form with
      | .string s => .ok s
      | _ => .error .notStringList
  | _ => .error .notStringList

/-- The expression of a pattern. -/
def compile (source : String) : Except ConfigFault Regex :=
  match Regex.parse? source.toList with
  | some r => .ok r
  | none => .error (.badPattern source "not a regular expression")

/-- The expressions of patterns, each with whether it retains files. -/
def compileAll (kind : IgnoreKind) (patterns : List String) :
    Except ConfigFault (List (Bool × Regex)) :=
  patterns.mapM fun pattern => do
    let (retains, source) := kind.split pattern
    return (retains, ← compile source)

/-- Names that are all known. -/
def checkKnown (known listed : List String) : Except ConfigFault Unit :=
  match listed.find? fun name => !known.contains name with
  | some name => .error (.unknownRule name)
  | none => .ok ()

/-- The rules that a block selects: those it includes, or those it does not exclude, or all. -/
def selectRules (known : List String) (b : Block) : Except ConfigFault (List String) :=
  match b.attribute? "include_rules", b.attribute? "exclude_rules" with
  | some _, some _ => .error (.bothLists b.kind)
  | none, none => .ok known
  | some included, none => do
    let listed ← stringList included.value
    checkKnown known listed
    return known.filter listed.contains
  | none, some excluded => do
    let listed ← stringList excluded.value
    checkKnown known listed
    return known.filter fun rule => !listed.contains rule

/-- What a block says, where `known` are the names of all rules; or the first thing that is wrong
with it. -/
def ofBlock (known : List String) (b : Block) : Except ConfigFault IgnoreBlock :=
  match IgnoreKind.ofName? b.kind, b.attribute? "patterns" with
  | none, _ => .error (.unknownBlock b.kind)
  | some _, none => .error (.missingPatterns b.kind)
  | some kind, some patterns => do
    let compiled ← compileAll kind (← stringList patterns.value)
    let rules ← selectRules known b
    return {
      ignores := (compiled.filter fun p => !p.1).map (·.2)
      retains := (compiled.filter fun p => p.1).map (·.2)
      rules }

end IgnoreBlock

/-- The patterns of each rule. -/
abbrev PatternTable := List (String × List Regex)

namespace PatternTable

/-- Adds patterns of a rule. -/
def extend (patterns : List Regex) (rule : String) : PatternTable → PatternTable
  | [] => [(rule, patterns)]
  | (name, before) :: rest =>
    if name = rule then (name, before ++ patterns) :: rest
    else (name, before) :: extend patterns rule rest

/-- Adds patterns of several rules. -/
def extendAll (table : PatternTable) (rules : List String) (patterns : List Regex) : PatternTable :=
  rules.foldl (fun table rule => table.extend patterns rule) table

/-- Whether a pattern of a rule matches the name of a file. -/
def matchesFile (table : PatternTable) (rule file : String) : Bool :=
  ((table.lookup rule).getD []).any fun pattern => pattern.occursIn file.toList

end PatternTable

/-- The files that rules skip: those of a pattern to ignore, unless a pattern retains them. -/
structure IgnoreFilter where
  ignores : PatternTable
  retains : PatternTable

namespace IgnoreFilter

/-- The filter that skips nothing. -/
def empty : IgnoreFilter := ⟨[], []⟩

/-- Whether a filter knows of no rule. -/
def isEmpty (filter : IgnoreFilter) : Bool := filter.ignores.isEmpty && filter.retains.isEmpty

/-- Whether a rule skips a file: a pattern of files to skip matches its name, and no pattern of
files to check does. -/
def isIgnored (filter : IgnoreFilter) (file rule : String) : Bool :=
  filter.ignores.matchesFile rule file && !filter.retains.matchesFile rule file

/-- Adds what a block says. -/
def add (filter : IgnoreFilter) (b : IgnoreBlock) : IgnoreFilter :=
  ⟨filter.ignores.extendAll b.rules b.ignores, filter.retains.extendAll b.rules b.retains⟩

/-- Adds blocks, and collects what is wrong with them. -/
def addBlocks (known : List String) (path : String) (filter : IgnoreFilter) (errors : ErrorList) :
    List Block → IgnoreFilter × ErrorList
  | [] => (filter, errors)
  | b :: rest =>
    match IgnoreBlock.ofBlock known b with
    | .ok said => addBlocks known path (filter.add said) errors rest
    | .error fault => addBlocks known path filter (errors.push (.ignoreConfig path fault)) rest

/-- The filter of a configuration text, where `known` are the names of all rules. -/
def parse (known : List String) (path : String) (text : List Char) :
    Except LintError IgnoreFilter :=
  match parseBody text with
  | none => .error (.ignoreConfig path (.malformed "invalid syntax"))
  | some body =>
    match body.attributes with
    | a :: _ => .error (.ignoreConfig path (.strayAttribute a.key))
    | [] =>
      let (filter, errors) := addBlocks known path .empty .empty body.blocks
      errors.collapse.map fun _ => filter

end IgnoreFilter

/-- What is found at the path of a configuration. -/
inductive ConfigFile where
  | missing
  | directory
  | unreadable (reason : String)
  | bytes (content : ByteArray)

/-- The filter of the configuration found at a path. Where nothing is found, nothing is skipped. -/
def IgnoreFilter.load (known : List String) (path : String) :
    ConfigFile → Except LintError IgnoreFilter
  | .missing => .ok .empty
  | .directory => .error (.ignoreConfig path (.unreadable "Is a directory (os error 21)"))
  | .unreadable reason => .error (.ignoreConfig path (.unreadable reason))
  | .bytes content =>
    match String.fromUTF8? content with
    | some text => parse known path text.toList
    | none => .error (.ignoreConfig path (.unreadable "stream did not contain valid UTF-8"))

end TerraLint
