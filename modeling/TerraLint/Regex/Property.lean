import TerraLint.Regex.CharSet
import TerraLint.Unicode.Age
import TerraLint.Unicode.Break
import TerraLint.Unicode.ScriptExtension

/-!
# Properties by name

The set of characters with a Unicode property. Names are compared without case, spaces, underscores
and hyphens; a leading `is` does not count.

* `namedProperty?`: the characters of a category, of a script or with another property.
* `valuedProperty?`: the characters for which a property has a value.
-/

namespace TerraLint.Regex

open Unicode

/-- A name in the form in which names are compared. -/
def looseName (name : List Char) : String :=
  let start := name.take 2
  let rest := if start.map Char.toLower = ['i', 's'] then name.drop 2 else name
  let kept := rest.filter fun c => c != ' ' && c != '_' && c != '-' && c.toNat < 128
  let loose := String.ofList (kept.map Char.toLower)
  if rest.length < name.length && loose == "c" then "isc" else loose

/-- The general categories that a name stands for. -/
def categories? (name : String) : Option (List Category) :=
  match name with
  | "l" | "letter" => some Category.letters
  | "lc" | "casedletter" => some [.lu, .ll, .lt]
  | "lu" | "uppercaseletter" => some [.lu]
  | "ll" | "lowercaseletter" => some [.ll]
  | "lt" | "titlecaseletter" => some [.lt]
  | "lm" | "modifierletter" => some [.lm]
  | "lo" | "otherletter" => some [.lo]
  | "m" | "mark" | "combiningmark" => some Category.marks
  | "mn" | "nonspacingmark" => some [.mn]
  | "mc" | "spacingmark" => some [.mc]
  | "me" | "enclosingmark" => some [.me]
  | "n" | "number" => some Category.numbers
  | "nd" | "decimalnumber" | "digit" => some [.nd]
  | "nl" | "letternumber" => some [.nl]
  | "no" | "othernumber" => some [.no]
  | "p" | "punctuation" | "punct" => some Category.punctuation
  | "pc" | "connectorpunctuation" => some [.pc]
  | "pd" | "dashpunctuation" => some [.pd]
  | "ps" | "openpunctuation" => some [.ps]
  | "pe" | "closepunctuation" => some [.pe]
  | "pi" | "initialpunctuation" => some [.pi]
  | "pf" | "finalpunctuation" => some [.pf]
  | "po" | "otherpunctuation" => some [.po]
  | "s" | "symbol" => some Category.symbols
  | "sm" | "mathsymbol" => some [.sm]
  | "sc" | "currencysymbol" => some [.sc]
  | "sk" | "modifiersymbol" => some [.sk]
  | "so" | "othersymbol" => some [.so]
  | "z" | "separator" => some Category.separators
  | "zs" | "spaceseparator" => some [.zs]
  | "zl" | "lineseparator" => some [.zl]
  | "zp" | "paragraphseparator" => some [.zp]
  | "c" | "other" => some Category.others
  | "cc" | "control" | "cntrl" => some [.cc]
  | "cf" | "format" => some [.cf]
  | "co" | "privateuse" => some [.co]
  | "cn" | "unassigned" => some [.cn]
  | _ => none

/-- The set of a general category, of a group of them, or of what is above all categories. -/
def category? (name : String) : Option CharSet :=
  match name with
  | "any" => some Intervals.characters
  | "ascii" => some [(0, 127)]
  | "assigned" => some unassigned.complement
  | _ => (categories? name).map ofCategories

/-- The characters for which a property has a value. -/
def valuedProperty? (property value : String) : Option CharSet :=
  match property with
  | "generalcategory" | "gc" => category? value
  | "script" | "sc" => (script? value).map Script.intervals
  | "scriptextensions" | "scx" => (script? value).map Script.extended
  | "age" => assignedBy? value
  | "graphemeclusterbreak" | "gcb" => breakClass? graphemeBreaks value
  | "wordbreak" | "wb" => breakClass? wordBreaks value
  | "sentencebreak" | "sb" => breakClass? sentenceBreaks value
  | _ => none

/-- The characters with a property that is given by its name alone: a category, a script or another
one. -/
def namedProperty? (name : String) : Option CharSet :=
  ((property? name).or (category? name)).or ((script? name).map Script.intervals)

end TerraLint.Regex
