import TerraLint.Unicode.Addition
import TerraLint.Unicode.CaseChange
import TerraLint.Unicode.Control
import TerraLint.Unicode.Emoji
import TerraLint.Unicode.Grapheme
import TerraLint.Unicode.Identifier
import TerraLint.Unicode.Ideograph
import TerraLint.Unicode.Typography

/-!
# Properties that characters have or have not

Every such property has a long name and most have a short one, both written here in small letters
and without separators.

* `property?`: the characters with a property, by its name.
-/

namespace TerraLint.Unicode

/-! ## Identifiers -/

/-- Characters that start identifiers and are neither letters nor letter numbers. -/
def otherIdentifierStarts : Intervals :=
  [(6277, 6278), (8472, 8472), (8494, 8494), (12443, 12444)]

/-- Characters that stand inside identifiers without being digits, marks or connectors. -/
def otherIdentifierParts : Intervals :=
  [(183, 183), (903, 903), (4969, 4977), (6618, 6618), (8204, 8205), (12539, 12539), (65381, 65381)]

/-- Characters that start identifiers. -/
def identifierStartSet : Intervals :=
  ((ofCategories (.nl :: Category.letters)).union otherIdentifierStarts).diff [(11823, 11823)]

/-- Characters of identifiers. -/
def identifierPartSet : Intervals :=
  Intervals.unions [identifierStartSet, ofCategories [.mn, .mc, .nd, .pc], otherIdentifierParts]

/-- Characters that start identifiers, whichever of its equal forms a text has. -/
def stableIdentifierStarts : Intervals :=
  (Intervals.union [(65, 90), (97, 122)] identifierStarts).diff newCharacters

/-- Characters of identifiers, whichever of its equal forms a text has. -/
def stableIdentifierParts : Intervals :=
  Intervals.unions [stableIdentifierStarts, [(48, 57), (95, 95)],
    identifierExtenders.diff newCharacters]

/-- Operators that start identifiers of mathematics. -/
def mathIdentifierStarts : Intervals :=
  [(8706, 8706), (8711, 8711), (8734, 8734), (120513, 120513), (120539, 120539), (120571, 120571),
   (120597, 120597), (120629, 120629), (120655, 120655), (120687, 120687), (120713, 120713),
   (120745, 120745), (120771, 120771)]

/-- Raised and lowered signs inside identifiers of mathematics. -/
def mathIdentifierParts : Intervals :=
  mathIdentifierStarts.union
    [(178, 179), (185, 185), (8304, 8304), (8308, 8318), (8320, 8334)]

/-! ## All properties -/

/-- A property that characters have or have not. -/
structure Property where
  names : List String
  intervals : Intervals
deriving DecidableEq, Repr

/-- Properties of letters and of case. -/
def letterProperties : List Property := [
  ⟨["alpha", "alphabetic"], alphabetic⟩,
  ⟨["lower", "lowercase"], lowercase⟩,
  ⟨["upper", "uppercase"], uppercase⟩,
  ⟨["cased"], cased⟩,
  ⟨["ci", "caseignorable"], caseIgnorable⟩,
  ⟨["cwl", "changeswhenlowercased"], changesInLowercase⟩,
  ⟨["cwu", "changeswhenuppercased"], changesInUppercase⟩,
  ⟨["cwt", "changeswhentitlecased"], changesInTitlecase⟩,
  ⟨["cwcf", "changeswhencasefolded"], changesInFolding⟩,
  ⟨["cwcm", "changeswhencasemapped"], changesInCase⟩,
  ⟨["oalpha", "otheralphabetic"], otherAlphabetic⟩,
  ⟨["olower", "otherlowercase"], otherLowercase⟩,
  ⟨["oupper", "otheruppercase"], otherUppercase⟩,
  ⟨["sd", "softdotted"], softDotted⟩,
  ⟨["dia", "diacritic"], diacritics⟩,
  ⟨["ext", "extender"], extenders⟩,
  ⟨["loe", "logicalorderexception"], writtenBefore⟩]

/-- Properties of identifiers. -/
def identifierProperties : List Property := [
  ⟨["ids", "idstart"], identifierStartSet⟩,
  ⟨["idc", "idcontinue"], identifierPartSet⟩,
  ⟨["xids", "xidstart"], stableIdentifierStarts⟩,
  ⟨["xidc", "xidcontinue"], stableIdentifierParts⟩,
  ⟨["oids", "otheridstart"], otherIdentifierStarts⟩,
  ⟨["oidc", "otheridcontinue"], otherIdentifierParts⟩,
  ⟨["idcompatmathstart"], mathIdentifierStarts⟩,
  ⟨["idcompatmathcontinue"], mathIdentifierParts⟩,
  ⟨["patsyn", "patternsyntax"], patternSyntax⟩,
  ⟨["patws", "patternwhitespace"], patternSpace⟩]

/-- Properties of punctuation, digits and spaces. -/
def signProperties : List Property := [
  ⟨["wspace", "whitespace", "space"], whiteSpace⟩,
  ⟨["ahex", "asciihexdigit"], [(48, 57), (65, 70), (97, 102)]⟩,
  ⟨["hex", "hexdigit"], hexDigits⟩,
  ⟨["dash"], dashMarks⟩,
  ⟨["hyphen"], hyphens⟩,
  ⟨["qmark", "quotationmark"], quotationMarks⟩,
  ⟨["term", "terminalpunctuation"], terminalMarks⟩,
  ⟨["sterm", "sentenceterminal"], sentenceEnds⟩,
  ⟨["math"], mathematical⟩,
  ⟨["omath", "othermath"], otherMath⟩,
  ⟨["bidim", "bidimirrored"], reversedInBidi⟩]

/-- Properties of ideographs and of emoji. -/
def pictureProperties : List Property := [
  ⟨["ideo", "ideographic"], ideographs⟩,
  ⟨["uideo", "unifiedideograph"], unifiedIdeographs⟩,
  ⟨["radical"], radicals⟩,
  ⟨["idsu", "idsunaryoperator"], unaryDescriptions⟩,
  ⟨["idsb", "idsbinaryoperator"], binaryDescriptions⟩,
  ⟨["idst", "idstrinaryoperator"], trinaryDescriptions⟩,
  ⟨["emoji"], emoji⟩,
  ⟨["ecomp", "emojicomponent"], emojiComponents⟩,
  ⟨["emod", "emojimodifier"], emojiModifiers⟩,
  ⟨["ebase", "emojimodifierbase"], emojiBases⟩,
  ⟨["epres", "emojipresentation"], emojiByDefault⟩,
  ⟨["extpict", "extendedpictographic"], pictographs⟩,
  ⟨["ri", "regionalindicator"], regionalIndicators⟩]

/-- Properties of marks and of characters that show nothing. -/
def formatProperties : List Property := [
  ⟨["bidic", "bidicontrol"], bidiControls⟩,
  ⟨["di", "defaultignorablecodepoint"], ignorableByDefault⟩,
  ⟨["odi", "otherdefaultignorablecodepoint"], otherIgnorable⟩,
  ⟨["dep", "deprecated"], deprecatedCharacters⟩,
  ⟨["joinc", "joincontrol"], joinControls⟩,
  ⟨["nchar", "noncharactercodepoint"], nonCharacters⟩,
  ⟨["vs", "variationselector"], variationSelectors⟩,
  ⟨["pcm", "prependedconcatenationmark"], prependedMarks⟩,
  ⟨["mcm", "modifiercombiningmark"], modifierMarks⟩,
  ⟨["grext", "graphemeextend"], graphemeExtending⟩,
  ⟨["ogrext", "othergraphemeextend"], otherExtending⟩,
  ⟨["grbase", "graphemebase"], graphemeBases⟩,
  ⟨["grlink", "graphemelink"], graphemeLinks⟩]

/-- All properties. -/
def properties : List Property :=
  letterProperties ++ identifierProperties ++ signProperties ++ pictureProperties ++ formatProperties

/-- The characters with a property, by its name. -/
def property? (name : String) : Option Intervals :=
  (properties.find? fun p => p.names.contains name).map (·.intervals)

end TerraLint.Unicode
