import TerraLint.Unicode.Alphabetic
import TerraLint.Unicode.Case

/-!
# Changes of case

The characters that a change of case changes. Most of them share their folding with another one; the
tables hold the others.
-/

namespace TerraLint.Unicode

/-- Characters that share their folding with others. -/
def caseVaried : Intervals :=
  (Intervals.ofPoints (caseFoldings.map (·.1))).union (Intervals.ofPoints (caseFoldings.map (·.2)))

/-- Those of them that are uppercase or titlecase. -/
def capitals : Intervals := caseVaried.inter (uppercase.union titlecaseLetters)

/-- Characters that are not their own lowercase form. -/
def changesInLowercase : Intervals := capitals.union [(304, 304)]

/-- Characters whose uppercase form is longer or not folded to them. -/
def expandedInUppercase : Intervals :=
  [(305, 305), (329, 329), (496, 496), (1415, 1415), (7830, 7834), (8016, 8016), (8018, 8018),
   (8020, 8020), (8022, 8022), (8114, 8114), (8116, 8116), (8118, 8119), (8130, 8130), (8132, 8132),
   (8134, 8135), (8146, 8146), (8150, 8151), (8162, 8162), (8164, 8164), (8166, 8167), (8178, 8178),
   (8180, 8180), (8182, 8183), (64256, 64260), (64275, 64279)]

/-- Characters that are not their own uppercase form. -/
def changesInUppercase : Intervals := expandedInUppercase.union (caseVaried.diff uppercase)

/-- Capital digraphs, of which only the first letter is a capital in titles. -/
def digraphCapitals : Intervals :=
  [(452, 452), (455, 455), (458, 458), (497, 497)]

/-- Letters that stay small in titles. -/
def smallInTitles : Intervals := [(4304, 4346), (4349, 4351)]

/-- Characters that are not their own titlecase form. -/
def changesInTitlecase : Intervals :=
  ((changesInUppercase.diff titlecaseLetters).diff smallInTitles).union digraphCapitals

/-- Characters that folding changes though they are no capitals. -/
def foldedFurther : Intervals :=
  [(181, 181), (223, 223), (304, 304), (329, 329), (383, 383), (837, 837), (962, 962), (976, 977),
   (981, 982), (1008, 1009), (1013, 1013), (1415, 1415), (5112, 5117), (7296, 7304), (7834, 7835),
   (8064, 8071), (8080, 8087), (8096, 8103), (8114, 8116), (8119, 8119), (8130, 8132), (8135, 8135),
   (8178, 8180), (8183, 8183), (43888, 43967), (64256, 64262), (64275, 64279)]

/-- Capitals to which folding leads. -/
def foldingTargets : Intervals := [(5024, 5109)]

/-- Characters that folding changes. -/
def changesInFolding : Intervals := foldedFurther.union (capitals.diff foldingTargets)

/-- Characters that some change of case changes. -/
def changesInCase : Intervals :=
  Intervals.unions [changesInLowercase, changesInUppercase, changesInTitlecase]

end TerraLint.Unicode
