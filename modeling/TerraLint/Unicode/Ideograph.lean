import TerraLint.Unicode.Intervals

/-!
# Ideographs

Ideographs, their radicals, and the operators that describe them.
-/

namespace TerraLint.Unicode

/-- Ideographs. -/
def ideographs : Intervals :=
  [(12294, 12295), (12321, 12329), (12344, 12346), (13312, 19903), (19968, 40959), (63744, 64109),
   (64112, 64217), (94180, 94180), (94208, 100343), (100352, 101589), (101631, 101640),
   (110960, 111355), (131072, 173791), (173824, 177977), (177984, 178205), (178208, 183969),
   (183984, 191456), (191472, 192093), (194560, 195101), (196608, 201546), (201552, 205743)]

/-- Unified ideographs. -/
def unifiedIdeographs : Intervals :=
  [(13312, 19903), (19968, 40959), (64014, 64015), (64017, 64017), (64019, 64020), (64031, 64031),
   (64033, 64033), (64035, 64036), (64039, 64041), (131072, 173791), (173824, 177977),
   (177984, 178205), (178208, 183969), (183984, 191456), (191472, 192093), (196608, 201546),
   (201552, 205743)]

/-- Radicals of ideographs. -/
def radicals : Intervals :=
  [(11904, 11929), (11931, 12019), (12032, 12245)]

/-- Operators that describe an ideograph by one part. -/
def unaryDescriptions : Intervals := [(12286, 12287)]

/-- Operators that describe an ideograph by two parts. -/
def binaryDescriptions : Intervals := [(12272, 12273), (12276, 12285), (12783, 12783)]

/-- Operators that describe an ideograph by three parts. -/
def trinaryDescriptions : Intervals := [(12274, 12275)]

end TerraLint.Unicode
