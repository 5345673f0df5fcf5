import TerraLint.Unicode.Category

/-!
# Visible units

The characters of which visible units are made: bases, and marks that extend them.
-/

namespace TerraLint.Unicode

/-- Characters that extend the one before them and are neither nonspacing nor enclosing marks. -/
def otherExtending : Intervals :=
  [(2494, 2494), (2519, 2519), (2878, 2878), (2903, 2903), (3006, 3006), (3031, 3031), (3264, 3264),
   (3266, 3266), (3271, 3272), (3274, 3275), (3285, 3286), (3390, 3390), (3415, 3415), (3535, 3535),
   (3551, 3551), (5909, 5909), (5940, 5940), (6965, 6965), (6971, 6971), (6973, 6973), (6979, 6980),
   (7082, 7082), (7154, 7155), (8204, 8204), (12334, 12335), (43347, 43347), (43456, 43456),
   (65438, 65439), (70080, 70080), (70197, 70197), (70462, 70462), (70477, 70477), (70487, 70487),
   (70584, 70584), (70594, 70594), (70597, 70597), (70599, 70601), (70607, 70607), (70832, 70832),
   (70845, 70845), (71087, 71087), (71350, 71350), (71984, 71984), (71997, 71997), (73537, 73537),
   (94192, 94193), (119141, 119142), (119149, 119154), (917536, 917631)]

/-- Characters that extend the one before them. -/
def graphemeExtending : Intervals := otherExtending.union (ofCategories [.mn, .me])

/-- Characters that start something visible. -/
def graphemeBases : Intervals :=
  (ofCategories [.cc, .cf, .co, .cn, .zl, .zp]).union graphemeExtending |>.complement

/-- Marks that join two consonants. -/
def graphemeLinks : Intervals :=
  [(2381, 2381), (2509, 2509), (2637, 2637), (2765, 2765), (2893, 2893), (3021, 3021), (3149, 3149),
   (3277, 3277), (3387, 3388), (3405, 3405), (3530, 3530), (3642, 3642), (3770, 3770), (3972, 3972),
   (4153, 4154), (5908, 5909), (5940, 5940), (6098, 6098), (6752, 6752), (6980, 6980), (7082, 7083),
   (7154, 7155), (11647, 11647), (43014, 43014), (43052, 43052), (43204, 43204), (43347, 43347),
   (43456, 43456), (43766, 43766), (44013, 44013), (68159, 68159), (69702, 69702), (69744, 69744),
   (69759, 69759), (69817, 69817), (69939, 69940), (70080, 70080), (70197, 70197), (70378, 70378),
   (70477, 70477), (70606, 70608), (70722, 70722), (70850, 70850), (71103, 71103), (71231, 71231),
   (71350, 71350), (71467, 71467), (71737, 71737), (71997, 71998), (72160, 72160), (72244, 72244),
   (72263, 72263), (72345, 72345), (72767, 72767), (73028, 73029), (73111, 73111), (73537, 73538),
   (90415, 90415)]

/-- Marks that stand closer to their base than others. -/
def modifierMarks : Intervals :=
  [(1620, 1621), (1624, 1624), (1756, 1756), (1763, 1763), (1767, 1768), (2250, 2251), (2253, 2255),
   (2259, 2259), (2291, 2291)]

end TerraLint.Unicode
