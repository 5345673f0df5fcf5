import TerraLint.Unicode.Intervals

/-!
# Separators and controls

The general categories of separators and of characters without a glyph, and characters that show
nothing by themselves but change how others are shown.
-/

namespace TerraLint.Unicode

/-- Spaces. -/
def spaces : Intervals :=
  [(32, 32), (160, 160), (5760, 5760), (8192, 8202), (8239, 8239), (8287, 8287), (12288, 12288)]

/-- Line separators. -/
def lineSeparators : Intervals :=
  [(8232, 8232)]

/-- Paragraph separators. -/
def paragraphSeparators : Intervals :=
  [(8233, 8233)]

/-- Control characters. -/
def controls : Intervals :=
  [(0, 31), (127, 159)]

/-- Format characters. -/
def formats : Intervals :=
  [(173, 173), (1536, 1541), (1564, 1564), (1757, 1757), (1807, 1807), (2192, 2193), (2274, 2274),
   (6158, 6158), (8203, 8207), (8234, 8238), (8288, 8292), (8294, 8303), (65279, 65279),
   (65529, 65531), (69821, 69821), (69837, 69837), (78896, 78911), (113824, 113827),
   (119155, 119162), (917505, 917505), (917536, 917631)]

/-- Characters for private use. -/
def privateUse : Intervals :=
  [(57344, 63743), (983040, 1048573), (1048576, 1114109)]

/-- Controls of the direction of text. -/
def bidiControls : Intervals :=
  [(1564, 1564), (8206, 8207), (8234, 8238), (8294, 8297)]

/-- Characters that show nothing unless they are supported. -/
def ignorableByDefault : Intervals :=
  [(173, 173), (847, 847), (1564, 1564), (4447, 4448), (6068, 6069), (6155, 6159), (8203, 8207),
   (8234, 8238), (8288, 8303), (12644, 12644), (65024, 65039), (65279, 65279), (65440, 65440),
   (65520, 65528), (113824, 113827), (119155, 119162), (917504, 921599)]

/-- Those of them that are neither format characters nor selectors of variants. -/
def otherIgnorable : Intervals :=
  [(847, 847), (4447, 4448), (6068, 6069), (8293, 8293), (12644, 12644), (65440, 65440),
   (65520, 65528), (917504, 917504), (917506, 917535), (917632, 917759), (918000, 921599)]

/-- Characters not to be used any more. -/
def deprecatedCharacters : Intervals :=
  [(329, 329), (1651, 1651), (3959, 3959), (3961, 3961), (6051, 6052), (8298, 8303), (9001, 9002),
   (917505, 917505)]

/-- Controls of the joining of characters. -/
def joinControls : Intervals :=
  [(8204, 8205)]

/-- Code points that never become characters. -/
def nonCharacters : Intervals :=
  [(64976, 65007), (65534, 65535), (131070, 131071), (196606, 196607), (262142, 262143),
   (327678, 327679), (393214, 393215), (458750, 458751), (524286, 524287), (589822, 589823),
   (655358, 655359), (720894, 720895), (786430, 786431), (851966, 851967), (917502, 917503),
   (983038, 983039), (1048574, 1048575), (1114110, 1114111)]

/-- Selectors of variants. -/
def variationSelectors : Intervals :=
  [(6155, 6157), (6159, 6159), (65024, 65039), (917760, 917999)]

/-- Vowels written before the consonant after which they are spoken. -/
def writtenBefore : Intervals :=
  [(3648, 3652), (3776, 3780), (6581, 6583), (6586, 6586), (43701, 43702), (43705, 43705),
   (43707, 43708)]

/-- Signs that enclose the digits after them. -/
def prependedMarks : Intervals :=
  [(1536, 1541), (1757, 1757), (1807, 1807), (2192, 2193), (2274, 2274), (69821, 69821),
   (69837, 69837)]

end TerraLint.Unicode
