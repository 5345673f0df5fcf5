import TerraLint.Unicode.Alphabetic
import TerraLint.Unicode.Control
import TerraLint.Unicode.Emoji
import TerraLint.Unicode.Grapheme
import TerraLint.Unicode.Ideograph
import TerraLint.Unicode.Script
import TerraLint.Unicode.Typography

/-!
# Where text is divided

The classes of characters that decide where one visible unit, one word or one sentence of a text ends
and the next one starts.
-/

namespace TerraLint.Unicode

/-! ## Visible units -/

/-- A kind of characters where text is divided, with its names. -/
structure BreakClass where
  /-- Its names, in small letters and without separators. -/
  names : List String
  intervals : Intervals
deriving DecidableEq, Repr

/-- The characters of the class with a name. -/
def breakClass? (classes : List BreakClass) (name : String) : Option Intervals :=
  (classes.find? fun c => c.names.contains name).map (·.intervals)

/-- Characters that extend what stands before them, modifiers of emoji among them. -/
def clusterExtending : Intervals := graphemeExtending.union emojiModifiers

/-- Spacing marks that do not belong to what stands before them. -/
def standaloneMarks : Intervals :=
  [(4139, 4140), (4152, 4152), (4194, 4196), (4199, 4205), (4227, 4227), (4231, 4236), (4239, 4239),
   (4250, 4252), (6753, 6753), (6755, 6756), (43643, 43643), (43645, 43645), (71456, 71457)]

/-- Characters that belong to what stands after them. -/
def prepended : Intervals :=
  [(1536, 1541), (1757, 1757), (1807, 1807), (2192, 2193), (2274, 2274), (3406, 3406),
   (69821, 69821), (69837, 69837), (70082, 70083), (70609, 70609), (71999, 71999), (72001, 72001),
   (72250, 72250), (72324, 72329), (73030, 73030), (73474, 73474)]

/-- Characters that show nothing and divide visible units. -/
def clusterControls : Intervals :=
  let invisible :=
    (ofCategories [.zl, .zp, .cc, .cf]).union (ignorableByDefault.inter unassigned)
  let kept := Intervals.unions [[(10, 10), (13, 13)], joinControls, prependedMarks]
  (invisible.diff kept).diff graphemeExtending

/-- Syllables that end in a vowel: every twenty-eighth one. -/
def openSyllables : Intervals := (List.range 399).map fun i => (44032 + 28 * i, 44032 + 28 * i)

/-- The classes of characters by which text is divided into visible units. -/
def graphemeBreaks : List BreakClass := [
  ⟨["cr"], [(13, 13)]⟩,
  ⟨["lf"], [(10, 10)]⟩,
  ⟨["zwj"], [(8205, 8205)]⟩,
  ⟨["cn", "control"], clusterControls⟩,
  ⟨["ex", "extend"], clusterExtending⟩,
  ⟨["pp", "prepend"], prepended⟩,
  ⟨["sm", "spacingmark"],
    ((spacingMarks.union [(3635, 3635), (3763, 3763)]).diff clusterExtending).diff standaloneMarks⟩,
  ⟨["ri", "regionalindicator"], regionalIndicators⟩,
  ⟨["l"], [(4352, 4447), (43360, 43388)]⟩,
  ⟨["v"], [(4448, 4519), (55216, 55238), (93539, 93539), (93543, 93546)]⟩,
  ⟨["t"], [(4520, 4607), (55243, 55291)]⟩,
  ⟨["lv"], openSyllables⟩,
  ⟨["lvt"], Intervals.diff [(44032, 55203)] openSyllables⟩]

/-! ## Words -/

/-- Characters that extend a word, spacing marks among them. -/
def wordExtending : Intervals := clusterExtending.union spacingMarks

/-- The codes of scripts that are written without spaces between words. -/
def unspacedScripts : List String :=
  ["ahom", "hira", "khmr", "laoo", "mymr", "talu", "tale", "lana", "tavt", "thai"]

/-- Katakana, and what stands between them. -/
def katakanaLike : Intervals :=
  [(12337, 12341), (12443, 12444), (12448, 12538), (12540, 12543), (12784, 12799), (13008, 13054),
   (13056, 13143), (65382, 65437), (110576, 110579), (110581, 110587), (110589, 110590),
   (110592, 110592), (110880, 110882), (110933, 110933), (110948, 110951)]

/-- Letters of Hebrew. -/
def hebrewLetters : Intervals :=
  [(1488, 1514), (1519, 1522), (64285, 64285), (64287, 64296), (64298, 64310), (64312, 64316),
   (64318, 64318), (64320, 64321), (64323, 64324), (64326, 64335)]

/-- Characters that join words and numbers. -/
def connecting : Intervals :=
  [(95, 95), (8239, 8239), (8255, 8256), (8276, 8276), (65075, 65076), (65101, 65103),
   (65343, 65343)]

/-- Characters that count as letters of words though they are not alphabetic. -/
def letterLike : Intervals :=
  [(706, 709), (722, 727), (734, 735), (741, 747), (749, 749), (751, 767), (1370, 1372),
   (1374, 1374), (1418, 1418), (1523, 1523), (42760, 42774), (42784, 42785), (42889, 42890),
   (43867, 43867)]

/-- Digits of numbers. -/
def wordDigits : Intervals := decimalDigits.union [(1643, 1643)]

/-- Letters of words: alphabetic characters of scripts with spaces between words. -/
def wordLetters : Intervals :=
  let unspaced := scripts.filter fun s => unspacedScripts.any s.names.contains
  let others := Intervals.unions (ideographs :: wordExtending :: katakanaLike :: hebrewLetters ::
    connecting :: wordDigits :: unspaced.map (·.intervals))
  (alphabetic.diff others).union letterLike

/-- The classes of characters by which text is divided into words. -/
def wordBreaks : List BreakClass := [
  ⟨["cr"], [(13, 13)]⟩,
  ⟨["lf"], [(10, 10)]⟩,
  ⟨["nl", "newline"], [(11, 12), (133, 133), (8232, 8233)]⟩,
  ⟨["zwj"], [(8205, 8205)]⟩,
  ⟨["extend"], wordExtending⟩,
  ⟨["ri", "regionalindicator"], regionalIndicators⟩,
  ⟨["fo", "format"], (formats.diff [(8203, 8205)]).diff graphemeExtending⟩,
  ⟨["ka", "katakana"], katakanaLike⟩,
  ⟨["hl", "hebrewletter"], hebrewLetters⟩,
  ⟨["le", "aletter"], wordLetters⟩,
  ⟨["sq", "singlequote"], [(39, 39)]⟩,
  ⟨["dq", "doublequote"], [(34, 34)]⟩,
  ⟨["mb", "midnumlet"],
    [(46, 46), (8216, 8217), (8228, 8228), (65106, 65106), (65287, 65287), (65294, 65294)]⟩,
  ⟨["ml", "midletter"],
    [(58, 58), (183, 183), (903, 903), (1375, 1375), (1524, 1524), (8231, 8231), (65043, 65043),
     (65109, 65109), (65306, 65306)]⟩,
  ⟨["mn", "midnum"],
    [(44, 44), (59, 59), (894, 894), (1417, 1417), (1548, 1549), (1644, 1644), (2040, 2040),
     (8260, 8260), (65040, 65040), (65044, 65044), (65104, 65104), (65108, 65108), (65292, 65292),
     (65307, 65307)]⟩,
  ⟨["nu", "numeric"], wordDigits⟩,
  ⟨["ex", "extendnumlet"], connecting⟩,
  ⟨["wsegspace"],
    [(32, 32), (5760, 5760), (8192, 8198), (8200, 8202), (8287, 8287), (12288, 12288)]⟩]

/-! ## Sentences -/

/-- Characters that extend a sentence. -/
def sentenceExtending : Intervals :=
  Intervals.unions [graphemeExtending, spacingMarks, [(8205, 8205)]]

/-- Small letters. Georgian letters count as having no case. -/
def sentenceLowercase : Intervals :=
  (lowercase.diff graphemeExtending).diff [(4304, 4346), (4349, 4351)]

/-- Capital letters. -/
def sentenceUppercase : Intervals :=
  (uppercase.union titlecaseLetters).diff [(7312, 7354), (7357, 7359)]

/-- Full stops that may also end an abbreviation. -/
def ambiguousStops : Intervals := [(46, 46), (8228, 8228), (65106, 65106), (65294, 65294)]

/-- Brackets and quotation marks. -/
def enclosing : Intervals :=
  let marks := Intervals.unions [ofCategories [.ps, .pe, .pi, .pf], quotationMarks,
    [(10075, 10080), (11776, 11777), (11782, 11784), (11787, 11787), (128630, 128632)]]
  marks.diff [(65282, 65282), (65287, 65287)]

/-- The classes of characters by which text is divided into sentences. -/
def sentenceBreaks : List BreakClass := [
  ⟨["cr"], [(13, 13)]⟩,
  ⟨["lf"], [(10, 10)]⟩,
  ⟨["ex", "extend"], sentenceExtending⟩,
  ⟨["se", "sep"], [(133, 133), (8232, 8233)]⟩,
  ⟨["fo", "format"], (formats.diff joinControls).diff graphemeExtending⟩,
  ⟨["sp"], whiteSpace.diff [(10, 10), (13, 13), (133, 133), (8232, 8233)]⟩,
  ⟨["lo", "lower"], sentenceLowercase⟩,
  ⟨["up", "upper"], sentenceUppercase⟩,
  ⟨["le", "oletter"],
    (alphabetic.union [(1523, 1523)]).diff
      (Intervals.unions [sentenceLowercase, sentenceUppercase, sentenceExtending])⟩,
  ⟨["nu", "numeric"], decimalDigits.union [(1643, 1644)]⟩,
  ⟨["at", "aterm"], ambiguousStops⟩,
  ⟨["st", "sterm"], sentenceEnds.diff ambiguousStops⟩,
  ⟨["cl", "close"], enclosing⟩,
  ⟨["sc", "scontinue"],
    [(44, 45), (58, 59), (894, 894), (1373, 1373), (1548, 1549), (2040, 2040), (6146, 6146),
     (6152, 6152), (8211, 8212), (12289, 12289), (65040, 65041), (65043, 65044), (65073, 65074),
     (65104, 65105), (65108, 65109), (65112, 65112), (65123, 65123), (65292, 65293), (65306, 65307),
     (65380, 65380)]⟩]

end TerraLint.Unicode
