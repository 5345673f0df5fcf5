import TerraLint.Unicode.Letter
import TerraLint.Unicode.Mark
import TerraLint.Unicode.Numeric
import TerraLint.Unicode.Punctuation
import TerraLint.Unicode.Symbol
import TerraLint.Unicode.Control
import TerraLint.Unicode.Unassigned

/-!
# General categories

Every character has one general category; the categories fall into seven groups by their first
letter.
-/

namespace TerraLint.Unicode

/-- The general categories. -/
inductive Category where
  | lu | ll | lt | lm | lo | mn | mc | me | nd | nl | no | pc | pd | ps | pe | pi | pf | po
  | sm | sc | sk | so | zs | zl | zp | cc | cf | co | cn
deriving DecidableEq, Repr

namespace Category

/-- The code points of a category. -/
def intervals : Category → Intervals
  | lu => uppercaseLetters
  | ll => lowercaseLetters
  | lt => titlecaseLetters
  | lm => modifierLetters
  | lo => otherLetters
  | mn => nonspacingMarks
  | mc => spacingMarks
  | me => enclosingMarks
  | nd => decimalDigits
  | nl => letterNumbers
  | no => otherNumbers
  | pc => connectors
  | pd => dashes
  | ps => openings
  | pe => closings
  | pi => initialQuotes
  | pf => finalQuotes
  | po => otherPunctuation
  | sm => mathSymbols
  | sc => currencySymbols
  | sk => modifierSymbols
  | so => otherSymbols
  | zs => spaces
  | zl => lineSeparators
  | zp => paragraphSeparators
  | cc => controls
  | cf => formats
  | co => privateUse
  | cn => unassigned

/-- The categories of letters. -/
def letters : List Category := [lu, ll, lt, lm, lo]

/-- The categories of marks. -/
def marks : List Category := [mn, mc, me]

/-- The categories of numeric characters. -/
def numbers : List Category := [nd, nl, no]

/-- The categories of punctuation. -/
def punctuation : List Category := [pc, pd, ps, pe, pi, pf, po]

/-- The categories of symbols. -/
def symbols : List Category := [sm, sc, sk, so]

/-- The categories of separators. -/
def separators : List Category := [zs, zl, zp]

/-- The categories of characters without a glyph. -/
def others : List Category := [cc, cf, co, cn]

end Category

/-- Whether a code point has one of some categories. -/
def hasCategory (categories : List Category) (n : Nat) : Bool :=
  categories.any fun category => category.intervals.contains n

/-- The code points with one of some categories. -/
def ofCategories (categories : List Category) : Intervals :=
  Intervals.unions (categories.map Category.intervals)

end TerraLint.Unicode
