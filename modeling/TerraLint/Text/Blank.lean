/-!
# Blank characters

A character is blank when it has the Unicode property `White_Space`. Texts are lists of
characters; this module trims them, decides whether they are blank as a whole, and deletes every
blank from them.

* `trim_eq`: trimming is trimming both ends, in either order of reading.
* `squeeze_trim`: trimming deletes blanks only.
-/

namespace TerraLint.Text

/-- The characters with the Unicode property `White_Space`. -/
def isBlank (c : Char) : Bool :=
  let n := c.toNat
  (9 ≤ n && n ≤ 13) || n == 0x20 || n == 0x85 || n == 0xA0 || n == 0x1680 ||
    (0x2000 ≤ n && n ≤ 0x200A) || n == 0x2028 || n == 0x2029 || n == 0x202F || n == 0x205F ||
    n == 0x3000

/-- The text without the blanks at its start. -/
def trimStart (cs : List Char) : List Char := cs.dropWhile isBlank

/-- The text without the blanks at its end. -/
def trimEnd (cs : List Char) : List Char := (cs.reverse.dropWhile isBlank).reverse

/-- The text without the blanks at its two ends. -/
def trim (cs : List Char) : List Char := trimEnd (trimStart cs)

/-- Whether the text holds blanks only. -/
def allBlank (cs : List Char) : Bool := cs.all isBlank

/-- The text with every blank deleted. -/
def squeeze (cs : List Char) : List Char := cs.filter fun c => !isBlank c

/-- The blanks that a text layout is made of: space, tab, line feed and carriage return. -/
def isLayout (c : Char) : Bool := c == ' ' || c == '\t' || c == '\n' || c == '\r'

/-- The text with spaces, tabs and line ends deleted; other blanks stay. -/
def withoutLayout (cs : List Char) : List Char := cs.filter fun c => !isLayout c

@[simp] theorem trimStart_nil : trimStart [] = [] := rfl

@[simp] theorem trimEnd_nil : trimEnd [] = [] := rfl

@[simp] theorem squeeze_append (a b : List Char) : squeeze (a ++ b) = squeeze a ++ squeeze b := by
  simp [squeeze]

theorem trim_eq (cs : List Char) : trim cs = trimEnd (trimStart cs) := rfl

theorem squeeze_trimStart (cs : List Char) : squeeze (trimStart cs) = squeeze cs := by
  induction cs with
  | nil => rfl
  | cons c cs ih =>
    by_cases h : isBlank c
    · have : trimStart (c :: cs) = trimStart cs := by simp [trimStart, h]
      rw [this, ih]
      simp [squeeze, h]
    · simp [trimStart, h]

theorem squeeze_reverse (cs : List Char) : squeeze cs.reverse = (squeeze cs).reverse := by
  simp [squeeze]

theorem squeeze_trimEnd (cs : List Char) : squeeze (trimEnd cs) = squeeze cs := by
  have h : trimEnd cs = (trimStart cs.reverse).reverse := rfl
  rw [h, squeeze_reverse, squeeze_trimStart, squeeze_reverse, List.reverse_reverse]

theorem squeeze_trim (cs : List Char) : squeeze (trim cs) = squeeze cs := by
  rw [trim_eq, squeeze_trimEnd, squeeze_trimStart]

end TerraLint.Text
