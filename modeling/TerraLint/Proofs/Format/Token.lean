import TerraLint.Format.Scan

/-!
# Tokens of the layout

A lexer reads a text token by token. It gives each character of a token a mark that says whether
the character is code, literal text or part of a comment, and keeps what is open after the token.

* `Lexer.token`: the marks of the first token of a text and the lexer after it.
* `Lexer.rest_cons`: reading the rest of a line is reading its first token and then what follows.
-/

namespace TerraLint.Format

/-- What a character is part of. -/
inductive Mark where
  | code
  /-- The brace of an interpolation opener inside a string. -/
  | opener
  /-- A string literal, its quotes included. -/
  | literal
  | comment
deriving DecidableEq, Repr

/-- What a character counts in the balance of brackets. -/
def Mark.weight (mark : Mark) (c : Char) : Int :=
  match mark with
  | .code =>
    if c = '{' ∨ c = '[' ∨ c = '(' then 1 else if c = '}' ∨ c = ']' ∨ c = ')' then -1 else 0
  | .opener => 1
  | .literal | .comment => 0

/-- The balance of marked characters: opening minus closing brackets. -/
def balance : List (Char × Mark) → Int
  | [] => 0
  | (c, mark) :: chars => mark.weight c + balance chars

@[simp] theorem balance_nil : balance [] = 0 := rfl

@[simp] theorem balance_cons (p : Char × Mark) (chars : List (Char × Mark)) :
    balance (p :: chars) = p.2.weight p.1 + balance chars := rfl

/-- Whether a string is open innermost. -/
def Scan.inString (s : Scan) : Bool := s.enclosing.head? == some .string

/-- A lexer within a line. -/
structure Lexer where
  /-- The strings, interpolations and block comments that are open, and the heredocs queued. -/
  scan : Scan
  /-- Whether the rest of the line is a comment. -/
  lineComment : Bool
deriving DecidableEq, Repr

namespace Lexer

/-- The first token inside a block comment. -/
def commentToken (s : Scan) : List Char → List Mark × Lexer
  | '*' :: '/' :: _ => ([.comment, .comment], ⟨{ s with inComment := false }, false⟩)
  | _ => ([.comment], ⟨s, false⟩)

/-- The lexer after an interpolation opener. -/
def interpolated (s : Scan) : Lexer :=
  ⟨{ s with enclosing := .interpolation 0 :: s.enclosing }, false⟩

/-- The first token inside a string. A backslash takes the next character along. -/
def stringToken (s : Scan) : List Char → List Mark × Lexer
  | '\\' :: _ => ([.literal, .literal], ⟨s, false⟩)
  | '$' :: '$' :: '{' :: _ => ([.literal, .literal, .literal], ⟨s, false⟩)
  | '%' :: '%' :: '{' :: _ => ([.literal, .literal, .literal], ⟨s, false⟩)
  | '$' :: '{' :: _ => ([.literal, .opener], interpolated s)
  | '%' :: '{' :: _ => ([.literal, .opener], interpolated s)
  | '"' :: _ => ([.literal], ⟨{ s with enclosing := s.enclosing.tail }, false⟩)
  | _ => ([.literal], ⟨s, false⟩)

/-- The first token in code. A heredoc marker is queued at its first character; all its characters
are code. -/
def codeToken (s : Scan) : List Char → List Mark × Lexer
  | '#' :: _ => ([.comment], ⟨s, true⟩)
  | '/' :: '/' :: _ => ([.comment], ⟨s, true⟩)
  | '/' :: '*' :: _ => ([.comment, .comment], ⟨{ s with inComment := true }, false⟩)
  | '"' :: _ => ([.literal], ⟨{ s with enclosing := .string :: s.enclosing }, false⟩)
  | '{' :: _ => ([.code], ⟨{ s with enclosing := Scan.braceOpened s.enclosing }, false⟩)
  | '}' :: _ => ([.code], ⟨{ s with enclosing := Scan.braceClosed s.enclosing }, false⟩)
  | cs => ([.code], ⟨s.marked cs, false⟩)

/-- The marks of the first token of a text, and the lexer after it. -/
def token (l : Lexer) (cs : List Char) : List Mark × Lexer :=
  if l.lineComment then ([.comment], l)
  else if l.scan.inComment then commentToken l.scan cs
  else if l.scan.inString then stringToken l.scan cs
  else codeToken l.scan cs

/-- What reading the rest of a line gives. -/
def rest (l : Lexer) (cs : List Char) : Scan × Int :=
  if l.lineComment then (l.scan, 0) else l.scan.line cs

end Lexer

/-! ## States that occur -/

namespace Scan

/-- Strings stand in interpolations, or in nothing, and interpolations stand in strings. -/
def nested : List Enclosure → Bool
  | [] | [.string] => true
  | .string :: .interpolation n :: outer => nested (.interpolation n :: outer)
  | .interpolation _ :: .string :: outer => nested (.string :: outer)
  | _ => false

/-- A state that occurs: strings and interpolations take turns, no comment stands directly in a
string, and no heredoc has a sign of an assignment in its identifier. -/
structure Valid (s : Scan) : Prop where
  nested : nested s.enclosing = true
  comment : s.inComment = true → s.inString = false
  heredocs : ∀ id ∈ s.heredocs, '=' ∉ id

theorem valid_start : start.Valid := ⟨rfl, nofun, nofun⟩

theorem not_mem_word (cs : List Char) : '=' ∉ word cs := by
  cases cs with
  | nil => simp [word]
  | cons c cs =>
    rw [word]
    split
    · rename_i hc
      intro h
      rcases List.mem_cons.1 h with rfl | h
      · exact absurd hc (by decide)
      · exact absurd (List.all_eq_true.1 List.all_takeWhile _ h) (by decide)
    · simp

theorem not_mem_heredocMarker (cs : List Char) : '=' ∉ heredocMarker cs := by
  unfold heredocMarker
  split
  · exact not_mem_word _
  · exact not_mem_word _
  · simp

theorem marked_heredocs {s : Scan} (h : ∀ id ∈ s.heredocs, '=' ∉ id) (cs : List Char) :
    ∀ id ∈ (s.marked cs).heredocs, '=' ∉ id := by
  have hmarker := not_mem_heredocMarker cs
  unfold marked
  split
  · rename_i c id _ hid
    rw [hid] at hmarker
    intro id' hid'
    rcases List.mem_append.1 hid' with hid' | hid'
    · exact h id' hid'
    · rwa [List.mem_singleton.1 hid']
  · exact h

theorem line_of_inComment {s : Scan} (h : s.inComment = true) (cs : List Char) :
    s.line cs = s.comment cs := by
  simp [line, h]

theorem line_of_inString {s : Scan} (hc : s.inComment = false) (h : s.inString = true)
    (cs : List Char) : s.line cs = s.string cs := by
  obtain ⟨enclosing, inComment, heredocs⟩ := s
  rcases enclosing with _ | ⟨_ | n, outer⟩
  · cases h
  · simp_all [line]
  · cases h

theorem line_of_code {s : Scan} (hc : s.inComment = false) (h : s.inString = false)
    (cs : List Char) : s.line cs = s.code cs := by
  obtain ⟨enclosing, inComment, heredocs⟩ := s
  rcases enclosing with _ | ⟨_ | n, outer⟩
  · simp_all [line]
  · cases h
  · simp_all [line]

@[simp] theorem line_nil (s : Scan) : s.line [] = (s, 0) := by
  unfold line
  split
  · simp [comment]
  · split
    · simp [string]
    · simp [code]

@[simp] theorem marked_enclosing (s : Scan) (cs : List Char) :
    (s.marked cs).enclosing = s.enclosing := by
  unfold marked
  split <;> rfl

@[simp] theorem marked_inComment (s : Scan) (cs : List Char) :
    (s.marked cs).inComment = s.inComment := by
  unfold marked
  split <;> rfl

@[simp] theorem marked_inString (s : Scan) (cs : List Char) :
    (s.marked cs).inString = s.inString := by
  unfold inString
  rw [marked_enclosing]

/-! ## Nesting -/

theorem nested_string_tail {outer : List Enclosure} (h : nested (.string :: outer) = true) :
    nested outer = true ∧ outer.head? ≠ some .string := by
  rcases outer with _ | ⟨_ | n, outer⟩
  · exact ⟨rfl, by simp⟩
  · cases h
  · exact ⟨h, by simp⟩

theorem nested_string_cons {outer : List Enclosure} (h : nested outer = true)
    (ho : outer.head? ≠ some .string) : nested (.string :: outer) = true := by
  rcases outer with _ | ⟨_ | n, outer⟩
  · rfl
  · simp at ho
  · exact h

theorem nested_interpolation {n : Nat} {outer : List Enclosure}
    (h : nested (.interpolation n :: outer) = true) :
    nested outer = true ∧ ∀ m, nested (.interpolation m :: outer) = true := by
  rcases outer with _ | ⟨_ | k, outer⟩
  · cases h
  · exact ⟨h, fun _ => h⟩
  · cases h

theorem nested_interpolation_cons {outer : List Enclosure} (h : nested outer = true)
    (ho : outer.head? = some .string) (m : Nat) : nested (.interpolation m :: outer) = true := by
  rcases outer with _ | ⟨_ | k, outer⟩
  · cases ho
  · exact h
  · cases ho

theorem nested_braceOpened {outer : List Enclosure} (h : nested outer = true) :
    nested (braceOpened outer) = true := by
  unfold braceOpened
  split
  · exact (nested_interpolation h).2 _
  · exact h

theorem nested_braceClosed {outer : List Enclosure} (h : nested outer = true) :
    nested (braceClosed outer) = true := by
  unfold braceClosed
  split
  · exact (nested_interpolation h).1
  · exact (nested_interpolation h).2 _
  · exact h

theorem head?_braceOpened {outer : List Enclosure} (h : outer.head? ≠ some .string) :
    (braceOpened outer).head? ≠ some .string := by
  unfold braceOpened
  split
  · simp
  · exact h

end Scan

/-! ## Reading by tokens -/

namespace Lexer

open Scan

theorem token_ne_nil (l : Lexer) (cs : List Char) : (l.token cs).1 ≠ [] := by
  unfold token
  split
  · simp
  · split
    · unfold commentToken
      split <;> simp
    · split
      · unfold stringToken
        split <;> simp
      · unfold codeToken
        split <;> simp

theorem commentToken_valid {s : Scan} (h : s.Valid) (cs : List Char) :
    (commentToken s cs).2.scan.Valid := by
  unfold commentToken
  split
  · exact ⟨h.nested, fun hc => (by cases hc), h.heredocs⟩
  · exact h

theorem stringToken_valid {s : Scan} (h : s.Valid) (hc : s.inComment = false)
    (hs : s.inString = true) (cs : List Char) : (stringToken s cs).2.scan.Valid := by
  have hno : ∀ {t : Scan}, t.inComment = s.inComment → t.inComment = true → t.inString = false := by
    intro t ht htc
    rw [ht, hc] at htc
    cases htc
  have hhead : s.enclosing.head? = some .string := by simpa [inString] using hs
  unfold stringToken
  split
  · exact h
  · exact h
  · exact h
  · exact ⟨nested_interpolation_cons h.nested hhead 0, hno rfl, h.heredocs⟩
  · exact ⟨nested_interpolation_cons h.nested hhead 0, hno rfl, h.heredocs⟩
  · refine ⟨?_, hno rfl, h.heredocs⟩
    obtain ⟨outer, ho⟩ := List.head?_eq_some_iff.1 hhead
    simp only [ho, List.tail_cons]
    exact (nested_string_tail (ho ▸ h.nested)).1
  · exact h

theorem codeToken_valid {s : Scan} (h : s.Valid) (hc : s.inComment = false)
    (hs : s.inString = false) (cs : List Char) : (codeToken s cs).2.scan.Valid := by
  have hno : ∀ {t : Scan}, t.inComment = s.inComment → t.inComment = true → t.inString = false := by
    intro t ht htc
    rw [ht, hc] at htc
    cases htc
  have hhead : s.enclosing.head? ≠ some .string := by simpa [inString] using hs
  unfold codeToken
  split
  · exact h
  · exact h
  · exact ⟨h.nested, fun _ => hs, h.heredocs⟩
  · exact ⟨nested_string_cons h.nested hhead, hno rfl, h.heredocs⟩
  · exact ⟨nested_braceOpened h.nested, hno rfl, h.heredocs⟩
  · exact ⟨nested_braceClosed h.nested, hno rfl, h.heredocs⟩
  · exact ⟨by simpa using h.nested, hno (marked_inComment s _), marked_heredocs h.heredocs _⟩

/-- No token leads to a state that does not occur. -/
theorem token_valid {l : Lexer} (h : l.scan.Valid) (cs : List Char) :
    (l.token cs).2.scan.Valid := by
  unfold token
  split
  · exact h
  · split
    · exact commentToken_valid h cs
    · rename_i hc
      have hc : l.scan.inComment = false := by simpa using hc
      split
      · rename_i hs
        exact stringToken_valid h hc hs cs
      · rename_i hs
        exact codeToken_valid h hc (by simpa using hs) cs

/-- What reading gives after a first token. -/
def after (t : List Mark × Lexer) (cs : List Char) : Scan × Int :=
  shift (balance (cs.zip t.1)) (t.2.rest (cs.drop t.1.length))

theorem comment_cons {s : Scan} (h : s.Valid) (hc : s.inComment = true) (c : Char)
    (cs : List Char) : s.comment (c :: cs) = after (commentToken s (c :: cs)) (c :: cs) := by
  unfold commentToken
  split
  · rename_i rest hcs
    rw [hcs, comment, ← line_of_code (s := { s with inComment := false }) rfl (h.comment hc)]
    simp [after, Lexer.rest, shift, Mark.weight]
  · rename_i hcs
    have hstep : s.comment (c :: cs) = s.comment cs := by
      rw [comment]
      intro rest hc' hrest
      exact hcs rest (by rw [hc', hrest])
    rw [hstep, ← line_of_inComment hc]
    simp [after, Lexer.rest, shift, Mark.weight]

theorem inString_tail {s : Scan} (h : s.Valid) (hs : s.inString = true) :
    ({ s with enclosing := s.enclosing.tail } : Scan).inString = false := by
  have hhead : s.enclosing.head? = some .string := by simpa [inString] using hs
  obtain ⟨outer, ho⟩ := List.head?_eq_some_iff.1 hhead
  simpa [inString, ho] using (nested_string_tail (ho ▸ h.nested)).2

theorem string_cons {s : Scan} (h : s.Valid) (hc : s.inComment = false) (hs : s.inString = true)
    (c : Char) (cs : List Char) :
    s.string (c :: cs) = after (stringToken s (c :: cs)) (c :: cs) := by
  have hline : ∀ rest, s.string rest = s.line rest := fun rest => (line_of_inString hc hs rest).symm
  have hopen : ∀ rest, code { s with enclosing := .interpolation 0 :: s.enclosing } rest =
      (interpolated s).rest rest := by
    intro rest
    rw [← line_of_code (s := { s with enclosing := .interpolation 0 :: s.enclosing }) hc rfl]
    rfl
  unfold stringToken
  split
  · rename_i rest hcs
    obtain ⟨rfl, rfl⟩ := List.cons.inj hcs
    cases cs with
    | nil =>
      have hstep : s.string ['\\'] = s.string [] := by
        rw [string]
        all_goals simp
      simp [hstep, string, after, Lexer.rest, shift, Mark.weight]
    | cons d cs =>
      rw [string, hline]
      simp [after, Lexer.rest, shift, Mark.weight]
  · rename_i rest hcs
    rw [hcs, string, hline]
    simp [after, Lexer.rest, shift, Mark.weight]
  · rename_i rest hcs
    rw [hcs, string, hline]
    simp [after, Lexer.rest, shift, Mark.weight]
  · rename_i rest hno hcs
    rw [hcs, string, hopen]
    simp [after, Mark.weight]
  · rename_i rest hno hcs
    rw [hcs, string, hopen]
    simp [after, Mark.weight]
  · rename_i rest hcs
    rw [hcs, string, ← line_of_code (s := { s with enclosing := s.enclosing.tail }) hc
      (inString_tail h hs)]
    simp [after, Lexer.rest, shift, Mark.weight]
  · rename_i h₁ h₂ h₃ h₄ h₅ h₆
    have hstep : s.string (c :: cs) = s.string cs := by
      rw [string]
      all_goals simp_all
    rw [hstep, hline]
    simp [after, Lexer.rest, shift, Mark.weight]

theorem marked_of_ne {s : Scan} {c : Char} (h : c ≠ '<') (cs : List Char) :
    s.marked (c :: cs) = s := by
  have hm : heredocMarker (c :: cs) = [] := by
    unfold heredocMarker
    split <;> simp_all
  unfold marked
  rw [hm]
  split
  · simp_all
  · rfl

theorem inString_braceOpened {s : Scan} (hs : s.inString = false) :
    ({ s with enclosing := braceOpened s.enclosing } : Scan).inString = false := by
  have hhead : s.enclosing.head? ≠ some .string := by simpa [inString] using hs
  simpa [inString] using head?_braceOpened hhead

theorem code_brace {s : Scan} (hc : s.inComment = false) (cs : List Char) :
    s.code ('}' :: cs) =
      shift (-1) (({ s with enclosing := braceClosed s.enclosing } : Scan).line cs) := by
  rw [code]
  split
  · rename_i outer ho
    rw [ho, line_of_inString (s := { s with enclosing := .string :: outer }) hc rfl]
  · rename_i ho
    have hout : ({ s with enclosing := braceClosed s.enclosing } : Scan).inString = false := by
      rcases he : braceClosed s.enclosing with _ | ⟨_ | n, outer⟩
      · rfl
      · exact absurd he (ho outer)
      · rfl
    rw [line_of_code (s := { s with enclosing := braceClosed s.enclosing }) hc hout]

theorem code_cons {s : Scan} (hc : s.inComment = false) (hs : s.inString = false) (c : Char)
    (cs : List Char) : s.code (c :: cs) = after (codeToken s (c :: cs)) (c :: cs) := by
  have hline : ∀ rest, s.code rest = s.line rest := fun rest => (line_of_code hc hs rest).symm
  unfold codeToken
  split
  · rename_i rest hcs
    rw [hcs, code]
    simp [after, Lexer.rest, shift, Mark.weight]
  · rename_i rest hcs
    rw [hcs, code]
    simp [after, Lexer.rest, shift, Mark.weight]
  · rename_i rest hcs
    rw [hcs, code, ← line_of_inComment (s := { s with inComment := true }) rfl]
    simp [after, Lexer.rest, shift, Mark.weight]
  · rename_i rest hcs
    rw [hcs, code, ← line_of_inString (s := { s with enclosing := .string :: s.enclosing }) hc rfl]
    simp [after, Lexer.rest, shift, Mark.weight]
  · rename_i rest hcs
    rw [hcs, code, ← line_of_code (s := { s with enclosing := braceOpened s.enclosing }) hc
      (inString_braceOpened hs)]
    simp [after, Lexer.rest, Mark.weight]
  · rename_i rest hcs
    rw [hcs, code_brace hc]
    simp [after, Lexer.rest, Mark.weight]
  · rename_i h₁ h₂ h₃ h₄ h₅ h₆
    -- Brackets other than braces leave the state as it is, so only their weight is left to see.
    have hsame : c ≠ '<' → s.marked (c :: cs) = s := fun hne => marked_of_ne hne cs
    by_cases hb : c = '[' ∨ c = '(' ∨ c = ']' ∨ c = ')'
    · rcases hb with rfl | rfl | rfl | rfl <;>
        rw [code, hline, hsame (by decide)] <;> simp [after, Lexer.rest, Mark.weight]
    · have hstep : s.code (c :: cs) = (s.marked (c :: cs)).code cs := by
        rw [code]
        all_goals simp_all
      have hc' : c ≠ '{' ∧ c ≠ '}' := ⟨by rintro rfl; exact h₅ cs rfl, by rintro rfl; exact h₆ cs rfl⟩
      rw [hstep, ← line_of_code (by simpa using hc) (by simpa using hs)]
      simp_all [after, Lexer.rest, shift, Mark.weight]

/-- Reading the rest of a line is reading its first token and then what follows. -/
theorem rest_cons {l : Lexer} (h : l.scan.Valid) (c : Char) (cs : List Char) :
    l.rest (c :: cs) = after (l.token (c :: cs)) (c :: cs) := by
  unfold token
  split
  · rename_i hl
    simp [after, Lexer.rest, hl, shift, Mark.weight]
  · rename_i hl
    have hrest : l.rest (c :: cs) = l.scan.line (c :: cs) := by simp [Lexer.rest, hl]
    rw [hrest]
    split
    · rename_i hc
      rw [line_of_inComment hc, comment_cons h hc]
    · rename_i hc
      have hc : l.scan.inComment = false := by simpa using hc
      split
      · rename_i hs
        rw [line_of_inString hc hs, string_cons h hc hs]
      · rename_i hs
        have hs : l.scan.inString = false := by simpa using hs
        rw [line_of_code hc hs, code_cons hc hs]

@[simp] theorem rest_nil (l : Lexer) : l.rest [] = (l.scan, 0) := by
  unfold Lexer.rest
  split <;> simp

end Lexer

end TerraLint.Format
