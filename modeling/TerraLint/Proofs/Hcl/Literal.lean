import TerraLint.Proofs.Hcl.Cursor

/-!
# Runs of literal text

Literal text of a template is read piece by piece: a marker written twice before a brace, an escape
between quotes, or a character that stands for itself. It ends before a sequence, before what closes
the template, and behind an escape that is not known.

* `Closer.run`: the three readers of literal text, by what closes their template.
* `Closer.Takes`, `Closer.Ends`, `Closer.step`: what one call of a reader does.
* `Closer.Runs`, `Closer.run_iff`: what is read, call by call.
-/

namespace TerraLint.Hcl

open Text Cursor

/-- Whether an interpolation or a directive starts here. -/
def startsSequence : List Char → Bool
  | '$' :: '{' :: _ => true
  | '%' :: '{' :: _ => true
  | _ => false

theorem startsSequence_iff {cs : List Char} :
    startsSequence cs = true ↔ ['$', '{'] <+: cs ∨ ['%', '{'] <+: cs := by
  constructor
  · intro h
    unfold startsSequence at h
    split at h
    · exact .inl ⟨_, rfl⟩
    · exact .inr ⟨_, rfl⟩
    · cases h
  · rintro (⟨cs, rfl⟩ | ⟨cs, rfl⟩)
    all_goals rfl

theorem eq_of_isMarker {x : Char} (hx : isMarker x = true) : x = '$' ∨ x = '%' := by
  simpa [isMarker] using hx

theorem startsSequence_of_isMarker {x : Char} (hx : isMarker x = true) (rest : List Char) :
    startsSequence (x :: '{' :: rest) = true := by
  rcases eq_of_isMarker hx with rfl | rfl
  all_goals rfl

/-- A letter behind a backslash that some number of hexadecimal digits follows. -/
def MarksDigits (mark : Char) (n : Nat) : Prop := mark = 'u' ∧ n = 4 ∨ mark = 'U' ∧ n = 8

/-- No hexadecimal digits of a character start here. -/
def Undecoded (n : Nat) (cs : List Char) : Prop :=
  ∀ digits rest, digits.length = n → cs = digits ++ rest →
    (hexNumber digits >>= charOfCode) = none

namespace Closer

/-- Reads literal text of a template behind literal text that was read already. -/
def run (taken : List Char) : Closer → Cursor → Option (String × Cursor)
  | .quote, c => quotedRun taken c.byte c.rest
  | .terminator id, c => heredocRun id taken c.byte c.rest
  | .endOfText, c => some (plainRun taken c.byte c.rest)

/-- A character that nothing but its own kind of template treats in a special way does not end literal
text. -/
def Passes : Closer → Char → List Char → Prop
  | .quote, x, _ => x ≠ '"' ∧ x ≠ '\\'
  | .terminator id, x, cs => closesHeredoc id (x :: cs) = false
  | .endOfText, _, _ => True

end Closer

/-- A character that stands for itself in literal text. -/
structure Ordinary (closer : Closer) (x : Char) (cs : List Char) : Prop where
  single : isMarker x = true → ¬['{'] <+: cs
  double : isMarker x = true → ¬[x, '{'] <+: cs
  passes : closer.Passes x cs

namespace Closer

/-- What a reader takes off a text before what is left, and what it reads for it, the last character
first. -/
inductive Takes : Closer → List Char → List Char → List Char → Prop
  | doubled {closer : Closer} {x : Char} {rest : List Char} (hx : isMarker x = true) :
    Takes closer [x, x, '{'] ['{', x] rest
  | char {closer : Closer} {x : Char} {rest : List Char} (h : Ordinary closer x rest) :
    Takes closer [x] [x] rest
  | escape {x ch : Char} {rest : List Char} (hch : simpleEscape x = some ch) :
    Takes quote ['\\', x] [ch] rest
  | decoded {mark ch : Char} {digits rest : List Char} (hmark : MarksDigits mark digits.length)
    (hch : (hexNumber digits >>= charOfCode) = some ch) :
    Takes quote ('\\' :: mark :: digits) [ch] rest

/-- Where a reader ends, and what it drops there: an escape that is not known. -/
inductive Ends : Closer → List Char → List Char → Prop
  | sequence {closer : Closer} {rest : List Char} (h : startsSequence rest = true) :
    Ends closer [] rest
  | closing {closer : Closer} {rest : List Char} (h : closer.comesNext rest = true) :
    Ends closer [] rest
  | unknown {x : Char} {rest : List Char} (hx : simpleEscape x = none)
    (h : ∀ n, MarksDigits x n → Undecoded n rest) : Ends quote ['\\', x] rest

/-- Whether a run may end with what was read. It is not empty, unless its template ends with the
text. -/
def Finishes (closer : Closer) (taken : List Char) : Prop := closer = endOfText ∨ taken ≠ []

end Closer

/-! ## Digits and marks -/

theorem byteLength_singleton (x : Char) : byteLength [x] = x.utf8Size := by
  rw [byteLength_cons, byteLength_nil, Nat.add_zero]

theorem utf8Size_of_hexDigit {c : Char} {n : Nat} (h : hexDigit c = some n) : c.utf8Size = 1 := by
  have hle : c ≤ 'f' := by
    unfold hexDigit at h
    split at h
    · rename_i hdigit
      simp only [Char.isDigit, Bool.and_eq_true, decide_eq_true_eq] at hdigit
      exact UInt32.le_trans hdigit.2 (by decide : (57 : UInt32) ≤ 102)
    split at h
    · rename_i hlower
      exact hlower.2
    split at h
    · rename_i hupper
      exact Char.le_trans hupper.2 (by decide)
    · cases h
  have hval : c.val ≤ 0x7f := UInt32.le_trans hle (by decide : (102 : UInt32) ≤ 0x7f)
  exact if_pos hval

theorem hexDigit_of_hexNumber {digits : List Char} {n : Nat} (h : hexNumber digits = some n) {c : Char}
    (hc : c ∈ digits) : ∃ k, hexDigit c = some k := by
  obtain ⟨before, after, rfl⟩ := List.append_of_mem hc
  refine Option.ne_none_iff_exists'.1 fun hnone => ?_
  simp [hexNumber, List.foldlM_append, List.foldlM_cons, hnone] at h

theorem byteLength_eq_length {cs : List Char} (h : ∀ c ∈ cs, c.utf8Size = 1) :
    byteLength cs = cs.length := by
  induction cs with
  | nil => rfl
  | cons c cs ih =>
    obtain ⟨hc, hcs⟩ := List.forall_mem_cons.1 h
    rw [byteLength_cons, hc, ih hcs, List.length_cons, Nat.add_comm]

/-- Hexadecimal digits take one byte each, so an escape is as long as it has characters. -/
theorem byteLength_of_hexNumber {digits : List Char} {n : Nat} (h : hexNumber digits = some n) :
    byteLength digits = digits.length := by
  refine byteLength_eq_length fun c hc => ?_
  obtain ⟨k, hk⟩ := hexDigit_of_hexNumber h hc
  exact utf8Size_of_hexDigit hk

theorem exists_of_length_eight {digits : List Char} (h : digits.length = 8) :
    ∃ a b c d e f g i, digits = [a, b, c, d, e, f, g, i] := by
  obtain ⟨a, b, c, d, hfirst⟩ := List.length_eq_four.1 (show (digits.take 4).length = 4 by simp [h])
  obtain ⟨e, f, g, i, hlast⟩ := List.length_eq_four.1 (show (digits.drop 4).length = 4 by simp [h])
  exact ⟨a, b, c, d, e, f, g, i, by rw [← List.take_append_drop 4 digits, hfirst, hlast]; rfl⟩

/-! ## Escapes -/

section Escapes

variable {taken rest digits : List Char} {byte : Nat} {x mark ch : Char}

theorem quotedRun_escape (hch : simpleEscape x = some ch) :
    quotedRun taken byte ('\\' :: x :: rest) =
      quotedRun (ch :: taken) (byte + 1 + x.utf8Size) rest := by
  have hu : x ≠ 'u' := by
    rintro rfl
    cases hch
  have hU : x ≠ 'U' := by
    rintro rfl
    cases hch
  rw [quotedRun, hch]
  · exact fun _ _ _ _ _ h _ => hu h
  · exact hu
  · exact fun _ _ _ _ _ _ _ _ _ h _ => hU h
  · exact hU

theorem quotedRun_unknown (hx : simpleEscape x = none) (hmark : ∀ n, ¬MarksDigits x n) :
    quotedRun taken byte ('\\' :: x :: rest) = endRun taken ⟨rest, byte + 1 + x.utf8Size⟩ := by
  have hu : x ≠ 'u' := fun h => hmark 4 (.inl ⟨h, rfl⟩)
  have hU : x ≠ 'U' := fun h => hmark 8 (.inr ⟨h, rfl⟩)
  rw [quotedRun, hx]
  · exact fun _ _ _ _ _ h _ => hu h
  · exact hu
  · exact fun _ _ _ _ _ _ _ _ _ h _ => hU h
  · exact hU

theorem quotedRun_decoded (hmark : MarksDigits mark digits.length)
    (hch : (hexNumber digits >>= charOfCode) = some ch) :
    quotedRun taken byte ('\\' :: mark :: digits ++ rest) =
      quotedRun (ch :: taken) (byte + byteLength ('\\' :: mark :: digits)) rest := by
  obtain ⟨n, hn, -⟩ := Option.bind_eq_some_iff.1 hch
  rw [byteLength_cons, byteLength_cons, byteLength_of_hexNumber hn]
  rcases hmark with ⟨rfl, hlength⟩ | ⟨rfl, hlength⟩
  · obtain ⟨a, b, c, d, rfl⟩ := List.length_eq_four.1 hlength
    change quotedRun taken byte ('\\' :: 'u' :: a :: b :: c :: d :: rest) = _
    rw [quotedRun, hch]
    rfl
  · obtain ⟨a, b, c, d, e, f, g, i, rfl⟩ := exists_of_length_eight hlength
    change quotedRun taken byte ('\\' :: 'U' :: a :: b :: c :: d :: e :: f :: g :: i :: rest) = _
    rw [quotedRun, hch]
    rfl

theorem quotedRun_undecoded {n : Nat} (hmark : MarksDigits mark n) (h : Undecoded n rest) :
    quotedRun taken byte ('\\' :: mark :: rest) = endRun taken ⟨rest, byte + 2⟩ := by
  rcases hmark with ⟨rfl, rfl⟩ | ⟨rfl, rfl⟩
  · by_cases hlong : ∃ a b c d more, rest = a :: b :: c :: d :: more
    · obtain ⟨a, b, c, d, more, rfl⟩ := hlong
      rw [quotedRun, h [a, b, c, d] more rfl rfl]
    · rw [quotedRun]
      rintro a b c d more rfl
      exact hlong ⟨a, b, c, d, more, rfl⟩
  · by_cases hlong : ∃ a b c d e f g i more, rest = a :: b :: c :: d :: e :: f :: g :: i :: more
    · obtain ⟨a, b, c, d, e, f, g, i, more, rfl⟩ := hlong
      rw [quotedRun, h [a, b, c, d, e, f, g, i] more rfl rfl]
    · rw [quotedRun]
      rintro a b c d e f g i more rfl
      exact hlong ⟨a, b, c, d, e, f, g, i, more, rfl⟩

end Escapes

/-! ## Terminators -/

theorem closesHeredoc_cons {id cs : List Char} {x : Char} (hx : x ≠ '\n' ∧ x ≠ '\r') :
    closesHeredoc id (x :: cs) = false := by
  have hbreak : lineBreakText (x :: cs) = [] := by
    unfold lineBreakText
    split
    · rename_i heq
      exact absurd (List.cons.inj heq).1 hx.1
    · rename_i heq
      exact absurd (List.cons.inj heq).1 hx.2
    · rfl
  unfold closesHeredoc
  rw [hbreak]

theorem heredocRun_of_closes {id taken cs : List Char} {byte : Nat}
    (h : closesHeredoc id cs = true) : heredocRun id taken byte cs = endRun taken ⟨cs, byte⟩ := by
  rw [heredocRun.eq_def]
  split
  · cases h
  · cases h
  · cases h
  · cases h
  · rw [if_pos h]
  · cases h

/-! ## The readers, call by call -/

namespace Closer

variable {closer : Closer} {w y rest cs taken : List Char} {x : Char} {c d : Cursor}
  {text : String}

theorem Takes.ne_nil (h : closer.Takes w y rest) : w ≠ [] ∧ y ≠ [] := by
  cases h with
  | _ => exact ⟨List.cons_ne_nil _ _, List.cons_ne_nil _ _⟩

theorem run_of_ordinary (h : Ordinary closer x rest) (taken : List Char) (byte : Nat) :
    closer.run taken ⟨x :: rest, byte⟩ = closer.run (x :: taken) ⟨rest, byte + x.utf8Size⟩ := by
  have hdouble : ∀ {m more}, isMarker m = true → x = m → rest = m :: '{' :: more → False := by
    rintro m more hm rfl rfl
    exact h.double hm ⟨more, rfl⟩
  have hsingle : ∀ {m more}, isMarker m = true → x = m → rest = '{' :: more → False := by
    rintro m more hm rfl rfl
    exact h.single hm ⟨more, rfl⟩
  cases closer with
  | quote =>
    exact quotedRun_cons h.passes.1 h.passes.2 (fun hx more hrest => hsingle hx rfl hrest)
      (fun hx more hrest => hdouble hx rfl hrest) taken byte
  | terminator id =>
    dsimp only [run]
    rw [heredocRun, if_neg (Bool.eq_false_iff.1 h.passes)]
    · exact fun _ => hdouble rfl
    · exact fun _ => hdouble rfl
    · exact fun _ => hsingle rfl
    · exact fun _ => hsingle rfl
  | endOfText =>
    dsimp only [run]
    rw [plainRun]
    · exact fun _ => hdouble rfl
    · exact fun _ => hdouble rfl
    · exact fun _ => hsingle rfl
    · exact fun _ => hsingle rfl

theorem run_of_takes (h : closer.Takes w y rest) (taken : List Char) (byte : Nat) :
    closer.run taken ⟨w ++ rest, byte⟩ = closer.run (y ++ taken) ⟨rest, byte + byteLength w⟩ := by
  cases h with
  | doubled hx =>
    rcases eq_of_isMarker hx with rfl | rfl
    all_goals
      cases closer with
      | quote => exact quotedRun.eq_def _ _ _
      | terminator id => exact heredocRun.eq_def _ _ _ _
      | endOfText => exact congrArg some (plainRun.eq_def _ _ _)
  | char h =>
    rw [byteLength_singleton]
    exact run_of_ordinary h taken byte
  | escape hch =>
    rw [byteLength_cons, byteLength_singleton, ← Nat.add_assoc]
    exact quotedRun_escape hch
  | decoded hmark hch => exact quotedRun_decoded hmark hch

instance (closer : Closer) (taken : List Char) : Decidable (closer.Finishes taken) :=
  inferInstanceAs (Decidable (closer = endOfText ∨ taken ≠ []))

theorem finishes_iff (h : closer ≠ endOfText) : closer.Finishes taken ↔ taken ≠ [] :=
  or_iff_right h

theorem endRun_eq (h : closer ≠ endOfText) (taken : List Char) (c : Cursor) : endRun taken c =
    if closer.Finishes taken then some (String.ofList taken.reverse, c) else none := by
  unfold endRun
  cases taken with
  | nil => rw [if_pos List.isEmpty_nil, if_neg ((finishes_iff h).not.2 (not_not.2 rfl))]
  | cons x taken => rw [if_neg (by simp), if_pos ((finishes_iff h).2 (List.cons_ne_nil _ _))]

/-- What a reader gives where it ends. -/
theorem run_of_ends (h : closer.Ends w rest) (taken : List Char) (byte : Nat) :
    closer.run taken ⟨w ++ rest, byte⟩ = if closer.Finishes taken then
      some (String.ofList taken.reverse, ⟨rest, byte + byteLength w⟩) else none := by
  have hplain : ∀ c : Cursor, some (String.ofList taken.reverse, c) = if endOfText.Finishes taken then
      some (String.ofList taken.reverse, c) else none := fun c => (if_pos (.inl rfl)).symm
  cases h with
  | sequence h =>
    rcases startsSequence_iff.1 h with ⟨more, rfl⟩ | ⟨more, rfl⟩
    all_goals
      cases closer with
      | quote => exact endRun_eq (by decide) taken _
      | terminator id => exact endRun_eq (by simp) taken _
      | endOfText => exact hplain _
  | closing h =>
    cases closer with
    | quote =>
      obtain ⟨more, rfl⟩ := List.head?_eq_some_iff.1 (by simpa [comesNext] using h)
      exact endRun_eq (by decide) taken _
    | terminator id => exact (heredocRun_of_closes h).trans (endRun_eq (by simp) taken _)
    | endOfText =>
      obtain rfl := List.isEmpty_iff.1 h
      exact hplain _
  | @unknown x _ hx h =>
    refine Eq.trans ?_ (endRun_eq (by decide) taken _)
    change quotedRun taken byte ('\\' :: x :: rest) = _
    by_cases hmark : ∃ n, MarksDigits x n
    · obtain ⟨n, hn⟩ := hmark
      rw [quotedRun_undecoded hn (h n hn)]
      rcases hn with ⟨rfl, -⟩ | ⟨rfl, -⟩
      all_goals rfl
    · rw [quotedRun_unknown hx fun n hn => hmark ⟨n, hn⟩, byteLength_cons, byteLength_singleton,
        ← Nat.add_assoc]
      rfl

/-- A backslash starts an escape, unless it is the last character. -/
theorem step_escape (x : Char) (cs : List Char) :
    (∃ w rest, '\\' :: x :: cs = w ++ rest ∧ quote.Ends w rest) ∨
      ∃ w y rest, '\\' :: x :: cs = w ++ rest ∧ quote.Takes w y rest := by
  cases hch : simpleEscape x with
  | some ch => exact .inr ⟨['\\', x], [ch], cs, rfl, .escape hch⟩
  | none =>
    by_cases h : ∀ n, MarksDigits x n → Undecoded n cs
    · exact .inl ⟨['\\', x], cs, rfl, .unknown hch h⟩
    · simp only [Undecoded, not_forall] at h
      obtain ⟨n, hmark, digits, rest, rfl, rfl, hnum⟩ := h
      obtain ⟨ch, hch⟩ := Option.ne_none_iff_exists'.1 hnum
      exact .inr ⟨'\\' :: x :: digits, [ch], rest, rfl, .decoded hmark hch⟩

/-- A reader ends, or takes something, or refuses the text wherever it stands. -/
theorem step (closer : Closer) (cs : List Char) : (∃ w rest, cs = w ++ rest ∧ closer.Ends w rest) ∨
    (∃ w y rest, cs = w ++ rest ∧ closer.Takes w y rest) ∨
      ∀ taken byte, closer.run taken ⟨cs, byte⟩ = none := by
  by_cases hseq : startsSequence cs = true
  · exact .inl ⟨[], cs, rfl, .sequence hseq⟩
  by_cases hclose : closer.comesNext cs = true
  · exact .inl ⟨[], cs, rfl, .closing hclose⟩
  cases cs with
  | nil =>
    cases closer with
    | quote | terminator => exact .inr (.inr fun _ _ => rfl)
    | endOfText => exact absurd rfl hclose
  | cons x cs =>
    by_cases hdouble : isMarker x = true ∧ [x, '{'] <+: cs
    · obtain ⟨hx, rest, rfl⟩ := hdouble
      exact .inr (.inl ⟨[x, x, '{'], ['{', x], rest, rfl, .doubled hx⟩)
    by_cases hpass : closer.Passes x cs
    · refine .inr (.inl ⟨[x], [x], cs, rfl, .char ⟨?_, fun hx h => hdouble ⟨hx, h⟩, hpass⟩⟩)
      rintro hx ⟨rest, rfl⟩
      exact hseq (startsSequence_of_isMarker hx rest)
    · -- Only a backslash between quotes is left.
      cases closer with
      | quote =>
        obtain rfl : x = '\\' := by
          by_contra hslash
          exact hpass ⟨by simpa [comesNext] using hclose, hslash⟩
        cases cs with
        | nil => exact .inr (.inr fun _ _ => rfl)
        | cons x cs => exact (step_escape x cs).imp_right .inl
      | terminator id => exact absurd (Bool.eq_false_iff.2 hclose) hpass
      | endOfText => exact absurd trivial hpass

/-- What holds where a reader ends, where it refuses the text, and with what it takes, holds of every
text. -/
theorem induction {P : List Char → Prop} (closer : Closer)
    (ends : ∀ {w rest}, closer.Ends w rest → P (w ++ rest))
    (takes : ∀ {w y rest}, closer.Takes w y rest → P rest → P (w ++ rest))
    (refuses : ∀ {cs}, (∀ taken byte, closer.run taken ⟨cs, byte⟩ = none) → P cs)
    (cs : List Char) : P cs := by
  induction hlength : cs.length using Nat.strong_induction_on generalizing cs with
  | _ n ih =>
    rcases closer.step cs with ⟨w, rest, rfl, h⟩ | ⟨w, y, rest, rfl, h⟩ | h
    · exact ends h
    · have hpos := List.length_pos_iff.2 h.ne_nil.1
      rw [List.length_append] at hlength
      exact takes h (ih rest.length (by omega) rest rfl)
    · exact refuses h

/-- A run of literal text from one cursor to another, behind what was read already. -/
inductive Runs (closer : Closer) : List Char → Cursor → String → Cursor → Prop
  | stop {taken w rest : List Char} {byte : Nat} (h : closer.Ends w rest)
    (hfinish : closer.Finishes taken) : Runs closer taken ⟨w ++ rest, byte⟩
      (String.ofList taken.reverse) ⟨rest, byte + byteLength w⟩
  | take {taken w y rest : List Char} {byte : Nat} {text : String} {d : Cursor}
    (h : closer.Takes w y rest)
    (hmore : Runs closer (y ++ taken) ⟨rest, byte + byteLength w⟩ text d) :
    Runs closer taken ⟨w ++ rest, byte⟩ text d

theorem Runs.here (h : closer.Ends [] c.rest) (hfinish : closer.Finishes taken) :
    closer.Runs taken c (String.ofList taken.reverse) c := .stop h hfinish

theorem runs_of_run {byte : Nat} (h : closer.run taken ⟨cs, byte⟩ = some (text, d)) :
    closer.Runs taken ⟨cs, byte⟩ text d := by
  induction cs using closer.induction generalizing taken byte with
  | ends hends =>
    rw [run_of_ends hends] at h
    split at h
    · obtain ⟨rfl, rfl⟩ := Prod.mk.inj (Option.some.inj h)
      exact .stop hends ‹_›
    · cases h
  | takes htakes ih =>
    rw [run_of_takes htakes] at h
    exact .take htakes (ih h)
  | refuses hnone =>
    rw [hnone] at h
    cases h

theorem Runs.run (h : closer.Runs taken c text d) : closer.run taken c = some (text, d) := by
  induction h with
  | stop hends hfinish => exact (run_of_ends hends _ _).trans (if_pos hfinish)
  | take htakes _ ih => exact (run_of_takes htakes _ _).trans ih

theorem run_iff : closer.run taken c = some (text, d) ↔ closer.Runs taken c text d :=
  ⟨runs_of_run, Runs.run⟩

end Closer

theorem Cursor.quotedRun_iff {taken cs : List Char} {byte : Nat} {text : String} {d : Cursor} :
    quotedRun taken byte cs = some (text, d) ↔ Closer.quote.Runs taken ⟨cs, byte⟩ text d :=
  @Closer.run_iff .quote taken ⟨cs, byte⟩ d text

theorem Cursor.heredocRun_iff {id taken cs : List Char} {byte : Nat} {text : String} {d : Cursor} :
    heredocRun id taken byte cs = some (text, d) ↔
      (Closer.terminator id).Runs taken ⟨cs, byte⟩ text d :=
  @Closer.run_iff (.terminator id) taken ⟨cs, byte⟩ d text

end TerraLint.Hcl
