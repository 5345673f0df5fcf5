import Mathlib.Data.List.TakeWhile
import TerraLint.Hcl.Parser
import TerraLint.Hcl.Quoting
import TerraLint.Proofs.Text.Trim

/-!
# Names, blanks and labels under a cursor

What the readers of single tokens do on a text that is known to start with the token: they give the
cursor right after it.

* `Cursor.name_append`: reading a name.
* `Cursor.skip_append`: skipping blanks.
* `Cursor.labels_append`: reading the labels of a block.
-/

namespace TerraLint.Hcl

open Text

namespace Cursor

/-! ## Names -/

theorem isNameRest_of_isNameStart {c : Char} (h : isNameStart c = true) : isNameRest c = true := by
  unfold isNameStart Unicode.isIdentifierStart at h
  unfold isNameRest Unicode.isIdentifierContinue
  by_cases hascii : c.toNat < 128
  · rw [if_pos hascii] at h ⊢
    rcases Bool.or_eq_true_iff.1 h with h | h
    · simp [Char.isAlphanum, h]
    · simp [h]
  · rw [if_neg hascii] at h ⊢
    rcases Bool.or_eq_true_iff.1 h with h | h
    · rw [h]
      rfl
    · obtain rfl := beq_iff_eq.1 h
      exact absurd (by decide) hascii

/-- The code points of blanks. -/
def blankPoints : List Nat :=
  [9, 10, 11, 12, 13, 0x20, 0x85, 0xA0, 0x1680, 0x2000, 0x2001, 0x2002, 0x2003, 0x2004, 0x2005,
    0x2006, 0x2007, 0x2008, 0x2009, 0x200A, 0x2028, 0x2029, 0x202F, 0x205F, 0x3000]

theorem mem_blankPoints {c : Char} (h : isBlank c = true) : c.toNat ∈ blankPoints := by
  simp only [isBlank, Bool.or_eq_true, Bool.and_eq_true, decide_eq_true_eq, beq_iff_eq] at h
  simp only [blankPoints, List.mem_cons, List.not_mem_nil]
  omega

theorem not_isBlank_of_isNameRest {c : Char} (h : isNameRest c = true) : isBlank c = false := by
  have hpoints : ∀ n ∈ blankPoints, isNameRest (Char.ofNat n) = false := by decide +kernel
  by_contra hb
  have hrest := hpoints c.toNat (mem_blankPoints (by simpa using hb))
  rw [Char.ofNat_toNat, h] at hrest
  cases hrest

/-- A text that is read as one name. -/
structure IsName (cs : List Char) : Prop where
  start : ∃ c rest, cs = c :: rest ∧ isNameStart c = true
  rest : ∀ c ∈ cs, isNameRest c = true

theorem isName_of_name {c next : Cursor} {name : String} (h : c.name = some (name, next)) :
    IsName name.toList ∧ c.rest = name.toList ++ next.rest ∧
      next.byte = c.byte + byteLength name.toList := by
  unfold Cursor.name at h
  split at h
  · rename_i ch rest hrest
    split at h
    · rename_i hch
      obtain ⟨rfl, rfl⟩ := Prod.mk.inj (Option.some.inj h)
      have hstart := isNameRest_of_isNameStart hch
      rw [String.toList_ofList]
      refine ⟨⟨⟨ch, rest.takeWhile isNameRest, ?_, hch⟩, fun d hd => ?_⟩, ?_, rfl⟩
      · rw [hrest, List.takeWhile_cons, if_pos hstart]
      · exact List.mem_takeWhile_imp hd
      · exact (List.takeWhile_append_dropWhile).symm
    · cases h
  · cases h

/-- What follows a name does not go on with it. -/
def endsName (rest : List Char) : Bool := !(rest.head?.any isNameRest)

theorem takeWhile_isNameRest {name rest : List Char} (h : ∀ c ∈ name, isNameRest c = true)
    (hend : endsName rest = true) : (name ++ rest).takeWhile isNameRest = name ∧
      (name ++ rest).dropWhile isNameRest = rest := by
  have hrest : rest.takeWhile isNameRest = [] ∧ rest.dropWhile isNameRest = rest := by
    cases rest with
    | nil => exact ⟨rfl, rfl⟩
    | cons d rest =>
      have hd : isNameRest d = false := by simpa [endsName] using hend
      simp [hd]
  rw [List.takeWhile_append_of_pos h, List.dropWhile_append_of_pos h, hrest.1, hrest.2,
    List.append_nil]
  exact ⟨rfl, rfl⟩

theorem name_append {name : String} (h : IsName name.toList) {rest : List Char}
    (hend : endsName rest = true) (byte : Nat) :
    Cursor.name ⟨name.toList ++ rest, byte⟩ =
      some (name, ⟨rest, byte + byteLength name.toList⟩) := by
  obtain ⟨⟨c, cs, hname, hc⟩, hrest⟩ := h
  obtain ⟨htake, hdrop⟩ := takeWhile_isNameRest hrest hend
  have hcons : name.toList ++ rest = c :: (cs ++ rest) := by rw [hname]; rfl
  unfold Cursor.name
  simp only [Cursor.takeWhile, htake, hdrop, String.ofList_toList]
  simp only [hcons, hc, if_true]

/-! ## Blanks -/

/-- Blanks that may stand between two tokens, line feeds only when `multiline`. -/
def isGap (multiline : Bool) (c : Char) : Bool := c == ' ' || c == '\t' || multiline && c == '\n'

/-- A character at which blanks and comments end. -/
def endsBlanks (c : Char) : Bool :=
  !(c == ' ' || c == '\t' || c == '\r' || c == '\n' || c == '#' || c == '/')

theorem blanks_append {multiline : Bool} {ws : List Char} (h : ∀ c ∈ ws, isGap multiline c = true)
    (rest : List Char) (byte : Nat) :
    blanks multiline byte (ws ++ rest) = blanks multiline (byte + byteLength ws) rest := by
  induction ws generalizing byte with
  | nil => rfl
  | cons c ws ih =>
    have hws := ih (fun d hd => h d (List.mem_cons_of_mem _ hd)) (byte + 1)
    have hc := h c List.mem_cons_self
    simp only [isGap, Bool.or_eq_true, Bool.and_eq_true, beq_iff_eq] at hc
    have hbyte : byte + (1 + byteLength ws) = byte + 1 + byteLength ws := by omega
    rcases hc with (rfl | rfl) | ⟨rfl, rfl⟩
    all_goals
      rw [List.cons_append, blanks, hws, byteLength_cons]
      exact congrArg (blanks _ · rest) hbyte.symm

theorem blanks_stop {multiline : Bool} {d : Char} (h : endsBlanks d = true) (rest : List Char)
    (byte : Nat) : blanks multiline byte (d :: rest) = some ⟨d :: rest, byte⟩ := by
  simp only [endsBlanks, Bool.not_eq_true', Bool.or_eq_false_iff, beq_eq_false_iff_ne] at h
  unfold blanks
  split <;> simp_all

theorem skip_append {multiline : Bool} {ws : List Char} (h : ∀ c ∈ ws, isGap multiline c = true)
    {d : Char} (hd : endsBlanks d = true) (rest : List Char) (byte : Nat) :
    Cursor.skip multiline ⟨ws ++ d :: rest, byte⟩ =
      some ⟨d :: rest, byte + byteLength ws⟩ := by
  unfold Cursor.skip
  rw [blanks_append h, blanks_stop hd]

end Cursor

/-! ## Labels -/

/-- A text that is written between quotes as it stands. -/
def Unescaped (label : String) : Prop := quoted label = "\"" ++ label ++ "\""

instance (label : String) : Decidable (Unescaped label) := inferInstanceAs (Decidable (_ = _))

/-- No marker in the text is followed by a brace. -/
def unmarked : List Char → Bool
  | c :: d :: cs => !(isMarker c && d == '{') && unmarked (d :: cs)
  | _ => true

theorem length_doubleMarkers (cs : List Char) : cs.length ≤ (doubleMarkers cs).length := by
  fun_induction doubleMarkers cs with
  | case1 => simp
  | case2 => simp
  | case3 => simp only [List.length_cons] at *; omega
  | case4 => simp only [List.length_cons] at *; omega
  | case5 => simp only [List.length_cons] at *; omega

theorem length_escapeMarkers (cs : List Char) :
    cs.length ≤ (escapeMarkers cs).length ∧
      ((escapeMarkers cs).length = cs.length → unmarked cs = true) := by
  fun_induction escapeMarkers cs with
  | case1 => simp [unmarked]
  | case2 => simp [unmarked]
  | case3 c d cs h =>
    obtain ⟨hc, hd⟩ : isMarker c = true ∧ d = '{' := by simpa using h
    have hlen := length_doubleMarkers cs
    simp only [doubleMarkers, hc, hd, if_true, List.length_cons]
    omega
  | case4 c d cs h ih =>
    simp only [List.length_cons] at ih ⊢
    refine ⟨by omega, fun heq => ?_⟩
    rw [unmarked, ih.2 (by omega), Bool.and_true, Bool.not_eq_true']
    exact Bool.eq_false_iff.2 h

theorem length_escapeChar (c : Char) : 0 < (escapeChar c).length := by
  unfold escapeChar
  split
  all_goals try simp
  split <;> simp

theorem escapeChar_of_length {c : Char} (h : (escapeChar c).length = 1) :
    escapeChar c = [c] := by
  unfold escapeChar at h ⊢
  split at h
  all_goals try simp at h
  split at h
  · simp at h
  · rename_i hc
    simp [hc]

theorem length_flatMap_escapeChar (cs : List Char) :
    cs.length ≤ (cs.flatMap escapeChar).length ∧
      ((cs.flatMap escapeChar).length = cs.length → ∀ c ∈ cs, escapeChar c = [c]) := by
  induction cs with
  | nil => simp
  | cons c cs ih =>
    have hc := length_escapeChar c
    simp only [List.flatMap_cons, List.length_append, List.length_cons]
    refine ⟨by omega, fun heq d hd => ?_⟩
    rcases List.mem_cons.1 hd with rfl | hd
    · exact escapeChar_of_length (by omega)
    · exact ih.2 (by omega) d hd

theorem Unescaped.eq {label : String} (h : Unescaped label) :
    (escapeMarkers label.toList).flatMap escapeChar = label.toList := by
  have hlist := congrArg String.toList h
  simpa [quoted] using hlist

/-- A label that is not escaped has no marker before a brace and only characters that stand for
themselves. -/
theorem Unescaped.chars {label : String} (h : Unescaped label) :
    unmarked label.toList = true ∧ ∀ c ∈ label.toList, escapeChar c = [c] := by
  obtain ⟨hle, hchars⟩ := length_flatMap_escapeChar (escapeMarkers label.toList)
  obtain ⟨hle', hmarked⟩ := length_escapeMarkers label.toList
  rw [h.eq] at hle hchars
  have hself := hchars (by omega)
  have hmarkers : escapeMarkers label.toList = label.toList := by
    conv_rhs => rw [← h.eq]
    rw [List.flatMap_congr hself, List.flatMap_singleton']
  rw [hmarkers] at hself hmarked
  exact ⟨hmarked rfl, hself⟩

theorem ne_of_escapeChar {c : Char} (h : escapeChar c = [c]) :
    c ≠ '"' ∧ c ≠ '\\' ∧ c ≠ '\n' ∧ c ≠ '\r' ∧ c ≠ '\t' := by
  refine ⟨?_, ?_, ?_, ?_, ?_⟩ <;>
  · rintro rfl
    revert h
    decide

/-- A text that stands for itself between quotes: it has no quotation mark, no backslash, and no marker
before a brace. -/
structure Verbatim (text : List Char) : Prop where
  quote : '"' ∉ text
  slash : '\\' ∉ text
  unmarked : unmarked text = true

theorem verbatim_nil : Verbatim [] := ⟨by simp, by simp, rfl⟩

theorem Verbatim.tail {c : Char} {cs : List Char} (h : Verbatim (c :: cs)) : Verbatim cs := by
  refine ⟨fun hmem => h.quote (List.mem_cons_of_mem _ hmem),
    fun hmem => h.slash (List.mem_cons_of_mem _ hmem), ?_⟩
  cases cs with
  | nil => rfl
  | cons d cs => exact (Bool.and_eq_true_iff.1 h.unmarked).2

theorem Unescaped.verbatim {label : String} (h : Unescaped label) : Verbatim label.toList := by
  obtain ⟨hm, hc⟩ := h.chars
  exact ⟨fun hmem => (ne_of_escapeChar (hc _ hmem)).1 rfl,
    fun hmem => (ne_of_escapeChar (hc _ hmem)).2.1 rfl, hm⟩

namespace Cursor

theorem quotedRun_cons {c : Char} {cs : List Char} (hquote : c ≠ '"') (hslash : c ≠ '\\')
    (hone : isMarker c = true → ∀ rest, cs ≠ '{' :: rest)
    (htwo : isMarker c = true → ∀ rest, cs ≠ c :: '{' :: rest) (taken : List Char) (byte : Nat) :
    quotedRun taken byte (c :: cs) = quotedRun (c :: taken) (byte + c.utf8Size) cs := by
  conv_lhs => unfold quotedRun
  split <;> simp_all [isMarker]

/-- Text between quotes that stands for itself is read as it stands. -/
theorem quotedRun_append {cs : List Char} (h : Verbatim cs) (rest taken : List Char) (byte : Nat) :
    quotedRun taken byte (cs ++ '"' :: rest) =
      endRun (cs.reverse ++ taken) ⟨'"' :: rest, byte + byteLength cs⟩ := by
  induction cs generalizing taken byte with
  | nil => rfl
  | cons c cs ih =>
    have hrun := ih h.tail (c :: taken) (byte + c.utf8Size)
    have hquote : c ≠ '"' := fun heq => h.quote (heq ▸ List.mem_cons_self)
    have hslash : c ≠ '\\' := fun heq => h.slash (heq ▸ List.mem_cons_self)
    have hm := h.unmarked
    have hm' := h.tail.unmarked
    -- A marker is followed by a brace nowhere, so that the character stands for itself.
    have hone : isMarker c = true → ∀ r, cs ++ '"' :: rest ≠ '{' :: r := by
      intro hmark r heq
      cases cs with
      | nil => simp at heq
      | cons d cs =>
        obtain rfl : d = '{' := (List.cons.inj heq).1
        simp [unmarked, hmark] at hm
    have htwo : isMarker c = true → ∀ r, cs ++ '"' :: rest ≠ c :: '{' :: r := by
      intro hmark r heq
      cases cs with
      | nil =>
        obtain rfl : '"' = c := (List.cons.inj heq).1
        exact hquote rfl
      | cons d cs =>
        obtain ⟨rfl, htail⟩ := List.cons.inj heq
        cases cs with
        | nil => simp at htail
        | cons e cs =>
          obtain rfl : e = '{' := (List.cons.inj htail).1
          simp [unmarked, hmark] at hm'
    rw [List.cons_append, quotedRun_cons hquote hslash hone htwo, hrun, List.reverse_cons,
      List.append_assoc, byteLength_cons, Nat.add_assoc]
    rfl

theorem expect_append (word rest : List Char) (byte : Nat) :
    expect word ⟨word ++ rest, byte⟩ = some ⟨rest, byte + byteLength word⟩ := by
  have hword : word.isPrefixOf (word ++ rest) = true := by
    rw [List.isPrefixOf_iff_prefix]
    exact List.prefix_append word rest
  unfold expect
  simp only [hword, if_true, List.drop_left]

theorem quotedRun_label {label : String} (h : Verbatim label.toList) (hne : label.toList ≠ [])
    (rest : List Char) (byte : Nat) : quotedRun [] byte (label.toList ++ '"' :: rest) =
      some (label, ⟨'"' :: rest, byte + byteLength label.toList⟩) := by
  rw [quotedRun_append h, endRun, List.append_nil, if_neg (by simpa using hne),
    List.reverse_reverse, String.ofList_toList]

/-- The label in quotes. -/
def labelText (label : String) : List Char := '"' :: (label.toList ++ ['"'])

theorem byteLength_labelText (label : String) :
    byteLength (labelText label) = 1 + byteLength label.toList + 1 := by
  have hquote : byteLength ['"'] = 1 := by decide
  rw [labelText, byteLength_cons, byteLength_append, hquote]
  have : Char.utf8Size '"' = 1 := by decide
  omega

theorem quotedLabel_append {label : String} (h : Verbatim label.toList) (rest : List Char) (byte : Nat) :
    quotedLabel ⟨labelText label ++ rest, byte⟩ =
      some (label, ⟨rest, byte + byteLength (labelText label)⟩) := by
  have hopen := expect_append ['"'] (label.toList ++ '"' :: rest) byte
  have hclose := expect_append ['"'] rest (byte + 1 + byteLength label.toList)
  have hquote : byteLength ['"'] = 1 := by decide
  rw [hquote] at hopen hclose
  have htext : labelText label ++ rest = ['"'] ++ (label.toList ++ '"' :: rest) := by
    simp [labelText]
  have hbyte : byte + byteLength (labelText label) = byte + 1 + byteLength label.toList + 1 := by
    rw [byteLength_labelText]
    omega
  unfold quotedLabel
  rw [htext, hopen, hbyte]
  simp only [Option.bind_eq_bind, Option.bind_some]
  split
  · rename_i r heq
    -- The quote that comes next is the closing one: the label has none.
    have hempty : label.toList = [] := by
      cases hlabel : label.toList with
      | nil => rfl
      | cons c cs =>
        rw [hlabel] at heq h
        exact absurd ((List.cons.inj heq).1 ▸ List.mem_cons_self) h.quote
    rw [hempty] at heq ⊢
    obtain rfl : rest = r := (List.cons.inj heq).2
    have hlabel : label = "" := by
      rw [← String.ofList_toList (s := label), hempty]
    rw [hlabel]
    rfl
  · rename_i hne
    have hlabel : label.toList ≠ [] := by
      intro hnil
      rw [hnil] at hne
      exact hne _ rfl
    rw [quotedRun_label h hlabel, Option.bind_some]
    exact congrArg (Option.bind · fun c => some (label, c)) hclose

theorem labels_label {label : String} (h : Verbatim label.toList) {d : Char} (hd : endsBlanks d = true)
    (n : Nat) (read : List String) (rest : List Char) (byte : Nat) :
    Cursor.labels (n + 1) read ⟨labelText label ++ ' ' :: d :: rest, byte⟩ =
      Cursor.labels n (read ++ [label]) ⟨d :: rest, byte + byteLength (labelText label ++ [' '])⟩ := by
  have hquoted := quotedLabel_append h (' ' :: d :: rest) byte
  have hskip : skipInline ⟨' ' :: d :: rest, byte + byteLength (labelText label)⟩ =
      some ⟨d :: rest, byte + byteLength (labelText label) + byteLength [' ']⟩ :=
    skip_append (show ∀ c ∈ [' '], isGap false c = true by simp [isGap]) hd rest _
  have hcons : labelText label ++ ' ' :: d :: rest =
      '"' :: (label.toList ++ ['"'] ++ ' ' :: d :: rest) := rfl
  rw [byteLength_append, ← Nat.add_assoc]
  conv_lhs => unfold Cursor.labels
  rw [hcons] at hquoted ⊢
  simp only [hquoted, hskip, Option.bind_eq_bind, Option.bind_some]

/-- Labels in quotes, with a space after each. -/
def labelsText (labels : List String) : List Char :=
  labels.flatMap fun label => labelText label ++ [' ']

theorem labels_append {ls : List String} (h : ∀ label ∈ ls, Verbatim label.toList) {n : Nat}
    (hn : ls.length < n) (read : List String) (rest : List Char) (byte : Nat) :
    Cursor.labels n read ⟨labelsText ls ++ '{' :: rest, byte⟩ =
      some (read ++ ls, ⟨'{' :: rest, byte + byteLength (labelsText ls)⟩) := by
  induction ls generalizing n read byte with
  | nil =>
    cases n with
    | zero => omega
    | succ n => simp [labelsText, Cursor.labels]
  | cons label ls ih =>
    cases n with
    | zero => omega
    | succ n =>
      have hnext : ∃ d r, labelsText ls ++ '{' :: rest = d :: r ∧ endsBlanks d = true := by
        cases ls with
        | nil => exact ⟨'{', rest, rfl, by decide⟩
        | cons l ls => exact ⟨'"', _, rfl, by decide⟩
      obtain ⟨d, r, hr, hd⟩ := hnext
      have htext : labelsText (label :: ls) ++ '{' :: rest = labelText label ++ ' ' :: d :: r := by
        rw [← hr]
        simp [labelsText]
      have hbyte : byteLength (labelsText (label :: ls)) =
          byteLength (labelText label ++ [' ']) + byteLength (labelsText ls) := by
        rw [labelsText, List.flatMap_cons, byteLength_append]
        rfl
      rw [htext, labels_label (h label List.mem_cons_self) hd, ← hr,
        ih (fun l hl => h l (List.mem_cons_of_mem _ hl)) (by simp only [List.length_cons] at hn; omega),
        hbyte, List.append_assoc, Nat.add_assoc]
      rfl

end Cursor

end TerraLint.Hcl
