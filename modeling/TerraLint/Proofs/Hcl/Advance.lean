import TerraLint.Proofs.Hcl.Literal
import TerraLint.Proofs.Hcl.Trivia
import TerraLint.Proofs.Text.Lines

/-!
# Readers move forward

Whatever a reader of tokens gives, the cursor after it stands further on in the same text: what was
read is the text in between. A reader that ends with a token leaves no blank behind.

* `Reaches`: a cursor stands at or after another.
* `Closes`: the text between two cursors ends with a token.
-/

namespace TerraLint.Hcl

open Text

/-- The second cursor stands at or after the first one in the same text. -/
def Reaches (c d : Cursor) : Prop :=
  ∃ taken, c.rest = taken ++ d.rest ∧ d.byte = c.byte + byteLength taken

/-- The text between two cursors is not empty and does not end with a blank. -/
def Closes (c d : Cursor) : Prop :=
  ∃ taken, Solid taken ∧ c.rest = taken ++ d.rest ∧ d.byte = c.byte + byteLength taken

theorem Reaches.refl (c : Cursor) : Reaches c c := ⟨[], rfl, rfl⟩

theorem Reaches.trans {c d e : Cursor} (h : Reaches c d) (h' : Reaches d e) : Reaches c e := by
  obtain ⟨a, ha, hab⟩ := h
  obtain ⟨b, hb, hbb⟩ := h'
  refine ⟨a ++ b, by rw [ha, hb, List.append_assoc], ?_⟩
  rw [hbb, hab, byteLength_append, Nat.add_assoc]

theorem Closes.reaches {c d : Cursor} (h : Closes c d) : Reaches c d := by
  obtain ⟨taken, -, hrest, hbyte⟩ := h
  exact ⟨taken, hrest, hbyte⟩

/-- Blanks may stand before a token, not behind it. -/
theorem Reaches.closes {c d e : Cursor} (h : Reaches c d) (h' : Closes d e) : Closes c e := by
  obtain ⟨a, ha, hab⟩ := h
  obtain ⟨b, hsolid, hb, hbb⟩ := h'
  refine ⟨a ++ b, hsolid.append a, by rw [ha, hb, List.append_assoc], ?_⟩
  rw [hbb, hab, byteLength_append, Nat.add_assoc]

theorem Reaches.length_le {c d : Cursor} (h : Reaches c d) : d.rest.length ≤ c.rest.length := by
  obtain ⟨taken, hrest, -⟩ := h
  rw [hrest, List.length_append]
  omega

/-- A token takes text away. This bounds how deep the readers call each other. -/
theorem Closes.length_lt {c d : Cursor} (h : Closes c d) : d.rest.length < c.rest.length := by
  obtain ⟨taken, hsolid, hrest, -⟩ := h
  have hpos := List.length_pos_iff.2 hsolid.ne_nil
  rw [hrest, List.length_append]
  omega

theorem Reaches.byte_le {c d : Cursor} (h : Reaches c d) : c.byte ≤ d.byte := by
  obtain ⟨taken, -, hbyte⟩ := h
  omega

/-- The offset between two cursors is that of the text between them. -/
theorem Reaches.byte_eq {c d : Cursor} (h : Reaches c d) {taken : List Char}
    (hrest : c.rest = taken ++ d.rest) : d.byte = c.byte + byteLength taken := by
  obtain ⟨taken', hrest', hbyte⟩ := h
  obtain rfl : taken = taken' := List.append_cancel_right (hrest.symm.trans hrest')
  exact hbyte

theorem byteLength_pos {cs : List Char} (h : cs ≠ []) : 0 < byteLength cs := by
  obtain ⟨c, rest, rfl⟩ := List.exists_cons_of_ne_nil h
  have hc := c.utf8Size_pos
  rw [byteLength_cons]
  omega

theorem Closes.byte_lt {c d : Cursor} (h : Closes c d) : c.byte < d.byte := by
  obtain ⟨taken, hsolid, -, hbyte⟩ := h
  have hpos := byteLength_pos hsolid.ne_nil
  omega

/-- A text without blanks is a token as good as any. -/
theorem solid_of_not_isBlank {cs : List Char} (hne : cs ≠ []) (h : ∀ c ∈ cs, isBlank c = false) :
    Solid cs := by
  refine ⟨hne, ?_⟩
  rw [trimEnd_eq_rdropWhile, List.rdropWhile_eq_self_iff]
  intro hl
  simp [h _ (List.getLast_mem hl)]

theorem reaches_append (w rest : List Char) (byte : Nat) :
    Reaches ⟨w ++ rest, byte⟩ ⟨rest, byte + byteLength w⟩ := ⟨w, rfl, rfl⟩

/-- One character was read. -/
theorem reaches_cons {c : Cursor} {ch : Char} {rest : List Char} (h : c.rest = ch :: rest)
    (hsize : ch.utf8Size = 1) : Reaches c ⟨rest, c.byte + 1⟩ :=
  ⟨[ch], h, by rw [byteLength_cons, byteLength_nil, hsize]⟩

theorem closes_cons {c : Cursor} {ch : Char} {rest : List Char} (h : c.rest = ch :: rest)
    (hsize : ch.utf8Size = 1) (hblank : isBlank ch = false) : Closes c ⟨rest, c.byte + 1⟩ :=
  ⟨[ch], solid_of_not_isBlank (by simp) (by simpa using hblank), h,
    by rw [byteLength_cons, byteLength_nil, hsize]⟩

/-- Blanks and comments only take text away. -/
theorem Trivia.Skips.reaches {s : Trivia} {c d : Cursor} (h : s.Skips c d) : Reaches c d := by
  induction h with
  | stop => exact .refl _
  | take _ _ ih => exact (reaches_append _ _ _).trans ih

/-- A run of literal text ends before what it cannot read. Of a wrong escape it takes two
characters. -/
theorem Closer.Runs.reaches {closer : Closer} {taken : List Char} {c d : Cursor} {text : String}
    (h : closer.Runs taken c text d) : Reaches c d := by
  induction h with
  | stop => exact reaches_append _ _ _
  | take _ _ ih => exact (reaches_append _ _ _).trans ih

namespace Cursor

/-! ## Blanks -/

theorem reaches_skip {m : Bool} {c d : Cursor} (h : c.skip m = some d) : Reaches c d :=
  (skip_iff.1 h).reaches

theorem reaches_lineBreak {c d : Cursor} (h : c.lineBreak = some d) : Reaches c d := by
  obtain ⟨w, -, hrest, hbyte⟩ := lineBreak_iff.1 h
  exact ⟨w, hrest, hbyte⟩

/-! ## Tokens -/

/-- What is expected is read exactly if it comes next. -/
theorem expect_eq_some {w : List Char} {c d : Cursor} :
    c.expect w = some d ↔ c.rest = w ++ d.rest ∧ d.byte = c.byte + byteLength w := by
  unfold expect
  constructor
  · intro h
    split at h
    · rename_i hpre
      obtain ⟨rest, hrest⟩ := List.isPrefixOf_iff_prefix.1 hpre
      obtain rfl := Option.some.inj h
      rw [← hrest, List.drop_left]
      exact ⟨rfl, rfl⟩
    · cases h
  · rintro ⟨hrest, hbyte⟩
    rw [if_pos (by rw [hrest]; simp), hrest, List.drop_left, ← hbyte]

theorem reaches_expect {w : List Char} {c d : Cursor} (h : c.expect w = some d) : Reaches c d := by
  obtain ⟨hrest, hbyte⟩ := expect_eq_some.1 h
  exact ⟨w, hrest, hbyte⟩

theorem closes_expect {w : List Char} (hw : Solid w) {c d : Cursor} (h : c.expect w = some d) :
    Closes c d := by
  obtain ⟨hrest, hbyte⟩ := expect_eq_some.1 h
  exact ⟨w, hw, hrest, hbyte⟩

theorem reaches_skipIf (w : List Char) (c : Cursor) : Reaches c (c.skipIf w).2 := by
  unfold skipIf
  split
  · rename_i h
    exact reaches_expect h
  · exact .refl c

theorem reaches_takeWhile (p : Char → Bool) (c : Cursor) : Reaches c (c.takeWhile p).2 :=
  ⟨c.rest.takeWhile p, (List.takeWhile_append_dropWhile).symm, rfl⟩

theorem IsName.solid {cs : List Char} (h : IsName cs) : Solid cs := by
  obtain ⟨⟨c, rest, rfl, -⟩, hrest⟩ := h
  exact solid_of_not_isBlank (by simp) fun d hd => not_isBlank_of_isNameRest (hrest d hd)

/-- A name is a token. -/
theorem closes_name {c d : Cursor} {name : String} (h : c.name = some (name, d)) : Closes c d := by
  obtain ⟨hname, hrest, hbyte⟩ := isName_of_name h
  exact ⟨name.toList, hname.solid, hrest, hbyte⟩

theorem not_isBlank_of_isDigit {c : Char} (h : c.isDigit = true) : isBlank c = false := by
  by_contra hb
  have hpoints : ∀ n ∈ blankPoints, (Char.ofNat n).isDigit = false := by decide
  have hdigit := hpoints c.toNat (mem_blankPoints (by simpa using hb))
  rw [Char.ofNat_toNat, h] at hdigit
  cases hdigit

theorem closes_digits {c : Cursor} (h : (c.takeWhile Char.isDigit).1.isEmpty = false) :
    Closes c (c.takeWhile Char.isDigit).2 := by
  refine ⟨c.rest.takeWhile Char.isDigit, solid_of_not_isBlank ?_ ?_,
    (List.takeWhile_append_dropWhile).symm, rfl⟩
  · intro hnil
    rw [takeWhile, hnil] at h
    cases h
  · exact fun d hd => not_isBlank_of_isDigit (List.mem_takeWhile_imp hd)

theorem closes_fractionDigits {c d : Cursor} {digits : List Char}
    (h : c.fractionDigits = some (digits, d)) : Closes c d := by
  unfold fractionDigits at h
  obtain ⟨c₁, hpoint, h⟩ := Option.bind_eq_some_iff.1 h
  dsimp only at h
  split at h
  · cases h
  · rename_i hne
    obtain ⟨-, rfl⟩ := Prod.mk.inj (Option.some.inj h)
    exact (reaches_expect hpoint).closes (closes_digits (by simpa using hne))

theorem closes_exponent {c d : Cursor} {e : Int} (h : c.exponent = some (e, d)) : Closes c d := by
  unfold exponent at h
  obtain ⟨c₁, hmark, h⟩ := Option.bind_eq_some_iff.1 h
  have h₁ : Reaches c c₁ := by
    rcases Option.or_eq_some_iff.1 hmark with h | ⟨-, h⟩
    · exact reaches_expect h
    · exact reaches_expect h
  have h₂ : Reaches c₁ (if (c₁.skipIf ['-']).1 then (c₁.skipIf ['-']).2
      else ((c₁.skipIf ['-']).2.skipIf ['+']).2) := by
    split
    · exact reaches_skipIf ['-'] c₁
    · exact (reaches_skipIf ['-'] c₁).trans (reaches_skipIf ['+'] _)
  dsimp only at h
  generalize (if (c₁.skipIf ['-']).1 then (c₁.skipIf ['-']).2
    else ((c₁.skipIf ['-']).2.skipIf ['+']).2) = c₂ at h h₂
  split at h
  · cases h
  · rename_i hne
    obtain ⟨-, rfl⟩ := Prod.mk.inj (Option.some.inj h)
    exact (h₁.trans h₂).closes (closes_digits (by simpa using hne))

/-- A number ends with a digit, whichever of its parts are there. -/
theorem closes_number {c d : Cursor} {number : Number} (h : c.number = some (number, d)) :
    Closes c d := by
  unfold Cursor.number at h
  dsimp only at h
  split at h
  · cases h
  rename_i hne
  have hdigits := closes_digits (c := c) (by simpa using hne)
  split at h
  · rename_i fraction c₁ hfraction
    have h₁ := hdigits.reaches.closes (closes_fractionDigits hfraction)
    split at h
    · rename_i e c₂ hexponent
      obtain ⟨_, -, heq⟩ := Option.map_eq_some_iff.1 h
      obtain ⟨-, rfl⟩ := Prod.mk.inj heq
      exact h₁.reaches.closes (closes_exponent hexponent)
    · obtain ⟨_, -, heq⟩ := Option.map_eq_some_iff.1 h
      obtain ⟨-, rfl⟩ := Prod.mk.inj heq
      exact h₁
  · split at h
    · rename_i e c₂ hexponent
      obtain ⟨_, -, heq⟩ := Option.map_eq_some_iff.1 h
      obtain ⟨-, rfl⟩ := Prod.mk.inj heq
      exact hdigits.reaches.closes (closes_exponent hexponent)
    · split at h
      · obtain ⟨-, rfl⟩ := Prod.mk.inj (Option.some.inj h)
        exact hdigits
      · cases h

/-! ## Groups of tokens -/

theorem reaches_loopNames {c d : Cursor} {first : Option String} {second : String}
    (h : c.loopNames = some (first, second, d)) : Reaches c d := by
  unfold loopNames at h
  obtain ⟨c₁, h₁, h⟩ := Option.bind_eq_some_iff.1 h
  obtain ⟨⟨name, c₂⟩, h₂, h⟩ := Option.bind_eq_some_iff.1 h
  obtain ⟨c₃, h₃, h⟩ := Option.bind_eq_some_iff.1 h
  have hstart := ((reaches_skip h₁).trans (closes_name h₂).reaches).trans (reaches_skip h₃)
  have hcomma := hstart.trans (reaches_skipIf [','] c₃)
  dsimp only at h
  generalize (c₃.skipIf [',']).1 = two, (c₃.skipIf [',']).2 = c₄ at h hcomma
  split at h
  · obtain ⟨c₅, h₅, h⟩ := Option.bind_eq_some_iff.1 h
    obtain ⟨⟨name', c₆⟩, h₆, h⟩ := Option.bind_eq_some_iff.1 h
    obtain ⟨c₇, h₇, h⟩ := Option.bind_eq_some_iff.1 h
    obtain ⟨c₈, h₈, h⟩ := Option.bind_eq_some_iff.1 h
    obtain rfl : c₈ = d := (Prod.mk.inj (Prod.mk.inj (Option.some.inj h)).2).2
    exact (((hcomma.trans (reaches_skip h₅)).trans (closes_name h₆).reaches).trans
      (reaches_skip h₇)).trans (reaches_expect h₈)
  · obtain ⟨c₅, h₅, h⟩ := Option.bind_eq_some_iff.1 h
    obtain rfl : c₅ = d := (Prod.mk.inj (Prod.mk.inj (Option.some.inj h)).2).2
    exact hcomma.trans (reaches_expect h₅)

theorem reaches_openSequence {c d : Cursor} {strip : Bool} (h : c.openSequence = some (strip, d)) :
    Reaches c d := by
  unfold openSequence at h
  obtain ⟨c₁, h₁, h⟩ := Option.bind_eq_some_iff.1 h
  obtain rfl : c₁ = d := (Prod.mk.inj (Option.some.inj h)).2
  exact (reaches_skipIf ['~'] c).trans (reaches_skip h₁)

/-- The end of a sequence is its brace. -/
theorem closes_closeSequence {c d : Cursor} {strip : Bool} (h : c.closeSequence = some (strip, d)) :
    Closes c d := by
  unfold closeSequence at h
  obtain ⟨c₁, h₁, h⟩ := Option.bind_eq_some_iff.1 h
  obtain ⟨c₂, h₂, h⟩ := Option.bind_eq_some_iff.1 h
  obtain rfl : c₂ = d := (Prod.mk.inj (Option.some.inj h)).2
  exact ((reaches_skip h₁).trans (reaches_skipIf ['~'] c₁)).closes
    (closes_expect ⟨by simp, by decide⟩ h₂)

theorem closes_bareDirective {word : List Char} {c d : Cursor} {seq : Sequence}
    (h : c.bareDirective word = some (seq, d)) : Closes c d := by
  unfold bareDirective at h
  obtain ⟨c₁, h₁, h⟩ := Option.bind_eq_some_iff.1 h
  obtain ⟨⟨before, c₂⟩, h₂, h⟩ := Option.bind_eq_some_iff.1 h
  obtain ⟨c₃, h₃, h⟩ := Option.bind_eq_some_iff.1 h
  obtain ⟨⟨after, c₄⟩, h₄, h⟩ := Option.bind_eq_some_iff.1 h
  obtain rfl : c₄ = d := (Prod.mk.inj (Option.some.inj h)).2
  exact (((reaches_expect h₁).trans (reaches_openSequence h₂)).trans (reaches_expect h₃)).closes
    (closes_closeSequence h₄)

/-- Qualifiers end with a name, if there are any. -/
theorem reaches_qualifiers {m : Bool} {n : Nat} {names names' : List String} {c d : Cursor}
    (h : c.qualifiers m n names = some (names', d)) : d = c ∨ Closes c d := by
  induction n generalizing names c with
  | zero => cases h
  | succ n ih =>
    unfold qualifiers at h
    obtain ⟨next, hskip, h⟩ := Option.bind_eq_some_iff.1 h
    split at h
    · exact .inl (Prod.mk.inj (Option.some.inj h)).2.symm
    · rename_i c₁ hcolons
      obtain ⟨c₂, h₂, h⟩ := Option.bind_eq_some_iff.1 h
      obtain ⟨⟨name, c₃⟩, h₃, h⟩ := Option.bind_eq_some_iff.1 h
      have hname := (((reaches_skip hskip).trans (reaches_expect hcolons)).trans
        (reaches_skip h₂)).closes (closes_name h₃)
      rcases ih h with rfl | hrest
      · exact .inr hname
      · exact .inr (hname.reaches.closes hrest)

theorem reaches_of_qualifiers {m : Bool} {n : Nat} {names names' : List String} {c d : Cursor}
    (h : c.qualifiers m n names = some (names', d)) : Reaches c d := by
  rcases reaches_qualifiers h with rfl | hmore
  · exact .refl _
  · exact hmore.reaches

theorem length_le_of_qualifiers {m : Bool} {n : Nat} {names names' : List String} {c d : Cursor}
    (h : c.qualifiers m n names = some (names', d)) : names.length ≤ names'.length := by
  induction n generalizing names c with
  | zero => cases h
  | succ n ih =>
    unfold qualifiers at h
    obtain ⟨next, -, h⟩ := Option.bind_eq_some_iff.1 h
    split at h
    · exact (Prod.mk.inj (Option.some.inj h)).1 ▸ Nat.le_refl _
    · obtain ⟨c₂, -, h⟩ := Option.bind_eq_some_iff.1 h
      obtain ⟨⟨name, c₃⟩, -, h⟩ := Option.bind_eq_some_iff.1 h
      have hle := ih h
      rw [List.length_append] at hle
      omega

/-- A name that no other follows is read on its own. -/
theorem eq_of_qualifiers {m : Bool} {n : Nat} {name : String} {names : List String} {c d : Cursor}
    (h : c.qualifiers m n [name] = some (names, d)) (hlength : names.length = 1) : d = c := by
  cases n with
  | zero => cases h
  | succ n =>
    unfold qualifiers at h
    obtain ⟨next, -, h⟩ := Option.bind_eq_some_iff.1 h
    split at h
    · exact (Prod.mk.inj (Option.some.inj h)).2.symm
    · obtain ⟨c₂, -, h⟩ := Option.bind_eq_some_iff.1 h
      obtain ⟨⟨other, c₃⟩, -, h⟩ := Option.bind_eq_some_iff.1 h
      have hle := length_le_of_qualifiers h
      rw [List.length_append, List.length_singleton, List.length_singleton] at hle
      omega

theorem reaches_lineBreakText (c : Cursor) :
    Reaches c ⟨c.rest.drop (lineBreakText c.rest).length,
      c.byte + (lineBreakText c.rest).length⟩ := by
  obtain ⟨cs, byte⟩ := c
  unfold lineBreakText
  split
  · rename_i rest heq
    obtain rfl : cs = '\n' :: rest := heq
    exact reaches_append ['\n'] rest byte
  · rename_i rest heq
    obtain rfl : cs = '\r' :: '\n' :: rest := heq
    exact reaches_append ['\r', '\n'] rest byte
  · exact .refl _

/-- The marker of a heredoc is a name. Its line break is read with it. -/
theorem isName_of_heredocStart {c d : Cursor} {indented : Bool} {id : List Char}
    (h : c.heredocStart = some (indented, id, d)) : IsName id ∧ Reaches c d := by
  unfold heredocStart at h
  obtain ⟨c₁, h₁, h⟩ := Option.bind_eq_some_iff.1 h
  obtain ⟨⟨name, c₂⟩, h₂, h⟩ := Option.bind_eq_some_iff.1 h
  have hreach := ((reaches_expect h₁).trans (reaches_skipIf ['-'] c₁)).trans
    (closes_name h₂).reaches
  dsimp only at h
  split at h
  · cases h
  · obtain ⟨-, h⟩ := Prod.mk.inj (Option.some.inj h)
    obtain ⟨rfl, rfl⟩ := Prod.mk.inj h
    exact ⟨(isName_of_name h₂).1, hreach.trans (reaches_lineBreakText c₂)⟩

/-- A heredoc ends with its terminator: the line break behind that is left. -/
theorem closes_heredocStop {id : List Char} (hid : Solid id) {c d : Cursor} {gap : Option Span}
    (h : c.heredocStop id = some (gap, d)) : Closes c d := by
  unfold heredocStop at h
  obtain ⟨c₁, h₁, h⟩ := Option.bind_eq_some_iff.1 h
  obtain rfl : c₁ = d := (Prod.mk.inj (Option.some.inj h)).2
  exact (reaches_takeWhile _ c).closes (closes_expect hid h₁)

theorem closes_positionDigits {c : Cursor} (h : c.positionDigits.1.isEmpty = false) :
    Closes c c.positionDigits.2 := by
  unfold positionDigits at h ⊢
  split
  · rename_i cs heq
    exact closes_cons heq rfl (by decide)
  · rename_i hne
    split at h
    · rename_i cs heq
      exact absurd heq (hne cs)
    · exact closes_digits h

/-- Behind a point stands an asterisk, a name or digits. -/
theorem closes_dotStep {start : Nat} {c d : Cursor} {step : Step}
    (h : c.dotStep start = some (step, d)) : Closes c d := by
  unfold dotStep at h
  obtain ⟨c₁, h₁, h⟩ := Option.bind_eq_some_iff.1 h
  refine (reaches_skip h₁).closes ?_
  split at h
  · rename_i cs heq
    obtain rfl := (Prod.mk.inj (Option.some.inj h)).2
    exact closes_cons heq rfl (by decide)
  · dsimp only at h
    split at h
    · obtain ⟨⟨name, c₂⟩, h₂, h⟩ := Option.bind_eq_some_iff.1 h
      obtain rfl : c₂ = d := (Prod.mk.inj (Option.some.inj h)).2
      exact closes_name h₂
    · rename_i hne
      split at h
      · obtain rfl := (Prod.mk.inj (Option.some.inj h)).2
        exact closes_positionDigits (by simpa using hne)
      · cases h

end Cursor

end TerraLint.Hcl
