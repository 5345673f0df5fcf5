import TerraLint.Proofs.Hcl.Offset
import TerraLint.Proofs.Hcl.Depth

/-!
# Tokens with less text behind

A token that ends before a text `t` is read without `t` as well: no reader of a token looks further
than to the end of what it reads, but to see that it does not go on. Where a run of literal text
ends, the next characters have to tell this without `t`.

* `Cursor.ahead`: a cursor with `t` behind what is left.
* `exists_ahead`: all that is read before such a cursor starts at such cursors.
* `Trivia.Skips.of_ahead`, `Trivia.Skips.again`: blanks without `t`, and skipped in two steps.
* `Closer.Runs.of_ahead`: literal text.
* `number_of_ahead`, `dotStep_of_ahead`: other tokens.
-/

namespace TerraLint.Hcl

open Text

/-- The cursor with more text behind what is left. -/
def Cursor.ahead (t : List Char) (c : Cursor) : Cursor := ⟨c.rest ++ t, c.byte⟩

variable {t : List Char} {c d : Cursor}

theorem ahead_inj : c.ahead t = d.ahead t ↔ c = d := by
  obtain ⟨cs, b⟩ := c
  obtain ⟨ds, b'⟩ := d
  simp [Cursor.ahead]

/-- What is read before `t` does not reach into `t`. -/
theorem Reaches.of_ahead (h : Reaches (c.ahead t) (d.ahead t)) : Reaches c d := by
  obtain ⟨taken, hrest, hbyte⟩ := h
  refine ⟨taken, (List.append_left_inj t).1 ?_, hbyte⟩
  rw [List.append_assoc]
  exact hrest

/-- What stands before a cursor with `t` behind it has `t` behind it. -/
theorem exists_ahead {c : Cursor} (h : Reaches c (d.ahead t)) : ∃ c₀ : Cursor, c = c₀.ahead t := by
  obtain ⟨taken, hrest, -⟩ := h
  refine ⟨⟨taken ++ d.rest, c.byte⟩, ?_⟩
  obtain ⟨cs, b⟩ := c
  rw [Cursor.ahead, List.append_assoc]
  exact congrArg (Cursor.mk · b) hrest

theorem length_le_of_eq_ahead {c : Cursor} (h : c = d.ahead t) : t.length ≤ c.rest.length := by
  subst h
  rw [Cursor.ahead, List.length_append]
  exact Nat.le_add_left _ _

theorem length_le_of_reaches_ahead {v : List Char} {byte : Nat}
    (h : Reaches ⟨v, byte⟩ (d.ahead t)) : t.length ≤ v.length :=
  (length_le_of_eq_ahead (d := d) rfl).trans h.length_le

/-- What leaves at least `t` stands before `t`. -/
theorem exists_append {cs w v : List Char} (h : cs ++ t = w ++ v) (hle : t.length ≤ v.length) :
    ∃ ds, cs = w ++ ds ∧ v = ds ++ t := by
  rcases List.append_eq_append_iff.1 h with ⟨ds, rfl, rfl⟩ | ⟨ds, rfl, rfl⟩
  · obtain rfl : ds = [] := List.length_eq_zero_iff.1 (by rw [List.length_append] at hle; omega)
    exact ⟨[], by simp, by simp⟩
  · exact ⟨ds, rfl, rfl⟩

namespace Cursor

/-! ## Tokens -/

/-- A token that ends before `t` is read without `t`. Lemmas that say so end in `of_ahead`. -/
theorem expect_of_ahead {w : List Char} (h : (c.ahead t).expect w = some (d.ahead t)) :
    c.expect w = some d := by
  obtain ⟨hrest, hbyte⟩ := expect_eq_some.1 h
  refine expect_eq_some.2 ⟨(List.append_left_inj t).1 ?_, hbyte⟩
  rw [List.append_assoc]
  exact hrest

/-- What is expected is read with any text behind it. Of a name or a number this is not true: more
of it may come. -/
theorem expect_ahead {w : List Char} (h : c.expect w = some d) :
    (c.ahead t).expect w = some (d.ahead t) := by
  obtain ⟨hrest, hbyte⟩ := expect_eq_some.1 h
  refine expect_eq_some.2 ⟨?_, hbyte⟩
  rw [ahead, hrest, List.append_assoc]
  rfl

/-- With less text behind, no more can come next. -/
theorem expect_none_of_ahead {w : List Char} (h : (c.ahead t).expect w = none) :
    c.expect w = none := by
  cases hc : c.expect w with
  | none => rfl
  | some e =>
    rw [expect_ahead hc] at h
    cases h

theorem skipIf_of_ahead {w : List Char} {found : Bool}
    (h : (c.ahead t).skipIf w = (found, d.ahead t)) : c.skipIf w = (found, d) := by
  rcases skipIf_cases w (c.ahead t) with ⟨e, he, hskip⟩ | ⟨hnone, hskip⟩
  · obtain ⟨rfl, rfl⟩ := Prod.mk.inj (hskip.symm.trans h)
    rw [skipIf, expect_of_ahead he]
  · obtain ⟨rfl, hd⟩ := Prod.mk.inj (hskip.symm.trans h)
    rw [skipIf, expect_none_of_ahead hnone, ahead_inj.1 hd]

/-- Characters are taken up to one that does not belong to them, or up to the end. -/
theorem takeWhile_of_ahead {p : Char → Bool} {taken : List Char}
    (h : (c.ahead t).takeWhile p = (taken, d.ahead t)) : c.takeWhile p = (taken, d) := by
  obtain ⟨htaken, hd⟩ := Prod.mk.inj h
  obtain ⟨hdrop, hbyte⟩ := Cursor.mk.inj hd
  have hsplit : c.rest = taken ++ d.rest := by
    refine (List.append_left_inj t).1 ?_
    rw [List.append_assoc, ← hdrop, ← htaken, List.takeWhile_append_dropWhile]
    rfl
  have hall : ∀ x ∈ taken, p x = true := fun x hx => by
    rw [← htaken] at hx
    exact List.mem_takeWhile_imp hx
  have hhead : ∀ x rest, d.rest = x :: rest → p x = false := by
    intro x rest hx
    have hne : (c.ahead t).rest.dropWhile p ≠ [] := by
      rw [hdrop, hx]
      simp
    have hfalse := List.head_dropWhile_not p hne
    simp only [hdrop, hx, List.cons_append, List.head_cons] at hfalse
    simpa using hfalse
  have hnil : d.rest.takeWhile p = [] ∧ d.rest.dropWhile p = d.rest := by
    cases hd : d.rest with
    | nil => exact ⟨rfl, rfl⟩
    | cons x rest =>
      have hx := hhead x rest hd
      rw [List.takeWhile_cons_of_neg (by simp [hx]), List.dropWhile_cons_of_neg (by simp [hx])]
      exact ⟨rfl, rfl⟩
  unfold Cursor.takeWhile
  rw [hsplit, List.takeWhile_append_of_pos hall, List.dropWhile_append_of_pos hall, hnil.1,
    hnil.2, List.append_nil]
  refine Prod.ext rfl ?_
  obtain ⟨ds, b⟩ := d
  refine congrArg (Cursor.mk ds) ?_
  rw [← htaken]
  exact hbyte

theorem name_of_ahead {name : String} (h : (c.ahead t).name = some (name, d.ahead t)) :
    c.name = some (name, d) := by
  obtain ⟨cs, b⟩ := c
  have hlt := (closes_name h).length_lt
  cases cs with
  | nil =>
    dsimp only [ahead, List.nil_append] at hlt
    rw [List.length_append] at hlt
    omega
  | cons ch cs =>
    unfold Cursor.name at h ⊢
    dsimp only [ahead, List.cons_append] at h ⊢
    split at h
    · rename_i hstart
      obtain ⟨hname, hd⟩ := Prod.mk.inj (Option.some.inj h)
      have htake := @takeWhile_of_ahead t ⟨ch :: cs, b⟩ d isNameRest _ (Prod.ext rfl hd)
      dsimp only [ahead, List.cons_append] at htake
      rw [if_pos hstart, htake]
      exact congrArg (fun s => some (s, d)) hname
    · cases h

end Cursor

/-! ## Blanks -/

namespace Trivia

variable {s s' : Trivia} {w rest : List Char}

/-- What is taken before a text is taken before its start. -/
theorem Takes.of_append (h : Takes s w (rest ++ t) s') : Takes s w rest s' := by
  cases h with
  | blank hc => exact .blank hc
  | openLine hmark => exact .openLine hmark
  | openBlock => exact .openBlock
  | inBlock hne =>
    refine .inBlock fun ⟨hstar, hslash⟩ => hne ⟨hstar, ?_⟩
    rw [List.head?_append, hslash]
    rfl
  | closeBlock => exact .closeBlock
  | inLine hc => exact .inLine hc
  | closeLine hmark => exact .closeLine hmark

/-- Between comments what is taken is known by itself. -/
theorem Takes.between {m : Bool} {rest' : List Char} (h : Takes (.between m) w rest s') :
    Takes (.between m) w rest' s' := by
  cases h with
  | blank hc => exact .blank hc
  | openLine hmark => exact .openLine hmark
  | openBlock => exact .openBlock

theorem Ends.of_append {cs : List Char} (h : Ends s (cs ++ t)) : Ends s cs := by
  generalize hv : cs ++ t = v at h
  cases h with
  | between h =>
    refine .between fun w rest s' hcs htakes => h w (rest ++ t) s' ?_ htakes.between
    rw [← hv, hcs, List.append_assoc]
  | line =>
    obtain ⟨rfl, -⟩ := List.append_eq_nil_iff.1 hv
    exact .line

/-- Blanks and comments that end before `t` end there without it: a comment that nothing ends runs
to the end of the text. -/
theorem Skips.of_ahead (h : Skips s (c.ahead t) (d.ahead t)) : Skips s c d := by
  generalize hc : c.ahead t = c', hd : d.ahead t = d' at h
  induction h generalizing c with
  | stop hends =>
    obtain rfl := ahead_inj.1 (hc.trans hd.symm)
    subst hc
    exact .stop hends.of_append
  | take htakes hmore ih =>
    subst hd
    obtain ⟨c₁, hc₁⟩ := exists_ahead hmore.reaches
    obtain ⟨cs, byte⟩ := c
    obtain ⟨hcs, rfl⟩ := Cursor.mk.inj hc
    obtain rfl := congrArg Cursor.rest hc₁
    dsimp only [Cursor.ahead] at hcs htakes
    rw [← List.append_assoc] at hcs
    obtain rfl := List.append_cancel_right hcs
    exact .take htakes.of_append (ih rfl rfl)

/-- A reader for which line ends are blanks if `multiline` says so. -/
def spread (multiline : Bool) : Trivia → Trivia
  | between _ => between multiline
  | block _ => block multiline
  | line => line

/-- Line ends are blanks only if `multiline` says so. -/
def Within (multiline : Bool) : Trivia → Prop
  | between m | block m => m = true → multiline = true
  | line => multiline = true

theorem Takes.spread {m : Bool} (hs : s.Within m) (h : Takes s w rest s') :
    Takes (s.spread m) w rest (s'.spread m) ∧ s'.Within m := by
  cases h with
  | blank hc =>
    refine ⟨.blank ?_, hs⟩
    simp only [isSpacing, Bool.or_eq_true, Bool.and_eq_true] at hc ⊢
    exact hc.imp_right fun hc => ⟨hs hc.1, hc.2⟩
  | openLine hmark =>
    obtain rfl := hs rfl
    exact ⟨.openLine hmark, rfl⟩
  | openBlock => exact ⟨.openBlock, hs⟩
  | inBlock hne => exact ⟨.inBlock hne, hs⟩
  | closeBlock => exact ⟨.closeBlock, hs⟩
  | inLine hc => exact ⟨.inLine hc, hs⟩
  | closeLine hmark =>
    obtain rfl := hs
    exact ⟨.closeLine hmark, id⟩

/-- What is skipped line by line is skipped at once. -/
theorem Skips.again {m : Bool} (hs : s.Within m) (h : Skips s c d) :
    (s.spread m).skip c.byte c.rest = d.skip m := by
  induction h with
  | @stop s c hends =>
    obtain ⟨cs, byte⟩ := c
    cases hends with
    | between => rfl
    | line => exact (skip_of_ends .line byte).trans (skip_of_ends .nil byte).symm
  | take htakes _ ih =>
    obtain ⟨htakes, hs⟩ := htakes.spread hs
    exact (skip_of_takes htakes _).trans (ih hs)

end Trivia

section

variable {w rest : List Char}

theorem CommentRest.of_append (h : CommentRest w (rest ++ t)) : CommentRest w rest := by
  generalize hv : rest ++ t = v at h
  induction h with
  | feed hmark => exact .feed hmark
  | done =>
    obtain ⟨rfl, -⟩ := List.append_eq_nil_iff.1 hv
    exact .done
  | char hc _ ih => exact .char hc (ih hv)

theorem LineBreak.of_append (h : LineBreak w (rest ++ t)) : LineBreak w rest := by
  cases h with
  | feed hmark => exact .feed hmark
  | comment hmark h => exact .comment hmark h.of_append

theorem CommentRest.skip (h : CommentRest w rest) (byte : Nat) :
    Trivia.line.skip byte (w ++ rest) = Cursor.skipLines ⟨rest, byte + byteLength w⟩ := by
  induction h generalizing byte with
  | feed hmark => exact Trivia.skip_of_takes (.closeLine hmark) byte
  | done => exact (Trivia.skip_of_ends .line byte).trans (Trivia.skip_of_ends .nil byte).symm
  | @char x w rest hc _ ih =>
    rw [byteLength_cons, ← Nat.add_assoc, ← ih, ← byteLength_singleton]
    exact Trivia.skip_of_takes (w := [x]) (.inLine hc) byte

theorem LineBreak.skip (h : LineBreak w rest) (byte : Nat) :
    Cursor.skipLines ⟨w ++ rest, byte⟩ = Cursor.skipLines ⟨rest, byte + byteLength w⟩ := by
  cases h with
  | feed hmark =>
    rcases hmark with rfl | rfl
    · exact Trivia.skip_of_takes (.blank (m := true) rfl) byte
    · exact (Trivia.skip_of_takes (w := ['\r']) (.blank (m := true) rfl) byte).trans
        (Trivia.skip_of_takes (.blank rfl) (byte + 1))
  | comment hmark h =>
    rw [byteLength_append, ← Nat.add_assoc, ← h.skip, List.append_assoc]
    exact Trivia.skip_of_takes (.openLine hmark) byte

end

namespace Cursor

theorem skip_of_ahead {m : Bool} (h : (c.ahead t).skip m = some (d.ahead t)) :
    c.skip m = some d := skip_iff.2 (skip_iff.1 h).of_ahead

/-- What is skipped line by line is skipped at once. -/
theorem skip_again {m m' : Bool} (hm : m = true → m' = true) (h : c.skip m = some d) :
    c.skip m' = d.skip m' := Trivia.Skips.again (s := .between m) hm (skip_iff.1 h)

theorem skip_stop {m : Bool} {x : Char} {rest : List Char} (h : c.rest = x :: rest)
    (hx : endsBlanks x = true) : c.skip m = some c := by
  obtain ⟨cs, byte⟩ := c
  obtain rfl : cs = x :: rest := h
  exact blanks_stop hx rest byte

/-- A line break may be skipped as a blank. -/
theorem lineBreak_again (h : c.lineBreak = some d) : c.skipLines = d.skipLines := by
  obtain ⟨w, hw, hrest, hbyte⟩ := lineBreak_iff.1 h
  obtain ⟨cs, byte⟩ := c
  obtain ⟨ds, byte'⟩ := d
  dsimp only at hw hrest hbyte
  subst hrest hbyte
  exact hw.skip byte

theorem lineBreak_of_ahead (h : (c.ahead t).lineBreak = some (d.ahead t)) :
    c.lineBreak = some d := by
  obtain ⟨w, hw, hrest, hbyte⟩ := lineBreak_iff.1 h
  refine lineBreak_iff.2 ⟨w, hw.of_append, ?_, hbyte⟩
  dsimp only [ahead] at hrest
  rw [← List.append_assoc] at hrest
  exact List.append_cancel_right hrest

theorem ne_nil_of_lineBreak (h : c.lineBreak = some d) : c.rest ≠ [] := by
  intro hnil
  unfold lineBreak at h
  rw [hnil] at h
  cases h

/-! ## Numbers -/

theorem takeWhile_isEmpty_of_ahead {p : Char → Bool}
    (h : ((c.ahead t).takeWhile p).1.isEmpty = true) : (c.takeWhile p).1.isEmpty = true := by
  obtain ⟨cs, byte⟩ := c
  cases cs with
  | nil => rfl
  | cons x cs =>
    dsimp only [Cursor.takeWhile, ahead] at h ⊢
    rw [List.cons_append, List.takeWhile_cons] at h
    rw [List.takeWhile_cons]
    split at h
    · cases h
    · rename_i hx
      rw [if_neg hx]
      rfl

/-- Without `t` a number has no fraction that it does not have with it. -/
theorem fractionDigits_none_of_ahead (h : (c.ahead t).fractionDigits = none) :
    c.fractionDigits = none := by
  unfold fractionDigits at h ⊢
  cases hc : c.expect ['.'] with
  | none => rfl
  | some c₁ =>
    rw [expect_ahead hc] at h
    simp only [Option.bind_eq_bind, Option.bind_some] at h ⊢
    split at h
    · rename_i hempty
      rw [if_pos (takeWhile_isEmpty_of_ahead hempty)]
    · cases h

theorem fractionDigits_of_ahead {digits : List Char}
    (h : (c.ahead t).fractionDigits = some (digits, d.ahead t)) :
    c.fractionDigits = some (digits, d) := by
  unfold fractionDigits at h ⊢
  obtain ⟨c₁, hpoint, h⟩ := Option.bind_eq_some_iff.1 h
  dsimp only at h
  split at h
  · cases h
  · rename_i hne
    obtain ⟨hdigits, hd⟩ := Prod.mk.inj (Option.some.inj h)
    have hreach : Reaches c₁ (d.ahead t) := hd ▸ reaches_takeWhile Char.isDigit c₁
    obtain ⟨c₁, rfl⟩ := exists_ahead hreach
    have htake := takeWhile_of_ahead (Prod.ext hdigits hd)
    rw [expect_of_ahead hpoint]
    rw [hdigits] at hne
    simp only [Option.bind_eq_bind, Option.bind_some, htake, if_neg hne]

/-- A single character is read with more text behind as it is without. -/
theorem expect_ahead_of_ne_nil {x : Char} (hne : c.rest ≠ []) :
    (c.ahead t).expect [x] = (c.expect [x]).map (ahead t) := by
  obtain ⟨cs, byte⟩ := c
  obtain ⟨y, cs, rfl⟩ := List.exists_cons_of_ne_nil hne
  by_cases hxy : x = y
  · subst hxy
    simp [expect, ahead]
  · simp [expect, ahead, hxy]

theorem skipIf_ahead_of_ne_nil {x : Char} (hne : c.rest ≠ []) :
    (c.ahead t).skipIf [x] = ((c.skipIf [x]).1, (c.skipIf [x]).2.ahead t) := by
  unfold skipIf
  rw [expect_ahead_of_ne_nil hne]
  cases c.expect [x] <;> rfl

/-- The cursor after the sign of an exponent, and whether it is negative. -/
def exponentSign (c : Cursor) : Bool × Cursor :=
  if (c.skipIf ['-']).1 then c.skipIf ['-']
  else (false, ((c.skipIf ['-']).2.skipIf ['+']).2)

theorem exponent_eq (c : Cursor) : c.exponent =
    ((c.expect ['e']).or (c.expect ['E'])).bind fun c₁ =>
      let digits := c₁.exponentSign.2.takeWhile Char.isDigit
      if digits.1.isEmpty then none
      else some (if c₁.exponentSign.1 then -(decimalNumber digits.1 : Int)
        else decimalNumber digits.1, digits.2) := by
  unfold exponent
  refine Option.bind_congr fun c₁ _ => ?_
  unfold exponentSign
  generalize c₁.skipIf ['-'] = r
  obtain ⟨negative, c₂⟩ := r
  cases negative <;> rfl

theorem reaches_exponentSign (c : Cursor) : Reaches c c.exponentSign.2 := by
  unfold exponentSign
  split
  · exact reaches_skipIf _ c
  · exact (reaches_skipIf _ c).trans (reaches_skipIf _ _)

/-- The sign of an exponent stands before its digits, so before `t`. -/
theorem exponentSign_of_ahead {negative : Bool}
    (h : (c.ahead t).exponentSign = (negative, d.ahead t)) : c.exponentSign = (negative, d) := by
  unfold exponentSign at h ⊢
  generalize hminus : (c.ahead t).skipIf ['-'] = r at h
  obtain ⟨minus, c₁⟩ := r
  dsimp only at h
  split at h
  · rename_i htrue
    obtain ⟨rfl, rfl⟩ := Prod.mk.inj h
    rw [skipIf_of_ahead hminus, if_pos htrue]
  · rename_i hfalse
    obtain ⟨rfl, hplus⟩ := Prod.mk.inj h
    obtain ⟨c₁, rfl⟩ := exists_ahead (hplus ▸ reaches_skipIf ['+'] c₁)
    rw [skipIf_of_ahead hminus, if_neg hfalse, skipIf_of_ahead (Prod.ext rfl hplus)]

theorem mark_of_ahead {c₁ : Cursor}
    (h : ((c.ahead t).expect ['e']).or ((c.ahead t).expect ['E']) = some (c₁.ahead t)) :
    (c.expect ['e']).or (c.expect ['E']) = some c₁ := by
  rcases Option.or_eq_some_iff.1 h with he | ⟨hnone, hE⟩
  · rw [expect_of_ahead he, Option.some_or]
  · rw [expect_none_of_ahead hnone, expect_of_ahead hE, Option.none_or]

theorem exponent_of_ahead {e : Int} (h : (c.ahead t).exponent = some (e, d.ahead t)) :
    c.exponent = some (e, d) := by
  rw [exponent_eq] at h ⊢
  obtain ⟨c₁, hmark, h⟩ := Option.bind_eq_some_iff.1 h
  generalize hsign : c₁.exponentSign = r at h
  obtain ⟨negative, c₂⟩ := r
  generalize hdigits : c₂.takeWhile Char.isDigit = r at h
  obtain ⟨digits, c₃⟩ := r
  have hreach₂ := reaches_takeWhile Char.isDigit c₂
  have hreach₁ := reaches_exponentSign c₁
  rw [hdigits] at hreach₂
  rw [hsign] at hreach₁
  dsimp only at h
  split at h
  · cases h
  · rename_i hne
    obtain ⟨he, rfl⟩ := Prod.mk.inj (Option.some.inj h)
    obtain ⟨c₂, rfl⟩ := exists_ahead hreach₂
    obtain ⟨c₁, rfl⟩ := exists_ahead hreach₁
    simp only [mark_of_ahead hmark, Option.bind_some, exponentSign_of_ahead hsign,
      takeWhile_of_ahead hdigits, if_neg hne, he]

theorem exponentSign_ahead_of_ne_nil (hne : c.exponentSign.2.rest ≠ []) :
    (c.ahead t).exponentSign = (c.exponentSign.1, c.exponentSign.2.ahead t) := by
  have hrest : ∀ {w : List Char} {c : Cursor}, (c.skipIf w).2.rest ≠ [] → c.rest ≠ [] := by
    intro w c h hc
    have hle := (reaches_skipIf w c).length_le
    rw [hc, List.length_nil, Nat.le_zero, List.length_eq_zero_iff] at hle
    exact h hle
  unfold exponentSign at hne ⊢
  split at hne
  · rename_i hminus
    rw [skipIf_ahead_of_ne_nil (hrest hne), if_pos hminus, if_pos hminus]
  · rename_i hminus
    rw [skipIf_ahead_of_ne_nil (hrest (hrest hne)), if_neg hminus, if_neg hminus,
      skipIf_ahead_of_ne_nil (hrest hne)]

theorem exponent_none_of_ahead (h : (c.ahead t).exponent = none) : c.exponent = none := by
  rw [exponent_eq] at h ⊢
  refine Option.bind_eq_none_iff.2 fun c₁ hmark => ?_
  have hne : c.rest ≠ [] := by
    rcases Option.or_eq_some_iff.1 hmark with he | ⟨-, hE⟩
    · simp [(expect_eq_some.1 he).1]
    · simp [(expect_eq_some.1 hE).1]
  have hfull : ((c.ahead t).expect ['e']).or ((c.ahead t).expect ['E']) = some (c₁.ahead t) := by
    rw [expect_ahead_of_ne_nil hne, expect_ahead_of_ne_nil hne, ← Option.map_or, hmark,
      Option.map_some]
  have h₁ := Option.bind_eq_none_iff.1 h _ hfull
  dsimp only at h₁ ⊢
  by_cases hdigits : c₁.exponentSign.2.rest = []
  · rw [if_pos (by rw [takeWhile, hdigits]; rfl)]
  · rw [exponentSign_ahead_of_ne_nil hdigits] at h₁
    split at h₁
    · rename_i hempty
      rw [if_pos (takeWhile_isEmpty_of_ahead hempty)]
    · cases h₁

/-- A number that ends before `t` has the same parts without it, and lacks the same ones. -/
theorem number_of_ahead {x : Number} (h : (c.ahead t).number = some (x, d.ahead t)) :
    c.number = some (x, d) := by
  have hmap : ∀ {x' : Option Number} {e : Cursor}, x'.map (·, e.ahead t) = some (x, d.ahead t) →
      x'.map (·, e) = some (x, d) := by
    intro x' e hx
    obtain ⟨y, rfl, hy⟩ := Option.map_eq_some_iff.1 hx
    obtain ⟨rfl, he⟩ := Prod.mk.inj hy
    rw [Option.map_some, ahead_inj.1 he]
  have hend : ∀ {x' : Option Number} {e : Cursor}, x'.map (·, e) = some (x, d.ahead t) →
      Reaches e (d.ahead t) := by
    intro x' e hx
    obtain ⟨y, -, hy⟩ := Option.map_eq_some_iff.1 hx
    exact (Prod.mk.inj hy).2 ▸ Reaches.refl _
  unfold Cursor.number at h ⊢
  dsimp only at h ⊢
  generalize htake : (c.ahead t).takeWhile Char.isDigit = r at h
  obtain ⟨digits, c₁⟩ := r
  have hdigits : Reaches c₁ (d.ahead t) → ∃ c₀ : Cursor, c₁ = c₀.ahead t ∧
      c.takeWhile Char.isDigit = (digits, c₀) := by
    intro hreach
    obtain ⟨c₀, rfl⟩ := exists_ahead hreach
    exact ⟨c₀, rfl, takeWhile_of_ahead htake⟩
  dsimp only at h
  split at h
  · cases h
  rename_i hne
  split at h
  · rename_i fraction c₂ hfraction
    split at h
    · rename_i e c₃ hexponent
      have hreach := (closes_exponent hexponent).reaches.trans (hend h)
      obtain ⟨c₁, rfl, hc⟩ := hdigits ((closes_fractionDigits hfraction).reaches.trans hreach)
      obtain ⟨c₂, rfl⟩ := exists_ahead hreach
      obtain ⟨c₃, rfl⟩ := exists_ahead (hend h)
      simp only [hc, if_neg hne, fractionDigits_of_ahead hfraction, exponent_of_ahead hexponent]
      exact hmap h
    · rename_i hexponent
      obtain ⟨c₁, rfl, hc⟩ := hdigits ((closes_fractionDigits hfraction).reaches.trans (hend h))
      obtain ⟨c₂, rfl⟩ := exists_ahead (hend h)
      simp only [hc, if_neg hne, fractionDigits_of_ahead hfraction,
        exponent_none_of_ahead hexponent]
      exact hmap h
  · rename_i hfraction
    split at h
    · rename_i e c₃ hexponent
      obtain ⟨c₁, rfl, hc⟩ := hdigits ((closes_exponent hexponent).reaches.trans (hend h))
      obtain ⟨c₃, rfl⟩ := exists_ahead (hend h)
      simp only [hc, if_neg hne, fractionDigits_none_of_ahead hfraction,
        exponent_of_ahead hexponent]
      exact hmap h
    · rename_i hexponent
      split at h
      · rename_i hfits
        obtain ⟨rfl, hd⟩ := Prod.mk.inj (Option.some.inj h)
        obtain ⟨c₁, rfl, hc⟩ := hdigits (hd ▸ Reaches.refl _)
        obtain rfl := ahead_inj.1 hd
        simp only [hc, if_neg hne, fractionDigits_none_of_ahead hfraction,
          exponent_none_of_ahead hexponent, if_pos hfits]
      · cases h

/-! ## Literal text -/

theorem lineBreakText_append {cs : List Char} (h : lineBreakText cs ≠ []) :
    lineBreakText (cs ++ t) = lineBreakText cs := by
  unfold lineBreakText at h ⊢
  split at h
  · rfl
  · rfl
  · exact (h rfl).elim

theorem isTerminator_append {id cs : List Char} (h : isTerminator id cs = true) :
    isTerminator id (cs ++ t) = true := by
  unfold isTerminator at h ⊢
  cases id with
  | nil => rfl
  | cons x id =>
    rw [List.isPrefixOf_iff_prefix] at h ⊢
    have hne : cs.dropWhile (fun c => c == ' ' || c == '\t') ≠ [] := by
      intro hnil
      rw [hnil, List.prefix_nil] at h
      cases h
    rw [List.dropWhile_append, if_neg (by simpa using hne)]
    exact h.trans (List.prefix_append _ _)

theorem closesHeredoc_eq (id cs : List Char) : closesHeredoc id cs =
    (!(lineBreakText cs).isEmpty && isTerminator id (cs.drop (lineBreakText cs).length)) := by
  unfold closesHeredoc
  cases lineBreakText cs <;> rfl

theorem length_lineBreakText_le (cs : List Char) : (lineBreakText cs).length ≤ cs.length := by
  unfold lineBreakText
  split <;> simp

/-- A text that closes a heredoc closes it whatever comes behind. -/
theorem closesHeredoc_append {id cs : List Char} (h : closesHeredoc id cs = true) :
    closesHeredoc id (cs ++ t) = true := by
  rw [closesHeredoc_eq, Bool.and_eq_true, Bool.not_eq_true'] at h ⊢
  obtain ⟨hbreak, hid⟩ := h
  have hne : lineBreakText cs ≠ [] := by
    intro hnil
    rw [hnil] at hbreak
    cases hbreak
  rw [lineBreakText_append hne, List.drop_append_of_le_length (length_lineBreakText_le cs)]
  exact ⟨hbreak, isTerminator_append hid⟩

end Cursor

namespace Closer

variable {closer : Closer} {taken w y rest : List Char} {text : String}

theorem Takes.of_append (h : closer.Takes w y (rest ++ t)) : closer.Takes w y rest := by
  cases h with
  | doubled hx => exact .doubled hx
  | char h =>
    have hprefix : rest <+: rest ++ t := List.prefix_append _ _
    refine .char ⟨fun hx hbrace => h.single hx (hbrace.trans hprefix),
      fun hx hbrace => h.double hx (hbrace.trans hprefix), ?_⟩
    cases closer with
    | quote => exact h.passes
    | terminator id =>
      refine Bool.eq_false_iff.2 fun hclose => Bool.eq_false_iff.1 h.passes ?_
      exact Cursor.closesHeredoc_append hclose
    | endOfText => trivial
  | escape hch => exact .escape hch
  | decoded hmark hch => exact .decoded hmark hch

theorem Ends.of_append (hseq : startsSequence (rest ++ t) = true → startsSequence rest = true)
    (hclose : closer.comesNext (rest ++ t) = true → closer.comesNext rest = true)
    (h : closer.Ends w (rest ++ t)) : closer.Ends w rest := by
  generalize hv : rest ++ t = v at h
  cases h with
  | sequence h => exact .sequence (hseq (hv ▸ h))
  | closing h => exact .closing (hclose (hv ▸ h))
  | unknown hx h =>
    refine .unknown hx fun n hn digits more hlength hrest => h n hn digits (more ++ t) hlength ?_
    rw [← hv, hrest, List.append_assoc]

/-- A run of literal text that ends before `t` ends there without it, if the text left tells by itself
whether a sequence starts and whether the template is closed. -/
theorem Runs.of_ahead (hseq : startsSequence (d.rest ++ t) = true → startsSequence d.rest = true)
    (hclose : closer.comesNext (d.rest ++ t) = true → closer.comesNext d.rest = true)
    (h : closer.Runs taken (c.ahead t) text (d.ahead t)) : closer.Runs taken c text d := by
  generalize hc : c.ahead t = c', hd : d.ahead t = d' at h
  induction h generalizing c with
  | @stop _ w rest byte hends hfinish =>
    obtain ⟨cs, b⟩ := c
    obtain ⟨ds, b'⟩ := d
    obtain ⟨hcs, rfl⟩ := Cursor.mk.inj hc
    obtain ⟨rfl, rfl⟩ := Cursor.mk.inj hd
    dsimp only at hcs
    rw [← List.append_assoc] at hcs
    obtain rfl := List.append_cancel_right hcs
    exact .stop (hends.of_append hseq hclose) hfinish
  | take htakes hmore ih =>
    subst hd
    obtain ⟨c₁, hc₁⟩ := exists_ahead hmore.reaches
    obtain ⟨cs, byte⟩ := c
    obtain ⟨hcs, rfl⟩ := Cursor.mk.inj hc
    obtain rfl := congrArg Cursor.rest hc₁
    dsimp only [Cursor.ahead] at hcs htakes
    rw [← List.append_assoc] at hcs
    obtain rfl := List.append_cancel_right hcs
    exact .take htakes.of_append (ih rfl rfl)

end Closer

namespace Cursor

/-! ## Groups of tokens -/

theorem openSequence_of_ahead {strip : Bool}
    (h : (c.ahead t).openSequence = some (strip, d.ahead t)) :
    c.openSequence = some (strip, d) := by
  unfold openSequence at h ⊢
  generalize hstrip : (c.ahead t).skipIf ['~'] = r at h
  obtain ⟨found, c₁⟩ := r
  obtain ⟨c₂, h₂, h⟩ := Option.bind_eq_some_iff.1 h
  obtain ⟨rfl, rfl⟩ := Prod.mk.inj (Option.some.inj h)
  obtain ⟨c₁, rfl⟩ := exists_ahead (reaches_skip h₂)
  rw [skipIf_of_ahead hstrip]
  simp only [Option.bind_eq_bind, skipLines, skip_of_ahead h₂, Option.bind_some]
  rfl

theorem closeSequence_of_ahead {strip : Bool}
    (h : (c.ahead t).closeSequence = some (strip, d.ahead t)) :
    c.closeSequence = some (strip, d) := by
  unfold closeSequence at h ⊢
  obtain ⟨c₁, h₁, h⟩ := Option.bind_eq_some_iff.1 h
  generalize hstrip : c₁.skipIf ['~'] = r at h
  obtain ⟨found, c₂⟩ := r
  obtain ⟨c₃, h₃, h⟩ := Option.bind_eq_some_iff.1 h
  obtain ⟨rfl, rfl⟩ := Prod.mk.inj (Option.some.inj h)
  obtain ⟨c₂, rfl⟩ := exists_ahead (reaches_expect h₃)
  have hreach := reaches_skipIf ['~'] c₁
  rw [hstrip] at hreach
  obtain ⟨c₁, rfl⟩ := exists_ahead hreach
  simp only [Option.bind_eq_bind, skipLines, skip_of_ahead h₁, skipIf_of_ahead hstrip,
    expect_of_ahead h₃, Option.bind_some]
  rfl

/-- Groups of tokens follow token by token. -/
theorem bareDirective_of_ahead {word : List Char} {seq : Sequence}
    (h : (c.ahead t).bareDirective word = some (seq, d.ahead t)) :
    c.bareDirective word = some (seq, d) := by
  unfold bareDirective at h ⊢
  obtain ⟨c₁, h₁, h⟩ := Option.bind_eq_some_iff.1 h
  obtain ⟨⟨before, c₂⟩, h₂, h⟩ := Option.bind_eq_some_iff.1 h
  obtain ⟨c₃, h₃, h⟩ := Option.bind_eq_some_iff.1 h
  obtain ⟨⟨after, c₄⟩, h₄, h⟩ := Option.bind_eq_some_iff.1 h
  obtain ⟨rfl, rfl⟩ := Prod.mk.inj (Option.some.inj h)
  obtain ⟨c₃, rfl⟩ := exists_ahead (closes_closeSequence h₄).reaches
  obtain ⟨c₂, rfl⟩ := exists_ahead (reaches_expect h₃)
  obtain ⟨c₁, rfl⟩ := exists_ahead (reaches_openSequence h₂)
  simp only [Option.bind_eq_bind, expect_of_ahead h₁, openSequence_of_ahead h₂,
    expect_of_ahead h₃, closeSequence_of_ahead h₄, Option.bind_some]
  rfl

theorem loopNames_of_ahead {first : Option String} {second : String}
    (h : (c.ahead t).loopNames = some (first, second, d.ahead t)) :
    c.loopNames = some (first, second, d) := by
  unfold loopNames at h ⊢
  obtain ⟨c₁, h₁, h⟩ := Option.bind_eq_some_iff.1 h
  obtain ⟨⟨name, c₂⟩, h₂, h⟩ := Option.bind_eq_some_iff.1 h
  obtain ⟨c₃, h₃, h⟩ := Option.bind_eq_some_iff.1 h
  generalize htwo : c₃.skipIf [','] = r at h
  obtain ⟨two, c₄⟩ := r
  have hreach₃ := reaches_skipIf [','] c₃
  rw [htwo] at hreach₃
  dsimp only at h hreach₃
  split at h
  · rename_i hcomma
    obtain ⟨c₅, h₅, h⟩ := Option.bind_eq_some_iff.1 h
    obtain ⟨⟨name', c₆⟩, h₆, h⟩ := Option.bind_eq_some_iff.1 h
    obtain ⟨c₇, h₇, h⟩ := Option.bind_eq_some_iff.1 h
    obtain ⟨c₈, h₈, h⟩ := Option.bind_eq_some_iff.1 h
    obtain ⟨rfl, hr⟩ := Prod.mk.inj (Option.some.inj h)
    obtain ⟨rfl, rfl⟩ := Prod.mk.inj hr
    obtain ⟨c₇, rfl⟩ := exists_ahead (reaches_expect h₈)
    obtain ⟨c₆, rfl⟩ := exists_ahead (reaches_skip h₇)
    obtain ⟨c₅, rfl⟩ := exists_ahead (closes_name h₆).reaches
    obtain ⟨c₄, rfl⟩ := exists_ahead (reaches_skip h₅)
    obtain ⟨c₃, rfl⟩ := exists_ahead hreach₃
    obtain ⟨c₂, rfl⟩ := exists_ahead (reaches_skip h₃)
    obtain ⟨c₁, rfl⟩ := exists_ahead (closes_name h₂).reaches
    simp only [Option.bind_eq_bind, skipLines, skip_of_ahead h₁, name_of_ahead h₂,
      skip_of_ahead h₃, skipIf_of_ahead htwo, if_pos hcomma, skip_of_ahead h₅, name_of_ahead h₆,
      skip_of_ahead h₇, expect_of_ahead h₈, Option.bind_some]
    rfl
  · rename_i hcomma
    obtain ⟨c₅, h₅, h⟩ := Option.bind_eq_some_iff.1 h
    obtain ⟨rfl, hr⟩ := Prod.mk.inj (Option.some.inj h)
    obtain ⟨rfl, rfl⟩ := Prod.mk.inj hr
    obtain ⟨c₄, rfl⟩ := exists_ahead (reaches_expect h₅)
    obtain ⟨c₃, rfl⟩ := exists_ahead hreach₃
    obtain ⟨c₂, rfl⟩ := exists_ahead (reaches_skip h₃)
    obtain ⟨c₁, rfl⟩ := exists_ahead (closes_name h₂).reaches
    simp only [Option.bind_eq_bind, skipLines, skip_of_ahead h₁, name_of_ahead h₂,
      skip_of_ahead h₃, skipIf_of_ahead htwo, if_neg hcomma, expect_of_ahead h₅, Option.bind_some]
    rfl

/-- A line break that ends before `t` is no part of `t`. -/
theorem lineBreakText_of_ahead {cs : List Char}
    (h : t.length ≤ ((cs ++ t).drop (lineBreakText (cs ++ t)).length).length) :
    lineBreakText (cs ++ t) = lineBreakText cs := by
  by_cases hnil : lineBreakText cs = []
  · generalize hv : cs ++ t = v at h ⊢
    unfold lineBreakText at h ⊢
    split
    · obtain ⟨cs, rfl, rfl⟩ := exists_append (w := ['\n']) hv h
      cases hnil
    · obtain ⟨cs, rfl, rfl⟩ := exists_append (w := ['\r', '\n']) hv h
      cases hnil
    · exact hnil.symm
  · exact lineBreakText_append hnil

theorem drop_lineBreakText_ahead (cs : List Char) :
    (cs ++ t).drop (lineBreakText cs).length = cs.drop (lineBreakText cs).length ++ t :=
  List.drop_append_of_le_length (length_lineBreakText_le cs)

theorem heredocStart_of_ahead {indented : Bool} {id : List Char}
    (h : (c.ahead t).heredocStart = some (indented, id, d.ahead t)) :
    c.heredocStart = some (indented, id, d) := by
  unfold heredocStart at h ⊢
  obtain ⟨c₁, h₁, h⟩ := Option.bind_eq_some_iff.1 h
  generalize hdash : c₁.skipIf ['-'] = r at h
  obtain ⟨found, c₂⟩ := r
  obtain ⟨⟨name, c₃⟩, h₃, h⟩ := Option.bind_eq_some_iff.1 h
  have hreach₂ := reaches_skipIf ['-'] c₁
  rw [hdash] at hreach₂
  have hreach₃ := reaches_lineBreakText c₃
  dsimp only at h hreach₂
  split at h
  · cases h
  · rename_i hbreak
    obtain ⟨rfl, hr⟩ := Prod.mk.inj (Option.some.inj h)
    obtain ⟨rfl, hd⟩ := Prod.mk.inj hr
    rw [hd] at hreach₃
    obtain ⟨⟨cs, byte⟩, rfl⟩ := exists_ahead hreach₃
    obtain ⟨c₂, rfl⟩ := exists_ahead (closes_name h₃).reaches
    obtain ⟨c₁, rfl⟩ := exists_ahead hreach₂
    dsimp only [ahead] at hd hbreak
    have hline := lineBreakText_of_ahead (length_le_of_eq_ahead hd)
    rw [hline] at hd hbreak
    rw [drop_lineBreakText_ahead] at hd
    simp only [Option.bind_eq_bind, expect_of_ahead h₁, skipIf_of_ahead hdash, name_of_ahead h₃,
      Option.bind_some]
    exact congrArg (fun d => some (found, name.toList, d)) (ahead_inj.1 hd)

/-- The terminator of a heredoc that ends before `t` is found without it. -/
theorem heredocStop_of_ahead {id : List Char} {gap : Option Span}
    (h : (c.ahead t).heredocStop id = some (gap, d.ahead t)) :
    c.heredocStop id = some (gap, d) := by
  unfold heredocStop at h ⊢
  generalize hblank : (c.ahead t).takeWhile (fun ch => ch == ' ' || ch == '\t') = r at h
  obtain ⟨blank, c₁⟩ := r
  obtain ⟨c₂, h₂, h⟩ := Option.bind_eq_some_iff.1 h
  obtain ⟨rfl, rfl⟩ := Prod.mk.inj (Option.some.inj h)
  obtain ⟨c₁, rfl⟩ := exists_ahead (reaches_expect h₂)
  simp only [takeWhile_of_ahead hblank, Option.bind_eq_bind, expect_of_ahead h₂, Option.bind_some]
  rfl

theorem positionDigits_of_ahead {digits : List Char}
    (h : (c.ahead t).positionDigits = (digits, d.ahead t)) : c.positionDigits = (digits, d) := by
  obtain ⟨cs, byte⟩ := c
  unfold positionDigits at h ⊢
  dsimp only [ahead] at h ⊢
  split at h
  · rename_i v hv
    obtain ⟨rfl, hd⟩ := Prod.mk.inj h
    have hle := length_le_of_eq_ahead hd
    obtain ⟨cs, rfl, rfl⟩ := exists_append (w := ['0']) hv hle
    exact Prod.ext rfl (ahead_inj.1 hd)
  · rename_i hzero
    split
    · exact (hzero _ rfl).elim
    · exact @takeWhile_of_ahead t ⟨cs, byte⟩ d Char.isDigit digits h

/-- Without `t` no digits come next if none do with it. -/
theorem positionDigits_isEmpty_of_ahead (h : (c.ahead t).positionDigits.1.isEmpty = true) :
    c.positionDigits.1.isEmpty = true := by
  obtain ⟨cs, byte⟩ := c
  unfold positionDigits at h ⊢
  dsimp only [ahead] at h ⊢
  split at h
  · cases h
  · rename_i hzero
    split
    · exact (hzero _ rfl).elim
    · exact @takeWhile_isEmpty_of_ahead t ⟨cs, byte⟩ Char.isDigit h

theorem dotStep_of_ahead {start : Nat} {step : Step}
    (h : (c.ahead t).dotStep start = some (step, d.ahead t)) :
    c.dotStep start = some (step, d) := by
  unfold dotStep at h ⊢
  obtain ⟨c₁, h₁, h⟩ := Option.bind_eq_some_iff.1 h
  split at h
  · rename_i v hv
    obtain ⟨rfl, hd⟩ := Prod.mk.inj (Option.some.inj h)
    obtain ⟨⟨cs, byte⟩, rfl⟩ := exists_ahead (hd ▸ reaches_cons hv rfl)
    have hle := length_le_of_eq_ahead hd
    obtain ⟨cs, rfl, rfl⟩ := exists_append (w := ['*']) hv hle
    simp only [skipLines, skip_of_ahead h₁, Option.bind_eq_bind, Option.bind_some]
    exact congrArg (fun d => some (_, d)) (ahead_inj.1 hd)
  · rename_i hstar
    generalize hdigits : c₁.positionDigits = r at h
    obtain ⟨digits, c₂⟩ := r
    dsimp only at h
    split at h
    · rename_i hempty
      obtain ⟨⟨name, c₃⟩, h₃, h⟩ := Option.bind_eq_some_iff.1 h
      obtain ⟨rfl, rfl⟩ := Prod.mk.inj (Option.some.inj h)
      obtain ⟨c₁, rfl⟩ := exists_ahead (closes_name h₃).reaches
      have hnone := positionDigits_isEmpty_of_ahead (c := c₁) (by rw [hdigits]; exact hempty)
      simp only [skipLines, skip_of_ahead h₁, Option.bind_eq_bind, Option.bind_some]
      split
      · rename_i v hv
        exact (hstar (v ++ t) (congrArg (· ++ t) hv)).elim
      · rw [if_pos hnone, name_of_ahead h₃]
        rfl
    · rename_i hne
      split at h
      · rename_i hfits
        obtain ⟨rfl, rfl⟩ := Prod.mk.inj (Option.some.inj h)
        have hreach : Reaches c₁ c₁.positionDigits.2 :=
          (closes_positionDigits (by rw [hdigits]; simpa using hne)).reaches
        rw [hdigits] at hreach
        obtain ⟨c₁, rfl⟩ := exists_ahead hreach
        simp only [skipLines, skip_of_ahead h₁, Option.bind_eq_bind, Option.bind_some]
        split
        · rename_i v hv
          exact (hstar (v ++ t) (congrArg (· ++ t) hv)).elim
        · rw [positionDigits_of_ahead hdigits, if_neg hne, if_pos hfits]
          rfl
      · cases h

end Cursor

end TerraLint.Hcl
