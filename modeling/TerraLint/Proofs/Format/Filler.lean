import TerraLint.Proofs.Text.Trim
import TerraLint.Proofs.Format.Token

/-!
# Characters that no token needs

Blanks and the sign `=` stand in no token with another character and change nothing that is open.
So what a line opens, closes and weighs stays the same when such characters are put in or taken out
next to others of them, and when blanks are taken off an end of the line.

* `Lexer.rest_append_filler`: filler between two parts of a line may be exchanged.
* `Scan.line_trim`, `Scan.line_blank_append`: the ends of a line.
-/

namespace TerraLint.Format

open Text

/-- Whether a character is blank or the sign of an assignment. -/
def isFiller (c : Char) : Bool := isBlank c || c == '='

/-- Characters that stand in a token after another one. -/
def joins (c : Char) : Bool :=
  c == '/' || c == '*' || c == '$' || c == '%' || c == '{' || c == '<' || Scan.isWordRest c

theorem isFiller_of_isBlank {c : Char} (h : isBlank c = true) : isFiller c = true := by
  simp [isFiller, h]

/-- The codes of blanks are below those of letters and digits, or beyond ASCII. -/
theorem isWordRest_of_isBlank {c : Char} (h : isBlank c = true) : Scan.isWordRest c = false := by
  simp only [isBlank, Bool.or_eq_true, Bool.and_eq_true, decide_eq_true_eq, beq_iff_eq] at h
  have hranges : c.isAlphanum = ((decide (c.val ≥ 'A'.val ∧ c.val ≤ 'Z'.val) ||
      (c.val ≥ 'a'.val && c.val ≤ 'z'.val)) || (c.val ≥ '0'.val && c.val ≤ '9'.val)) := rfl
  have ha : c.isAlphanum = false := by
    simp only [hranges, Bool.or_eq_false_iff, Bool.and_eq_false_iff, decide_eq_false_iff_not,
      ge_iff_le, UInt32.le_iff_toNat_le]
    simp only [Char.toNat] at h
    have hA : 'A'.val.toNat = 65 := rfl
    have hZ : 'Z'.val.toNat = 90 := rfl
    have ha : 'a'.val.toNat = 97 := rfl
    have hz : 'z'.val.toNat = 122 := rfl
    have h0 : '0'.val.toNat = 48 := rfl
    have h9 : '9'.val.toNat = 57 := rfl
    omega
  have h₁ : c ≠ '_' := by rintro rfl; simp_all
  have h₂ : c ≠ '-' := by rintro rfl; simp_all
  simp [Scan.isWordRest, ha, h₁, h₂]

theorem ne_of_isFiller {c d : Char} (h : isFiller c = true) (hd : isFiller d = false) : c ≠ d := by
  rintro rfl
  rw [h] at hd
  cases hd

theorem joins_of_isFiller {c : Char} (h : isFiller c = true) : joins c = false := by
  have hw : Scan.isWordRest c = false := by
    rcases Bool.or_eq_true_iff.1 h with hb | he
    · exact isWordRest_of_isBlank hb
    · rw [show c = '=' by simpa using he]
      decide
  have h₁ : c ≠ '/' := ne_of_isFiller h (by decide)
  have h₂ : c ≠ '*' := ne_of_isFiller h (by decide)
  have h₃ : c ≠ '$' := ne_of_isFiller h (by decide)
  have h₄ : c ≠ '%' := ne_of_isFiller h (by decide)
  have h₅ : c ≠ '{' := ne_of_isFiller h (by decide)
  have h₆ : c ≠ '<' := ne_of_isFiller h (by decide)
  simp [joins, hw, h₁, h₂, h₃, h₄, h₅, h₆]

/-- Whether no token goes on into a text. -/
def startsToken (cs : List Char) : Bool := cs.head?.all fun c => !joins c

/-! ## Tokens end before such characters -/

section

variable {x : List Char}

theorem startsToken_head {c : Char} {cs : List Char} (h : startsToken (c :: cs) = true) :
    joins c = false := by
  simpa [startsToken] using h

theorem isWordRest_of_isWordStart {c : Char} (h : Scan.isWordStart c = true) :
    Scan.isWordRest c = true := by
  simp only [Scan.isWordStart, Scan.isWordRest, Char.isAlphanum, Bool.or_eq_true] at h ⊢
  rcases h with h | h
  · exact Or.inl (Or.inl (Or.inl h))
  · exact Or.inl (Or.inr h)

theorem takeWhile_isWordRest_append (hx : startsToken x = true) (cs : List Char) :
    (cs ++ x).takeWhile Scan.isWordRest = cs.takeWhile Scan.isWordRest := by
  have hx' : x.takeWhile Scan.isWordRest = [] := by
    cases x with
    | nil => rfl
    | cons d x =>
      have hd := startsToken_head hx
      simp only [joins, Bool.or_eq_false_iff] at hd
      simp [hd.2]
  induction cs with
  | nil => simpa using hx'
  | cons c cs ih => simp only [List.cons_append, List.takeWhile_cons, ih]

theorem word_append (hx : startsToken x = true) (cs : List Char) :
    Scan.word (cs ++ x) = Scan.word cs := by
  cases cs with
  | nil =>
    cases x with
    | nil => rfl
    | cons d x =>
      have hd := startsToken_head hx
      simp only [joins, Bool.or_eq_false_iff] at hd
      have hs : ¬ Scan.isWordStart d = true := fun h => by
        rw [isWordRest_of_isWordStart h] at hd
        cases hd.2
      simp [Scan.word, hs]
  | cons c cs => simp [Scan.word, takeWhile_isWordRest_append hx]

theorem heredocMarker_append (hx : startsToken x = true) (c : Char) (cs : List Char) :
    Scan.heredocMarker (c :: cs ++ x) = Scan.heredocMarker (c :: cs) := by
  rcases cs with _ | ⟨d, cs⟩
  · rcases x with _ | ⟨e, x⟩
    · rfl
    · have he := startsToken_head hx
      have : e ≠ '<' := by rintro rfl; cases he
      simp [Scan.heredocMarker, this]
  · rcases cs with _ | ⟨e, cs⟩
    · rcases x with _ | ⟨e, x⟩
      · rfl
      · have he := startsToken_head hx
        have hne : e ≠ '-' := by rintro rfl; cases he
        have hw := word_append hx []
        simp only [List.nil_append] at hw
        simp only [List.cons_append, List.nil_append]
        unfold Scan.heredocMarker
        split <;> simp_all
    · have hw := word_append hx cs
      have hw' := word_append hx (e :: cs)
      by_cases he : e = '-'
      · subst he
        by_cases hcd : c = '<' ∧ d = '<'
        · obtain ⟨rfl, rfl⟩ := hcd
          simpa [Scan.heredocMarker] using hw
        · unfold Scan.heredocMarker
          split <;> simp_all
      · simp only [List.cons_append] at hw' ⊢
        unfold Scan.heredocMarker
        split <;> split <;> simp_all

theorem commentToken_append (hx : startsToken x = true) (s : Scan) (c : Char) (cs : List Char) :
    Lexer.commentToken s (c :: cs ++ x) = Lexer.commentToken s (c :: cs) := by
  rcases cs with _ | ⟨d, cs⟩
  · rcases x with _ | ⟨e, x⟩
    · rfl
    · have he := startsToken_head hx
      have : e ≠ '/' := by rintro rfl; cases he
      simp [Lexer.commentToken, this]
  · simp only [List.cons_append]
    unfold Lexer.commentToken
    split <;> simp_all

theorem stringToken_append (hx : startsToken x = true) (s : Scan) (c : Char) (cs : List Char) :
    Lexer.stringToken s (c :: cs ++ x) = Lexer.stringToken s (c :: cs) := by
  have hne : ∀ e x', x = e :: x' → e ≠ '{' ∧ e ≠ '$' ∧ e ≠ '%' := by
    rintro e x' rfl
    have he := startsToken_head hx
    refine ⟨?_, ?_, ?_⟩ <;> rintro rfl <;> cases he
  rcases cs with _ | ⟨d, _ | ⟨e, cs⟩⟩
  · rcases x with _ | ⟨e, x⟩
    · rfl
    · obtain ⟨h₁, h₂, h₃⟩ := hne e x rfl
      simp only [List.cons_append, List.nil_append]
      unfold Lexer.stringToken
      split <;> simp_all
  · rcases x with _ | ⟨e, x⟩
    · rfl
    · obtain ⟨h₁, h₂, h₃⟩ := hne e x rfl
      simp only [List.cons_append, List.nil_append]
      unfold Lexer.stringToken
      split <;> simp_all
  · -- The first three characters tell the token, and both texts have them.
    simp only [List.cons_append]
    unfold Lexer.stringToken
    split
    case h_7 h₁ h₂ h₃ h₄ h₅ h₆ =>
      split
      · rename_i heq
        cases heq
        exact (h₁ _ rfl).elim
      · rename_i heq
        cases heq
        exact (h₂ _ rfl).elim
      · rename_i heq
        cases heq
        exact (h₃ _ rfl).elim
      · rename_i heq
        cases heq
        exact (h₄ _ rfl).elim
      · rename_i heq
        cases heq
        exact (h₅ _ rfl).elim
      · rename_i heq
        cases heq
        exact (h₆ _ rfl).elim
      · rfl
    all_goals
      rename_i heq
      cases heq
      rfl

theorem codeToken_append (hx : startsToken x = true) (s : Scan) (c : Char) (cs : List Char) :
    Lexer.codeToken s (c :: cs ++ x) = Lexer.codeToken s (c :: cs) := by
  have hm : s.marked (c :: cs ++ x) = s.marked (c :: cs) := by
    unfold Scan.marked
    rw [heredocMarker_append hx]
  rcases cs with _ | ⟨d, cs⟩
  · rcases x with _ | ⟨e, x⟩
    · rfl
    · have he := startsToken_head hx
      have h₁ : e ≠ '/' := by rintro rfl; cases he
      have h₂ : e ≠ '*' := by rintro rfl; cases he
      simp only [List.cons_append, List.nil_append] at hm ⊢
      unfold Lexer.codeToken
      split <;> simp_all
  · simp only [List.cons_append] at hm ⊢
    unfold Lexer.codeToken
    split <;> simp_all

/-- The first token of a text does not depend on filler behind the text. -/
theorem Lexer.token_append (hx : startsToken x = true) (l : Lexer) (c : Char) (cs : List Char) :
    l.token (c :: cs ++ x) = l.token (c :: cs) := by
  unfold Lexer.token
  rw [commentToken_append hx, stringToken_append hx, codeToken_append hx]

end

/-! ## Filler is read for nothing -/

namespace Lexer

theorem token_filler {l : Lexer} {c : Char} (hc : isFiller c = true) (cs : List Char) :
    ∃ mark, l.token (c :: cs) = ([mark], l) ∧ mark.weight c = 0 := by
  have ne : ∀ d, isFiller d = false → c ≠ d := fun d hd => ne_of_isFiller hc hd
  have h₁ := ne '*' (by decide)
  have h₂ := ne '\\' (by decide)
  have h₃ := ne '$' (by decide)
  have h₄ := ne '%' (by decide)
  have h₅ := ne '"' (by decide)
  have h₆ := ne '#' (by decide)
  have h₇ := ne '/' (by decide)
  have h₈ := ne '{' (by decide)
  have h₉ := ne '}' (by decide)
  have hm : l.scan.marked (c :: cs) = l.scan := marked_of_ne (ne '<' (by decide)) cs
  have hw : Mark.code.weight c = 0 := by
    simp [Mark.weight, h₈, h₉, ne '[' (by decide), ne '(' (by decide), ne ']' (by decide),
      ne ')' (by decide)]
  obtain ⟨s, lineComment⟩ := l
  unfold token
  cases lineComment with
  | true => exact ⟨.comment, rfl, rfl⟩
  | false =>
    simp only [Bool.false_eq_true, if_false]
    split
    · exact ⟨.comment, by simp [commentToken, h₁], rfl⟩
    · split
      · exact ⟨.literal, by simp [stringToken, h₂, h₃, h₄, h₅], rfl⟩
      · exact ⟨.code, by simp_all [codeToken], hw⟩

theorem rest_filler {l : Lexer} (h : l.scan.Valid) {f : List Char}
    (hf : ∀ c ∈ f, isFiller c = true) (cs : List Char) : l.rest (f ++ cs) = l.rest cs := by
  induction f with
  | nil => rfl
  | cons c f ih =>
    obtain ⟨mark, htoken, hweight⟩ := token_filler (hf c List.mem_cons_self) (l := l) (f ++ cs)
    rw [List.cons_append, rest_cons h, htoken]
    simp only [after, List.zip_cons_cons, List.zip_nil_right, balance_cons, balance_nil, hweight,
      List.length_singleton, List.drop_succ_cons, List.drop_zero, Scan.shift, Int.add_zero]
    exact ih fun d hd => hf d (List.mem_cons_of_mem _ hd)

/-- Only a backslash at the end of a string line reaches for a character that is not there. -/
theorem token_length (l : Lexer) (c : Char) (cs : List Char) :
    (l.token (c :: cs)).1.length ≤ (c :: cs).length ∨
      cs = [] ∧ l.token [c] = ([.literal, .literal], l) := by
  obtain ⟨s, lineComment⟩ := l
  unfold token
  cases lineComment with
  | true => exact Or.inl (by simp)
  | false =>
    simp only [Bool.false_eq_true, if_false]
    split
    · unfold commentToken
      split <;> simp_all
    · split
      · cases cs with
        | nil =>
          by_cases hc : c = '\\'
          · exact Or.inr ⟨rfl, by simp [stringToken, hc]⟩
          · left
            unfold stringToken
            split <;> simp_all
        | cons d cs =>
          left
          unfold stringToken
          split
          · simp
          all_goals simp_all
      · unfold codeToken
        split <;> simp_all

theorem zip_append_of_length_le {α β : Type} {a : List α} {m : List β} (h : m.length ≤ a.length)
    (z : List α) : (a ++ z).zip m = a.zip m := by
  induction m generalizing a with
  | nil => simp
  | cons b m ih =>
    cases a with
    | nil => simp at h
    | cons d a =>
      simp only [List.length_cons, Nat.add_le_add_iff_right] at h
      simp [ih h]

/-- Texts that are read alike, and alike without their first character, are read alike behind any
text, if no token goes on into them. -/
theorem rest_append_congr {x y : List Char} (hx : startsToken x = true) (hy : startsToken y = true)
    (hxy : ∀ l : Lexer, l.scan.Valid → l.rest x = l.rest y)
    (htail : ∀ l : Lexer, l.scan.Valid → l.rest x.tail = l.rest y.tail) (k : List Char) :
    ∀ l : Lexer, l.scan.Valid → l.rest (k ++ x) = l.rest (k ++ y) := by
  induction hn : k.length using Nat.strong_induction_on generalizing k with
  | _ n ih =>
    intro l h
    cases k with
    | nil => exact hxy l h
    | cons c k =>
      have hcons : ∀ z, startsToken z = true →
          l.rest (c :: k ++ z) = after (l.token (c :: k)) (c :: k ++ z) := fun z hz => by
        rw [← token_append hz]
        exact rest_cons h c (k ++ z)
      rw [hcons x hx, hcons y hy]
      rcases token_length l c k with hlen | ⟨rfl, htoken⟩
      · -- The token ends within `k`: what follows it is a shorter text before `x` and before `y`.
        have hpos : 0 < (l.token (c :: k)).1.length := List.length_pos_iff.2 (token_ne_nil l _)
        have hzip : ∀ z, (c :: k ++ z).zip (l.token (c :: k)).1 =
            (c :: k).zip (l.token (c :: k)).1 := fun z => zip_append_of_length_le hlen z
        have hdrop : ∀ z, (c :: k ++ z).drop (l.token (c :: k)).1.length =
            (c :: k).drop (l.token (c :: k)).1.length ++ z := fun z =>
          List.drop_append_of_le_length hlen
        have hrest := ih _ (by rw [← hn, List.length_drop]; simp only [List.length_cons]; omega)
          ((c :: k).drop (l.token (c :: k)).1.length) rfl (l.token (c :: k)).2 (token_valid h _)
        simp only [after, hzip, hdrop, hrest]
      · -- The backslash takes the first character of `x` and of `y` along.
        have hz : ∀ z, after (l.token [c]) ([c] ++ z) = l.rest z.tail := by
          intro z
          rw [htoken]
          rcases z with _ | ⟨d, z⟩ <;> simp [after, Mark.weight, Scan.shift]
        rw [hz, hz, htail l h]

/-- Filler between two parts of a line may be exchanged for other filler, and at the end of the line
it may be left out. -/
theorem rest_append_filler {l : Lexer} (h : l.scan.Valid) {f g : List Char}
    (hf : ∀ c ∈ f, isFiller c = true) (hg : ∀ c ∈ g, isFiller c = true) {v : List Char}
    (hv : f ≠ [] ∧ g ≠ [] ∨ v = []) (k : List Char) :
    l.rest (k ++ (f ++ v)) = l.rest (k ++ (g ++ v)) := by
  have hsome : ∀ {e : List Char}, (∀ c ∈ e, isFiller c = true) → e ≠ [] ∨ v = [] →
      startsToken (e ++ v) = true ∧
        ∀ l : Lexer, l.scan.Valid → l.rest (e ++ v) = l.rest v ∧ l.rest (e ++ v).tail = l.rest v := by
    intro e he hev
    refine ⟨?_, fun l h => ⟨rest_filler h he v, ?_⟩⟩
    · rcases e with _ | ⟨c, e⟩
      · obtain rfl : v = [] := by simpa using hev
        rfl
      · simp [startsToken, joins_of_isFiller (he c List.mem_cons_self)]
    · rcases e with _ | ⟨c, e⟩
      · obtain rfl : v = [] := by simpa using hev
        rfl
      · exact rest_filler h (fun d hd => he d (List.mem_cons_of_mem _ hd)) v
  obtain ⟨hsf, hrf⟩ := hsome hf (hv.imp And.left id)
  obtain ⟨hsg, hrg⟩ := hsome hg (hv.imp And.right id)
  refine rest_append_congr hsf hsg ?_ ?_ k l h
  · intro l h
    rw [(hrf l h).1, (hrg l h).1]
  · intro l h
    rw [(hrf l h).2, (hrg l h).2]

end Lexer

/-! ## Whole lines -/

namespace Scan

theorem line_eq_rest (s : Scan) (cs : List Char) : s.line cs = Lexer.rest ⟨s, false⟩ cs := rfl

theorem isFiller_of_allBlank {b : List Char} (hb : allBlank b = true) :
    ∀ c ∈ b, isFiller c = true := fun c hc => isFiller_of_isBlank (allBlank_iff.1 hb c hc)

theorem line_blank_append {s : Scan} (h : s.Valid) {b : List Char} (hb : allBlank b = true)
    (cs : List Char) : s.line (b ++ cs) = s.line cs :=
  Lexer.rest_filler (l := ⟨s, false⟩) h (isFiller_of_allBlank hb) cs

theorem line_append_blank {s : Scan} (h : s.Valid) {b : List Char} (hb : allBlank b = true)
    (cs : List Char) : s.line (cs ++ b) = s.line cs := by
  have := Lexer.rest_append_filler (l := ⟨s, false⟩) h (isFiller_of_allBlank hb)
    (g := []) (by simp) (v := []) (Or.inr rfl) cs
  simpa [line_eq_rest] using this

theorem line_trim {s : Scan} (h : s.Valid) (cs : List Char) : s.line (trim cs) = s.line cs := by
  obtain ⟨a, b, ha, hb, hcs⟩ := exists_trim cs
  conv_rhs => rw [hcs, line_append_blank h hb, line_blank_append h ha]

theorem line_allBlank {s : Scan} (h : s.Valid) {cs : List Char} (hb : allBlank cs = true) :
    s.line cs = (s, 0) := by
  have := line_blank_append h hb []
  rwa [List.append_nil, line_nil] at this

end Scan

/-- Reading the rest of a line leads to no state that does not occur. -/
theorem Lexer.rest_valid (cs : List Char) :
    ∀ l : Lexer, l.scan.Valid → (l.rest cs).1.Valid := by
  induction hn : cs.length using Nat.strong_induction_on generalizing cs with
  | _ n ih =>
    intro l h
    cases cs with
    | nil => simpa using h
    | cons c cs =>
      rw [rest_cons h]
      have hpos : 0 < (l.token (c :: cs)).1.length := List.length_pos_iff.2 (token_ne_nil l _)
      exact ih _ (by rw [← hn, List.length_drop]; simp only [List.length_cons]; omega) _ rfl _
        (token_valid h _)

theorem Scan.line_valid {s : Scan} (h : s.Valid) (cs : List Char) : (s.line cs).1.Valid :=
  Lexer.rest_valid cs ⟨s, false⟩ h

end TerraLint.Format
