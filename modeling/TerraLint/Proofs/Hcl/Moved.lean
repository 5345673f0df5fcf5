import TerraLint.Proofs.Hcl.BodyLocality
import TerraLint.Proofs.Hcl.Header

/-!
# Blanks and headers in another place

What is read of a text up to a token is read of it in any other place as well, as long as the text
before the token and a little of it are the same.

* `Trivia.Skips.ahead`: blanks and comments, with more text behind.
* `Moves`: a reader that reads the same text in another place.
* `moves_skip`, `moves_endOfLine`: blanks and line ends.
* `labels_moved`, `item_of_header`: the labels of a block, and a block with another body.
-/

namespace TerraLint.Hcl

open Text Cursor Offset

variable {t : List Char} {c d : Cursor}

/-- A text at which it is seen that blanks and comments have ended. -/
def Begun (v : List Char) : Prop := v ≠ [] ∧ v ≠ ['/']

namespace Trivia

variable {s s' : Trivia} {w cs rest : List Char}

/-- Where blanks and comments have ended, more text behind does not bring them back. -/
theorem Ends.append {m : Bool} (h : Ends (.between m) cs) (hcs : Begun cs) :
    Ends (.between m) (cs ++ t) := by
  cases h with
  | between hnone =>
    obtain ⟨hne, hslash⟩ := hcs
    obtain ⟨c, cs, rfl⟩ := List.exists_cons_of_ne_nil hne
    have hmark : ∀ {x : Char} {rest : List Char}, c :: cs ++ t = '/' :: x :: rest →
        ∃ more, c :: cs = '/' :: x :: more := by
      intro x rest heq
      obtain ⟨rfl, htail⟩ := List.cons.inj heq
      cases cs with
      | nil => exact absurd rfl hslash
      | cons y cs =>
        obtain ⟨rfl, -⟩ := List.cons.inj htail
        exact ⟨cs, rfl⟩
    refine .between fun w rest s' heq htakes => ?_
    cases htakes with
    | blank hc =>
      obtain ⟨rfl, -⟩ := List.cons.inj heq
      exact hnone [c] cs _ rfl (.blank hc)
    | openLine hmarks =>
      rcases hmarks with rfl | rfl
      · obtain ⟨rfl, -⟩ := List.cons.inj heq
        exact hnone ['#'] cs _ rfl (.openLine (.inl rfl))
      · obtain ⟨more, hmore⟩ := hmark heq
        exact hnone ['/', '/'] more _ hmore (.openLine (.inr rfl))
    | openBlock =>
      obtain ⟨more, hmore⟩ := hmark heq
      exact hnone ['/', '*'] more _ hmore .openBlock

theorem Takes.append (h : Takes s w rest s') (hrest : rest ≠ []) : Takes s w (rest ++ t) s' := by
  cases h with
  | blank hc => exact .blank hc
  | openLine hmark => exact .openLine hmark
  | openBlock => exact .openBlock
  | inBlock hne =>
    have hhead : (rest ++ t).head? = rest.head? := List.head?_append_of_ne_nil rest hrest
    exact .inBlock (hhead ▸ hne)
  | closeBlock => exact .closeBlock
  | inLine hc => exact .inLine hc
  | closeLine hmark => exact .closeLine hmark

/-- Blanks and comments that end before a token end there with more text behind. -/
theorem Skips.ahead (h : Skips s c d) (hd : Begun d.rest) : Skips s (c.ahead t) (d.ahead t) := by
  induction h with
  | @stop s c hends =>
    obtain ⟨cs, byte⟩ := c
    cases hends with
    | between hnone => exact .stop ((Ends.between hnone).append hd)
    | line => exact absurd rfl hd.1
  | @take _ _ w rest byte d htakes hmore ih =>
    obtain ⟨more, hrest, -⟩ := hmore.reaches
    have hne : rest ≠ [] := fun hnil => hd.1 (List.append_eq_nil_iff.1 (hrest.symm.trans hnil)).2
    have hahead : Cursor.ahead t ⟨w ++ rest, byte⟩ = ⟨w ++ (rest ++ t), byte⟩ :=
      congrArg (Cursor.mk · byte) (List.append_assoc w rest t)
    rw [hahead]
    exact .take (htakes.append hne) (ih hd)

end Trivia

theorem skip_ahead {m : Bool} (h : c.skip m = some d) (hd : Begun d.rest) :
    (c.ahead t).skip m = some (d.ahead t) := skip_iff.2 ((skip_iff.1 h).ahead hd)

/-! ## Ends of lines -/

theorem CommentRest.append {w rest : List Char} (h : CommentRest w rest) (hrest : rest ≠ []) :
    CommentRest w (rest ++ t) := by
  induction h with
  | feed hmark => exact .feed hmark
  | done => exact absurd rfl hrest
  | char hc _ ih => exact .char hc (ih hrest)

theorem LineBreak.append {w rest : List Char} (h : LineBreak w rest) (hrest : rest ≠ []) :
    LineBreak w (rest ++ t) := by
  cases h with
  | feed hmark => exact .feed hmark
  | comment hmark h => exact .comment hmark (h.append hrest)

theorem lineBreak_ahead (h : c.lineBreak = some d) (hd : d.rest ≠ []) :
    (c.ahead t).lineBreak = some (d.ahead t) := by
  obtain ⟨w, hw, hrest, hbyte⟩ := lineBreak_iff.1 h
  refine lineBreak_iff.2 ⟨w, hw.append hd, ?_, hbyte⟩
  rw [ahead, hrest, List.append_assoc]
  rfl

theorem endOfLine_ahead (h : c.endOfLine = some d) (hd : d.rest ≠ []) :
    (c.ahead t).endOfLine = some (d.ahead t) := by
  obtain ⟨c₁, hskip, h⟩ := Option.bind_eq_some_iff.1 h
  have hbreak : c₁.lineBreak = some d := by
    split at h
    · rename_i hnil
      obtain rfl := Option.some.inj h
      exact absurd hnil hd
    · exact h
  have hbegun : Begun c₁.rest := by
    refine ⟨ne_nil_of_lineBreak hbreak, fun hslash => ?_⟩
    rw [lineBreak, hslash] at hbreak
    cases hbreak
  have hbreak' := lineBreak_ahead (t := t) hbreak hd
  unfold endOfLine
  rw [skipInline, skip_ahead hskip hbegun]
  simp only [Option.bind_eq_bind, Option.bind_some]
  split
  · rename_i hnil
    exact absurd hnil (ne_nil_of_lineBreak hbreak')
  · exact hbreak'

theorem endOfLine_shift (k : Nat) (c : Cursor) :
    (shift k c).endOfLine = shift k c.endOfLine := by
  unfold endOfLine
  refine Option.bind_shift (skip_shift false c) fun ⟨cs, byte⟩ _ => ?_
  cases cs with
  | nil => rfl
  | cons ch cs => exact lineBreak_shift _

/-! ## Another place -/

/-- A reader that reads the same text in another place, where something else may come behind. -/
def Moves (f : Cursor → Option Cursor) : Prop :=
  ∀ {c d : Cursor} {w v t : List Char}, f c = some d → c.rest = w ++ d.rest → d.rest = v ++ t →
    Begun v → ∀ (t' : List Char) (byte : Nat),
      f ⟨w ++ (v ++ t'), byte⟩ = some ⟨v ++ t', byte + byteLength w⟩

theorem moves_of {f : Cursor → Option Cursor}
    (hof : ∀ {t c d}, f (c.ahead t) = some (d.ahead t) → f c = some d)
    (hshift : ∀ k c, f (shift k c) = shift k (f c))
    (hahead : ∀ {t c d}, f c = some d → Begun d.rest → f (c.ahead t) = some (d.ahead t))
    (hreach : ∀ {c d}, f c = some d → Reaches c d) : Moves f := by
  rintro ⟨cs, start⟩ ⟨ds, stop⟩ w v t h hw hv hbegun t' byte
  obtain rfl : cs = w ++ ds := hw
  obtain rfl : ds = v ++ t := hv
  have halone : f (shift start ⟨w ++ v, 0⟩) = some ⟨v, stop⟩ := hof (t := t) (by
    dsimp only [ahead, shift]
    rwa [List.append_assoc])
  rw [hshift] at halone
  obtain ⟨⟨v₀, stop₀⟩, hread, hv₀⟩ := Option.map_eq_some_iff.1 halone
  obtain rfl : v₀ = v := congrArg Cursor.rest hv₀
  have hread' : f (shift byte ⟨w ++ v₀, 0⟩) = some (shift byte ⟨v₀, stop₀⟩) := by
    rw [hshift, hread]
    rfl
  obtain hbyte : stop₀ = byteLength w := ((hreach hread).byte_eq rfl).trans (Nat.zero_add _)
  have hmoved := hahead (t := t') hread' hbegun
  dsimp only [ahead, shift] at hmoved
  rwa [List.append_assoc, hbyte] at hmoved

theorem moves_skip (m : Bool) : Moves (skip m) :=
  moves_of skip_of_ahead (fun _ c => skip_shift m c) skip_ahead reaches_skip

theorem moves_lineBreak : Moves lineBreak :=
  moves_of lineBreak_of_ahead (fun _ c => lineBreak_shift c) (fun h hd => lineBreak_ahead h hd.1)
    reaches_lineBreak

theorem moves_endOfLine : Moves endOfLine :=
  moves_of endOfLine_of_ahead endOfLine_shift (fun h hd => endOfLine_ahead h hd.1)
    fun h => (endOfLine_spec h).1

theorem endsName_of_name {name : String} (h : c.name = some (name, d)) : endsName d.rest = true := by
  unfold Cursor.name at h
  split at h
  · split at h
    · obtain ⟨-, rfl⟩ := Prod.mk.inj (Option.some.inj h)
      dsimp only [Cursor.takeWhile]
      unfold endsName
      cases hdrop : c.rest.dropWhile isNameRest with
      | nil => rfl
      | cons x rest =>
        have hx := List.head_dropWhile_not isNameRest (l := c.rest) (by rw [hdrop]; exact List.cons_ne_nil _ _)
        simp only [hdrop, List.head_cons] at hx
        simp [hx]
    · cases h
  · cases h

/-! ## Headers -/

section Headers

variable {n N : Nat} {w : List Char}

/-- One label is read in another place if the same character stands behind it. -/
theorem label_moved {label : String}
    (h : c.quotedLabel = some (label, d) ∨ c.name = some (label, d)) :
    ∃ w, c.rest = w ++ d.rest ∧ w ≠ [] ∧ ∀ rest byte, rest.head? = d.rest.head? →
      quotedLabel ⟨w ++ rest, byte⟩ = some (label, ⟨rest, byte + byteLength w⟩) ∨
        Cursor.name ⟨w ++ rest, byte⟩ = some (label, ⟨rest, byte + byteLength w⟩) := by
  rcases h with hlabel | hname
  · obtain ⟨inner, -, hrest, hread⟩ := quotedText_of_quotedLabel hlabel
    refine ⟨'"' :: (inner ++ ['"']), by simp [hrest], List.cons_ne_nil _ _, fun rest byte _ => .inl ?_⟩
    obtain ⟨stop, hstop⟩ := hread rest byte
    have hall : '"' :: (inner ++ '"' :: rest) = '"' :: (inner ++ ['"']) ++ rest := by simp
    obtain rfl := (closes_quotedLabel hstop).reaches.byte_eq hall
    simpa using hstop
  · obtain ⟨hlabel, hrest, -⟩ := isName_of_name hname
    refine ⟨label.toList, hrest, hlabel.solid.ne_nil, fun rest byte hhead => .inr ?_⟩
    refine name_append hlabel ?_ byte
    rw [endsName, hhead]
    exact endsName_of_name hname

/-- A text that ends with a brace tells where blanks and comments end. -/
theorem begun_brace (w : List Char) : Begun (w ++ ['{']) := by
  refine ⟨by simp, fun heq => ?_⟩
  have hlast := congrArg List.getLast? heq
  simp at hlast

theorem labels_moved {read ls : List String} {t : List Char} (h : c.labels n read = some (ls, d))
    (hw : c.rest = w ++ d.rest) (hd : d.rest = '{' :: t) (t' : List Char) (byte : Nat)
    (hN : w.length < N) : labels N read ⟨w ++ '{' :: t', byte⟩ =
      some (ls, ⟨'{' :: t', byte + byteLength w⟩) := by
  induction n generalizing read c w byte N with
  | zero => cases h
  | succ n ih =>
    obtain ⟨N, rfl⟩ : ∃ k, N = k + 1 := ⟨N - 1, by omega⟩
    rw [labels_succ_iff] at h ⊢
    cases h with
    | stop =>
      obtain rfl : w = [] := List.self_eq_append_left.1 hw
      exact .stop rfl
    | @more c₁ c₂ _ label _ hlabel hskip hmore =>
      obtain ⟨w₁, hc, hne, hlabel'⟩ := label_moved hlabel
      obtain ⟨w₂, hc₁, -⟩ := reaches_skip hskip
      obtain ⟨w₃, hc₂, -⟩ := reaches_labels hmore
      obtain rfl : w = w₁ ++ (w₂ ++ w₃) := by
        rw [hc, hc₁, hc₂, ← List.append_assoc, ← List.append_assoc] at hw
        rw [← List.append_assoc]
        exact (List.append_cancel_right hw).symm
      have hskip' := moves_skip false hskip hc₁ (v := w₃ ++ ['{']) (t := t)
        (by rw [hc₂, hd, List.append_assoc]; rfl) (begun_brace w₃) t' (byte + byteLength w₁)
      have hmore' := ih (N := N) hmore hc₂ (byte + byteLength w₁ + byteLength w₂) (by
        have hlength := List.length_pos_iff.2 hne
        simp only [List.length_append] at hN
        omega)
      simp only [List.append_assoc, List.singleton_append] at hskip' ⊢
      have hhead : (w₂ ++ (w₃ ++ '{' :: t')).head? = c₁.rest.head? := by
        rw [hc₁, hc₂, hd]
        cases w₂ <;> cases w₃ <;> rfl
      have hbyte : byte + byteLength (w₁ ++ (w₂ ++ w₃)) =
          byte + byteLength w₁ + byteLength w₂ + byteLength w₃ := by
        simp [Nat.add_assoc]
      rw [hbyte]
      exact .more (hlabel' _ byte hhead) hskip' hmore'

/-- A block is read in another place, with what its header says and what stands in its braces there. -/
theorem item_of_header {kind : String} {ls : List String} {c₁ c₂ c₃ : Cursor} {t : List Char}
    (hname : c.name = some (kind, c₁)) (h₂ : c₁.skipInline = some c₂) (hne : c₂.rest.head? ≠ some '=')
    (hlabels : c₂.labels n [] = some (ls, c₃)) (hw : c.rest = w ++ c₃.rest) (hbrace : c₃.rest = '{' :: t)
    {t' : List Char} {byte : Nat} (hN : w.length < N) {body : List Item}
    (hbody : blockBody N ⟨'{' :: t', byte + byteLength w⟩ = some (body, d)) :
    item (N + 1) ⟨w ++ '{' :: t', byte⟩ = some (.block ⟨kind, ls, body, ⟨byte, d.byte⟩⟩, d) := by
  obtain ⟨hkind, hc, -⟩ := isName_of_name hname
  obtain ⟨w₁, hc₁, -⟩ := reaches_skip h₂
  obtain ⟨w₂, hc₂, -⟩ := reaches_labels hlabels
  obtain rfl : w = kind.toList ++ (w₁ ++ w₂) := by
    rw [hc, hc₁, hc₂, ← List.append_assoc, ← List.append_assoc] at hw
    rw [← List.append_assoc]
    exact (List.append_cancel_right hw).symm
  have hends : endsName (w₁ ++ (w₂ ++ '{' :: t')) = true := by
    have hends := endsName_of_name hname
    rw [hc₁, hc₂, hbrace] at hends
    revert hends
    cases w₁ <;> cases w₂ <;> exact id
  have hskip := moves_skip false h₂ hc₁ (v := w₂ ++ ['{']) (t := t)
    (by rw [hc₂, hbrace, List.append_assoc]; rfl) (begun_brace w₂) t'
    (byte + byteLength kind.toList)
  have hlabels' := labels_moved (N := N) hlabels hc₂ hbrace t'
    (byte + byteLength kind.toList + byteLength w₁) (by
      simp only [List.length_append] at hN
      omega)
  simp only [List.append_assoc, List.singleton_append] at hskip ⊢
  refine item_succ_iff.2 (.block (name_append hkind hends byte) hskip ?_ hlabels' ?_)
  · intro hhead
    refine hne ?_
    rw [hc₂, hbrace]
    revert hhead
    cases w₂ <;> exact id
  · have hbyte : byte + byteLength (kind.toList ++ (w₁ ++ w₂)) =
        byte + byteLength kind.toList + byteLength w₁ + byteLength w₂ := by
      simp [Nat.add_assoc]
    rwa [hbyte] at hbody

end Headers

end TerraLint.Hcl
