import TerraLint.Proofs.Hcl.Entries
import TerraLint.Proofs.Layout.Replacement
import TerraLint.Proofs.Source.Reread

/-!
# Structures that are left as they are

Where other structures of a block get new texts, a structure that keeps its own is read again before the
blanks and comments that stood behind it. A tame structure reads as itself there, with the same keys in
its object, if these blanks and comments end its line.

* `EndsLine`: blanks and comments that end a line, as a look at their characters shows.
* `Gap.ends`: a structure does not go on with them.
* `keyTexts_moved`: the keys of an attribute that is read in two places.
* `readsAs_of_tame`: a tame structure that is left as it is.
-/

namespace TerraLint

open Text Hcl Cursor

namespace Layout

/-! ## Keys of objects -/

/-- The texts of the keys of an object; any other expression has none. -/
def keyTexts (file : SourceFile) (e : Expr) : List (List Char) :=
  match e.form with
  | .object es _ => es.map fun entry => file.exprText entry.key
  | _ => []

section Keys

open Offset

variable {T : List Char} {n : Nat} {m : Mode} {x y d : Cursor}

/-- What is read of a text has the same text wherever that stands. -/
theorem exprText_moved (hx : Reaches (.ofText T) x) {e : Expr} (h : expr n m x = .ok (e, y))
    (name name' : String) (before before' after after' : List Char) :
    (SourceFile.parse name (before ++ T ++ after)).exprText (shift (byteLength before) e) =
      (SourceFile.parse name' (before' ++ T ++ after')).exprText (shift (byteLength before') e) := by
  obtain ⟨u, hu, hxbyte⟩ := hx
  obtain ⟨v, hv, hybyte⟩ := (closes_expr h).reaches
  have htext : ∀ name before after, (SourceFile.parse name (before ++ T ++ after)).exprText
      (shift (byteLength before) e) = trim v := by
    intro name before after
    have hspan : (shift (byteLength before) e : Expr).span =
        some ⟨byteLength (before ++ u), byteLength (before ++ u ++ v)⟩ := by
      have hstart : x.byte = byteLength u := hxbyte.trans (Nat.zero_add _)
      rw [byteLength_append (before ++ u), byteLength_append, Nat.add_assoc, ← hstart, ← hybyte]
      have hread := span_of_expr h
      cases e
      exact congrArg (shift (byteLength before)) hread
    have hfile : before ++ T ++ after = before ++ u ++ v ++ (y.rest ++ after) := by
      have hu : T = u ++ x.rest := hu
      rw [hu, hv]
      simp
    rw [SourceFile.exprText, SourceFile.exprRange, hspan, hfile]
    exact SourceFile.slice_range name (before ++ u) v (y.rest ++ after)
  rw [htext, htext]

theorem mem_mergeEntries {e : Entry} {es ws : List Entry} (h : e ∈ mergeEntries es ws) :
    e ∈ es ∨ e ∈ ws := by
  induction ws generalizing es with
  | nil => exact .inl h
  | cons w ws ih =>
    rcases ih h with h | h
    · rcases mem_insertEntry h with rfl | h
      · exact .inr List.mem_cons_self
      · exact .inl h
    · exact .inr (List.mem_cons_of_mem _ h)

theorem map_shiftEntries {α : Type} (f : Expr → α) (k : Nat) (es : List Entry) :
    (shiftEntries k es).map (fun e => f e.key) = es.map fun e => f (e.key.shift k) := by
  induction es with
  | nil => rfl
  | cons e es ih =>
    obtain ⟨key, value, colon, ending⟩ := e
    rw [shiftEntries, List.map_cons, List.map_cons, ih]
    rfl

/-- The keys of an attribute are written in the same way wherever its text stands. -/
theorem keyTexts_moved {a : Attribute} (h : item (4 * T.length + 7) (.ofText T) = some (.attr a, d))
    (name name' : String) (before before' after after' : List Char) :
    keyTexts (.parse name (before ++ T ++ after)) (shift (byteLength before) a).value =
      keyTexts (.parse name' (before' ++ T ++ after')) (shift (byteLength before') a).value := by
  obtain @⟨next, c₁, c₂, c₃, _, key, value, hkey, h₁, hsign, h₃, hvalue⟩ := item_succ_iff.1 h
  obtain ⟨hreach, hlength⟩ := reaches_value hkey h₁ hsign h₃
  dsimp only [ofText] at hlength
  cases hform : value.form with
  | object es gap =>
    obtain ⟨rest, stop, ws, hrest, -, hws, rfl⟩ := exists_writtenEntries_of_expr (by omega) hvalue hform
    have htexts : ∀ name before after, keyTexts (.parse name (before ++ T ++ after))
        (value.shift (byteLength before)) = (mergeEntries [] ws).map fun e =>
          (SourceFile.parse name (before ++ T ++ after)).exprText (e.key.shift (byteLength before)) := by
      intro name before after
      have hshift : (value.shift (byteLength before)).form =
          .object (shiftEntries (byteLength before) (mergeEntries [] ws)) (shift (byteLength before) gap) := by
        obtain ⟨span, form⟩ := value
        obtain rfl : form = .object (mergeEntries [] ws) gap := hform
        rfl
      rw [keyTexts, hshift]
      exact map_shiftEntries _ _ _
    refine (htexts name before after).trans (.trans ?_ (htexts name' before' after').symm)
    refine List.map_congr_left fun e he => ?_
    obtain ⟨n, x, y, hx, hread⟩ := exists_key_of_writtenEntries hws
      ((mem_mergeEntries he).resolve_left List.not_mem_nil)
    exact exprText_moved (hreach.trans ((reaches_cons hrest rfl).trans hx)) hread name name' before before'
      after after'
  | _ =>
    obtain ⟨span, form⟩ := value
    obtain rfl := hform
    rfl

end Keys

/-! ## Ends of lines -/

/-- A text with a line that holds blanks, and behind a blank maybe a comment up to its end. -/
structure EndsLine (cs : List Char) : Prop where
  ends : '\n' ∈ cs
  unreturned : '\r' ∉ cs.takeWhile (· != '\n')
  comment : (cs.dropWhile (isGap false)).head? = some '\n' ∨ cs.takeWhile (isGap false) ≠ [] ∧
    (['#'] <+: cs.dropWhile (isGap false) ∨ ['/', '/'] <+: cs.dropWhile (isGap false))

instance (cs : List Char) : Decidable (EndsLine cs) :=
  decidable_of_iff ('\n' ∈ cs ∧ '\r' ∉ cs.takeWhile (· != '\n') ∧
      ((cs.dropWhile (isGap false)).head? = some '\n' ∨ cs.takeWhile (isGap false) ≠ [] ∧
        (['#'] <+: cs.dropWhile (isGap false) ∨ ['/', '/'] <+: cs.dropWhile (isGap false))))
    ⟨fun h => ⟨h.1, h.2.1, h.2.2⟩, fun h => ⟨h.ends, h.unreturned, h.comment⟩⟩

/-- A part of a text without line ends does not reach behind its first line. -/
theorem isPrefix_of_not_mem {p l m : List Char} {x : Char} (h : p <+: l ++ x :: m) (hx : x ∉ p) :
    p <+: l := by
  rcases List.prefix_or_prefix_of_prefix h (List.prefix_append l _) with h' | ⟨z, rfl⟩
  · exact h'
  · cases z with
    | nil => rw [List.append_nil]
    | cons y z =>
      obtain ⟨rfl, -⟩ := List.cons_prefix_cons.1 ((List.prefix_append_right_inj l).1 h)
      exact absurd (by simp) hx

theorem EndsLine.exists_line {cs : List Char} (h : EndsLine cs) : ∃ w comment more,
    cs = w ++ (comment ++ '\n' :: more) ∧ Padding w ∧ LineComment comment ∧ (comment = [] ∨ w ≠ []) := by
  obtain ⟨w, hw⟩ : ∃ w, w = cs.takeWhile (isGap false) := ⟨_, rfl⟩
  obtain ⟨u, hu⟩ : ∃ u, u = cs.dropWhile (isGap false) := ⟨_, rfl⟩
  have hcs : cs = w ++ u := by rw [hw, hu, List.takeWhile_append_dropWhile]
  have hpadding : Padding w := fun x hx => List.mem_takeWhile_imp (hw ▸ hx)
  have hcomment := h.comment
  rw [← hw, ← hu] at hcomment
  rcases hcomment with hfeed | ⟨hne, hstart⟩
  · obtain ⟨more, rfl⟩ := List.head?_eq_some_iff.1 hfeed
    exact ⟨w, [], more, hcs, hpadding, ⟨.inl rfl, by simp⟩, .inl rfl⟩
  have hmem : '\n' ∈ u := by
    refine (List.mem_append.1 (hcs ▸ h.ends)).resolve_left fun hmem => ?_
    exact absurd (hpadding _ hmem) (by decide)
  obtain ⟨comment, more, rfl, hline⟩ := List.eq_append_cons_of_mem hmem
  have hreturn := h.unreturned
  rw [hcs, ← List.append_assoc, List.takeWhile_append_of_pos, List.takeWhile_cons_of_neg (by decide),
    List.append_nil] at hreturn
  · refine ⟨w, comment, more, hcs, hpadding, ⟨.inr ?_, fun x hx => ⟨?_, ?_⟩⟩, .inr hne⟩
    · have hprefix : ∀ {p : List Char}, p <+: comment ++ '\n' :: more → '\n' ∉ p → p <+: comment :=
        isPrefix_of_not_mem
      exact hstart.imp (fun h => hprefix h (by decide)) fun h => hprefix h (by decide)
    · rintro rfl
      exact hline hx
    · rintro rfl
      exact hreturn (List.mem_append_right _ hx)
  · intro x hx
    rcases List.mem_append.1 hx with hx | hx
    · rcases hpadding.eq_or hx with rfl | rfl <;> decide
    · simpa using fun heq : x = '\n' => hline (heq ▸ hx)

/-- Blanks and comments behind a structure that end its line, with another text behind them. -/
theorem Gap.ends {c d : Cursor} {w rest : List Char} {q : Char} (h : Gap c d w q)
    (hline : EndsLine (w ++ [q])) (hrest : w ++ [q] <+: rest) : Ends rest := by
  obtain ⟨t', rfl⟩ := hrest
  obtain ⟨t, ht⟩ := h.next
  obtain ⟨v, comment, more, heq, hv, hcomment, hne⟩ := hline.exists_line
  have hq : q ≠ '\n' := by
    rintro rfl
    exact absurd h.starts (by decide)
  obtain ⟨inner, rfl, rfl⟩ : ∃ inner, more = inner ++ [q] ∧ w = v ++ (comment ++ '\n' :: inner) := by
    rcases List.eq_nil_or_concat' more with rfl | ⟨inner, x, rfl⟩
    · have hlast : w ++ [q] = (v ++ comment) ++ ['\n'] := by rw [heq, List.append_assoc]
      exact absurd (List.cons.inj (List.append_inj' hlast rfl).2).1 hq
    · have hlast : w ++ [q] = (v ++ (comment ++ '\n' :: inner)) ++ [x] := by rw [heq]; simp
      obtain ⟨hw, hx⟩ := List.append_inj' hlast rfl
      exact ⟨inner, by rw [hx], hw⟩
  have htext : v ++ (comment ++ '\n' :: inner) ++ [q] ++ t' =
      v ++ (comment ++ '\n' :: (inner ++ ([q] ++ t'))) := by simp
  rw [htext]
  refine ends_of_line hv hcomment hne fun byte => ?_
  obtain ⟨byte', hblanks⟩ := blanks_line hv hcomment c.byte (inner ++ d.rest)
  have hskip : Cursor.skip true ⟨inner ++ d.rest, byte'⟩ = some d := by
    have hskip := h.skip
    unfold skipLines Cursor.skip at hskip
    rw [h.text] at hskip
    simp only [List.append_assoc, List.cons_append] at hskip
    exact hblanks.symm.trans hskip
  have hmoved := moves_skip true hskip rfl (v := [q]) (t := t) ht (begun_of_next h.starts []) t' byte
  refine ⟨_, hmoved, .inr fun x hx => ?_⟩
  obtain rfl := Option.some.inj hx
  exact h.starts.symm.imp_left (by simp [·])

/-! ## Tame structures -/

/-- A tame text in the layout that it has. -/
theorem respaced_self {t u : List Char} (h : Tame u) {p : Char} (hp : p = '\\' → Tame ('\\' :: u)) :
    Respaced t (some p) u (u ++ t) := by
  induction u generalizing p with
  | nil => exact .done
  | cons c u ih =>
    have hu := h.of_suffix (List.suffix_cons c u)
    by_cases hc : c = '\n'
    · subst hc
      refine .line (w := []) (fun heq => (hp heq).not_folds (w := []) padding_nil) padding_nil ?_
      have hrest : Respaced t (some ' ') u (u ++ t) := ih hu fun heq => absurd heq (by decide)
      exact @Respaced.free t [] [] _ _ padding_nil padding_nil hrest
    · refine .char ⟨hc, ?_⟩ (h.calm _ ((List.mem_tails _ _).2 (List.suffix_refl _)))
        (ih hu fun heq => heq ▸ h)
      rintro rfl
      exact h.not_mem_return List.mem_cons_self

/-- A structure with the name of another one and, if it is an attribute, with the keys of its object. -/
def Retains (file : SourceFile) (it : Item) (file' : SourceFile) (it' : Item) : Prop :=
  SameName it it' ∧ ∀ a a', it = .attr a → it' = .attr a' →
    keyTexts file' a'.value = keyTexts file a.value

/-- The text of a structure stands where the structure starts. -/
theorem exists_textOf {text : List Char} {body : Body} (h : parseBody text = some body) (name : String)
    {it : Item} (hit : Inside it body) : ∃ before after,
      text = before ++ (SourceFile.parse name text).textOf it.span ++ after ∧
        byteLength before = it.span.start := by
  obtain ⟨n, c, d, hc, -, hitem⟩ := readBehind_of_parseBody h hit
  have hstands := (places n).item hitem
  obtain ⟨-, hrest⟩ := @SourceFile.textOf_stands name text _ _ hc _ hstands
  obtain ⟨before, htext, hbyte⟩ := SourceFile.exists_of_reaches hc
  refine ⟨before, d.rest, ?_, by rw [hstands.span, hbyte]⟩
  rw [List.append_assoc, ← hrest, htext]

/-- A tame structure of a block that is left as it is reads as itself before what stood behind it, if its
line ends there. -/
theorem readsAs_of_tame {text : List Char} {body : Body} (h : parseBody text = some body) (name : String)
    {R : Block} (hR : Inside (.block R) body) {it : Item} (hit : it ∈ R.body)
    (htame : TameItem (.parse name text) it) (hline : EndsLine (upToNext text it.span.stop)) :
    ReadsAs ((SourceFile.parse name text).textOf it.span) (upToNext text it.span.stop <+: ·)
      (Retains (.parse name text) it) := by
  have hinside := hR.of_mem hit
  obtain ⟨c, d, w, q, hc, hbyte, hgap⟩ := exists_gap h hR hit
  have hnext := hgap.upToNext_eq hc
  rw [hbyte] at hnext
  rw [hnext] at hline ⊢
  refine .of_reads fun pre rest hrest n hn => ?_
  obtain ⟨it', hitem, hsame, -⟩ := item_of_tight h hinside htame (hgap.ends hline hrest)
    (fun start => ⟨' ', respaced_self htame.text fun heq => absurd heq (by decide)⟩) hn
  rw [← byteLength_append] at hitem
  refine ⟨it', hitem, fun name' => ⟨hsame, ?_⟩⟩
  rintro a a' rfl rfl
  -- The text of the attribute is read as one attribute, which stands in both places.
  obtain ⟨a₀, d₀, hread, -, hshift⟩ := SourceFile.exists_item_textOf h hinside htame.text.unambiguous
  obtain ⟨a₁, d₁, hread₁, -, hshift₁⟩ := item_window htame.text.unambiguous hn hitem rfl
  obtain ⟨rfl, -⟩ : a₁ = a₀ ∧ d₁ = d₀ := by simpa using hread₁.symm.trans hread
  obtain ⟨before, after, htext, hstart⟩ := exists_textOf h name hinside
  have hmoved := keyTexts_moved hread name' name pre before rest after
  rw [hshift₁, hstart] at hmoved
  dsimp only [Item.span] at hmoved htext
  rw [hshift, ← htext] at hmoved
  exact hmoved


end Layout

end TerraLint
