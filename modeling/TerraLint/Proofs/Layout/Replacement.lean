import TerraLint.Proofs.Hcl.Moved
import TerraLint.Proofs.Layout.Header
import TerraLint.Proofs.Layout.Objects
import TerraLint.Proofs.Layout.Steadiness

/-!
# Blocks with other texts for their structures

The text of a block is written once more with other texts in the place of the structures in it, and
with what stands between them as it was. It reads as a block with the structures that these texts read
as, if each of them does so before the blanks and comments that stand behind it.

* `ReadsAs`: a text that reads as a structure in any place.
* `upToNext`: what stands behind a structure, up to the next one.
* `respelled`: structures with other texts.
* `InTurn.exists_run`: what is read of structures on lines of their own.
* `readsAs_respelled`: what is read of a block.
* `respelled_textOf`: a block whose structures keep their texts keeps its own.
-/

namespace TerraLint.Layout

open Text Hcl Cursor

/-! ## Texts that read as structures -/

/-- A text that is a structure with a property in every file: in any place it is read as such a
structure, and what stands in its place in a file is one. What comes behind the text may be asked to be
of some kind. -/
structure ReadsAs (T : List Char) (ends : List Char → Prop) (P : SourceFile → Item → Prop) : Prop where
  reads : ∀ pre rest, ends rest → ∀ n, 4 * (T ++ rest).length ≤ n →
    ∃ it, item n ⟨T ++ rest, byteLength pre⟩ = some (it, ⟨rest, byteLength (pre ++ T)⟩) ∧
      ∀ name, P (.parse name (pre ++ T ++ rest)) it
  stands : ∀ pre rest, ends rest → ∀ body, parseBody (pre ++ T ++ rest) = some body →
    ∀ it, Inside it body → it.span.start = byteLength pre →
      it.span.stop = byteLength (pre ++ T) ∧ ∀ name, P (.parse name (pre ++ T ++ rest)) it

namespace ReadsAs

variable {T : List Char} {ends ends' : List Char → Prop} {P P' : SourceFile → Item → Prop}

/-- What is read in the place of a text is what stands there. -/
theorem of_reads (h : ∀ pre rest, ends rest → ∀ n, 4 * (T ++ rest).length ≤ n →
      ∃ it, item n ⟨T ++ rest, byteLength pre⟩ = some (it, ⟨rest, byteLength (pre ++ T)⟩) ∧
        ∀ name, P (.parse name (pre ++ T ++ rest)) it) : ReadsAs T ends P where
  reads := h
  stands pre rest hrest body hbody it hit hstart := by
    obtain ⟨n, c, d, ⟨taken, htext, hbyte⟩, hn, hitem⟩ := readBehind_of_parseBody hbody hit
    have hspan := ((places n).item hitem).span
    have hlength : byteLength pre = byteLength taken := by
      rw [← hstart, hspan, hbyte]
      exact Nat.zero_add _
    have htext : pre ++ T ++ rest = taken ++ c.rest := htext
    obtain rfl : pre = taken := by
      have hpre := takeBytes?_eq_some_iff.2 ⟨T ++ rest, List.append_assoc pre T rest, hlength⟩
      have htaken := takeBytes?_eq_some_iff.2 ⟨c.rest, htext, rfl⟩
      exact Option.some.inj (hpre.symm.trans htaken)
    obtain rfl : c = ⟨T ++ rest, byteLength pre⟩ := by
      obtain ⟨rest', byte⟩ := c
      rw [List.append_assoc] at htext
      obtain rfl : T ++ rest = rest' := List.append_cancel_left htext
      obtain rfl : byte = byteLength pre := hbyte.trans (Nat.zero_add _)
      rfl
    obtain ⟨it', hitem', hP⟩ := h pre rest hrest n hn
    rw [hitem] at hitem'
    obtain ⟨rfl, rfl⟩ := Prod.mk.inj (Option.some.inj hitem')
    exact ⟨by rw [hspan], hP⟩

/-- A text that is a structure with a property is one with any property that follows for what is read. -/
theorem mono (h : ReadsAs T ends P) (hends : ∀ rest, ends' rest → ends rest)
    (hP : ∀ file it, (∃ n c d, item n c = some (it, d)) → P file it → P' file it) : ReadsAs T ends' P' where
  reads pre rest hrest n hn := by
    obtain ⟨it, hitem, hit⟩ := h.reads pre rest (hends rest hrest) n hn
    exact ⟨it, hitem, fun name => hP _ _ ⟨_, _, _, hitem⟩ (hit name)⟩
  stands pre rest hrest body hbody it hit hstart := by
    obtain ⟨n, c, d, -, -, hitem⟩ := readBehind_of_parseBody hbody hit
    exact (h.stands pre rest (hends rest hrest) body hbody it hit hstart).imp_right
      fun hall name => hP _ _ ⟨n, c, d, hitem⟩ (hall name)

end ReadsAs

/-! ## What stands between structures -/

/-- What stands behind an offset of a text: blanks and comments, and the first character behind them. -/
def upToNext (text : List Char) (offset : Nat) : List Char :=
  (do
    let rest ← dropBytes? offset text
    let next ← Cursor.skipLines ⟨rest, offset⟩
    return rest.take (rest.length - next.rest.length + 1) : Option (List Char)).getD []

theorem begun_of_next {q : Char} (hq : isNameStart q = true ∨ q = '}') (w : List Char) :
    Begun (w ++ [q]) := by
  refine ⟨by simp, fun heq => ?_⟩
  have hlast : q = '/' := by simpa using congrArg List.getLast? heq
  rw [hlast] at hq
  revert hq
  decide

/-- Blanks and comments up to a token behind a structure of a block. They end its line, unless the token
is the brace of a block in one line. -/
structure Gap (c d : Cursor) (w : List Char) (q : Char) : Prop where
  text : c.rest = w ++ d.rest
  skip : c.skipLines = some d
  next : ∃ t, d.rest = q :: t
  starts : isNameStart q = true ∨ q = '}'
  line : c.skipInline = some d ∨ ∃ e, c.endOfLine = some e ∧ Reaches e d

/-- The texts of some structures with what stands between them in a text, from an offset before the
first up to one behind the last. -/
def respelled (text : List Char) (new : Item → List Char) : Nat → List Item → Nat → List Char
  | start, [], stop => (sliceBytes start stop text).getD []
  | start, it :: its, stop =>
    (sliceBytes start it.span.start text).getD [] ++ (new it ++ respelled text new it.span.stop its stop)

section Between

variable {text w : List Char} {c d : Cursor}

theorem upToNext_eq (hc : Reaches (.ofText text) c) (hskip : c.skipLines = some d)
    (hw : c.rest = w ++ d.rest) {q : Char} {t : List Char} (hd : d.rest = q :: t) :
    upToNext text c.byte = w ++ [q] := by
  obtain ⟨before, htext, hbyte⟩ := hc
  have hdrop : dropBytes? c.byte text = some c.rest :=
    dropBytes?_eq_some_iff.2 ⟨before, htext, by rw [hbyte]; exact (Nat.zero_add _).symm⟩
  have hlength : (w ++ q :: t).length - (q :: t).length + 1 = (w ++ [q]).length := by
    simp only [List.length_append, List.length_cons, List.length_nil]
    omega
  have htake : (w ++ q :: t).take ((w ++ q :: t).length - (q :: t).length + 1) = w ++ [q] := by
    rw [hlength, List.append_cons w q t, List.take_left]
  unfold upToNext
  simp only [hdrop, Option.bind_eq_bind, Option.bind_some, hskip]
  rw [hw, hd]
  exact htake

theorem sliceBytes_of_reaches (hc : Reaches (.ofText text) c) (hw : c.rest = w ++ d.rest)
    (hbyte : d.byte = c.byte + byteLength w) : sliceBytes c.byte d.byte text = some w := by
  obtain ⟨before, htext, hbefore⟩ := hc
  have hstart : byteLength before = c.byte := by
    rw [hbefore]
    exact (Nat.zero_add _).symm
  refine sliceBytes_eq_some_iff.2 ⟨before, d.rest, ?_, hstart, by rw [hbyte, hstart]⟩
  rw [List.append_assoc, ← hw]
  exact htext

end Between

namespace Gap

variable {text w rest : List Char} {c d : Cursor} {q : Char}

theorem upToNext_eq (h : Gap c d w q) (hc : Reaches (.ofText text) c) :
    upToNext text c.byte = w ++ [q] := by
  obtain ⟨t, ht⟩ := h.next
  exact Layout.upToNext_eq hc h.skip h.text ht

theorem outside_of_lineBreak {c d : Cursor} (h : c.lineBreak = some d) : Outside c.rest := by
  unfold lineBreak at h
  split at h
  · rename_i hrest
    rw [hrest]
    exact .inr (by simp)
  · rename_i hrest
    rw [hrest]
    exact .inr (by simp)
  · rename_i hrest
    rw [hrest]
    exact .inr (by simp)
  · rename_i hrest
    rw [hrest]
    exact .inl ⟨_, rfl⟩
  · cases h

/-- No operation goes on before a gap with another token behind it. -/
theorem quiet (h : Gap c d w q) (hrest : w ++ [q] <+: rest) : Quiet rest := by
  obtain ⟨t', rfl⟩ := hrest
  obtain ⟨t, ht⟩ := h.next
  have hbegun : ∀ v, Begun (v ++ [q]) := begun_of_next h.starts
  intro byte
  rcases h.line with hskip | ⟨e, hend, hreach⟩
  · have hskip' := moves_skip false hskip h.text (v := [q]) (t := t) ht (hbegun []) t' byte
    refine ⟨_, by simpa [skipInline] using hskip', stays_outside (.inr fun x hx => ?_) .inline⟩
    obtain rfl := Option.some.inj hx
    exact h.starts.symm.imp_left (by simp [·])
  · obtain ⟨x, hskip, hbreak⟩ := Option.bind_eq_some_iff.1 hend
    obtain ⟨v₂, hv₂, -⟩ := hreach
    have hbreak : x.lineBreak = some e := by
      split at hbreak
      · rename_i hnil
        obtain rfl := Option.some.inj hbreak
        rw [hnil, ht] at hv₂
        simp at hv₂
      · exact hbreak
    obtain ⟨v₁, hv₁, -⟩ := reaches_lineBreak hbreak
    obtain ⟨g, hg, -⟩ := reaches_skip hskip
    obtain rfl : w = g ++ (v₁ ++ v₂) := by
      have htext := h.text
      rw [hg, hv₁, hv₂, ← List.append_assoc, ← List.append_assoc] at htext
      rw [← List.append_assoc]
      exact (List.append_cancel_right htext).symm
    have hskip' := moves_skip false hskip hg (v := v₁ ++ v₂ ++ [q]) (t := t)
      (by rw [hv₁, hv₂, ht]; simp) (hbegun _) t' byte
    have hbreak' := moves_lineBreak hbreak hv₁ (v := v₂ ++ [q]) (t := t)
      (by rw [hv₂, ht]; simp) (hbegun _) t' 0
    have htext : v₁ ++ (v₂ ++ [q] ++ t') = v₁ ++ v₂ ++ [q] ++ t' := by simp
    have hout := outside_of_lineBreak hbreak'
    dsimp only at hout
    rw [htext] at hout
    exact ⟨⟨v₁ ++ v₂ ++ [q] ++ t', byte + byteLength g⟩, by simpa [skipInline] using hskip',
      stays_outside hout .inline⟩

end Gap

/-! ## Structures on lines of their own -/

/-- Structures on lines of their own, from the first of them up to what comes behind the last. -/
inductive InTurn : Cursor → List Item → Cursor → Prop
  | nil {c : Cursor} : InTurn c [] c
  | cons {n : Nat} {c c₁ c₂ c₃ d : Cursor} {it : Item} {its : List Item}
    (hitem : item n c = some (it, c₁)) (hend : c₁.endOfLine = some c₂)
    (hskip : c₂.skipLines = some c₃) (h : InTurn c₃ its d) : InTurn c (it :: its) d

theorem inTurn_of_items {n : Nat} {read all : List Item} {c d : Cursor}
    (h : items n read c = some (all, d)) :
    ∃ its c₁, all = read ++ its ∧ c.skipLines = some c₁ ∧ InTurn c₁ its d := by
  induction n generalizing read c with
  | zero => simp [items] at h
  | succ n ih =>
    cases items_succ_iff.1 h with
    | stop hskip => exact ⟨[], d, (List.append_nil _).symm, hskip, .nil⟩
    | @more c₁ _ _ _ it _ hskip hitem _ hend hmore =>
      obtain ⟨its, c₂, rfl, hskip', hrows⟩ := ih hmore
      exact ⟨it :: its, c₁, by simp, hskip, .cons hitem hend hskip' hrows⟩

/-- The key of an attribute, or the type of a block. -/
def title : Item → String
  | .attr a => a.key
  | .block b => b.kind

theorem title_of_sameName {it it' : Item} (h : SameName it it') : title it' = title it := by
  cases h with
  | attr hkey => exact hkey
  | block hkind => exact hkind

/-- A new text for a structure: it reads as a structure of the same name before what stands behind. -/
structure Fits (text : List Char) (new : Item → List Char) (P : Item → SourceFile → Item → Prop)
    (it : Item) : Prop where
  reads : ReadsAs (new it) (upToNext text it.span.stop <+: ·) (P it)
  name : ∀ file it', P it file it' → SameName it it'

/-- A structure starts with its title. -/
theorem head?_of_item {n : Nat} {c d : Cursor} {it : Item} (h : item n c = some (it, d)) :
    c.rest.head? = (title it).toList.head? ∧ ∃ ch, c.rest.head? = some ch ∧ isNameStart ch = true := by
  have hname : ∀ {d₁ : Cursor} {name : String}, c.name = some (name, d₁) →
      c.rest.head? = name.toList.head? := by
    intro d₁ name hname
    obtain ⟨hisName, hrest, -⟩ := isName_of_name hname
    rw [hrest, List.head?_append_of_ne_nil _ hisName.solid.ne_nil]
  obtain ⟨ch, rest, hrest, hch⟩ := isNameStart_of_item h
  refine ⟨?_, ch, by rw [hrest]; rfl, hch⟩
  cases n with
  | zero => simp [item] at h
  | succ n =>
    cases item_succ_iff.1 h with
    | attr hkey => exact hname hkey
    | block hkind => exact hname hkind

namespace Fits

variable {text : List Char} {new : Item → List Char} {P : Item → SourceFile → Item → Prop} {it : Item}

theorem ne_nil (h : Fits text new P it) : new it ≠ [] := by
  obtain ⟨it', hread, -⟩ := h.reads.reads [] _ (List.prefix_refl _) _ (Nat.le_refl _)
  have hlt := (closes_item hread).byte_lt
  intro hnil
  rw [hnil] at hlt
  exact absurd hlt (Nat.lt_irrefl _)

/-- A new text starts with the same character. -/
theorem head? (h : Fits text new P it) {n : Nat} {c d : Cursor} (hitem : item n c = some (it, d)) :
    (new it).head? = c.rest.head? := by
  obtain ⟨it', hread, hit⟩ := h.reads.reads [] _ (List.prefix_refl _) _ (Nat.le_refl _)
  have hhead := (head?_of_item hread).1
  dsimp only at hhead
  rw [List.head?_append_of_ne_nil _ h.ne_nil, title_of_sameName (h.name _ _ (hit ""))] at hhead
  rw [hhead, (head?_of_item hitem).1]

end Fits

namespace InTurn

variable {text w u : List Char} {new : Item → List Char} {P : Item → SourceFile → Item → Prop}
  {c c₀ d : Cursor} {its : List Item}

theorem starts (h : InTurn c its d) (hd : d.rest = '}' :: u) :
    ∃ q t, c.rest = q :: t ∧ (isNameStart q = true ∨ q = '}') := by
  cases h with
  | nil => exact ⟨_, _, hd, .inr rfl⟩
  | cons hitem =>
    obtain ⟨q, t, hrest, hq⟩ := isNameStart_of_item hitem
    exact ⟨q, t, hrest, .inl hq⟩

/-- What stands before the first structure is written as it was. -/
theorem respelled_eq (h : InTurn c its d) (hd : d.rest = '}' :: u) (hc₀ : Reaches (.ofText text) c₀)
    (hw : c₀.rest = w ++ c.rest) (hbyte : c.byte = c₀.byte + byteLength w) :
    respelled text new c₀.byte its (d.byte + 1) = w ++ respelled text new c.byte its (d.byte + 1) := by
  have hc : Reaches (.ofText text) c := hc₀.trans ⟨w, hw, hbyte⟩
  cases h with
  | nil =>
    have hbrace := sliceBytes_of_reaches (d := ⟨u, c.byte + 1⟩) (w := ['}']) hc hd rfl
    have hall := sliceBytes_of_reaches (d := ⟨u, c.byte + 1⟩) (w := w ++ ['}']) hc₀
      (by rw [hw, hd, List.append_assoc]; rfl) (by rw [hbyte, byteLength_append, ← Nat.add_assoc]; rfl)
    dsimp only at hbrace hall
    rw [respelled, respelled, hbrace, hall]
    rfl
  | @cons n _ c₁ _ _ _ it its hitem =>
    have hstart : it.span.start = c.byte := by rw [((places n).item hitem).span]
    have hhere : sliceBytes c.byte c.byte text = some [] :=
      sliceBytes_of_reaches (d := c) hc rfl (Nat.add_zero _).symm
    rw [respelled, respelled, hstart, hhere, sliceBytes_of_reaches hc₀ hw hbyte]
    rfl

theorem head?_respelled (h : InTurn c its d) (hd : d.rest = '}' :: u) (hc : Reaches (.ofText text) c)
    (hfits : ∀ it ∈ its, Fits text new P it) :
    (respelled text new c.byte its (d.byte + 1)).head? = c.rest.head? := by
  cases h with
  | nil =>
    have hbrace := sliceBytes_of_reaches (d := ⟨u, c.byte + 1⟩) (w := ['}']) hc hd rfl
    dsimp only at hbrace
    rw [respelled, hbrace, hd]
    rfl
  | @cons n _ c₁ _ _ _ it its hitem =>
    have hstart : it.span.start = c.byte := by rw [((places n).item hitem).span]
    have hhere : sliceBytes c.byte c.byte text = some [] :=
      sliceBytes_of_reaches (d := c) hc rfl (Nat.add_zero _).symm
    have hfit := hfits it List.mem_cons_self
    rw [respelled, hstart, hhere, Option.getD_some, List.nil_append,
      List.head?_append_of_ne_nil _ hfit.ne_nil, hfit.head? hitem]

/-- What is read of structures with other texts. -/
theorem exists_run (h : InTurn c its d) (hd : d.rest = '}' :: u) (hc : Reaches (.ofText text) c)
    (hfits : ∀ it ∈ its, Fits text new P it) {T : List Char}
    (hT : T = respelled text new c.byte its (d.byte + 1)) {read : List Item}
    (hkeys : (itemKeys read ++ itemKeys its).Nodup) (pre rest : List Char) {c' : Cursor}
    (hc' : c'.skipLines = some ⟨T ++ rest, byteLength pre⟩) {n : Nat} (hn : 4 * (T ++ rest).length < n) :
    ∃ its' mid, T = mid ++ ['}'] ∧
      items n read c' = some (read ++ its', ⟨'}' :: rest, byteLength (pre ++ mid)⟩) ∧
      List.Forall₂ (fun it it' => ∀ name, P it (.parse name (pre ++ T ++ rest)) it') its its' := by
  induction h generalizing T read pre c' n with
  | @nil c =>
    obtain ⟨n, rfl⟩ : ∃ k, n = k + 1 := ⟨n - 1, by omega⟩
    have hbrace := sliceBytes_of_reaches (d := ⟨u, c.byte + 1⟩) (w := ['}']) hc hd rfl
    dsimp only at hbrace
    rw [respelled, hbrace] at hT
    subst hT
    refine ⟨[], [], rfl, ?_, .nil⟩
    rw [List.append_nil, List.append_nil]
    exact items_succ_iff.2 (.stop hc' (.inr rfl))
  | @cons m c c₁ c₂ c₃ d it its hitem hend hskip h ih =>
    obtain ⟨n, rfl⟩ : ∃ k, n = k + 1 := ⟨n - 1, by omega⟩
    have hc₁ := hc.trans (closes_item hitem).reaches
    have hc₃ := hc₁.trans ((endOfLine_spec hend).1.trans (reaches_skip hskip))
    have hspan := ((places m).item hitem).span
    have hall : ∀ x ∈ its, Fits text new P x := fun x hx => hfits x (List.mem_cons_of_mem _ hx)
    -- The blanks and comments behind the structure, of which the first end its line.
    obtain ⟨g₁, hg₁, hbyte₁⟩ := (endOfLine_spec hend).1
    obtain ⟨g₂, hg₂, hbyte₂⟩ := reaches_skip hskip
    obtain ⟨q, t, hrest, hq⟩ := h.starts hd
    have hagain : c₁.skipLines = some c₃ := (endOfLine_again hend).trans hskip
    have hgap : c₁.rest = (g₁ ++ g₂) ++ c₃.rest := by rw [hg₁, hg₂, List.append_assoc]
    have hnext := upToNext_eq hc₁ hagain hgap hrest
    have hbyte : c₃.byte = c₁.byte + byteLength (g₁ ++ g₂) := by
      rw [hbyte₂, hbyte₁, byteLength_append, Nat.add_assoc]
    -- What is written from the next structure on starts as it did.
    obtain ⟨X, hX⟩ : ∃ X, X = respelled text new c₃.byte its (d.byte + 1) := ⟨_, rfl⟩
    obtain ⟨X', hX'⟩ : ∃ X', X = q :: X' := by
      refine ⟨X.tail, List.eq_cons_of_mem_head? ?_⟩
      rw [hX, h.head?_respelled hd hc₃ hall, hrest]
      rfl
    have hfit := hfits it List.mem_cons_self
    have hT : T = new it ++ ((g₁ ++ g₂) ++ X) := by
      have hhere : sliceBytes c.byte c.byte text = some [] :=
        sliceBytes_of_reaches (d := c) hc rfl (Nat.add_zero _).symm
      have hbehind : respelled text new c₁.byte its (d.byte + 1) =
          (g₁ ++ g₂) ++ respelled text new c₃.byte its (d.byte + 1) := h.respelled_eq hd hc₁ hgap hbyte
      rw [← hX] at hbehind
      rw [hT, respelled, hspan, hhere, hbehind]
      rfl
    subst hT
    have hlength := List.length_pos_iff.2 hfit.ne_nil
    obtain ⟨it', hread, hit⟩ := hfit.reads.reads pre ((g₁ ++ g₂) ++ (X ++ rest))
      (by rw [hspan, hnext, hX']; exact ⟨X' ++ rest, by simp⟩) n (by simp at hn ⊢; omega)
    have hsame := hfit.name _ _ (hit "")
    have hbegun : ∀ w, Begun (w ++ [q]) := begun_of_next hq
    have hline := moves_endOfLine hend hg₁ (v := g₂ ++ [q]) (t := t)
      (by rw [hg₂, hrest, List.append_assoc]; rfl) (hbegun g₂) (X' ++ rest) (byteLength (pre ++ new it))
    have hlines := moves_skip true hskip hg₂ (v := [q]) (t := t) hrest (hbegun []) (X' ++ rest)
      (byteLength (pre ++ new it) + byteLength g₁)
    have hplace : byteLength (pre ++ new it) + byteLength g₁ + byteLength g₂ =
        byteLength (pre ++ (new it ++ (g₁ ++ g₂))) := by
      simp [Nat.add_assoc]
    rw [hplace] at hlines
    have hkeys' : (itemKeys (read ++ [it']) ++ itemKeys its).Nodup := by
      rw [itemKeys_append, hsame.itemKeys_eq, List.append_assoc, ← itemKeys_append]
      exact hkeys
    obtain ⟨its', mid, hmid, hmore, hits⟩ := ih hd hc₃ hall hX hkeys'
      (pre ++ (new it ++ (g₁ ++ g₂))) (by rw [hX']; exact hlines) (n := n) (by simp at hn ⊢; omega)
    have hfresh : Fresh read it' := by
      intro key hkey hmem
      rw [hsame.itemKeys_eq] at hkey
      have happend : itemKeys (it :: its) = itemKeys [it] ++ itemKeys its := itemKeys_append [it] its
      rw [happend] at hkeys
      exact (List.nodup_append.1 hkeys).2.2 key hmem key (List.mem_append_left _ hkey) rfl
    refine ⟨it' :: its', new it ++ ((g₁ ++ g₂) ++ mid), by rw [hmid]; simp, ?_, .cons ?_ ?_⟩
    · have hline' : Cursor.endOfLine ⟨(g₁ ++ g₂) ++ (X ++ rest), byteLength (pre ++ new it)⟩ =
          some ⟨g₂ ++ ([q] ++ (X' ++ rest)), byteLength (pre ++ new it) + byteLength g₁⟩ := by
        rw [hX']
        simpa using hline
      rw [List.append_assoc, List.append_assoc] at hc'
      have hrun := items_succ_iff.2 (.more hc' hread hfresh hline' hmore)
      simpa using hrun
    · intro name
      simpa using hit name
    · simpa using hits

/-- What stands behind the structures. -/
theorem exists_gap (h : InTurn c its d) (hd : d.rest = '}' :: u) (hc : Reaches (.ofText text) c)
    {it : Item} (hit : it ∈ its) : ∃ c₁ d₁ w q, Reaches (.ofText text) c₁ ∧ c₁.byte = it.span.stop ∧
      Gap c₁ d₁ w q := by
  induction h with
  | nil => cases hit
  | @cons n c c₁ c₂ c₃ d x its hitem hend hskip h ih =>
    have hc₁ := hc.trans (closes_item hitem).reaches
    obtain ⟨hreach, -⟩ := endOfLine_spec hend
    rcases List.mem_cons.1 hit with rfl | hit
    · obtain ⟨w, hw, -⟩ := hreach.trans (reaches_skip hskip)
      obtain ⟨q, t, hrest, hq⟩ := h.starts hd
      exact ⟨c₁, c₃, w, q, hc₁, by rw [((places n).item hitem).span], hw,
        (endOfLine_again hend).trans hskip, ⟨t, hrest⟩, hq, .inr ⟨c₂, hend, reaches_skip hskip⟩⟩
    · exact ih hd (hc₁.trans (hreach.trans (reaches_skip hskip))) hit

end InTurn

/-! ## Blocks -/

section Blocks

variable {text : List Char} {new : Item → List Char} {P : Item → SourceFile → Item → Prop}
  {n : Nat} {c c₁ c₂ c₃ c₄ d : Cursor} {its : List Item}

/-- The body of a block that is read between two cursors, and written once more from some first token
in it on, is read again behind the same blanks and comments. -/
structure Rewritten (text : List Char) (new : Item → List Char) (P : Item → SourceFile → Item → Prop)
    (its : List Item) (c first d : Cursor) (gap : List Char) : Prop where
  rest : c.rest = '{' :: (gap ++ first.rest)
  byte : first.byte = c.byte + 1 + byteLength gap
  before : ∀ {c₀ w}, Reaches (.ofText text) c₀ → c₀.rest = w ++ first.rest →
    first.byte = c₀.byte + byteLength w →
    respelled text new c₀.byte its d.byte = w ++ respelled text new first.byte its d.byte
  reads : ∀ {T}, T = respelled text new first.byte its d.byte → ∀ pre rest n,
    4 * (T ++ rest).length < n → ∃ its',
      BlockBodyStep n ⟨'{' :: (gap ++ (T ++ rest)), byteLength pre⟩ its'
        ⟨rest, byteLength (pre ++ '{' :: (gap ++ T))⟩ ∧
      List.Forall₂ (fun it it' => ∀ name, P it (.parse name (pre ++ '{' :: (gap ++ T) ++ rest)) it')
        its its'

theorem rewritten_lines (hc : Reaches (.ofText text) c) (hopen : c.expect ['{'] = some c₁)
    (h₂ : c₁.skipInline = some c₂) (hbreak : c₂.lineBreak = some c₃)
    (hitems : items n [] c₃ = some (its, c₄)) (hclose : c₄.expect ['}'] = some d)
    (hkeys : (itemKeys its).Nodup) (hfits : ∀ it ∈ its, Fits text new P it) :
    ∃ first gap, Rewritten text new P its c first d gap := by
  obtain ⟨hbrace, hbyte⟩ := expect_eq_some.1 hopen
  obtain ⟨hend, hstop⟩ := expect_eq_some.1 hclose
  obtain ⟨its, first, rfl, hskip, hturn⟩ := inTurn_of_items hitems
  obtain ⟨g₁, hg₁, hbyte₁⟩ := reaches_skip h₂
  obtain ⟨g₂, hg₂, hbyte₂⟩ := reaches_lineBreak hbreak
  obtain ⟨g₃, hg₃, hbyte₃⟩ := reaches_skip hskip
  have hreach : Reaches c first := (reaches_expect hopen).trans ((reaches_skip h₂).trans
    ((reaches_lineBreak hbreak).trans (reaches_skip hskip)))
  have hstop' : d.byte = c₄.byte + 1 := hstop
  obtain ⟨q, t, hrest, hq⟩ := hturn.starts hend
  refine ⟨first, g₁ ++ (g₂ ++ g₃), ?_, ?_, ?_, ?_⟩
  · rw [hbrace, hg₁, hg₂, hg₃]
    simp
  · have hbyte' : c₁.byte = c.byte + 1 := hbyte
    rw [hbyte₃, hbyte₂, hbyte₁, hbyte']
    simp [Nat.add_assoc]
  · intro c₀ w hc₀ hw hbyte
    rw [hstop']
    exact hturn.respelled_eq hend hc₀ hw hbyte
  · intro T hT pre rest n hn
    rw [hstop'] at hT
    obtain ⟨T', hT'⟩ : ∃ T', T = q :: T' := by
      refine ⟨T.tail, List.eq_cons_of_mem_head? ?_⟩
      rw [hT, hturn.head?_respelled hend (hc.trans hreach) hfits, hrest]
      rfl
    have hbegun : ∀ w, Begun (w ++ [q]) := begun_of_next hq
    have h₂' := moves_skip false h₂ hg₁ (v := g₂ ++ g₃ ++ [q]) (t := t)
      (by rw [hg₂, hg₃, hrest]; simp) (hbegun _) (T' ++ rest) (byteLength pre + 1)
    have hbreak' := moves_lineBreak hbreak hg₂ (v := g₃ ++ [q]) (t := t)
      (by rw [hg₃, hrest]; simp) (hbegun _) (T' ++ rest) (byteLength pre + 1 + byteLength g₁)
    have hskip' := moves_skip true hskip hg₃ (v := [q]) (t := t) hrest (hbegun [])
      (T' ++ rest) (byteLength pre + 1 + byteLength g₁ + byteLength g₂)
    have hplace : byteLength pre + 1 + byteLength g₁ + byteLength g₂ + byteLength g₃ =
        byteLength (pre ++ '{' :: (g₁ ++ (g₂ ++ g₃))) := by
      rw [byteLength_append, byteLength_cons, byteLength_append, byteLength_append]
      simp only [← Nat.add_assoc]
      rfl
    rw [hplace] at hskip'
    have hkeys' : (itemKeys [] ++ itemKeys its).Nodup := by simpa using hkeys
    obtain ⟨its', mid, hmid, hrun, hits⟩ := hturn.exists_run hend (hc.trans hreach) hfits hT hkeys'
      (pre ++ '{' :: (g₁ ++ (g₂ ++ g₃))) rest
      (by rw [hT']; exact hskip') hn
    have hbrace' : Cursor.expect ['{'] ⟨'{' :: (g₁ ++ (g₂ ++ g₃) ++ (T ++ rest)), byteLength pre⟩ =
        some ⟨g₁ ++ (g₂ ++ g₃ ++ [q] ++ (T' ++ rest)), byteLength pre + 1⟩ :=
      expect_eq_some.2 ⟨by rw [hT']; simp, rfl⟩
    refine ⟨its', .lines hbrace' h₂' (by simpa using hbreak') (by simpa using hrun) ?_, ?_⟩
    · refine expect_eq_some.2 ⟨rfl, ?_⟩
      rw [hmid]
      simp [Nat.add_assoc]
    · simpa using hits

theorem rewritten_inline {a : Attribute} (hc : Reaches (.ofText text) c)
    (hopen : c.expect ['{'] = some c₁) (h₂ : c₁.skipInline = some c₂)
    (hitem : ItemStep n c₂ (.attr a) c₃) (h₄ : c₃.skipInline = some c₄)
    (hclose : c₄.expect ['}'] = some d) (hfit : Fits text new P (.attr a)) :
    ∃ first gap, Rewritten text new P [.attr a] c first d gap := by
  obtain ⟨hbrace, hbyte⟩ := expect_eq_some.1 hopen
  obtain ⟨hend, hstop⟩ := expect_eq_some.1 hclose
  have hend : c₄.rest = '}' :: d.rest := hend
  have hitem' := item_succ_iff.2 hitem
  have hspan : (Item.attr a).span = ⟨c₂.byte, c₃.byte⟩ := ((places _).item hitem').span
  obtain ⟨g₁, hg₁, hbyte₁⟩ := reaches_skip h₂
  obtain ⟨g₂, hg₂, hbyte₂⟩ := reaches_skip h₄
  have hc₂ := hc.trans ((reaches_expect hopen).trans (reaches_skip h₂))
  have hc₃ := hc₂.trans (closes_item hitem').reaches
  have hbehind : sliceBytes c₃.byte d.byte text = some (g₂ ++ ['}']) := by
    refine sliceBytes_of_reaches hc₃ (by rw [hg₂, hend]; simp) ?_
    rw [hstop, hbyte₂, byteLength_append, Nat.add_assoc]
  have hagain : c₃.skip true = c₄.skip true := skip_again (fun h => by cases h) h₄
  have hlines : c₃.skipLines = some c₄ := hagain.trans (skip_stop hend (by decide))
  have hnext := upToNext_eq hc₃ hlines hg₂ hend
  have hrespelled : ∀ {c₀ : Cursor} {w}, Reaches (.ofText text) c₀ → c₀.rest = w ++ c₂.rest →
      c₂.byte = c₀.byte + byteLength w →
      respelled text new c₀.byte [.attr a] d.byte = w ++ (new (.attr a) ++ (g₂ ++ ['}'])) := by
    intro c₀ w hc₀ hw hbyte
    rw [respelled, respelled, hspan, sliceBytes_of_reaches hc₀ hw hbyte, hbehind]
    rfl
  refine ⟨c₂, g₁, by rw [hbrace, hg₁]; rfl, ?_, ?_, ?_⟩
  · have hbyte' : c₁.byte = c.byte + 1 := hbyte
    rw [hbyte₁, hbyte']
  · intro c₀ w hc₀ hw hbyte
    rw [hrespelled hc₀ hw hbyte, hrespelled (w := []) hc₂ rfl (Nat.add_zero _).symm]
    rfl
  · intro T hT pre rest n hn
    rw [hrespelled (w := []) hc₂ rfl (Nat.add_zero _).symm] at hT
    obtain ⟨q, hq, hstart⟩ := (head?_of_item hitem').2
    obtain ⟨t, ht⟩ := List.head?_eq_some_iff.1 hq
    obtain ⟨T', hT'⟩ : ∃ T', T = q :: T' := by
      refine ⟨T.tail, List.eq_cons_of_mem_head? ?_⟩
      rw [hT, List.nil_append, List.head?_append_of_ne_nil _ hfit.ne_nil, hfit.head? hitem', hq]
      rfl
    have h₂' := moves_skip false h₂ hg₁ (v := [q]) (t := t) ht (begun_of_next (.inl hstart) [])
      (T' ++ rest) (byteLength pre + 1)
    obtain ⟨it', hread, hit⟩ := hfit.reads.reads (pre ++ '{' :: g₁) (g₂ ++ '}' :: rest)
      (by rw [hspan, hnext]; exact ⟨rest, by simp⟩) (n + 1) (by rw [hT] at hn; simp at hn ⊢; omega)
    obtain ⟨a', rfl⟩ : ∃ a', it' = .attr a' := by
      cases hfit.name _ _ (hit "") with
      | attr => exact ⟨_, rfl⟩
    have h₄' := moves_skip false h₄ hg₂ (v := ['}']) (t := d.rest) hend (begun_of_next (.inr rfl) [])
      rest (byteLength (pre ++ '{' :: g₁ ++ new (.attr a)))
    have hplace : byteLength pre + 1 + byteLength g₁ = byteLength (pre ++ '{' :: g₁) := by
      rw [byteLength_append, byteLength_cons, ← Nat.add_assoc]
      rfl
    have hbrace' : Cursor.expect ['{'] ⟨'{' :: (g₁ ++ (T ++ rest)), byteLength pre⟩ =
        some ⟨g₁ ++ ([q] ++ (T' ++ rest)), byteLength pre + 1⟩ :=
      expect_eq_some.2 ⟨by rw [hT']; simp, rfl⟩
    have hfirst : [q] ++ (T' ++ rest) = new (.attr a) ++ (g₂ ++ '}' :: rest) := by
      have htext : [q] ++ (T' ++ rest) = T ++ rest := by rw [hT']; rfl
      rw [htext, hT]
      simp
    rw [hplace, hfirst] at h₂'
    refine ⟨[.attr a'], .inline (by rw [hbrace', hfirst]) h₂' (item_succ_iff.1 hread) h₄' ?_, .cons ?_ .nil⟩
    · refine expect_eq_some.2 ⟨rfl, ?_⟩
      rw [hT]
      simp [Nat.add_assoc]
    · intro name
      rw [hT]
      simpa using hit name

theorem rewritten_empty (hc : Reaches (.ofText text) c) (hopen : c.expect ['{'] = some c₁)
    (h₂ : c₁.skipInline = some c₂) (hclose : c₂.expect ['}'] = some d) :
    ∃ first gap, Rewritten text new P [] c first d gap := by
  obtain ⟨hbrace, hbyte⟩ := expect_eq_some.1 hopen
  obtain ⟨hend, hstop⟩ := expect_eq_some.1 hclose
  have hend : c₂.rest = '}' :: d.rest := hend
  obtain ⟨g₁, hg₁, hbyte₁⟩ := reaches_skip h₂
  have hrespelled : ∀ {c₀ : Cursor} {w}, Reaches (.ofText text) c₀ → c₀.rest = w ++ c₂.rest →
      c₂.byte = c₀.byte + byteLength w → respelled text new c₀.byte [] d.byte = w ++ ['}'] := by
    intro c₀ w hc₀ hw hbyte
    rw [respelled, sliceBytes_of_reaches hc₀ (d := d) (w := w ++ ['}']) (by rw [hw, hend]; simp)
      (by rw [hstop, hbyte, byteLength_append, Nat.add_assoc])]
    rfl
  have hc₂ := hc.trans ((reaches_expect hopen).trans (reaches_skip h₂))
  refine ⟨c₂, g₁, by rw [hbrace, hg₁]; rfl, ?_, ?_, ?_⟩
  · have hbyte' : c₁.byte = c.byte + 1 := hbyte
    rw [hbyte₁, hbyte']
  · intro c₀ w hc₀ hw hbyte
    rw [hrespelled hc₀ hw hbyte, hrespelled (w := []) hc₂ rfl (Nat.add_zero _).symm]
    rfl
  · intro T hT pre rest n _
    rw [hrespelled (w := []) hc₂ rfl (Nat.add_zero _).symm] at hT
    have h₂' := moves_skip false h₂ hg₁ (v := ['}']) (t := d.rest) hend (begun_of_next (.inr rfl) [])
      rest (byteLength pre + 1)
    refine ⟨[], .empty (expect_eq_some.2 ⟨by rw [hT]; rfl, rfl⟩) h₂' (expect_eq_some.2 ⟨rfl, ?_⟩), .nil⟩
    have hbrace : '{'.utf8Size = 1 := rfl
    rw [hT]
    simp [Nat.add_assoc, hbrace]

theorem exists_rewritten (hc : Reaches (.ofText text) c) (hbody : blockBody (n + 1) c = some (its, d))
    (hkeys : (itemKeys its).Nodup) (hfits : ∀ it ∈ its, Fits text new P it) :
    ∃ first gap, Rewritten text new P its c first d gap := by
  cases blockBody_succ_iff.1 hbody with
  | empty hopen h₂ hclose => exact rewritten_empty hc hopen h₂ hclose
  | lines hopen h₂ hbreak hitems hclose =>
    exact rewritten_lines hc hopen h₂ hbreak hitems hclose hkeys hfits
  | inline hopen h₂ hitem h₄ hclose =>
    exact rewritten_inline hc hopen h₂ hitem h₄ hclose (hfits _ List.mem_cons_self)

end Blocks

theorem respelled_stack {text w : List Char} {its : List Item} {c d e : Cursor} (name : String)
    (hc : Reaches (.ofText text) c) (h : Stack c d its) (hde : Reaches d e) (hw : c.rest = w ++ e.rest)
    (hbyte : e.byte = c.byte + byteLength w) :
    respelled text (fun it => (SourceFile.parse name text).textOf it.span) c.byte its e.byte = w := by
  induction its generalizing c w with
  | nil => rw [respelled, sliceBytes_of_reaches hc hw hbyte, Option.getD_some]
  | cons it its ih =>
    obtain ⟨c₁, d₁, hcc₁, hstands, hrest⟩ : ∃ c₁ d₁, Reaches c c₁ ∧ Stands c₁ d₁ it ∧ Stack d₁ d its := by
      cases h with
      | single h hitem hend => exact ⟨_, _, h, hitem, .nil hend⟩
      | cons h hitem hbreak hrest => exact ⟨_, _, h, hitem, hrest.after hbreak.reaches⟩
    have hc₁ := hc.trans hcc₁
    have hreach := hstands.closes.reaches
    obtain ⟨g, hg, hgbyte⟩ := hcc₁
    obtain ⟨v, hv, hvbyte⟩ := hrest.reaches.trans hde
    obtain ⟨-, htext⟩ := @SourceFile.textOf_stands name text _ _ hc₁ _ hstands
    have hlater := ih (hc₁.trans hreach) hrest hv hvbyte
    have hcut : respelled text (fun it => (SourceFile.parse name text).textOf it.span) c.byte (it :: its)
        e.byte = g ++ ((SourceFile.parse name text).textOf it.span ++ v) := by
      rw [respelled, hstands.span, sliceBytes_of_reaches hc hg hgbyte, hlater, Option.getD_some]
    rw [hcut]
    refine List.append_cancel_right (Eq.trans ?_ hw)
    rw [hg, htext, hv, List.append_assoc, List.append_assoc]

/-- A block whose structures keep their texts keeps its own. -/
theorem respelled_textOf {text : List Char} {body : Body} (h : parseBody text = some body) (name : String)
    {R : Block} (hR : Inside (.block R) body) :
    respelled text (fun it => (SourceFile.parse name text).textOf it.span) R.span.start R.body
      R.span.stop = (SourceFile.parse name text).textOf R.span := by
  obtain ⟨_, hstack⟩ := stack_of_parseBody h
  obtain ⟨c, d, hc, hstands⟩ := hstack.exists_of_inside hR
  obtain ⟨-, htext⟩ := @SourceFile.textOf_stands name text _ _ hc _ hstands
  obtain ⟨w, hw, hbyte⟩ := hstands.closes.reaches
  obtain rfl : w = (SourceFile.parse name text).textOf R.span :=
    List.append_cancel_right (hw.symm.trans htext)
  cases hstands with
  | block _ _ _ hspan hopen hbody hend =>
    rw [hspan] at hw hbyte ⊢
    exact respelled_stack name hc (hbody.after hopen.reaches) hend hw hbyte

/-- What stands behind the structures of a block. -/
theorem exists_gap {text : List Char} {body : Body} (h : parseBody text = some body) {R : Block}
    (hR : Inside (.block R) body) {it : Item} (hit : it ∈ R.body) :
    ∃ c d w q, Reaches (.ofText text) c ∧ c.byte = it.span.stop ∧ Gap c d w q := by
  obtain ⟨n, c, d, hc, -, hitem⟩ := readBehind_of_parseBody h hR
  cases n with
  | zero => simp [item] at hitem
  | succ n =>
    cases item_succ_iff.1 hitem with
    | block hname h₂ _ hlabels hbody =>
      have hc₃ := hc.trans ((closes_name hname).reaches.trans ((reaches_skip h₂).trans
        (reaches_labels hlabels)))
      cases n with
      | zero => simp [blockBody] at hbody
      | succ n =>
        cases blockBody_succ_iff.1 hbody with
        | empty => cases hit
        | lines hopen h₂ hbreak hitems hclose =>
          obtain ⟨its, first, rfl, hskip, hturn⟩ := inTurn_of_items hitems
          exact hturn.exists_gap (expect_eq_some.1 hclose).1 (hc₃.trans ((reaches_expect hopen).trans
            ((reaches_skip h₂).trans ((reaches_lineBreak hbreak).trans (reaches_skip hskip))))) hit
        | @inline _ c₂ c₄ c₅ _ a hopen h₂ hstep h₄ hclose =>
          obtain rfl := List.mem_singleton.1 hit
          have hitem' := item_succ_iff.2 hstep
          have hend : c₅.rest = '}' :: d.rest := (expect_eq_some.1 hclose).1
          obtain ⟨w, hw, -⟩ := reaches_skip h₄
          have hagain : c₄.skip true = c₅.skip true := skip_again (fun h => by cases h) h₄
          exact ⟨c₄, c₅, w, '}', hc₃.trans ((reaches_expect hopen).trans ((reaches_skip h₂).trans
            (closes_item hitem').reaches)), by rw [((places _).item hitem').span], hw,
            hagain.trans (skip_stop hend (by decide)),
            ⟨_, hend⟩, .inr rfl, .inl h₄⟩

/-- A block with other texts for its structures reads as a block with the structures of these texts. -/
theorem readsAs_respelled {text : List Char} {body : Body} (h : parseBody text = some body) {R : Block}
    (hR : Inside (.block R) body) {new : Item → List Char} {P : Item → SourceFile → Item → Prop}
    (hfits : ∀ it ∈ R.body, Fits text new P it) :
    ReadsAs (respelled text new R.span.start R.body R.span.stop) (fun _ => True) fun file it =>
      ∃ R', it = .block R' ∧ R'.kind = R.kind ∧ R'.labels = R.labels ∧
        List.Forall₂ (fun it it' => P it file it') R.body R'.body := by
  obtain ⟨n, c, d, hc, -, hitem⟩ := readBehind_of_parseBody h hR
  have hformed : Formed (.block R) := hR.formed (formed_of_parseBody h).formed
  obtain ⟨n, rfl⟩ : ∃ k, n = k + 1 + 1 := by
    cases n with
    | zero => simp [item] at hitem
    | succ n =>
      cases n with
      | zero =>
        cases item_succ_iff.1 hitem with
        | block _ _ _ hlabels => simp [labels] at hlabels
      | succ n => exact ⟨n, rfl⟩
  cases item_succ_iff.1 hitem with
  | @block c₁ c₂ c₃ _ kind ls its hname h₂ hne hlabels hbody =>
    have hkeys : (itemKeys its).Nodup := by
      cases hformed with
      | block _ hkeys _ => exact hkeys
    obtain ⟨w, hw, hbyte⟩ : Reaches c c₃ :=
      (closes_name hname).reaches.trans ((reaches_skip h₂).trans (reaches_labels hlabels))
    obtain ⟨first, gap, hwritten⟩ := exists_rewritten (hc.trans ⟨w, hw, hbyte⟩) hbody hkeys hfits
    obtain ⟨T, hT⟩ : ∃ T, T = respelled text new first.byte its d.byte := ⟨_, rfl⟩
    have htext : respelled text new c.byte its d.byte = (w ++ '{' :: gap) ++ T := by
      rw [hT]
      refine hwritten.before hc (by rw [hw, hwritten.rest]; simp) ?_
      rw [hwritten.byte, hbyte, byteLength_append, byteLength_cons]
      simp only [← Nat.add_assoc]
      rfl
    dsimp only
    rw [htext]
    refine .of_reads fun pre rest _ m hm => ?_
    simp only [List.length_append, List.length_cons] at hm
    obtain ⟨m, rfl⟩ : ∃ k, m = k + 1 + 1 := ⟨m - 2, by omega⟩
    obtain ⟨its', hstep, hits⟩ := hwritten.reads hT (pre ++ w) rest m
      (by simp only [List.length_append]; omega)
    have hbody' := blockBody_succ_iff.2 hstep
    rw [byteLength_append pre w] at hbody'
    have hitem' := item_of_header hname h₂ hne hlabels hw hwritten.rest (N := m + 1) (by omega) hbody'
    have hread : item (m + 1 + 1) ⟨w ++ '{' :: gap ++ T ++ rest, byteLength pre⟩ =
        some (.block ⟨kind, ls, its', ⟨byteLength pre, byteLength (pre ++ (w ++ '{' :: gap ++ T))⟩⟩,
          ⟨rest, byteLength (pre ++ (w ++ '{' :: gap ++ T))⟩) := by
      simpa using hitem'
    refine ⟨_, hread, fun name => ⟨_, rfl, rfl, rfl, hits.imp fun _ _ hit => ?_⟩⟩
    simpa using hit name

end TerraLint.Layout
