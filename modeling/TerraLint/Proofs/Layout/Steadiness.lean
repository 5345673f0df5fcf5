import TerraLint.Proofs.Hcl.RespacedBody
import TerraLint.Proofs.Layout.Assembly
import TerraLint.Proofs.Layout.Canonical

/-!
# Structures that layout does not change

Layout moves the blanks at the ends of a line and around the sign of an assignment, wherever the line
stands: in an expression, in a string or in a heredoc. A structure reads as itself all the same if a
look at its characters shows that none of these blanks matters.

* `Tame`, `TameItem`: the text of such a structure, and the structure.
* `respaced_lines`: a tame text whose lines are laid out is the same text with other blanks.
* `holds_of_tame`: a tame structure holds.
* `steady_of_tame`: an attribute with a tame text is steady.
* `Tree.root_render_of_tame`: the canonical text of a block whose attributes have tame texts.
-/

namespace TerraLint

open Text Format Hcl

namespace Layout

/-! ## Tame texts -/

/-- Whether a backslash starts the text whose line end would be escaped, or would be so no more, if
blanks came or went: blanks stand between the two, or another backslash starts the next line. -/
def foldsLine : List Char → Bool
  | '\\' :: cs =>
    match cs.dropWhile (Cursor.isGap false) with
    | '\n' :: rest => cs.head? != some '\n' || escapes rest
    | _ => false
  | _ => false

/-- A text in which the blanks that layout moves change nothing that is read. -/
structure Tame (text : List Char) : Prop where
  blanks : ∀ c ∈ text, isBlank c = true → c = ' ' ∨ c = '\t' ∨ c = '\n'
  calm : ∀ v ∈ text.tails, Calm v
  folds : ∀ v ∈ text.tails, foldsLine v = false

instance (cs : List Char) : Decidable (Calm cs) :=
  decidable_of_iff (¬['f', 'o', 'r', '='] <+: cs ∧ brief? cs = none)
    ⟨fun h => ⟨h.1, h.2⟩, fun h => ⟨h.forSign, h.brief⟩⟩

instance (text : List Char) : Decidable (Tame text) :=
  decidable_of_iff ((text.all fun c => !isBlank c || c == ' ' || c == '\t' || c == '\n') = true ∧
      (∀ v ∈ text.tails, Calm v) ∧ ∀ v ∈ text.tails, foldsLine v = false)
    ⟨fun h => ⟨fun c hc hblank => by simpa [hblank, or_assoc] using List.all_eq_true.1 h.1 c hc,
      h.2.1, h.2.2⟩,
    fun h => ⟨List.all_eq_true.2 fun c hc => by
      cases hblank : isBlank c with
      | false => rfl
      | true => simpa [or_assoc] using h.blanks c hc hblank, h.calm, h.folds⟩⟩

/-- A heredoc, and a heredoc with a blank that may not stand before its marker. -/
example : Tame "a = <<E\n b\nE".toList ∧ ¬Tame "\u00a0E\n".toList := by decide +kernel

namespace Tame

variable {text w u : List Char}

theorem of_suffix (h : Tame text) {rest : List Char} (hrest : rest <:+ text) : Tame rest where
  blanks c hc := h.blanks c (hrest.subset hc)
  calm v hv := h.calm v ((List.mem_tails _ _).2 (((List.mem_tails _ _).1 hv).trans hrest))
  folds v hv := h.folds v ((List.mem_tails _ _).2 (((List.mem_tails _ _).1 hv).trans hrest))

theorem unambiguous (h : Tame text) : Unambiguous text := by
  intro v hv rest hrest
  rw [(h.calm v hv).brief] at hrest
  cases hrest

theorem not_mem_return (h : Tame text) : '\r' ∉ text := by
  intro hmem
  rcases h.blanks _ hmem (by decide) with heq | heq | heq <;> cases heq

/-- A backslash at the end of a line has no blanks behind it, and no other one starts the next line. -/
theorem not_folds (h : Tame ('\\' :: (w ++ '\n' :: u))) (hw : Padding w) :
    w = [] ∧ escapes u = false := by
  have hfolds := h.folds _ ((List.mem_tails _ _).2 (List.suffix_refl _))
  have hdrop : (w ++ '\n' :: u).dropWhile (Cursor.isGap false) = '\n' :: u := by
    rw [List.dropWhile_append_of_pos hw, List.dropWhile_cons_of_neg (by decide)]
  simp only [foldsLine, hdrop, Bool.or_eq_false_iff, bne_eq_false_iff_eq] at hfolds
  cases w with
  | nil => exact ⟨rfl, hfolds.2⟩
  | cons c w =>
    obtain rfl := Option.some.inj hfolds.1
    exact absurd hw.of_cons.1 (by decide)

/-- The lines of a tame text have no other blanks than spaces and tabs. -/
theorem plain (h : Tame text) {l : List Char} (hl : ∀ c ∈ l, c ∈ text) (hn : '\n' ∉ l) :
    Plain l := by
  intro c hc hblank
  rcases h.blanks c (hl c hc) hblank with rfl | rfl | rfl
  · rfl
  · rfl
  · exact absurd hc hn

end Tame

theorem padding_of_plain {l w : List Char} (h : Plain l) (hw : ∀ c ∈ w, c ∈ l)
    (hblank : allBlank w = true) : Padding w := by
  intro c hc
  have hspace := h c (hw c hc) (allBlank_iff.1 hblank c hc)
  simpa [isSpacing, Cursor.isGap] using hspace

theorem Plain.ne {l : List Char} (h : Plain l) {c : Char} (hc : c ∈ l) : c ≠ '\n' ∧ c ≠ '\r' := by
  constructor
  all_goals
    rintro rfl
    exact absurd (h _ hc (by decide)) (by decide)

/-! ## One line -/

section Line

variable {t U S l f : List Char}

/-- What does not make another sign of an equality sign before it. -/
def Unsigned (cs : List Char) : Prop := cs.head? ≠ some '=' ∧ cs.head? ≠ some '>'

theorem Unsigned.append {a b : List Char} (ha : Unsigned a) (hb : Unsigned b) :
    Unsigned (a ++ b) := by
  cases a with
  | nil => exact hb
  | cons c a => exact ha

theorem unsigned_of_padding {w : List Char} (h : Padding w) : Unsigned w := by
  cases w with
  | nil => exact ⟨by simp, by simp⟩
  | cons c w => rcases h.eq_or List.mem_cons_self with rfl | rfl <;> exact ⟨by simp, by simp⟩

theorem unsigned_nil : Unsigned [] := ⟨by simp, by simp⟩

theorem unsigned_lineFeed (cs : List Char) : Unsigned ('\n' :: cs) := ⟨by simp, by simp⟩

theorem unsigned_of_ends (ht : Ends t) : Unsigned t := by
  constructor
  · exact fun h => (ht.head _ h).2 rfl
  · exact fun h => absurd (ht.head _ h).1 (by decide)

theorem endsKey_of_parse? {content : List Char} {a : Assignment}
    (h : Assignment.parse? content = some a) {p q : Char} (hq : q ∈ (p :: a.key).getLast?) :
    endsKey q = true := by
  obtain ⟨b, value, hkey, -⟩ := Assignment.parse?_eq_some h
  obtain ⟨c, hlast, hc⟩ := Assignment.getLast_of_key? hkey
  rw [List.getLast?_cons, hlast] at hq
  obtain rfl : c = q := Option.some.inj hq
  simpa [endsKey] using hc

/-- Characters that layout keeps. -/
theorem respaced_keep {a : List Char} (ha : ∀ c ∈ a, c ≠ '\n' ∧ c ≠ '\r') {p : Char}
    (hcalm : ∀ v, v <:+ a ++ U → Calm v)
    (h : ∀ q ∈ (p :: a).getLast?, Respaced t (some q) U S) : Respaced t (some p) (a ++ U) (a ++ S) := by
  induction a generalizing p with
  | nil => exact h p rfl
  | cons c a ih =>
    refine .char (ha c List.mem_cons_self) (hcalm _ (List.suffix_refl _)) ?_
    refine ih (fun x hx => ha x (List.mem_cons_of_mem _ hx))
      (fun v hv => hcalm v (hv.trans (List.suffix_cons _ _))) fun q hq => h q ?_
    rwa [List.getLast?_cons_cons]

/-- Behind characters that layout keeps stands the last of them, or the blank before them. -/
theorem eq_or_mem_getLast? {a b : List Char} {q : Char} (h : q ∈ (' ' :: b).getLast?) :
    q = ' ' ∨ q ∈ (a ++ b).getLast? := by
  cases b with
  | nil => exact .inl (Option.some.inj h).symm
  | cons x xs =>
    rw [List.getLast?_cons_cons] at h
    exact .inr (List.mem_getLast?_append_of_mem_getLast? h)

/-- The two forms of a line that assigns. -/
theorem respaced_assignment {content content' : List Char} {a : Assignment}
    (h : Assignment.parse? content = some a) (h' : Assignment.parse? content' = some a)
    (hend : trimEnd content = content) (hend' : trimEnd content' = content') (hp : Plain content)
    (hp' : Plain content') (hcalm : ∀ v, v <:+ content ++ U → Calm v) (hU : Unsigned U)
    (hS : Unsigned S) (hrest : ∀ q, q = ' ' ∨ q ∈ content.getLast? → Respaced t (some q) U S) :
    Respaced t (some ' ') (content ++ U) (content' ++ S) := by
  obtain ⟨b₁, b₂, hb₁, hb₂, hcontent, hvalue⟩ := Assignment.eq_of_parse? h hend
  obtain ⟨b₁', b₂', hb₁', hb₂', hcontent', hvalue'⟩ := Assignment.eq_of_parse? h' hend'
  have hmem : ∀ {c}, c ∈ a.key ∨ c ∈ b₁ ∨ c ∈ b₂ ∨ c ∈ a.value → c ∈ content := by
    intro c hc
    rw [hcontent]
    simp only [List.mem_append, List.mem_cons]
    tauto
  have hmem' : ∀ {c}, c ∈ b₁' ∨ c ∈ b₂' → c ∈ content' := by
    intro c hc
    rw [hcontent']
    simp only [List.mem_append, List.mem_cons]
    tauto
  have htext : content ++ U = a.key ++ (b₁ ++ '=' :: (b₂ ++ (a.value ++ U))) := by
    rw [hcontent]
    simp
  have htext' : content' ++ S = a.key ++ (b₁' ++ '=' :: (b₂' ++ (a.value ++ S))) := by
    rw [hcontent']
    simp
  rw [htext] at hcalm
  rw [htext, htext']
  -- The key, the sign between its blanks, and the value.
  refine respaced_keep (fun c hc => hp.ne (hmem (.inl hc))) hcalm fun q hq => ?_
  refine .sign (endsKey_of_parse? h hq)
    (padding_of_plain hp (fun c hc => hmem (.inr (.inl hc))) hb₁)
    (padding_of_plain hp' (fun c hc => hmem' (.inl hc)) hb₁') ?_ ?_ ?_
  · rw [← List.append_assoc]
    exact Unsigned.append hvalue hU
  · rw [← List.append_assoc]
    exact Unsigned.append hvalue' hS
  refine .free (padding_of_plain hp (fun c hc => hmem (.inr (.inr (.inl hc)))) hb₂)
    (padding_of_plain hp' (fun c hc => hmem' (.inr hc)) hb₂') ?_
  refine respaced_keep (fun c hc => hp.ne (hmem (.inr (.inr (.inr hc)))))
    (fun v hv => hcalm v (hv.trans ⟨a.key ++ (b₁ ++ '=' :: b₂), by simp⟩)) fun q hq => hrest q ?_
  rw [hcontent, ← List.append_assoc]
  exact eq_or_mem_getLast? hq

/-- A line as it was and as it is laid out. What comes behind it may rely on the last character before
the blanks at its end. -/
theorem respaced_line (hkept : Kept l f) (hp : Plain l) (hcalm : ∀ v, v <:+ l ++ U → Calm v)
    (hU : Unsigned U) (hS : Unsigned S)
    (h : ∀ a w q, l = a ++ w → Padding w → q = ' ' ∨ q ∈ a.getLast? →
      Respaced t (some q) (w ++ U) S) : Respaced t none (l ++ U) (f ++ S) := by
  obtain ⟨heased, htidy⟩ := hkept
  obtain ⟨lead, trail, hlead, htrail, hl⟩ := exists_trim l
  obtain ⟨indent, hindent, hf⟩ := exists_trimStart f
  have hp' : Plain f := heased.plain hp
  have hmem : ∀ {c}, c ∈ lead ∨ c ∈ trim l ∨ c ∈ trail → c ∈ l := by
    intro c hc
    rw [hl]
    simp only [List.mem_append]
    tauto
  have hmem' : ∀ {c}, c ∈ indent ∨ c ∈ trimStart f → c ∈ f := by
    intro c hc
    rw [hf]
    exact List.mem_append.2 hc
  have hlead' := padding_of_plain hp (fun c hc => hmem (.inl hc)) hlead
  have htrail' := padding_of_plain hp (fun c hc => hmem (.inr (.inr hc))) htrail
  have hindent' := padding_of_plain hp' (fun c hc => hmem' (.inl hc)) hindent
  have htext : l ++ U = lead ++ (trim l ++ (trail ++ U)) := by
    conv_lhs => rw [hl]
    simp
  have htext' : f ++ S = indent ++ (trimStart f ++ S) := by
    conv_lhs => rw [hf]
    simp
  have hrest : ∀ q, q = ' ' ∨ q ∈ (trim l).getLast? → Respaced t (some q) (trail ++ U) S :=
    fun q hq => h (lead ++ trim l) trail q hl htrail'
      (hq.imp_right List.mem_getLast?_append_of_mem_getLast?)
  have hcalm' : ∀ v, v <:+ trim l ++ (trail ++ U) → Calm v :=
    fun v hv => hcalm v (hv.trans ⟨lead, htext.symm⟩)
  have htrim : trim f = trimStart f := by
    rw [trim_eq, ← trimStart_trimEnd_comm, htidy.trimEnd]
  have hparse := parse?_congr heased.core
  rw [htext, htext']
  refine .free hlead' hindent' ?_
  cases ha : Assignment.parse? (trim l) with
  | none =>
    have hcore := heased.core
    rw [core_of_none ha, core_of_none (hparse.trans ha), htrim] at hcore
    rw [(Prod.mk.inj hcore).2]
    refine respaced_keep (fun c hc => hp.ne (hmem (.inr (.inl hc)))) hcalm' fun q hq => hrest q ?_
    exact @eq_or_mem_getLast? [] _ _ hq
  | some a =>
    refine respaced_assignment ha ?_ (trimEnd_trim l) htidy.trimStart.trimEnd
      (fun c hc => hp c (hmem (.inr (.inl hc)))) (fun c hc => hp' c (hmem' (.inr hc))) hcalm'
      ((unsigned_of_padding htrail').append hU) hS hrest
    rw [← htrim, hparse, ha]

end Line

/-! ## All lines -/

/-- Blanks at the end of a text that does not end with a blank. -/
theorem eq_nil_of_solid {a w : List Char} (h : Solid (a ++ w)) (hw : allBlank w = true) : w = [] := by
  have hend := h.trimEnd
  rw [trimEnd_append_blank hw] at hend
  have hle := length_trimEnd_le a
  rw [hend, List.length_append] at hle
  exact List.eq_nil_of_length_eq_zero (by omega)

theorem allBlank_of_padding {w : List Char} (h : Padding w) : allBlank w = true := by
  rw [allBlank_iff]
  intro c hc
  rcases h.eq_or hc with rfl | rfl <;> decide

/-- A tame text whose lines are laid out is the same text with other blanks. -/
theorem respaced_lines {t : List Char} (ht : Ends t) {ls fs : List (List Char)}
    (h : List.Forall₂ Kept ls fs) (hne : ls ≠ []) (hlast : ∀ l ∈ ls.getLast?, Solid l)
    (hlf : ∀ l ∈ ls, '\n' ∉ l) (htame : Tame (unlines ls)) :
    Respaced t none (unlines ls) (unlines fs ++ t) := by
  induction h with
  | nil => exact absurd rfl hne
  | @cons l f ls fs hl hls ih =>
    have hln := hlf l List.mem_cons_self
    cases hls with
    | nil =>
      rw [unlines_singleton] at htame
      rw [unlines_singleton, unlines_singleton, ← List.append_nil l]
      refine respaced_line hl (htame.plain (fun _ hc => hc) hln)
        (fun v hv => htame.calm v ((List.mem_tails _ _).2 (by simpa using hv)))
        unsigned_nil (unsigned_of_ends ht) ?_
      rintro a w q rfl hw -
      obtain rfl := eq_nil_of_solid (hlast _ rfl) (allBlank_of_padding hw)
      exact .done
    | @cons l' f' ls fs hl' hls =>
      have hrest := ih (List.cons_ne_nil _ _)
        (fun x hx => hlast x (by rwa [List.getLast?_cons_cons]))
        (fun x hx => hlf x (List.mem_cons_of_mem _ hx))
      rw [unlines_cons (List.cons_ne_nil _ _)] at htame
      rw [unlines_cons (List.cons_ne_nil _ _), unlines_cons (List.cons_ne_nil _ _),
        List.append_assoc, List.cons_append]
      refine respaced_line hl
        (htame.plain (fun c hc => List.mem_append_left _ hc) hln)
        (fun v hv => htame.calm v ((List.mem_tails _ _).2 hv)) (unsigned_lineFeed _)
        (unsigned_lineFeed _) ?_
      rintro a w q rfl hw hq
      refine .line ?_ hw (hrest (htame.of_suffix ⟨a ++ w ++ ['\n'], by simp⟩))
      rintro rfl
      obtain ⟨b, rfl⟩ := List.getLast?_eq_some_iff.1 (hq.resolve_left (by decide))
      exact (htame.of_suffix ⟨b, by simp⟩).not_folds hw

/-- A tame text that does not end with a blank consists of its lines. -/
theorem Tame.unlines_lines {text : List Char} (h : Tame text) (hs : Solid text) :
    unlines (lines text) = text ∧ ∀ l ∈ (lines text).getLast?, Solid l := by
  obtain ⟨ps, last, hps, hlast, hlines⟩ := hs.exists_last
  have htext : unlines (ps ++ [last]) = text := by
    rw [← hps, unlines, List.intercalate_splitOn]
  have hmap : ps.map chompReturn = ps := by
    conv_rhs => rw [← List.map_id ps]
    refine List.map_congr_left fun l hl => if_neg fun hreturn => h.not_mem_return ?_
    rw [← htext]
    exact mem_unlines (List.mem_append_left _ hl) (List.mem_of_getLast? hreturn)
  rw [hlines, hmap]
  exact ⟨htext, by simpa using hlast⟩

/-! ## Steady attributes -/

theorem ends_nil : Ends [] where
  head q hq := by cases hq
  word q hq := by cases hq
  skips m byte := ⟨_, skip_of_nil (c := ⟨[], byte⟩) rfl, .inr (by simp)⟩
  comment byte := ⟨_, Cursor.toLineEnd.eq_4 byte, .inr (by simp)⟩

theorem ends_of_opens {rest : List Char} (h : Opens rest) : Ends ('\n' :: rest) := by
  obtain ⟨ws, d, more, rfl, hws, hd⟩ := h
  refine @ends_of_line [] [] _ padding_nil ⟨.inl rfl, by simp⟩ (.inl rfl) fun byte => ?_
  have hends : Cursor.endsBlanks d = true := by
    rcases hd with hd | rfl
    · exact endsBlanks_of_isNameStart hd
    · rfl
  refine ⟨_, by rw [Cursor.blanks_append hws, Cursor.blanks_stop hends], .inr fun q hq => ?_⟩
  obtain rfl := Option.some.inj hq
  exact hd.symm.imp_left (by simp [·])

theorem kept_trimStart {l f : List Char} (h : Kept l f) : Kept l (trimStart f) := by
  have hcore : core (trimStart f) = core f := core_eq_of_trim (by rw [trim_eq, trimStart_trimStart, trim_eq])
  refine ⟨⟨hcore.trans h.1.core, fun _ c hc => ?_, fun hp c hc => ?_⟩, h.2.trimStart⟩
  · rw [takeWhile_isBlank_of_trimStart (trimStart_trimStart f)] at hc
    cases hc
  · exact h.1.plain hp c ((List.dropWhile_suffix _).subset hc)

/-- A tame text and the same text laid out, at their starts. -/
theorem tight_of_tame {text t : List Char} (ht : Ends t) (htame : Tame text) (hu : Upright text)
    {c : Char} {u : List Char} (htext : text = c :: u) (hc : isRigid c = true)
    {fs : List (List Char)} (hkept : List.Forall₂ Kept (lines text) fs) (byte : Nat) :
    Tight t (.ofText text) ⟨dedented fs ++ t, byte⟩ := by
  obtain ⟨hlines, hlast⟩ := htame.unlines_lines hu.toSolid
  have hfirst : ∀ l ∈ (lines text).head?, allBlank l = false := fun l => hu.allBlank_head
  have hlf : ∀ l ∈ lines text, '\n' ∉ l := fun l => not_mem_of_mem_lines
  generalize lines text = ls at hkept hlines hlast hfirst hlf
  cases hkept with
  | nil =>
    rw [← hlines] at htext
    cases htext
  | @cons l f ls fs hl hls =>
    have hrespaced := respaced_lines ht (.cons (kept_trimStart hl) hls) (List.cons_ne_nil _ _) hlast hlf
      (by rwa [hlines])
    rw [hlines] at hrespaced
    -- No blanks stand before the first character of the second text.
    have hne : trimStart f ≠ [] := by
      intro hnil
      have hblank := hfirst l rfl
      rw [← allBlank_congr hl.1.core, trimStart_eq_nil_iff.1 hnil] at hblank
      cases hblank
    obtain ⟨x, xs, hx⟩ := List.exists_cons_of_ne_nil hne
    obtain ⟨ys, hys⟩ : ∃ ys, unlines (trimStart f :: fs) = x :: ys := by
      rw [hx]
      by_cases hfs : fs = []
      · exact ⟨xs, by rw [hfs, unlines_singleton]⟩
      · exact ⟨_, unlines_cons hfs _⟩
    have hgap : Cursor.isGap false x = false := by
      have hblank := isBlank_head_trimStart hx
      by_contra hgap
      rcases (show Padding [x] by simpa [Padding] using hgap).eq_or List.mem_cons_self with rfl | rfl
      all_goals exact absurd hblank (by decide)
    rw [htext, hys] at hrespaced
    obtain ⟨v, s, hs, hv, -, hcalm, hrest⟩ := hrespaced.rigid hc
    obtain ⟨rfl, rfl, rfl⟩ := hv.eq_nil hs hgap
    refine ⟨' ', ?_⟩
    rw [htext, dedented, hys]
    exact .char ⟨(ne_of_isRigid hc).1, (ne_of_isRigid hc).2.1⟩ hcalm hrest

/-- A structure that layout does not change: its text is tame, and no label in it is laid out. -/
structure TameItem (file : SourceFile) (it : Item) : Prop where
  text : Tame (file.textOf it.span)
  labels : ∀ b, Inside (.block b) [it] →
    Unfolded (file.textOf b.span) ∧ ∀ label ∈ b.labels, Whole label

instance (file : SourceFile) (it : Item) : Decidable (TameItem file it) :=
  decidable_of_iff (Tame (file.textOf it.span) ∧ ∀ b ∈ innerBlocks [it],
      Unfolded (file.textOf b.span) ∧ ∀ label ∈ b.labels, Whole label)
    ⟨fun h => ⟨h.1, fun b hb => h.2 b (mem_innerBlocks.2 hb)⟩,
      fun h => ⟨h.text, fun b hb => h.labels b (mem_innerBlocks.1 hb)⟩⟩

theorem tameItem_attr {file : SourceFile} {a : Attribute} (h : Tame (file.textOf a.span)) :
    TameItem file (.attr a) where
  text := h
  labels b hb := by cases inside_attr_iff.1 hb

section Reading

variable {name : String} {text : List Char} {body : Body} {it : Item}

/-- The own text of a structure is read as that structure. -/
theorem exists_itemStep_textOf (h : parseBody text = some body) (hit : Inside it body)
    (hs : Unambiguous ((SourceFile.parse name text).textOf it.span)) :
    ∃ n byte stop, ItemStep n ⟨(SourceFile.parse name text).textOf it.span, byte⟩ it ⟨[], stop⟩ := by
  obtain ⟨n, ⟨cs, byte⟩, ⟨rest, stop⟩, hc, -, hitem⟩ := readBehind_of_parseBody h hit
  obtain ⟨-, hrest⟩ := @SourceFile.textOf_stands name text _ _ hc _ ((places n).item hitem)
  obtain rfl : cs = (SourceFile.parse name text).textOf it.span ++ rest := hrest
  have hlocal := (body_locality rest n).item
    (c := ⟨(SourceFile.parse name text).textOf it.span, byte⟩) (d := ⟨[], stop⟩) hs
    (fun _ _ => .inl rfl) hitem
  cases n with
  | zero => simp [item] at hlocal
  | succ n => exact ⟨n, byte, stop, item_succ_iff.1 hlocal⟩

/-- A tame structure reads as itself in a text with other blanks at its lines, before the end of a text
or what does not go on with it. -/
theorem item_of_tight (h : parseBody text = some body) (hit : Inside it body)
    (htame : TameItem (.parse name text) it) {T t : List Char} (ht : Ends t) {byte : Nat}
    (htight : ∀ start, Tight t ⟨(SourceFile.parse name text).textOf it.span, start⟩ ⟨T ++ t, byte⟩)
    {n : Nat} (hn : 4 * (T ++ t).length ≤ n) :
    ∃ it', item n ⟨T ++ t, byte⟩ = some (it', ⟨t, byte + byteLength T⟩) ∧ SameName it it' ∧
      it'.span = ⟨byte, byte + byteLength T⟩ := by
  obtain ⟨m, start, stop, hstep⟩ := exists_itemStep_textOf h hit htame.text.unambiguous
  obtain ⟨c, u, htext, -⟩ := isNameStart_of_item (item_succ_iff.2 hstep)
  have htight := htight start
  have hconcluded : Concluded ⟨[], stop⟩ := concluded_of_skipLines (skip_of_nil rfl) not_lone_nil
  obtain ⟨n, rfl⟩ := exists_succ_of_tight htight (ne_of_eq_of_ne htext (List.cons_ne_nil _ _)) hn
  have hread : ∃ it' d', ItemStep n ⟨T ++ t, byte⟩ it' d' ∧ SameName it it' ∧
      Tight t ⟨[], stop⟩ d' := by
    cases it with
    | attr a =>
      obtain ⟨a', d', hstep', hkey, hend⟩ := attr_respaced ht hstep htight hconcluded hn
      exact ⟨.attr a', d', hstep', .attr hkey, hend⟩
    | block b =>
      obtain ⟨b', d', hstep', hkind, hlabels, hkeys, hend⟩ := (respaces_body ht m).block ht hstep
        htight (htame.labels b (.here (List.mem_singleton_self _))).1
        (fun b' hb' => (htame.labels b' hb').2) hn
      exact ⟨.block b', d', hstep', .block hkind hlabels hkeys, hend⟩
  obtain ⟨it', ⟨cs, stop'⟩, hstep', hsame, p, hend⟩ := hread
  have hitem := item_succ_iff.2 hstep'
  obtain ⟨v, hv, -, hnil⟩ := hend.nil
  obtain rfl : cs = t := by
    rw [hnil (by simp)] at hv
    exact hv
  obtain rfl : stop' = byte + byteLength T := (closes_item hitem).reaches.byte_eq rfl
  exact ⟨it', hitem, hsame, ((places _).item hitem).span⟩

/-- A tame structure reads as itself however its lines are laid out. -/
theorem item_of_tame (h : parseBody text = some body) (hit : Inside it body)
    (htame : TameItem (.parse name text) it) {fs : List (List Char)}
    (hkept : List.Forall₂ Kept (lines ((SourceFile.parse name text).textOf it.span)) fs)
    {t : List Char} (ht : Ends t) (byte : Nat) {n : Nat} (hn : 4 * (dedented fs ++ t).length ≤ n) :
    ∃ it', item n ⟨dedented fs ++ t, byte⟩ =
        some (it', ⟨t, byte + byteLength (dedented fs)⟩) ∧ SameName it it' ∧
      it'.span = ⟨byte, byte + byteLength (dedented fs)⟩ := by
  obtain ⟨m, start, stop, hstep⟩ := exists_itemStep_textOf h hit htame.text.unambiguous
  obtain ⟨c, u, htext, hc⟩ := isNameStart_of_item (item_succ_iff.2 hstep)
  exact item_of_tight h hit htame ht (fun _ => tight_of_tame ht htame.text
    (SourceFile.upright_textOf h name hit) htext
    (isRigid_of_isNameRest (Cursor.isNameRest_of_isNameStart hc)) hkept byte) hn

/-- A tame structure holds. -/
theorem holds_of_tame (h : parseBody text = some body) (hit : Inside it body)
    (htame : TameItem (.parse name text) it) {R : Resemblance}
    (hR : ∀ file it', SameName it it' → R file it it') :
    Holds R it ((SourceFile.parse name text).textOf it.span) := by
  intro fs hkept pre rest hrest n hn
  have ht : Ends rest := by
    rcases hrest with rfl | ⟨more, rfl, hopens⟩
    · exact ends_nil
    · exact ends_of_opens hopens
  obtain ⟨it', hitem, hsame, hspan⟩ := item_of_tame h hit htame hkept ht (byteLength pre) hn
  rw [← byteLength_append] at hitem hspan
  exact ⟨it', hitem, hspan, hsame, fun _ => hR _ _ hsame⟩

/-- An attribute with a tame text is steady. -/
theorem steady_of_tame {a : Attribute} (h : parseBody text = some body) (ha : Inside (.attr a) body)
    (htame : Tame ((SourceFile.parse name text).textOf a.span)) :
    Steady a.key ((SourceFile.parse name text).textOf a.span) := by
  intro _ hkept _ hrest byte _ hn
  obtain ⟨it', hitem, hsame, hspan⟩ :=
    item_of_tame h ha (tameItem_attr htame) hkept (ends_of_opens hrest) byte hn
  cases hsame with
  | @attr _ a' hkey => exact ⟨a', hitem, hkey, hspan⟩

end Reading

/-- The canonical text of a block whose attributes have tame texts holds exactly one block. This is in
order, as are all blocks in it, and its canonical text is the text that it was read from. -/
theorem Tree.root_render_of_tame {text : List Char} {body : Body} (h : parseBody text = some body)
    {b : Block} (hb : b ∈ body.blocks) (name : String) (cl : Classifier)
    (hlabels : ∀ d, Inside (.block d) [.block b] → ∀ label ∈ d.labels, Unescaped label)
    (htame : ∀ a, Inside (.attr a) b.body →
      Tame ((SourceFile.parse name text).textOf a.span)) :
    IsCanonical cl (Tree.root (.parse name text) cl b).render :=
  isCanonical_root (readable_of_parseBody h hb name cl hlabels fun a ha =>
    steady_of_tame h (.nested (mem_of_mem_blocks hb) ha) (htame a ha))

end Layout

end TerraLint
