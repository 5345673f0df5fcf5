import TerraLint.Proofs.Hcl.Body
import TerraLint.Proofs.Hcl.Header
import TerraLint.Proofs.Hcl.Placement
import TerraLint.Proofs.Layout.Reprint

/-!
# Headers read back

A block is announced by its type and its labels between quotes. The labels were decoded when the
block was read and are written as they are, so an announced block reads back as the same one just
when no label holds a sign that means something else between quotes.

* `Cursor.verbatim_of_quotedLabel`: a label that reads back has no such sign.
* `Cursor.verbatim_of_labels`: labels that read back together do so each by itself.
* `Block.header_reads_iff`: the header of a block read back.
-/

namespace TerraLint

open Text Hcl

namespace Hcl.Cursor

/-! ## One label -/

/-- What may stand behind a label and a space: another label in quotes, or a text without quotation
marks. -/
def FollowsLabel (tail : List Char) : Prop := tail.head? = some '"' ∨ '"' ∉ tail

/-- A run that goes on behind a quotation mark that was escaped ends at the next label. -/
theorem getLast?_of_runs {taken tail : List Char} {byte : Nat} {text : String} {d : Cursor}
    (h : Closer.quote.Runs taken ⟨' ' :: tail, byte⟩ text d) (hd : d.rest.head? = some '"')
    (htail : FollowsLabel tail) : text.toList.getLast? = some ' ' := by
  rcases htail with htail | htail
  · obtain ⟨rest, rfl⟩ := List.head?_eq_some_iff.1 htail
    have hspace : isMarker ' ' ≠ true := by decide
    have hrun := quotedRun_iff.2 h
    rw [quotedRun_cons (by decide) (by decide) (absurd · hspace) (absurd · hspace), quotedRun] at hrun
    rw [← (Prod.mk.inj (Option.some.inj hrun)).1]
    simp
  · obtain ⟨used, hused, -⟩ := h.reaches
    have hmem := List.mem_append_right used (List.mem_of_mem_head? hd)
    rw [← hused] at hmem
    simp [htail] at hmem

/-- What a run makes of a text `q` in quotes, after `size` characters that it had read before. -/
inductive RunOutcome (q : List Char) (size : Nat) (text : List Char) : Prop
  /-- Some characters are read as fewer. -/
  | fewer (h : text.length < size + q.length)
  /-- The text stands for itself. -/
  | verbatim (h : Verbatim q) (hlength : text.length = size + q.length)
  /-- The backslash at the end of the text escapes the closing quotation mark, and the run goes on
  to the next one. -/
  | beyond (hslash : q.getLast? = some '\\') (hspace : text.getLast? = some ' ')

/-- A word that is read as fewer characters is no part of a text that stands for itself. -/
theorem RunOutcome.word {q text w : List Char} {size n : Nat} (h : RunOutcome q (size + n) text)
    (hn : n < w.length) : RunOutcome (w ++ q) size text := by
  cases h with
  | fewer h => exact .fewer (by rw [List.length_append]; omega)
  | verbatim _ h => exact .fewer (by rw [List.length_append]; omega)
  | beyond hslash hspace => exact .beyond (List.mem_getLast?_append_of_mem_getLast? hslash) hspace

/-- A character that neither ends a run nor escapes one is read as it stands. -/
theorem RunOutcome.cons {q text : List Char} {c : Char} {size : Nat}
    (h : RunOutcome q (size + 1) text) (hquote : c ≠ '"') (hslash : c ≠ '\\')
    (hmarker : isMarker c = true → ∀ rest, q ≠ '{' :: rest) : RunOutcome (c :: q) size text := by
  cases h with
  | fewer h => exact .fewer (by rw [List.length_cons]; omega)
  | verbatim hq h =>
    refine .verbatim ⟨by simp [hq.quote, hquote.symm], by simp [hq.slash, hslash.symm], ?_⟩
      (by rw [List.length_cons]; omega)
    cases q with
    | nil => rfl
    | cons d q =>
      have hd : isMarker c = true → d ≠ '{' := fun hc heq => hmarker hc q (heq ▸ rfl)
      rw [unmarked, hq.unmarked, Bool.and_true, Bool.not_eq_true', Bool.and_eq_false_iff]
      by_cases hc : isMarker c = true
      · exact .inr (beq_eq_false_iff_ne.2 (hd hc))
      · exact .inl (Bool.eq_false_iff.2 hc)
  | beyond hlast hspace =>
    exact .beyond (@List.mem_getLast?_append_of_mem_getLast? _ [c] _ _ hlast) hspace

theorem RunOutcome.ended {q : List Char} (hq : q ≠ []) (taken : List Char) :
    RunOutcome q taken.length (String.ofList taken.reverse).toList := by
  have hpos := List.length_pos_of_ne_nil hq
  exact .fewer (by rw [String.toList_ofList, List.length_reverse]; omega)

theorem outcome_of_runs {q tail taken : List Char} {text : String} {c d : Cursor}
    (h : Closer.quote.Runs taken c text d) (hc : q ++ '"' :: ' ' :: tail = c.rest)
    (hd : d.rest.head? = some '"') (htail : FollowsLabel tail) :
    RunOutcome q taken.length text.toList := by
  induction h generalizing q with
  | @stop taken w rest byte hends =>
    obtain ⟨rest, rfl⟩ := List.head?_eq_some_iff.1 hd
    cases hends with
    | sequence hseq => cases hseq
    | closing =>
      cases q with
      | nil => exact .verbatim verbatim_nil (by simp)
      | cons x q => exact .ended (List.cons_ne_nil x q) taken
    | unknown =>
      refine .ended ?_ taken
      rintro rfl
      cases hc
  | @take taken w y rest byte text d htakes hmore ih =>
    have hsize : (y ++ taken).length = taken.length + y.length := by
      rw [List.length_append, Nat.add_comm]
    rw [hsize] at ih
    cases htakes with
    | @doubled _ x _ hx =>
      have hquote : '"' ∉ [x, x, '{'] := by rcases eq_of_isMarker hx with rfl | rfl <;> decide
      obtain ⟨q', rfl, hrest⟩ := exists_append_of_quote hquote hc
      exact (ih hrest.symm hd).word (by simp)
    | @char _ x _ hord =>
      have hquote : '"' ∉ [x] := by simpa using Ne.symm hord.passes.1
      obtain ⟨q', rfl, hrest⟩ := exists_append_of_quote hquote hc
      refine (ih hrest.symm hd).cons hord.passes.1 hord.passes.2 fun hx more hq' => hord.single hx ?_
      rw [hrest, hq']
      exact ⟨_, rfl⟩
    | @escape x ch _ hch =>
      obtain ⟨q', rfl, hrest⟩ := exists_append_of_quote (w := ['\\']) (v := x :: rest) (by decide) hc
      cases q' with
      | nil =>
        -- The quotation mark is escaped, and the run goes on behind it.
        obtain ⟨-, rfl⟩ := List.cons.inj hrest
        exact .beyond rfl (getLast?_of_runs hmore hd htail)
      | cons x' q' =>
        obtain ⟨rfl, hmore⟩ := List.cons.inj hrest
        exact (ih hmore.symm hd).word (w := ['\\', x]) (by simp)
    | @decoded mark ch digits _ hmark hch =>
      obtain ⟨n, hn, -⟩ := Option.bind_eq_some_iff.1 hch
      have hquote : '"' ∉ '\\' :: mark :: digits := by
        intro hmem
        rcases hmark with ⟨rfl, -⟩ | ⟨rfl, -⟩
        all_goals
          simp only [List.mem_cons, Char.reduceEq, false_or] at hmem
          exact (ne_sign_of_hexNumber hn _ hmem).1 rfl
      obtain ⟨q', rfl, hrest⟩ := exists_append_of_quote hquote hc
      exact (ih hrest.symm hd).word (by simp)

theorem verbatim_of_quotedLabel {label : String} {tail : List Char} {byte : Nat} {c : Cursor}
    (h : quotedLabel ⟨labelText label ++ ' ' :: tail, byte⟩ = some (label, c))
    (htail : FollowsLabel tail) : Verbatim label.toList := by
  have htext : labelText label ++ ' ' :: tail = '"' :: (label.toList ++ '"' :: ' ' :: tail) := by
    simp [labelText]
  rw [htext] at h
  unfold quotedLabel at h
  obtain ⟨c₁, hopen, h⟩ := Option.bind_eq_some_iff.1 h
  obtain rfl : c₁ = ⟨label.toList ++ '"' :: ' ' :: tail, byte + 1⟩ := (Option.some.inj hopen).symm
  split at h
  · rw [← (Prod.mk.inj (Option.some.inj h)).1]
    exact verbatim_nil
  · obtain ⟨⟨text, c₂⟩, hrun, h⟩ := Option.bind_eq_some_iff.1 h
    obtain ⟨c₃, hclose, h⟩ := Option.bind_eq_some_iff.1 h
    obtain rfl := (Prod.mk.inj (Option.some.inj h)).1
    have hd : c₂.rest.head? = some '"' := by rw [(expect_eq_some.1 hclose).1]; rfl
    cases outcome_of_runs (quotedRun_iff.1 hrun) rfl hd htail with
    | fewer h => simp at h
    | verbatim h _ => exact h
    | beyond hslash hspace =>
      rw [hslash] at hspace
      cases hspace

/-! ## Labels in a row -/

theorem exists_of_labels {n : Nat} {read ls : List String} {c d : Cursor}
    (h : c.labels n read = some (ls, d)) : ∃ more, ls = read ++ more := by
  induction n generalizing read c with
  | zero => cases h
  | succ n ih =>
    unfold Cursor.labels at h
    split at h
    · exact ⟨[], by rw [(Prod.mk.inj (Option.some.inj h)).1, List.append_nil]⟩
    · obtain ⟨⟨label, c₁⟩, -, h⟩ := Option.bind_eq_some_iff.1 h
      obtain ⟨c₂, -, h⟩ := Option.bind_eq_some_iff.1 h
      obtain ⟨more, rfl⟩ := ih h
      exact ⟨label :: more, by rw [List.append_assoc]; rfl⟩
    · obtain ⟨⟨label, c₁⟩, -, h⟩ := Option.bind_eq_some_iff.1 h
      obtain ⟨c₂, -, h⟩ := Option.bind_eq_some_iff.1 h
      obtain ⟨more, rfl⟩ := ih h
      exact ⟨label :: more, by rw [List.append_assoc]; rfl⟩

theorem verbatim_of_labels {ls : List String} {n : Nat} {read : List String} {rest : List Char}
    {byte : Nat} {d : Cursor} (hrest : '"' ∉ rest)
    (h : Cursor.labels n read ⟨labelsText ls ++ '{' :: rest, byte⟩ = some (read ++ ls, d)) :
    ∀ label ∈ ls, Verbatim label.toList := by
  induction ls generalizing n read byte with
  | nil => simp
  | cons label ls ih =>
    cases n with
    | zero => cases h
    | succ n =>
      have htext : labelsText (label :: ls) ++ '{' :: rest =
          labelText label ++ ' ' :: (labelsText ls ++ '{' :: rest) := by simp [labelsText]
      obtain ⟨e, r, hr, he, htail⟩ : ∃ e r, labelsText ls ++ '{' :: rest = e :: r ∧
          endsBlanks e = true ∧ FollowsLabel (e :: r) := by
        cases ls with
        | nil => exact ⟨'{', rest, rfl, by decide, .inr (by simp [hrest])⟩
        | cons l ls => exact ⟨'"', _, rfl, by decide, .inl rfl⟩
      rw [htext, hr] at h
      have hfirst : Verbatim label.toList := by
        have hopen : labelText label ++ ' ' :: e :: r =
            '"' :: (label.toList ++ ['"'] ++ ' ' :: e :: r) := rfl
        have hread := h
        unfold Cursor.labels at hread
        simp only [hopen] at hread
        obtain ⟨⟨l, c₁⟩, hquoted, hread⟩ := Option.bind_eq_some_iff.1 hread
        obtain ⟨c₂, -, hread⟩ := Option.bind_eq_some_iff.1 hread
        obtain ⟨more, hmore⟩ := exists_of_labels hread
        rw [List.append_assoc, List.append_cancel_left_eq] at hmore
        obtain rfl : label = l := (List.cons.inj hmore).1
        exact verbatim_of_quotedLabel hquoted htail
      rw [labels_label hfirst he, ← hr] at h
      have happend : read ++ label :: ls = read ++ [label] ++ ls := by simp
      rw [happend] at h
      exact List.forall_mem_cons.2 ⟨hfirst, ih h⟩

end Hcl.Cursor

/-! ## Headers -/

theorem Hcl.Inside.formed {body : List Item} (h : ∀ it ∈ body, Formed it) {it : Item}
    (hit : Inside it body) : Formed it := by
  induction hit with
  | here hmem => exact h _ hmem
  | nested hb _ ih =>
    cases h _ hb with
    | block _ _ hbody => exact ih hbody

namespace Layout

theorem length_labels_le (ls : List String) : ls.length ≤ (Cursor.labelsText ls).length := by
  induction ls with
  | nil => exact le_rfl
  | cons label ls ih =>
    simp [Cursor.labelsText, Cursor.labelText] at ih ⊢
    omega

section

variable {kind : String} {ls : List String}

/-- The text of an empty block. -/
def emptyBlock (kind : String) (ls : List String) : List Char :=
  headerText kind ls ++ [' ', '{', '}']

theorem emptyBlock_eq : emptyBlock kind ls =
    kind.toList ++ ' ' :: (Cursor.labelsText ls ++ '{' :: ['}']) :=
  headerText_append kind ls ['{', '}']

theorem exists_start_emptyBlock (hname : Cursor.IsName kind.toList) :
    ∃ c rest, emptyBlock kind ls = c :: rest ∧ Cursor.isNameStart c = true := by
  obtain ⟨c, rest, hkind, hc⟩ := hname.start
  rw [emptyBlock_eq, hkind]
  exact ⟨c, _, rfl, hc⟩

theorem parseBody_emptyBlock (hname : Cursor.IsName kind.toList)
    (hlabels : ∀ label ∈ ls, Verbatim label.toList) : ∃ span,
      parseBody (emptyBlock kind ls) = some [.block ⟨kind, ls, [], span⟩] := by
  have hlength : ls.length ≤ (emptyBlock kind ls).length := by
    have hle := length_labels_le ls
    rw [emptyBlock_eq]
    simp only [List.length_append, List.length_cons]
    omega
  have hbody := blockBody_empty (4 * (emptyBlock kind ls).length + 5)
    (0 + byteLength (kind.toList ++ ' ' :: Cursor.labelsText ls)) []
  have hitem := item_block hname hlabels
    (show ls.length < 4 * (emptyBlock kind ls).length + 6 by omega) hbody
  rw [← emptyBlock_eq] at hitem
  have hnone : ∀ c ∈ ([] : List Char), Cursor.isGap true c = true := by simp
  have hrun := items_last hnone (exists_start_emptyBlock hname) hitem
  have hbound : depthBound (emptyBlock kind ls) = 4 * (emptyBlock kind ls).length + 6 + 2 := rfl
  rw [List.nil_append] at hrun
  rw [parseBody, hbound, Cursor.ofText, hrun]
  exact ⟨_, rfl⟩

/-- The first structure of a text is read where the text starts. -/
theorem item_of_parseBody {text : List Char} {it : Item} {items : List Item}
    (h : parseBody text = some (it :: items))
    (hstart : ∃ c rest, text = c :: rest ∧ Cursor.isNameStart c = true) :
    ∃ d, item (4 * text.length + 7) (.ofText text) = some (it, d) := by
  obtain ⟨c, rest, rfl, hc⟩ := hstart
  have hskip : (Cursor.ofText (c :: rest)).skipLines = some (.ofText (c :: rest)) :=
    Cursor.blanks_stop (endsBlanks_of_isNameStart hc) rest 0
  obtain ⟨⟨all, d⟩, hitems, h⟩ := Option.bind_eq_some_iff.1 h
  obtain rfl := Option.some.inj (Option.ite_none_right_eq_some.1 h).2
  cases items_succ_iff.1 hitems with
  | more hskip' hitem _ _ hmore =>
    obtain rfl := Option.some.inj (hskip.symm.trans hskip')
    obtain ⟨new, hnew, -⟩ := (places _).items hmore
    obtain rfl := (List.cons.inj hnew).1
    exact ⟨_, hitem⟩

theorem verbatim_of_emptyBlock (hname : Cursor.IsName kind.toList) {b : Block}
    (h : parseBody (emptyBlock kind ls) = some [.block b]) (hls : b.labels = ls) :
    ∀ label ∈ ls, Verbatim label.toList := by
  obtain ⟨d, hitem⟩ := item_of_parseBody h (exists_start_emptyBlock hname)
  cases item_succ_iff.1 hitem with
  | @block _ _ _ _ _ labels _ hread hskip _ hlabels =>
    have hends : Cursor.endsName (' ' :: (Cursor.labelsText ls ++ '{' :: ['}'])) = true := rfl
    have hname' := Cursor.name_append hname hends 0
    rw [Cursor.ofText, emptyBlock_eq, hname'] at hread
    obtain rfl := (Prod.mk.inj (Option.some.inj hread)).2
    obtain ⟨e, r, hr, he⟩ : ∃ e r, Cursor.labelsText ls ++ '{' :: ['}'] = e :: r ∧
        Cursor.endsBlanks e = true := by
      cases ls with
      | nil => exact ⟨'{', ['}'], rfl, by decide⟩
      | cons l ls => exact ⟨'"', _, rfl, by decide⟩
    have hgap : ∀ c ∈ [' '], Cursor.isGap false c = true := by simp [Cursor.isGap]
    have hskip' := Cursor.skip_append hgap he r (0 + byteLength kind.toList)
    rw [← hr] at hskip'
    obtain rfl := Option.some.inj (hskip'.symm.trans hskip)
    have hls : labels = ls := hls
    rw [hls, ← List.nil_append ls] at hlabels
    exact Cursor.verbatim_of_labels (by decide) hlabels

end

end Layout

open Layout in
/-- The header of a block that was read reads back as the same block, with an empty body, just when
no label holds a quotation mark, a backslash or a marker before a brace. -/
theorem Hcl.Block.header_reads_iff {text : List Char} {body : Body}
    (hparse : parseBody text = some body) {b : Block} (hb : Inside (.block b) body) :
    (∃ b', parseBody (b.header.toList ++ [' ', '{', '}']) = some [.block b'] ∧
      b'.kind = b.kind ∧ b'.labels = b.labels) ↔ ∀ label ∈ b.labels, Verbatim label.toList := by
  have hname : Cursor.IsName b.kind.toList := by
    cases hb.formed (formed_of_parseBody hparse).formed with
    | block hname _ _ => exact hname
  constructor
  · rintro ⟨b', hread, -, hlabels⟩
    exact verbatim_of_emptyBlock hname hread hlabels
  · intro hlabels
    obtain ⟨span, hread⟩ := parseBody_emptyBlock hname hlabels
    exact ⟨_, hread, rfl, rfl⟩

/-- A block whose label is `x"y`, written with an escape. -/
def escapedLabel : List Char := "a \"x\\\"y\" \x7b\x7d\n".toList

/-- Its header does not read back. -/
theorem Hcl.Block.header_reads_escaped : ∃ body b, parseBody escapedLabel = some body ∧
    Inside (.block b) body ∧ b.labels = ["x\"y"] ∧
    ¬∃ b', parseBody (b.header.toList ++ [' ', '{', '}']) = some [.block b'] ∧
      b'.kind = b.kind ∧ b'.labels = b.labels := by
  have hread : ((parseBody escapedLabel).map fun body => body.blocks.map Block.labels) =
      some [["x\"y"]] := by
    decide +kernel
  obtain ⟨body, hbody, hblocks⟩ := Option.map_eq_some_iff.1 hread
  obtain ⟨b, hb, hlabels⟩ := List.mem_map.1 (hblocks ▸ List.mem_singleton_self ["x\"y"])
  have hinside : Inside (.block b) body := .here (mem_of_mem_blocks hb)
  refine ⟨body, b, hbody, hinside, hlabels, ?_⟩
  rw [Block.header_reads_iff hbody hinside, hlabels]
  intro h
  exact (h "x\"y" (List.mem_singleton_self _)).quote (by decide)

end TerraLint
