import TerraLint.Proofs.Hcl.Body
import TerraLint.Proofs.Hcl.Placement
import TerraLint.Proofs.Hcl.Trivia
import TerraLint.Proofs.Hcl.Window

/-!
# Headers of blocks

The text of a block before its opening brace: its type, and labels that are bare names or stand in
quotes, with blanks and comments between them.

* `QuotedText`: what stands between quotes, and the text that it stands for.
* `HeaderText`: the text of a header.
* `header_of_item`: a block that was read has its header, then its body.
-/

namespace TerraLint.Hcl

open Text Cursor

/-- A text between quotes, and what it stands for. An escape that is not known stands for nothing
and ends the text. -/
inductive QuotedText : List Char → List Char → Prop
  | nil : QuotedText [] []
  | char {c : Char} {text value : List Char} (hquote : c ≠ '"') (hslash : c ≠ '\\')
    (h : QuotedText text value) : QuotedText (c :: text) (c :: value)
  | marker {c : Char} {text value : List Char} (hc : isMarker c = true)
    (h : QuotedText text value) : QuotedText (c :: c :: '{' :: text) (c :: '{' :: value)
  | escape {c d : Char} {text value : List Char} (hc : simpleEscape c = some d)
    (h : QuotedText text value) : QuotedText ('\\' :: c :: text) (d :: value)
  | codePoint {c d : Char} {digits text value : List Char}
    (hc : c = 'u' ∧ digits.length = 4 ∨ c = 'U' ∧ digits.length = 8)
    (hd : hexNumber digits >>= charOfCode = some d) (h : QuotedText text value) :
    QuotedText ('\\' :: c :: (digits ++ text)) (d :: value)
  | unknown {c : Char} (hc : simpleEscape c = none) : QuotedText ['\\', c] []

/-- Labels, each with what follows it, and the comments among them. -/
inductive LabelRow : List String → List (List Char) → List Char → Prop
  | nil : LabelRow [] [] []
  | bare {label : String} {labels : List String} {comments comments' : List (List Char)}
    {gap text : List Char} (hname : IsName label.toList) (hgap : Gap false comments gap)
    (h : LabelRow labels comments' text) :
    LabelRow (label :: labels) (comments ++ comments') (label.toList ++ gap ++ text)
  | quoted {label : String} {labels : List String} {comments comments' : List (List Char)}
    {inner gap text : List Char} (hinner : QuotedText inner label.toList)
    (hgap : Gap false comments gap) (h : LabelRow labels comments' text) :
    LabelRow (label :: labels) (comments ++ comments') ('"' :: (inner ++ '"' :: (gap ++ text)))

/-- The type of a block and its labels, up to the opening brace, and the comments among them. -/
inductive HeaderText (kind : String) (labels : List String) : List (List Char) → List Char → Prop
  | intro {comments comments' : List (List Char)} {gap text : List Char}
    (hname : IsName kind.toList) (hgap : Gap false comments gap) (h : LabelRow labels comments' text) :
    HeaderText kind labels (comments ++ comments') (kind.toList ++ gap ++ text)

theorem ne_sign_of_hexNumber {digits : List Char} {n : Nat} (h : hexNumber digits = some n) :
    ∀ c ∈ digits, c ≠ '"' ∧ c ≠ '\\' := by
  intro c hc
  obtain ⟨k, hk⟩ := hexDigit_of_hexNumber h hc
  constructor
  all_goals
    rintro rfl
    exact absurd hk (by decide +revert)

/-- A header starts with the type of its block. -/
theorem HeaderText.start {kind : String} {labels : List String} {comments : List (List Char)}
    {head : List Char} (h : HeaderText kind labels comments head) :
    ∃ c rest, head = c :: rest ∧ c ≠ '{' := by
  cases h with
  | intro hname _ _ =>
    obtain ⟨c, rest, hkind, hc⟩ := hname.start
    refine ⟨c, _, by rw [hkind]; rfl, ?_⟩
    rintro rfl
    exact absurd hc (by decide)

/-! ## What the readers read -/

/-- What a text before a quote starts with does not depend on what stands behind the quote. -/
theorem exists_append_of_quote {inner w u v : List Char} (hw : '"' ∉ w)
    (h : inner ++ '"' :: u = w ++ v) : ∃ more, inner = w ++ more ∧ v = more ++ '"' :: u := by
  rcases List.append_eq_append_iff.1 h with ⟨gap, rfl, hgap⟩ | ⟨more, rfl, hv⟩
  · cases gap with
    | nil => exact ⟨[], by simp, hgap.symm⟩
    | cons x gap =>
      obtain ⟨rfl, -⟩ := List.cons.inj hgap
      simp at hw
  · exact ⟨more, rfl, hv⟩

theorem prefix_of_quote {inner w u v : List Char} (hw : '"' ∉ w) (h : w <+: inner ++ '"' :: u) :
    w <+: inner ++ '"' :: v := by
  obtain ⟨rest, hrest⟩ := h
  obtain ⟨more, rfl, -⟩ := exists_append_of_quote hw hrest.symm
  exact ⟨more ++ '"' :: v, (List.append_assoc _ _ _).symm⟩

/-- No digits start with a quote. -/
theorem undecoded_quote {mark : Char} {n : Nat} (hmark : MarksDigits mark n) (rest : List Char) :
    Undecoded n ('"' :: rest) := by
  intro digits more hlength heq
  cases digits with
  | nil => rcases hmark with ⟨-, rfl⟩ | ⟨-, rfl⟩ <;> cases hlength
  | cons x digits =>
    obtain rfl : '"' = x := (List.cons.inj heq).1
    rfl

/-- What is taken before a quote belongs to a text between quotes, and it is taken whatever stands
behind the quote. -/
theorem QuotedText.of_takes {w y inner value v : List Char}
    (h : Closer.quote.Takes w y (inner ++ '"' :: v)) (hinner : QuotedText inner value) :
    QuotedText (w ++ inner) (y.reverse ++ value) ∧
      ∀ rest, Closer.quote.Takes w y (inner ++ '"' :: rest) := by
  cases h with
  | doubled hx => exact ⟨.marker hx hinner, fun _ => .doubled hx⟩
  | @char _ x _ hord =>
    refine ⟨.char hord.passes.1 hord.passes.2 hinner, fun rest => .char ⟨?_, ?_, hord.passes⟩⟩
    · exact fun hx hbrace => hord.single hx (prefix_of_quote (by decide) hbrace)
    · have hquote : '"' ∉ [x, '{'] := by simpa using Ne.symm hord.passes.1
      exact fun hx hbrace => hord.double hx (prefix_of_quote hquote hbrace)
  | escape hch => exact ⟨.escape hch hinner, fun _ => .escape hch⟩
  | decoded hmark hch => exact ⟨.codePoint hmark hch hinner, fun _ => .decoded hmark hch⟩

/-- A run up to a quote reads a text between quotes. It reads the same text wherever that starts, and
whatever stands behind the quote. -/
theorem quotedText_of_runs {taken : List Char} {text : String} {c d : Cursor}
    (h : Closer.quote.Runs taken c text d) (hd : d.rest.head? = some '"') : ∃ inner value,
      QuotedText inner value ∧ c.rest = inner ++ d.rest ∧ text.toList = taken.reverse ++ value ∧
      ∀ rest byte, ∃ stop,
        Closer.quote.Runs taken ⟨inner ++ '"' :: rest, byte⟩ text ⟨'"' :: rest, stop⟩ := by
  obtain ⟨v, hv⟩ := List.head?_eq_some_iff.1 hd
  induction h with
  | @stop taken w rest byte hends hfinish =>
    obtain rfl : rest = '"' :: v := hv
    have htext : (String.ofList taken.reverse).toList = taken.reverse ++ [] := by simp
    cases hends with
    | sequence hseq => cases hseq
    | closing => exact ⟨[], [], .nil, rfl, htext, fun rest byte => ⟨_, .here (.closing rfl) hfinish⟩⟩
    | @unknown x _ hx =>
      refine ⟨['\\', x], [], .unknown hx, rfl, htext, fun rest byte => ⟨_, .stop ?_ hfinish⟩⟩
      exact .unknown hx fun n hn => undecoded_quote hn rest
  | @take taken w y rest byte text d htakes hmore ih =>
    obtain ⟨inner, value, hinner, hrest, htext, hrun⟩ := ih hd hv
    obtain rfl : rest = inner ++ '"' :: v := hrest.trans (by rw [hv])
    obtain ⟨hinner', htakes'⟩ := hinner.of_takes htakes
    refine ⟨_, _, hinner', ?_, ?_, fun rest byte => ?_⟩
    · rw [hv, List.append_assoc]
    · rw [htext, List.reverse_append, List.append_assoc]
    · obtain ⟨stop, hstop⟩ := hrun rest (byte + byteLength w)
      rw [List.append_assoc]
      exact ⟨stop, .take (htakes' rest) hstop⟩

/-- A quoted label is a text between quotes, which reads as that label wherever it stands. -/
theorem quotedText_of_quotedLabel {c d : Cursor} {label : String}
    (h : c.quotedLabel = some (label, d)) :
    ∃ inner, QuotedText inner label.toList ∧ c.rest = '"' :: (inner ++ '"' :: d.rest) ∧
      ∀ rest byte, ∃ stop, quotedLabel ⟨'"' :: (inner ++ '"' :: rest), byte⟩ =
        some (label, ⟨rest, stop⟩) := by
  have hquote : ∀ rest byte, expect ['"'] ⟨'"' :: rest, byte⟩ = some ⟨rest, byte + 1⟩ :=
    fun rest byte => expect_append ['"'] rest byte
  cases quotedLabel_iff.1 h with
  | empty hopen hclose =>
    refine ⟨[], .nil, ?_, fun rest byte => ⟨byte + 1 + 1, ?_⟩⟩
    · rw [(expect_eq_some.1 hopen).1, (expect_eq_some.1 hclose).1]
      rfl
    · exact quotedLabel_iff.2 (.empty (hquote _ _) (hquote _ _))
  | run hopen hrun hclose =>
    obtain ⟨inner, value, hinner, hcs, htext, hagain⟩ :=
      quotedText_of_runs (quotedRun_iff.1 hrun) (head_of_expect hclose)
    obtain rfl : label.toList = value := htext
    refine ⟨inner, hinner, ?_, fun rest byte => ?_⟩
    · rw [(expect_eq_some.1 hopen).1, hcs, (expect_eq_some.1 hclose).1]
      rfl
    · obtain ⟨stop, hstop⟩ := hagain rest (byte + 1)
      exact ⟨stop + 1, quotedLabel_iff.2 (.run (hquote _ _) (quotedRun_iff.2 hstop) (hquote _ _))⟩

theorem labelRow_of_labels {n : Nat} {read ls : List String} {c d : Cursor}
    (h : c.labels n read = some (ls, d)) : ∃ labels comments text, ls = read ++ labels ∧
      LabelRow labels comments text ∧ c.rest = text ++ d.rest := by
  induction n generalizing read c with
  | zero => cases h
  | succ n ih =>
    cases labels_succ_iff.1 h with
    | stop => exact ⟨[], [], [], (List.append_nil _).symm, .nil, rfl⟩
    | more hlabel hskip hmore =>
      obtain ⟨labels, comments, text, rfl, hrow, hrest⟩ := ih hmore
      obtain ⟨comments', gap, hgap, hgaprest⟩ := gap_of_skip hskip
      rcases hlabel with hlabel | hlabel
      · obtain ⟨inner, hinner, hquoted, -⟩ := quotedText_of_quotedLabel hlabel
        refine ⟨_ :: labels, _, _, by simp, .quoted hinner hgap hrow, ?_⟩
        rw [hquoted, hgaprest, hrest]
        simp
      · obtain ⟨hname, hnamerest, -⟩ := isName_of_name hlabel
        refine ⟨_ :: labels, _, _, by simp, .bare hname hgap hrow, ?_⟩
        rw [hnamerest, hgaprest, hrest]
        simp

theorem brace_of_blockBody {n : Nat} {c d : Cursor} {body : List Item}
    (h : blockBody n c = some (body, d)) : ∃ inner, c.rest = '{' :: inner ++ d.rest := by
  obtain ⟨taken, hsolid, hrest, -⟩ := ((places n).blockBody h).1
  cases n with
  | zero => simp [blockBody] at h
  | succ n =>
    obtain ⟨c₁, hopen⟩ : ∃ c₁, c.expect ['{'] = some c₁ := by
      cases blockBody_succ_iff.1 h with
      | empty hopen | lines hopen | inline hopen => exact ⟨_, hopen⟩
    obtain ⟨first, inner, rfl⟩ := List.exists_cons_of_ne_nil hsolid.ne_nil
    have hbrace := hrest.symm.trans (expect_eq_some.1 hopen).1
    obtain rfl : first = '{' := (List.cons.inj hbrace).1
    exact ⟨inner, hrest⟩

/-- A block that was read has its header, and its body behind that. -/
theorem header_of_item {n : Nat} {c d : Cursor} {b : Block}
    (h : item (n + 1) c = some (.block b, d)) : ∃ comments head inner,
      HeaderText b.kind b.labels comments head ∧ c.rest = head ++ '{' :: inner ++ d.rest ∧
      blockBody n ⟨'{' :: inner ++ d.rest, c.byte + byteLength head⟩ = some (b.body, d) := by
  cases item_succ_iff.1 h with
  | @block c₁ c₂ c₃ _ kind ls body hname hskip _ hlabels hbody =>
    obtain ⟨hkind, hrest, -⟩ := isName_of_name hname
    obtain ⟨comments, gap, hgap, hrest'⟩ := gap_of_skip hskip
    obtain ⟨labels, comments', text, hls, hrow, hrest''⟩ := labelRow_of_labels hlabels
    obtain rfl : ls = labels := hls
    obtain ⟨inner, hinner⟩ := brace_of_blockBody hbody
    have hhead : c.rest = (kind.toList ++ gap ++ text) ++ c₃.rest := by
      rw [hrest, hrest', hrest'', List.append_assoc, List.append_assoc]
    have hreach := ((closes_name hname).reaches.trans (reaches_skip hskip)).trans
      (reaches_labels hlabels)
    refine ⟨_, _, inner, .intro hkind hgap hrow, ?_, ?_⟩
    · simp [hhead, hinner]
    · rw [← hreach.byte_eq hhead, ← hinner]
      exact hbody

end TerraLint.Hcl
