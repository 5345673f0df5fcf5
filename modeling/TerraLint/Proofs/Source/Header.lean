import TerraLint.Proofs.Hcl.Header
import TerraLint.Proofs.Source.Placed

/-!
# Ranges of headers

The range of a header ends at the first brace outside quotes in the text of its block. Labels hide
their braces from it, but a comment may hold a brace or a quotation mark of its own, and then the
range ends where the header does not.

* `quoteState`, `hidesBraces`: quotation marks and braces of a text, read from the left.
* `SourceFile.headerLength_brace`: where the scan stops before the brace that opens a body.
* `HeaderText.shielded`: a header whose comments have no such signs is read to its end.
* `SourceFile.defRange_header`: exactly the headers that the range shows.
-/

namespace TerraLint

open Text Hcl

/-! ## Quotation marks -/

/-- Whether a quoted text goes on and whether its next character is escaped, after one more
character. -/
def quoteStep : Bool × Bool → Char → Bool × Bool
  | (true, true), _ => (true, false)
  | (true, false), c => if c = '\\' then (true, true) else (c != '"', false)
  | (false, _), c => (c == '"', false)

/-- Whether a quoted text goes on and whether its next character is escaped, after a text. -/
def quoteState (state : Bool × Bool) (text : List Char) : Bool × Bool := text.foldl quoteStep state

/-- Every opening brace of a text stands in quotes. -/
def hidesBraces : Bool × Bool → List Char → Bool
  | _, [] => true
  | state, c :: cs => (state.1 || c != '{') && hidesBraces (quoteStep state c) cs

/-- Read from a state, a text ends outside quotes and has its braces in quotes only. -/
structure Shielded (state : Bool × Bool) (text : List Char) : Prop where
  closed : (quoteState state text).1 = false
  hidden : hidesBraces state text = true

theorem quoteState_append (state : Bool × Bool) (a b : List Char) :
    quoteState state (a ++ b) = quoteState (quoteState state a) b := List.foldl_append

theorem hidesBraces_append (state : Bool × Bool) (a b : List Char) :
    hidesBraces state (a ++ b) = (hidesBraces state a && hidesBraces (quoteState state a) b) := by
  induction a generalizing state with
  | nil => rfl
  | cons c cs ih =>
    rw [List.cons_append, hidesBraces, ih, hidesBraces, Bool.and_assoc]
    rfl

/-- A text that leaves the state as it is, with its braces in quotes. -/
structure Keeps (state : Bool × Bool) (text : List Char) : Prop where
  same : quoteState state text = state
  hidden : hidesBraces state text = true

namespace Keeps

variable {state : Bool × Bool} {a b : List Char}

theorem nil (state : Bool × Bool) : Keeps state [] := ⟨rfl, rfl⟩

theorem append (ha : Keeps state a) (hb : Keeps state b) : Keeps state (a ++ b) :=
  ⟨by rw [quoteState_append, ha.same, hb.same],
    by rw [hidesBraces_append, ha.hidden, ha.same, hb.hidden]; rfl⟩

/-- Outside quotes, characters other than quotation marks and braces change nothing. -/
theorem outside {text : List Char} (h : ∀ c ∈ text, c ≠ '"' ∧ c ≠ '{') :
    Keeps (false, false) text := by
  induction text with
  | nil => exact nil _
  | cons c text ih =>
    obtain ⟨⟨hquote, hbrace⟩, htext⟩ := List.forall_mem_cons.1 h
    refine append (a := [c]) ⟨?_, ?_⟩ (ih htext)
    · simp [quoteState, quoteStep, hquote]
    · simp [hidesBraces, hbrace]

/-- In quotes, characters other than quotation marks and backslashes change nothing. -/
theorem inside {text : List Char} (h : ∀ c ∈ text, c ≠ '"' ∧ c ≠ '\\') :
    Keeps (true, false) text := by
  induction text with
  | nil => exact nil _
  | cons c text ih =>
    obtain ⟨⟨hquote, hslash⟩, htext⟩ := List.forall_mem_cons.1 h
    refine append (a := [c]) ⟨?_, ?_⟩ (ih htext)
    · simp [quoteState, quoteStep, hquote, hslash]
    · simp [hidesBraces]

/-- In quotes, a backslash and the character behind it change nothing. -/
theorem escape (c : Char) : Keeps (true, false) ['\\', c] :=
  ⟨by simp [quoteState, quoteStep], by simp [hidesBraces, quoteStep]⟩

/-- A text in quotes opens and closes them. -/
theorem quotes {text : List Char} (h : Keeps (true, false) text) :
    Keeps (false, false) ('"' :: (text ++ ['"'])) := by
  have hopen : quoteStep (false, false) '"' = (true, false) := rfl
  constructor
  · rw [quoteState, List.foldl_cons, hopen, ← quoteState, quoteState_append, h.same]
    rfl
  · rw [hidesBraces, hopen, hidesBraces_append, h.hidden, h.same]
    rfl

end Keeps

/-! ## Headers keep their braces in quotes -/

section

variable {comments : List (List Char)}

theorem keeps_gap {multiline : Bool} {text : List Char} (h : Gap multiline comments text)
    (hcomments : ∀ comment ∈ comments, '"' ∉ comment ∧ '{' ∉ comment) :
    Keeps (false, false) text := by
  induction h with
  | nil => exact .nil _
  | @blank c _ _ hc _ ih =>
    have hblank := isBlank_of_isSpacing hc
    refine .append (a := [c]) (.outside fun d hd => ?_) (ih hcomments)
    obtain rfl := List.mem_singleton.1 hd
    constructor
    all_goals
      rintro rfl
      exact absurd hblank (by decide)
  | comment _ _ ih =>
    obtain ⟨⟨hquote, hbrace⟩, hcomments⟩ := List.forall_mem_cons.1 hcomments
    exact .append (.outside fun c hc => ⟨fun h => hquote (h ▸ hc), fun h => hbrace (h ▸ hc)⟩)
      (ih hcomments)

theorem keeps_name {cs : List Char} (h : Cursor.IsName cs) : Keeps (false, false) cs := by
  refine .outside fun c hc => ?_
  have hrest := h.rest c hc
  constructor
  all_goals
    rintro rfl
    exact absurd hrest (by decide)

theorem keeps_quotedText {text value : List Char} (h : QuotedText text value) :
    Keeps (true, false) text := by
  induction h with
  | nil => exact .nil _
  | @char c _ _ hquote hslash _ ih =>
    exact .append (a := [c]) (.inside (by simp [hquote, hslash])) ih
  | @marker c _ _ hc _ ih =>
    have hsigns : c ≠ '"' ∧ c ≠ '\\' := by
      constructor
      all_goals
        rintro rfl
        exact absurd hc (by decide)
    exact .append (a := [c, c, '{']) (.inside (by simp [hsigns])) ih
  | @escape c _ _ _ _ _ ih => exact .append (.escape c) ih
  | @codePoint c _ digits _ _ _ hd _ ih =>
    obtain ⟨n, hn, -⟩ := Option.bind_eq_some_iff.1 hd
    exact .append (.escape c) (.append (.inside (ne_sign_of_hexNumber hn)) ih)
  | @unknown c _ => exact .escape c

theorem keeps_labelRow {labels : List String} {text : List Char} (h : LabelRow labels comments text)
    (hcomments : ∀ comment ∈ comments, '"' ∉ comment ∧ '{' ∉ comment) :
    Keeps (false, false) text := by
  induction h with
  | nil => exact .nil _
  | bare hname hgap _ ih =>
    obtain ⟨hfirst, hrest⟩ := List.forall_mem_append.1 hcomments
    exact ((keeps_name hname).append (keeps_gap hgap hfirst)).append (ih hrest)
  | quoted hinner hgap _ ih =>
    obtain ⟨hfirst, hrest⟩ := List.forall_mem_append.1 hcomments
    have hquotes := (keeps_quotedText hinner).quotes
    have hrow := hquotes.append ((keeps_gap hgap hfirst).append (ih hrest))
    simpa using hrow

end

/-- A header without quotation marks and braces in its comments is shielded. -/
theorem Hcl.HeaderText.shielded {kind : String} {labels : List String} {comments : List (List Char)}
    {head : List Char} (h : HeaderText kind labels comments head)
    (hcomments : ∀ comment ∈ comments, '"' ∉ comment ∧ '{' ∉ comment) :
    Shielded (false, false) head := by
  cases h with
  | intro hname hgap hrow =>
    obtain ⟨hfirst, hrest⟩ := List.forall_mem_append.1 hcomments
    have hkeeps := ((keeps_name hname).append (keeps_gap hgap hfirst)).append
      (keeps_labelRow hrow hrest)
    exact ⟨by rw [hkeeps.same], hkeeps.hidden⟩

/-! ## The scan for the opening brace -/

namespace SourceFile

theorem headerLength_cons (state : Bool × Bool) (c : Char) (cs : List Char) :
    headerLength state.1 state.2 (c :: cs) =
      if state.1 = false ∧ c = '{' then 0
      else c.utf8Size + headerLength (quoteStep state c).1 (quoteStep state c).2 cs := by
  obtain ⟨quoted, escaped⟩ := state
  cases quoted with
  | false => by_cases hc : c = '{' <;> simp [headerLength, quoteStep, hc]
  | true =>
    cases escaped with
    | true => simp [headerLength, quoteStep]
    | false => by_cases hc : c = '\\' <;> simp [headerLength, quoteStep, hc]

/-- The scan reads a part from the start of a text. -/
theorem headerLength_spec (state : Bool × Bool) (cs : List Char) :
    ∃ header more, cs = header ++ more ∧ headerLength state.1 state.2 cs = byteLength header := by
  induction cs generalizing state with
  | nil => exact ⟨[], [], rfl, rfl⟩
  | cons c cs ih =>
    rw [headerLength_cons]
    split
    · exact ⟨[], c :: cs, rfl, rfl⟩
    · obtain ⟨header, more, rfl, hlength⟩ := ih (quoteStep state c)
      exact ⟨c :: header, more, rfl, by rw [hlength, byteLength_cons]⟩

/-- The scan passes a first character that is no brace. -/
theorem ne_nil_of_headerLength {c : Char} (hc : c ≠ '{') {cs header : List Char}
    (h : headerLength false false (c :: cs) = byteLength header) : header ≠ [] := by
  rintro rfl
  have hsize := Char.utf8Size_pos c
  rw [headerLength_cons (false, false), if_neg fun h => hc h.2, byteLength_nil] at h
  omega

/-- Before the brace behind a text the scan stops just when the text is shielded; else it stops at
an earlier brace or goes on behind this one. -/
theorem headerLength_brace (state : Bool × Bool) (head inner : List Char) :
    ∃ header more, head ++ '{' :: inner = header ++ more ∧
      headerLength state.1 state.2 (head ++ '{' :: inner) = byteLength header ∧
      (Shielded state head ∧ header = head ∨ ¬Shielded state head ∧
        ((∃ after, head = header ++ '{' :: after) ∨ ∃ after, header = head ++ '{' :: after)) := by
  induction head generalizing state with
  | nil =>
    rw [List.nil_append, headerLength_cons]
    split
    · rename_i hstop
      exact ⟨[], '{' :: inner, rfl, rfl, .inl ⟨⟨hstop.1, rfl⟩, rfl⟩⟩
    · rename_i hgo
      obtain ⟨header, more, rfl, hlength⟩ := headerLength_spec (quoteStep state '{') inner
      refine ⟨'{' :: header, more, rfl, by rw [hlength, byteLength_cons], .inr ⟨fun h => ?_, ?_⟩⟩
      · exact hgo ⟨h.closed, rfl⟩
      · exact .inr ⟨header, rfl⟩
  | cons c head ih =>
    rw [List.cons_append, headerLength_cons]
    split
    · rename_i hstop
      obtain ⟨hstate, rfl⟩ := hstop
      refine ⟨[], _, rfl, rfl, .inr ⟨fun h => ?_, .inl ⟨head, rfl⟩⟩⟩
      have hhidden := h.hidden
      simp [hidesBraces, hstate] at hhidden
    · rename_i hgo
      obtain ⟨header, more, htext, hlength, hcases⟩ := ih (quoteStep state c)
      have hshielded : Shielded state (c :: head) ↔ Shielded (quoteStep state c) head := by
        have hstep : (state.1 || c != '{') = true := by
          cases hstate : state.1 with
          | true => rfl
          | false => simpa [hstate] using hgo
        have hhidden : hidesBraces state (c :: head) = hidesBraces (quoteStep state c) head := by
          rw [hidesBraces, hstep, Bool.true_and]
        exact ⟨fun h => ⟨h.closed, hhidden ▸ h.hidden⟩, fun h => ⟨h.closed, hhidden.trans h.hidden⟩⟩
      refine ⟨c :: header, more, by rw [htext]; rfl, by rw [hlength, byteLength_cons], ?_⟩
      rw [hshielded]
      refine hcases.imp (fun ⟨h, heq⟩ => ⟨h, by rw [heq]⟩) fun ⟨h, hcases⟩ => ⟨h, ?_⟩
      exact hcases.imp (fun ⟨after, heq⟩ => ⟨after, by rw [heq]; rfl⟩)
        fun ⟨after, heq⟩ => ⟨after, by rw [heq]; rfl⟩

/-! ## The range of a header -/

variable {name : String} {text mid : List Char} {c d : Cursor} {b : Block}

theorem slice_of_shows {range : SourceRange} (h : (parse name text).Shows range mid) :
    (parse name text).slice range = mid := by
  obtain ⟨-, before, after, htext, rfl⟩ := h
  obtain rfl : text = before ++ mid ++ after := htext
  exact slice_part name before mid after

theorem defRange_reads (hc : Reaches (.ofText text) c) (h : Reads c d mid)
    (hspan : b.span = ⟨c.byte, d.byte⟩) : (parse name text).defRange b =
      (parse name text).range c.byte (c.byte + headerLength false false mid) := by
  have hslice : sliceBytes c.byte d.byte text = some mid := by
    obtain ⟨before, htext, hbefore⟩ := exists_of_reaches hc
    refine sliceBytes_eq_some_iff.2 ⟨before, d.rest, ?_, hbefore.symm, ?_⟩
    · rw [htext, h.rest, List.append_assoc]
    · rw [h.byte, hbefore]
  unfold defRange
  rw [hspan]
  dsimp only [parse]
  rw [hslice]
  rfl

/-- A part that the scan reads from the start of a block's text starts with the same token. -/
theorem reads_part {header more : List Char} (h : Reads c d (header ++ more)) (hne : header ≠ []) :
    Reads c ⟨more ++ d.rest, c.byte + byteLength header⟩ header := by
  obtain ⟨first, rest, rfl⟩ := List.exists_cons_of_ne_nil hne
  obtain ⟨ch, others, hothers, hblank⟩ := h.token
  obtain ⟨rfl, -⟩ := List.cons.inj hothers
  exact ⟨by rw [h.rest, List.append_assoc], rfl, first, rest, rfl, hblank⟩

theorem slice_defRange (hc : Reaches (.ofText text) c) {header more : List Char}
    (h : Reads c d (header ++ more)) (hspan : b.span = ⟨c.byte, d.byte⟩) (hne : header ≠ [])
    (hlength : headerLength false false (header ++ more) = byteLength header) :
    (parse name text).slice ((parse name text).defRange b) = trimEnd header := by
  have hshows := @shows_reads name text c _ hc header (reads_part h hne)
  dsimp only at hshows
  rw [defRange_reads hc h hspan, hlength, slice_of_shows hshows]

/-- The text of a block is its header and its body, with the brace that opens the body. -/
structure Opens (file : SourceFile) (b : Block) (comments : List (List Char))
    (head inner : List Char) : Prop where
  header : HeaderText b.kind b.labels comments head
  text : file.textOf b.span = head ++ '{' :: inner
  body : ∃ n after, blockBody n ⟨'{' :: inner ++ after, b.span.start + byteLength head⟩ =
    some (b.body, ⟨after, b.span.stop⟩)

theorem exists_opens {body : Body} (hparse : parseBody text = some body)
    (hb : Inside (.block b) body) (name : String) :
    ∃ comments head inner, Opens (parse name text) b comments head inner := by
  obtain ⟨n, c', d', hreach, -, hitem⟩ := readBehind_of_parseBody hparse hb
  cases n with
  | zero => simp [item] at hitem
  | succ n =>
    obtain ⟨comments, head, inner, hheader, hrest, hbody⟩ := header_of_item hitem
    have hstands := (places _).item hitem
    have hspan : b.span = ⟨c'.byte, d'.byte⟩ := hstands.span
    have htext : (parse name text).textOf b.span = head ++ '{' :: inner := by
      have hstand := (@textOf_stands name _ _ _ hreach _ hstands).2
      exact (List.append_cancel_right (hstand.symm.trans hrest))
    refine ⟨comments, head, inner, hheader, htext, n, d'.rest, ?_⟩
    rw [hspan]
    exact hbody

theorem trimEnd_ne_of_brace (a b : List Char) : trimEnd (a ++ '{' :: b) ≠ trimEnd a := by
  have hbrace : trimEnd ('{' :: b) ≠ [] := by
    rw [Ne, trimEnd_eq_nil_iff]
    simp [allBlank, isBlank]
  intro heq
  have hle := length_trimEnd_le a
  have hpos := List.length_pos_of_ne_nil hbrace
  rw [← heq, trimEnd_append hbrace, List.length_append] at hle
  omega

end SourceFile

/-- Every block of a text has its header before the brace that opens its body, and the range of the
header shows it, without the blanks at its end, just when all its braces stand in quotes that are
closed again. That is so whenever no comment of the header has a quotation mark or a brace. -/
theorem SourceFile.defRange_header {text : List Char} {body : Body}
    (hparse : parseBody text = some body) {b : Block} (hb : Inside (.block b) body)
    (name : String) :
    (∃ comments head inner, Opens (parse name text) b comments head inner) ∧
    ∀ comments head inner, Opens (parse name text) b comments head inner →
      ((parse name text).slice ((parse name text).defRange b) = trimEnd head ↔
        Shielded (false, false) head) ∧
      ((∀ comment ∈ comments, '"' ∉ comment ∧ '{' ∉ comment) →
        (parse name text).slice ((parse name text).defRange b) = trimEnd head) := by
  refine ⟨exists_opens hparse hb name, fun comments head inner hopens => ?_⟩
  obtain ⟨d, hstack⟩ := stack_of_parseBody hparse
  obtain ⟨c', d', hreach, hstands⟩ := hstack.exists_of_inside hb
  obtain ⟨mid, hmid⟩ := hstands.reads
  have hspan : b.span = ⟨c'.byte, d'.byte⟩ := hstands.span
  obtain rfl : mid = head ++ '{' :: inner := by
    have hstand := (@textOf_stands name _ _ _ hreach _ hstands).2
    have hopen : (parse name text).textOf (Item.block b).span = _ := hopens.text
    rw [hopen] at hstand
    exact List.append_cancel_right (hmid.rest.symm.trans hstand)
  obtain ⟨header, more, htext, hlength, hcases⟩ := headerLength_brace (false, false) head inner
  have hne : header ≠ [] := by
    obtain ⟨ch, rest, hhead, hch⟩ := hopens.header.start
    rw [hhead] at hlength
    exact ne_nil_of_headerLength hch hlength
  rw [htext] at hmid hlength
  have hslice : (parse name text).slice ((parse name text).defRange b) = trimEnd header :=
    slice_defRange hreach hmid hspan hne hlength
  have hiff : (parse name text).slice ((parse name text).defRange b) = trimEnd head ↔
      Shielded (false, false) head := by
    rw [hslice]
    rcases hcases with ⟨hshielded, rfl⟩ | ⟨hnot, ⟨after, rfl⟩ | ⟨after, rfl⟩⟩
    · exact iff_of_true rfl hshielded
    · exact iff_of_false (trimEnd_ne_of_brace header after).symm hnot
    · exact iff_of_false (trimEnd_ne_of_brace head after) hnot
  exact ⟨hiff, fun hcomments => hiff.2 (hopens.header.shielded hcomments)⟩

/-- A block whose header has a comment with a brace. -/
def braceInComment : List Char := "a /* \x7b */ \"b\" \x7b\x7d\n".toList

/-- The range of its header ends inside the comment. -/
theorem SourceFile.defRange_header_comment : ∃ body b head inner comments,
    parseBody braceInComment = some body ∧ Inside (.block b) body ∧
    Opens (parse "main.tf" braceInComment) b comments head inner ∧
    (parse "main.tf" braceInComment).slice ((parse "main.tf" braceInComment).defRange b) ≠
      trimEnd head := by
  have hread : ((parseBody braceInComment).map fun body => body.blocks.map fun b =>
      (b.kind, b.labels, b.body.length, b.span)) = some [("a", ["b"], 0, ⟨0, 16⟩)] := by
    decide +kernel
  obtain ⟨body, hbody, hblocks⟩ := Option.map_eq_some_iff.1 hread
  obtain ⟨⟨kind, labels, items, span⟩, hb, heq⟩ :=
    List.mem_map.1 (hblocks ▸ List.mem_singleton_self _)
  simp only [Prod.mk.injEq, List.length_eq_zero_iff] at heq
  obtain ⟨rfl, rfl, rfl, rfl⟩ := heq
  have hinside := Inside.here (mem_of_mem_blocks hb)
  obtain ⟨-, hshows⟩ := defRange_header hbody hinside "main.tf"
  have hinner : ¬['*', '/'] <:+: " \x7b ".toList := by decide
  have hcomment : IsComment false "/* \x7b */".toList := .block hinner
  have hspace : Gap false [] [' '] := .blank rfl .nil
  have hgap : Gap false ["/* \x7b */".toList] (' ' :: ("/* \x7b */".toList ++ [' '])) :=
    .blank rfl (.comment hcomment hspace)
  have hname : Cursor.IsName "a".toList :=
    ⟨⟨'a', [], rfl, by decide⟩, List.forall_mem_singleton.2 (by decide)⟩
  have hlabel : QuotedText "b".toList "b".toList := .char (by decide) (by decide) .nil
  have hheader : HeaderText "a" ["b"] ["/* \x7b */".toList] "a /* \x7b */ \"b\" ".toList :=
    .intro hname hgap (.quoted hlabel hspace .nil)
  have hopens : Opens (parse "main.tf" braceInComment) ⟨"a", ["b"], [], ⟨0, 16⟩⟩
      ["/* \x7b */".toList] "a /* \x7b */ \"b\" ".toList ['\x7d'] :=
    ⟨hheader, by decide +kernel, 1, ['\n'], rfl⟩
  refine ⟨body, _, _, _, _, hbody, hinside, hopens, fun heq => ?_⟩
  have hshielded := (hshows _ _ _ hopens).1.1 heq
  exact absurd hshielded.hidden (by decide)

end TerraLint
