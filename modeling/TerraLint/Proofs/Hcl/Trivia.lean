import TerraLint.Proofs.Hcl.Cursor

/-!
# What stands between two tokens

The texts that are skipped between two tokens: blanks and comments in any order. A block comment
ends at the first mark that closes one, a line comment before the end of its line.

* `Trivia`: the three readers of blanks and comments, by where they stand.
* `Trivia.Takes`, `Trivia.Ends`, `Trivia.step`: what one call of a reader does.
* `Trivia.Skips`, `Trivia.skip_iff`: what is skipped, call by call.
* `LineBreak`, `Cursor.lineBreak_iff`: what ends a line.
* `IsComment`: the text of a comment.
* `Gap`: blanks and comments, with the list of the comments.
* `Cursor.gap_of_skip`, `Cursor.gap_of_endOfLine`: what is skipped is a gap.
* `Gap.exists_comment`: what is no blank in a gap stands in a comment.
-/

namespace TerraLint.Hcl

open Text

/-- A blank between two tokens; line ends only when `multiline`. -/
def isSpacing (multiline : Bool) (c : Char) : Bool :=
  c == ' ' || c == '\t' || multiline && (c == '\r' || c == '\n')

/-! ## The readers, call by call -/

/-- Where a reader of blanks and comments stands: between them, or in a comment. -/
inductive Trivia where
  | between (multiline : Bool)
  | block (multiline : Bool)
  | line

namespace Trivia

/-- The reader that goes on there. -/
def skip : Trivia → Nat → List Char → Option Cursor
  | between m => Cursor.blanks m
  | block m => Cursor.toCommentEnd m
  | line => Cursor.toLineEnd

/-- What a reader takes off a text before what is left, and where it goes on then. -/
inductive Takes : Trivia → List Char → List Char → Trivia → Prop
  | blank {m : Bool} {c : Char} {rest : List Char} (hc : isSpacing m c = true) :
    Takes (between m) [c] rest (between m)
  | openLine {mark rest : List Char} (hmark : mark = ['#'] ∨ mark = ['/', '/']) :
    Takes (between true) mark rest line
  | openBlock {m : Bool} {rest : List Char} : Takes (between m) ['/', '*'] rest (block m)
  | inBlock {m : Bool} {c : Char} {rest : List Char} (h : ¬(c = '*' ∧ rest.head? = some '/')) :
    Takes (block m) [c] rest (block m)
  | closeBlock {m : Bool} {rest : List Char} : Takes (block m) ['*', '/'] rest (between m)
  | inLine {c : Char} {rest : List Char} (h : c ≠ '\n' ∧ c ≠ '\r') : Takes line [c] rest line
  | closeLine {mark rest : List Char} (hmark : mark = ['\n'] ∨ mark = ['\r', '\n']) :
    Takes line mark rest (between true)

/-- Where a reader ends: before what it does not take, or with the text in a line comment. A block
comment has to be closed. -/
inductive Ends : Trivia → List Char → Prop
  | between {m : Bool} {cs : List Char}
    (h : ∀ w rest s, cs = w ++ rest → ¬Takes (between m) w rest s) : Ends (between m) cs
  | line : Ends line []

variable {s s' : Trivia} {w cs rest : List Char}

theorem Takes.ne_nil (h : Takes s w rest s') : w ≠ [] := by
  cases h with
  | openLine hmark | closeLine hmark => rcases hmark with rfl | rfl <;> exact List.cons_ne_nil _ _
  | _ => exact List.cons_ne_nil _ _

theorem Ends.nil {m : Bool} : Ends (.between m) [] :=
  .between fun _ _ _ hcs htakes => htakes.ne_nil (List.append_eq_nil_iff.1 hcs.symm).1

theorem skip_of_takes (h : Takes s w rest s') (byte : Nat) :
    s.skip byte (w ++ rest) = s'.skip (byte + byteLength w) rest := by
  cases h with
  | @blank m c _ hc =>
    simp only [isSpacing, Bool.or_eq_true, Bool.and_eq_true, beq_iff_eq] at hc
    rcases hc with (rfl | rfl) | ⟨rfl, rfl | rfl⟩
    all_goals
      rw [skip, List.singleton_append, Cursor.blanks]
      rfl
  | openLine hmark =>
    rcases hmark with rfl | rfl
    · rw [skip, List.singleton_append, Cursor.blanks, if_pos rfl]
      rfl
    · rw [skip, List.cons_append, List.singleton_append, Cursor.blanks, if_pos rfl]
      rfl
  | openBlock =>
    rw [skip, List.cons_append, List.singleton_append, Cursor.blanks]
    rfl
  | inBlock hne =>
    rw [skip, List.singleton_append, Cursor.toCommentEnd]
    · rfl
    · rintro more rfl rfl
      exact hne ⟨rfl, rfl⟩
  | closeBlock =>
    change Cursor.toCommentEnd _ byte ('*' :: '/' :: rest) = _
    rw [Cursor.toCommentEnd]
    rfl
  | inLine hc =>
    rw [skip, List.singleton_append, Cursor.toLineEnd, if_neg hc.2]
    · rfl
    · exact hc.1
    · exact fun _ hreturn _ => hc.2 hreturn
  | closeLine hmark =>
    rcases hmark with rfl | rfl
    · change Cursor.toLineEnd byte ('\n' :: rest) = _
      rw [Cursor.toLineEnd]
      rfl
    · change Cursor.toLineEnd byte ('\r' :: '\n' :: rest) = _
      rw [Cursor.toLineEnd]
      rfl

theorem skip_of_ends (h : Ends s cs) (byte : Nat) : s.skip byte cs = some ⟨cs, byte⟩ := by
  cases h with
  | between h =>
    rw [skip]
    unfold Cursor.blanks
    split
    · exact absurd (.blank rfl) (h [' '] _ _ rfl)
    · exact absurd (.blank rfl) (h ['\t'] _ _ rfl)
    · split
      · rename_i hm
        exact absurd (.blank (by rw [hm]; rfl)) (h ['\r'] _ _ rfl)
      · rfl
    · split
      · rename_i hm
        exact absurd (.blank (by rw [hm]; rfl)) (h ['\n'] _ _ rfl)
      · rfl
    · split
      · rename_i hm
        subst hm
        exact absurd (.openLine (.inl rfl)) (h ['#'] _ _ rfl)
      · rfl
    · split
      · rename_i hm
        subst hm
        exact absurd (.openLine (.inr rfl)) (h ['/', '/'] _ _ rfl)
      · rfl
    · exact absurd .openBlock (h ['/', '*'] _ _ rfl)
    · rfl
  | line => rw [skip, Cursor.toLineEnd]

/-- A reader ends, or takes something, or refuses the text wherever it stands. -/
theorem step (s : Trivia) (cs : List Char) : Ends s cs ∨
    (∃ w rest s', cs = w ++ rest ∧ Takes s w rest s') ∨ ∀ byte, s.skip byte cs = none := by
  cases s with
  | between m =>
    by_cases h : ∃ w rest s', cs = w ++ rest ∧ Takes (between m) w rest s'
    · exact .inr (.inl h)
    · exact .inl (.between fun w rest s' hcs htakes => h ⟨w, rest, s', hcs, htakes⟩)
  | block m =>
    cases cs with
    | nil => exact .inr (.inr fun byte => by rw [skip, Cursor.toCommentEnd])
    | cons c rest =>
      by_cases h : c = '*' ∧ rest.head? = some '/'
      · obtain ⟨rfl, hslash⟩ := h
        obtain ⟨rest, rfl⟩ := List.head?_eq_some_iff.1 hslash
        exact .inr (.inl ⟨['*', '/'], rest, _, rfl, .closeBlock⟩)
      · exact .inr (.inl ⟨[c], rest, _, rfl, .inBlock h⟩)
  | line =>
    cases cs with
    | nil => exact .inl .line
    | cons c rest =>
      by_cases hfeed : c = '\n'
      · exact .inr (.inl ⟨[c], rest, _, rfl, .closeLine (.inl (by rw [hfeed]))⟩)
      by_cases hreturn : c = '\r'
      · subst hreturn
        by_cases h : rest.head? = some '\n'
        · obtain ⟨rest, rfl⟩ := List.head?_eq_some_iff.1 h
          exact .inr (.inl ⟨['\r', '\n'], rest, _, rfl, .closeLine (.inr rfl)⟩)
        · refine .inr (.inr fun byte => ?_)
          rw [skip, Cursor.toLineEnd, if_pos rfl]
          · exact hfeed
          · rintro more - rfl
            exact h rfl
      · exact .inr (.inl ⟨[c], rest, _, rfl, .inLine ⟨hfeed, hreturn⟩⟩)

/-- What holds where a reader ends, where it refuses the text, and with what it takes, holds of every
text. -/
theorem induction {P : Trivia → List Char → Prop} (ends : ∀ {s cs}, Ends s cs → P s cs)
    (takes : ∀ {s w rest s'}, Takes s w rest s' → P s' rest → P s (w ++ rest))
    (refuses : ∀ {s cs}, (∀ byte, s.skip byte cs = none) → P s cs) (s : Trivia) (cs : List Char) :
    P s cs := by
  induction hlength : cs.length using Nat.strong_induction_on generalizing s cs with
  | _ n ih =>
    rcases step s cs with h | ⟨w, rest, s', rfl, h⟩ | h
    · exact ends h
    · have hpos := List.length_pos_iff.2 h.ne_nil
      rw [List.length_append] at hlength
      exact takes h (ih rest.length (by omega) s' rest rfl)
    · exact refuses h

/-- The text between two cursors is skipped. -/
inductive Skips : Trivia → Cursor → Cursor → Prop
  | stop {s : Trivia} {c : Cursor} (h : Ends s c.rest) : Skips s c c
  | take {s s' : Trivia} {w rest : List Char} {byte : Nat} {d : Cursor} (h : Takes s w rest s')
    (hmore : Skips s' ⟨rest, byte + byteLength w⟩ d) : Skips s ⟨w ++ rest, byte⟩ d

theorem skips_of_skip {byte : Nat} {d : Cursor} (h : s.skip byte cs = some d) :
    Skips s ⟨cs, byte⟩ d := by
  induction s, cs using Trivia.induction generalizing byte with
  | ends hends =>
    rw [skip_of_ends hends] at h
    obtain rfl := Option.some.inj h
    exact .stop hends
  | takes htakes ih =>
    rw [skip_of_takes htakes] at h
    exact .take htakes (ih h)
  | refuses hnone =>
    rw [hnone] at h
    cases h

theorem Skips.skip {c d : Cursor} (h : Skips s c d) : s.skip c.byte c.rest = some d := by
  induction h with
  | stop h => exact skip_of_ends h _
  | take h _ ih => exact (skip_of_takes h _).trans ih

/-- Between comments it has to end, even if it ends with a line comment. -/
theorem Skips.ends {c d : Cursor} (h : Skips s c d) : ∃ m, Ends (.between m) d.rest := by
  induction h with
  | @stop s c hends =>
    obtain ⟨cs, byte⟩ := c
    cases hends with
    | between h => exact ⟨_, .between h⟩
    | line => exact ⟨true, .nil⟩
  | take _ _ ih => exact ih

theorem skip_iff {c d : Cursor} : s.skip c.byte c.rest = some d ↔ Skips s c d :=
  ⟨skips_of_skip, Skips.skip⟩

end Trivia

theorem Cursor.skip_iff {m : Bool} {c d : Cursor} :
    c.skip m = some d ↔ Trivia.Skips (.between m) c d := Trivia.skip_iff (s := .between m)

/-! ## Line ends -/

/-- The rest of a line comment before what is left, with the end of its line or of the text. -/
inductive CommentRest : List Char → List Char → Prop
  | feed {mark rest : List Char} (hmark : mark = ['\n'] ∨ mark = ['\r', '\n']) :
    CommentRest mark rest
  | done : CommentRest [] []
  | char {c : Char} {w rest : List Char} (hc : c ≠ '\n' ∧ c ≠ '\r') (h : CommentRest w rest) :
    CommentRest (c :: w) rest

/-- What ends a line before what is left: a line end, or a line comment up to its own. -/
inductive LineBreak : List Char → List Char → Prop
  | feed {mark rest : List Char} (hmark : mark = ['\n'] ∨ mark = ['\r', '\n']) : LineBreak mark rest
  | comment {mark w rest : List Char} (hmark : mark = ['#'] ∨ mark = ['/', '/'])
    (h : CommentRest w rest) : LineBreak (mark ++ w) rest

namespace Cursor

variable {w rest cs : List Char} {byte : Nat} {c d : Cursor}

theorem dropComment_of_rest (h : CommentRest w rest) (byte : Nat) :
    dropComment byte (w ++ rest) = some ⟨rest, byte + byteLength w⟩ := by
  induction h generalizing byte with
  | feed hmark =>
    rcases hmark with rfl | rfl
    all_goals rfl
  | done => rfl
  | char hc _ ih =>
    rw [List.cons_append, dropComment, if_neg hc.2, ih, byteLength_cons, Nat.add_assoc]
    · exact hc.1
    · exact fun _ hreturn _ => hc.2 hreturn

theorem exists_commentRest (h : dropComment byte cs = some d) :
    ∃ w, CommentRest w d.rest ∧ cs = w ++ d.rest ∧ d.byte = byte + byteLength w := by
  fun_induction dropComment byte cs with
  | case1 byte cs =>
    obtain rfl := Option.some.inj h
    exact ⟨['\n'], .feed (.inl rfl), rfl, rfl⟩
  | case2 byte cs =>
    obtain rfl := Option.some.inj h
    exact ⟨['\r', '\n'], .feed (.inr rfl), rfl, rfl⟩
  | case3 => cases h
  | case4 byte c cs hfeed _ hreturn ih =>
    obtain ⟨w, hw, rfl, hbyte⟩ := ih h
    refine ⟨c :: w, .char ⟨hfeed, hreturn⟩ hw, rfl, ?_⟩
    rw [hbyte, byteLength_cons, Nat.add_assoc]
  | case5 byte =>
    obtain rfl := Option.some.inj h
    exact ⟨[], .done, rfl, rfl⟩

theorem lineBreak_of_text (h : LineBreak w rest) (byte : Nat) :
    lineBreak ⟨w ++ rest, byte⟩ = some ⟨rest, byte + byteLength w⟩ := by
  cases h with
  | feed hmark =>
    rcases hmark with rfl | rfl
    all_goals rfl
  | @comment mark w _ hmark h =>
    have hrest := fun n => dropComment_of_rest h (byte + n)
    rw [byteLength_append, ← Nat.add_assoc, ← hrest, List.append_assoc]
    rcases hmark with rfl | rfl
    all_goals rfl

/-- A line break is the text that it is. Whatever is read there follows from that text alone. -/
theorem lineBreak_iff : c.lineBreak = some d ↔
    ∃ w, LineBreak w d.rest ∧ c.rest = w ++ d.rest ∧ d.byte = c.byte + byteLength w := by
  obtain ⟨cs, byte⟩ := c
  obtain ⟨ds, byte'⟩ := d
  constructor
  · intro h
    have hcomment : ∀ {mark cs : List Char}, mark = ['#'] ∨ mark = ['/', '/'] →
        dropComment (byte + byteLength mark) cs = some ⟨ds, byte'⟩ → ∃ w, LineBreak w ds ∧
          mark ++ cs = w ++ ds ∧ byte' = byte + byteLength w := by
      intro mark cs hmark h
      obtain ⟨w, hw, rfl, rfl⟩ := exists_commentRest h
      refine ⟨mark ++ w, .comment hmark hw, (List.append_assoc _ _ _).symm, ?_⟩
      rw [byteLength_append, Nat.add_assoc]
    unfold lineBreak at h
    dsimp only at h
    split at h
    · obtain ⟨rfl, rfl⟩ := Cursor.mk.inj (Option.some.inj h)
      exact ⟨['\n'], .feed (.inl rfl), rfl, rfl⟩
    · obtain ⟨rfl, rfl⟩ := Cursor.mk.inj (Option.some.inj h)
      exact ⟨['\r', '\n'], .feed (.inr rfl), rfl, rfl⟩
    · exact hcomment (.inl rfl) h
    · exact hcomment (.inr rfl) h
    · cases h
  · rintro ⟨w, hw, rfl, hbyte⟩
    dsimp only at hw hbyte
    subst hbyte
    exact lineBreak_of_text hw byte

end Cursor

/-! ## Comments -/

/-- The text of a comment; line comments only when `multiline`. -/
inductive IsComment (multiline : Bool) : List Char → Prop
  | block {inner : List Char} (h : ¬['*', '/'] <:+: inner) :
    IsComment multiline ('/' :: '*' :: (inner ++ ['*', '/']))
  | line {mark inner : List Char} (hmultiline : multiline = true)
    (hmark : mark = ['#'] ∨ mark = ['/', '/']) (h : ∀ c ∈ inner, c ≠ '\n' ∧ c ≠ '\r') :
    IsComment multiline (mark ++ inner)

/-- Blanks and comments in a row, with the comments in their order. -/
inductive Gap (multiline : Bool) : List (List Char) → List Char → Prop
  | nil : Gap multiline [] []
  | blank {c : Char} {comments : List (List Char)} {text : List Char}
    (hc : isSpacing multiline c = true) (h : Gap multiline comments text) :
    Gap multiline comments (c :: text)
  | comment {comment : List Char} {comments : List (List Char)} {text : List Char}
    (hcomment : IsComment multiline comment) (h : Gap multiline comments text) :
    Gap multiline (comment :: comments) (comment ++ text)

theorem isBlank_of_isSpacing {multiline : Bool} {c : Char} (h : isSpacing multiline c = true) :
    isBlank c = true := by
  simp only [isSpacing, Bool.or_eq_true, Bool.and_eq_true, beq_iff_eq] at h
  rcases h with (rfl | rfl) | ⟨-, rfl | rfl⟩
  all_goals decide

theorem IsComment.spread {multiline : Bool} {comment : List Char}
    (h : IsComment multiline comment) : IsComment true comment := by
  cases h with
  | block h => exact .block h
  | line _ hmark h => exact .line rfl hmark h

namespace Gap

variable {multiline : Bool} {comments : List (List Char)} {text : List Char}

theorem append {comments' : List (List Char)} {text' : List Char} (h : Gap multiline comments text)
    (h' : Gap multiline comments' text') :
    Gap multiline (comments ++ comments') (text ++ text') := by
  induction h with
  | nil => exact h'
  | blank hc _ ih => exact .blank hc ih
  | comment hcomment _ ih =>
    rw [List.append_assoc]
    exact .comment hcomment ih

theorem spread (h : Gap multiline comments text) : Gap true comments text := by
  induction h with
  | nil => exact .nil
  | @blank c _ _ hc _ ih =>
    refine .blank ?_ ih
    simp only [isSpacing, Bool.or_eq_true, Bool.and_eq_true] at hc ⊢
    exact hc.imp_right fun hc => ⟨trivial, hc.2⟩
  | comment hcomment _ ih => exact .comment hcomment.spread ih

/-- A character of a gap that is no blank stands in a comment. -/
theorem exists_comment (h : Gap multiline comments text) {before after : List Char} {c : Char}
    (htext : text = before ++ c :: after) (hc : isBlank c = false) :
    ∃ start comment stop, comment ∈ comments ∧ text = start ++ comment ++ stop ∧
      start <+: before ∧ before ++ [c] <+: start ++ comment := by
  induction h generalizing before with
  | nil => simp at htext
  | @blank d comments rest hd _ ih =>
    cases before with
    | nil =>
      obtain rfl := (List.cons.inj htext).1
      rw [isBlank_of_isSpacing hd] at hc
      cases hc
    | cons e before =>
      obtain ⟨rfl, hrest⟩ := List.cons.inj htext
      obtain ⟨start, comment, stop, hmem, rfl, hstart, hstop⟩ := ih hrest
      exact ⟨d :: start, comment, stop, hmem, rfl, List.cons_prefix_cons.2 ⟨rfl, hstart⟩,
        List.cons_prefix_cons.2 ⟨rfl, hstop⟩⟩
  | @comment comment comments rest _ _ ih =>
    have hplace : (∃ before', before = comment ++ before' ∧ rest = before' ++ c :: after) ∨
        ∃ tail, comment = before ++ c :: tail := by
      rcases List.append_eq_append_iff.1 htext with h | ⟨tail, htail, hrest⟩
      · exact .inl h
      · cases tail with
        | nil => exact .inl ⟨[], by rw [htail, List.append_nil, List.append_nil], hrest.symm⟩
        | cons d tail => exact .inr ⟨tail, by rw [htail, (List.cons.inj hrest).1]⟩
    rcases hplace with ⟨before', rfl, hrest⟩ | ⟨tail, rfl⟩
    · obtain ⟨start, comment', stop, hmem, rfl, hstart, hstop⟩ := ih hrest
      refine ⟨comment ++ start, comment', stop, List.mem_cons_of_mem _ hmem, by simp, ?_, ?_⟩
      · exact (List.prefix_append_right_inj comment).2 hstart
      · rw [List.append_assoc, List.append_assoc]
        exact (List.prefix_append_right_inj comment).2 hstop
    · exact ⟨[], before ++ c :: tail, rest, List.mem_cons_self, rfl, List.nil_prefix, by simp⟩

end Gap

namespace Cursor

/-! ## Blanks and comments are skipped -/

/-- The skipped text, without the offsets. -/
def Skips (multiline : Bool) (cs rest : List Char) : Prop :=
  ∃ comments text, Gap multiline comments text ∧ cs = text ++ rest

/-- What is skipped from inside a block comment: its end first. -/
def SkipsBlock (multiline : Bool) (cs rest : List Char) : Prop :=
  ∃ inner more, ¬['*', '/'] <:+: inner ∧ cs = inner ++ '*' :: '/' :: more ∧
    Skips multiline more rest

/-- What is skipped from inside a line comment: its end first. -/
def SkipsLine (cs rest : List Char) : Prop :=
  ∃ inner more, (∀ c ∈ inner, c ≠ '\n' ∧ c ≠ '\r') ∧ cs = inner ++ more ∧ Skips true more rest

theorem Skips.refl (multiline : Bool) (cs : List Char) : Skips multiline cs cs :=
  ⟨[], [], .nil, rfl⟩

theorem Skips.blank {multiline : Bool} {c : Char} {cs rest : List Char}
    (hc : isSpacing multiline c = true) (h : Skips multiline cs rest) :
    Skips multiline (c :: cs) rest := by
  obtain ⟨comments, text, hgap, rfl⟩ := h
  exact ⟨comments, c :: text, .blank hc hgap, rfl⟩

theorem SkipsBlock.skips {multiline : Bool} {cs rest : List Char}
    (h : SkipsBlock multiline cs rest) : Skips multiline ('/' :: '*' :: cs) rest := by
  obtain ⟨inner, -, hinner, rfl, comments, text, hgap, rfl⟩ := h
  exact ⟨_, _, .comment (.block hinner) hgap, by simp⟩

theorem SkipsLine.skips {cs rest mark : List Char} (h : SkipsLine cs rest)
    (hmark : mark = ['#'] ∨ mark = ['/', '/']) : Skips true (mark ++ cs) rest := by
  obtain ⟨inner, -, hinner, rfl, comments, text, hgap, rfl⟩ := h
  exact ⟨_, _, .comment (.line rfl hmark hinner) hgap, by simp⟩

theorem SkipsBlock.cons {multiline : Bool} {c : Char} {cs rest : List Char}
    (hne : ¬(c = '*' ∧ cs.head? = some '/')) (h : SkipsBlock multiline cs rest) :
    SkipsBlock multiline (c :: cs) rest := by
  obtain ⟨inner, more, hinner, rfl, hmore⟩ := h
  refine ⟨c :: inner, more, fun hclose => ?_, rfl, hmore⟩
  rcases List.infix_cons_iff.1 hclose with ⟨tail, htail⟩ | hclose
  · obtain ⟨hc, hslash⟩ := List.cons.inj htail
    exact hne ⟨hc.symm, by rw [← hslash]; rfl⟩
  · exact hinner hclose

theorem SkipsLine.cons {c : Char} {cs rest : List Char} (hc : c ≠ '\n' ∧ c ≠ '\r')
    (h : SkipsLine cs rest) : SkipsLine (c :: cs) rest := by
  obtain ⟨inner, more, hinner, rfl, hmore⟩ := h
  exact ⟨c :: inner, more, List.forall_mem_cons.2 ⟨hc, hinner⟩, rfl, hmore⟩

theorem SkipsLine.stop {cs rest : List Char} (h : Skips true cs rest) : SkipsLine cs rest :=
  ⟨[], cs, by simp, rfl, h⟩

/-- What a reader of blanks and comments skips, from where it stands. -/
def SkipsFrom : Trivia → List Char → List Char → Prop
  | .between m => Skips m
  | .block m => SkipsBlock m
  | .line => SkipsLine

theorem skipsFrom_of_skips {s : Trivia} {c d : Cursor} (h : s.Skips c d) :
    SkipsFrom s c.rest d.rest := by
  induction h with
  | @stop s c hends =>
    obtain ⟨cs, byte⟩ := c
    cases hends with
    | between => exact .refl _ _
    | line => exact .stop (.refl true _)
  | take htakes _ ih =>
    cases htakes with
    | blank hc => exact .blank hc ih
    | openLine hmark => exact SkipsLine.skips ih hmark
    | openBlock => exact SkipsBlock.skips ih
    | inBlock hne => exact SkipsBlock.cons hne ih
    | closeBlock => exact ⟨[], _, by simp, rfl, ih⟩
    | inLine hc => exact SkipsLine.cons hc ih
    | closeLine hmark =>
      rcases hmark with rfl | rfl
      · exact .stop (.blank (by decide) ih)
      · exact .stop (.blank (by decide) (.blank (by decide) ih))

/-- What is skipped is a gap. -/
theorem gap_of_skip {m : Bool} {c d : Cursor} (h : c.skip m = some d) :
    ∃ comments text, Gap m comments text ∧ c.rest = text ++ d.rest :=
  skipsFrom_of_skips (skip_iff.1 h)

theorem skipsLine_of_rest {w rest : List Char} (h : CommentRest w rest) :
    SkipsLine (w ++ rest) rest := by
  induction h with
  | feed hmark =>
    rcases hmark with rfl | rfl
    · exact .stop (.blank (by decide) (.refl true _))
    · exact .stop (.blank (by decide) (.blank (by decide) (.refl true _)))
  | done => exact .stop (.refl true [])
  | char hc _ ih => exact ih.cons hc

theorem skips_lineBreak {c d : Cursor} (h : c.lineBreak = some d) : Skips true c.rest d.rest := by
  obtain ⟨w, hw, hrest, -⟩ := lineBreak_iff.1 h
  rw [hrest]
  cases hw with
  | feed hmark =>
    rcases hmark with rfl | rfl
    · exact .blank (by decide) (.refl true _)
    · exact .blank (by decide) (.blank (by decide) (.refl true _))
  | comment hmark hw =>
    rw [List.append_assoc]
    exact (skipsLine_of_rest hw).skips hmark

/-- What ends a line is a gap. -/
theorem gap_of_endOfLine {c d : Cursor} (h : c.endOfLine = some d) :
    ∃ comments text, Gap true comments text ∧ c.rest = text ++ d.rest := by
  obtain ⟨c₁, hskip, h⟩ := Option.bind_eq_some_iff.1 h
  obtain ⟨comments, text, hgap, hrest⟩ := gap_of_skip hskip
  split at h
  · obtain rfl := Option.some.inj h
    exact ⟨comments, text, hgap.spread, hrest⟩
  · obtain ⟨comments', text', hgap', hrest'⟩ := skips_lineBreak h
    exact ⟨_, _, hgap.spread.append hgap', by rw [hrest, hrest', List.append_assoc]⟩

end Cursor

end TerraLint.Hcl
