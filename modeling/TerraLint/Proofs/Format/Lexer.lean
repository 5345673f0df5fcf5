import TerraLint.Proofs.Format.Conservation

/-!
# Kinds of lines and a lexer over the whole text

`lexLines` reads a text from its start to its end, character by character, and gives each line the
marks of its characters. It knows no kinds of lines: a heredoc opened on a line begins on the next
line and ends with the line that is its identifier between blanks, and everything else is read by
tokens, across the ends of lines.

The kinds and balances that the layout is made of agree with it (`classify_lexed`), with one
exception: of a line that starts inside a block comment, what stands behind the end of the comment
is not taken into account. Its brackets are not counted, and a heredoc opened there is taken up too
late (`heredoc_behind_comment`).
-/

namespace TerraLint.Format

open Text

/-- A line as the lexer reads it. -/
structure LexedLine where
  /-- Whether it belongs to a heredoc, its terminator included. -/
  inHeredoc : Bool
  /-- Whether it starts inside a block comment. -/
  inComment : Bool
  /-- Its characters with their marks. -/
  chars : List (Char × Mark)
  /-- The identifiers of the heredocs that it opens. -/
  opens : List (List Char)
deriving DecidableEq, Repr

namespace LexedLine

/-- The line with a character before it. -/
def cons (c : Char) (mark : Mark) (line : LexedLine) : LexedLine :=
  { line with chars := (c, mark) :: line.chars }

/-- Whether the line opens a heredoc behind the end of a block comment that was open at its start. -/
def opensBehindComment (line : LexedLine) : Bool :=
  !line.inHeredoc && line.inComment && !line.opens.isEmpty

end LexedLine

/-- A lexer over a whole text. -/
structure TextLexer where
  /-- The lexer within the line. -/
  lexer : Lexer
  /-- The marks of the characters that belong to the token at hand. -/
  held : List Mark
  /-- The heredocs whose terminators are still to come after this line. -/
  bodies : List (List Char)
  /-- Whether the line belongs to a heredoc. -/
  inHeredoc : Bool
  /-- Whether the line started inside a block comment. -/
  inComment : Bool
deriving DecidableEq, Repr

namespace TextLexer

/-- The lexer at the start of a line, before a text, when some heredocs are open. The line belongs to
the first of them, and ends it if it is its identifier between blanks. -/
def atLine (scan : Scan) (bodies : List (List Char)) (cs : List Char) : TextLexer :=
  match bodies with
  | [] => ⟨⟨scan, false⟩, [], [], false, scan.inComment⟩
  | id :: others =>
    let line := cs.takeWhile (· != '\n')
    ⟨⟨scan, false⟩, [], if trim line = id then others else id :: others, true, scan.inComment⟩

/-- The line that ends at the lexer. -/
def endLine (t : TextLexer) : LexedLine := ⟨t.inHeredoc, t.inComment, [], t.lexer.scan.heredocs⟩

/-- The lexer after a line end, before a text: the heredocs opened on the line begin. -/
def nextLine (t : TextLexer) (cs : List Char) : TextLexer :=
  atLine { t.lexer.scan with heredocs := [] } (t.bodies ++ t.lexer.scan.heredocs) cs

/-- The mark of the first character of a text, and the lexer after it. -/
def next (t : TextLexer) (cs : List Char) : Mark × TextLexer :=
  if t.inHeredoc then (.literal, t)
  else
    match t.held, t.lexer.token cs with
    | mark :: held, _ => (mark, { t with held := held })
    | [], (marks, lexer) => (marks.headD .code, { t with lexer := lexer, held := marks.tail })

/-- The lines of a text. -/
def read (t : TextLexer) : List Char → List LexedLine
  | [] => [t.endLine]
  | c :: cs =>
    if c = '\n' then t.endLine :: (t.nextLine cs).read cs
    else
      let (mark, t) := t.next (c :: cs)
      (t.read cs).modifyHead (LexedLine.cons c mark)

end TextLexer

/-- The lines of a text as the lexer reads them. The text after the last line end is a line of its
own unless it is empty. -/
def lexLines (text : List Char) : List LexedLine :=
  let ls := (TextLexer.atLine .start [] text).read text
  ls.dropLast ++ ls.getLast?.toList.filter fun last => !last.chars.isEmpty

/-! ## One line -/

namespace TextLexer

theorem read_cons {c : Char} (hc : c ≠ '\n') (t : TextLexer) (cs : List Char) :
    t.read (c :: cs) =
      ((t.next (c :: cs)).2.read cs).modifyHead (LexedLine.cons c (t.next (c :: cs)).1) := by
  rw [read, if_neg hc]

/-- Lines of a heredoc are read for nothing. -/
theorem read_heredoc {t : TextLexer} (ht : t.inHeredoc = true) {l : List Char} (hl : '\n' ∉ l)
    (rest : List Char) :
    t.read (l ++ rest) =
      (t.read rest).modifyHead fun line => { line with chars := l.map (·, .literal) ++ line.chars } := by
  induction l with
  | nil =>
    rcases h : t.read rest with _ | ⟨line, ls⟩ <;> simp [h]
  | cons c l ih =>
    have hc : c ≠ '\n' := fun h => hl (h ▸ List.mem_cons_self)
    have hnext : t.next (c :: l ++ rest) = (.literal, t) := by simp [next, ht]
    rw [List.cons_append, read_cons hc, ← List.cons_append, hnext,
      ih fun h => hl (List.mem_cons_of_mem _ h)]
    rcases t.read rest with _ | ⟨line, ls⟩ <;> rfl

theorem startsToken_lineEnd (cs : List Char) : startsToken ('\n' :: cs) = true := by
  simp [startsToken, joins_of_isFiller (show isFiller '\n' = true by decide)]

/-- Outside heredocs the rest of a line is read as `Lexer.rest` reads it. -/
theorem read_line {l : List Char} (hl : '\n' ∉ l) {rest : List Char}
    (hrest : startsToken rest = true) (t : TextLexer) (ht : t.inHeredoc = false)
    (hv : t.lexer.scan.Valid) :
    ∃ (t' : TextLexer) (chars : List (Char × Mark)),
      t.read (l ++ rest) = (t'.read rest).modifyHead
        (fun line => { line with chars := chars ++ line.chars }) ∧
      chars.map (·.1) = l ∧
      balance chars = balance (l.zip t.held) + (t.lexer.rest (l.drop t.held.length)).2 ∧
      t'.lexer.scan = (t.lexer.rest (l.drop t.held.length)).1 ∧ t'.inHeredoc = false ∧
      t'.inComment = t.inComment ∧ t'.bodies = t.bodies := by
  induction l generalizing t with
  | nil =>
    refine ⟨t, [], ?_, rfl, by simp, by simp, ht, rfl, rfl⟩
    rcases h : t.read rest with _ | ⟨line, ls⟩ <;> simp [h]
  | cons c l ih =>
    have hc : c ≠ '\n' := fun h => hl (h ▸ List.mem_cons_self)
    have hl' : '\n' ∉ l := fun h => hl (List.mem_cons_of_mem _ h)
    obtain ⟨lexer, held, bodies, inHeredoc, inComment⟩ := t
    dsimp only at ht hv
    subst ht
    cases held with
    | cons mark held =>
      -- The character belongs to the token before it.
      have hnext : next ⟨lexer, mark :: held, bodies, false, inComment⟩ (c :: l ++ rest) =
          (mark, ⟨lexer, held, bodies, false, inComment⟩) := rfl
      obtain ⟨t', chars, hread, hfst, hbal, hscan, hin, hcom, hbod⟩ :=
        ih hl' ⟨lexer, held, bodies, false, inComment⟩ rfl hv
      refine ⟨t', (c, mark) :: chars, ?_, by simp [hfst], ?_, hscan, hin, hcom, hbod⟩
      · rw [List.cons_append, read_cons hc, ← List.cons_append, hnext, hread]
        rcases t'.read rest with _ | ⟨line, ls⟩ <;> rfl
      · simp only [balance_cons, hbal, List.zip_cons_cons, List.length_cons, List.drop_succ_cons]
        omega
    | nil =>
      -- A token starts here: its first mark goes to the character, the others are held.
      have htoken : lexer.token (c :: l ++ rest) = lexer.token (c :: l) :=
        Lexer.token_append hrest lexer c l
      have hcons := Lexer.rest_cons hv c l
      have hvalid := Lexer.token_valid hv (c :: l)
      obtain ⟨mark, marks, hmarks⟩ := List.exists_cons_of_ne_nil (Lexer.token_ne_nil lexer (c :: l))
      rcases htok : lexer.token (c :: l) with ⟨ms, lexer'⟩
      rw [htok] at htoken hcons hvalid hmarks
      dsimp only at hmarks hvalid
      subst hmarks
      have hnext : next ⟨lexer, [], bodies, false, inComment⟩ (c :: l ++ rest) =
          (mark, ⟨lexer', marks, bodies, false, inComment⟩) := by
        simp only [next, htoken]
        rfl
      obtain ⟨t', chars, hread, hfst, hbal, hscan, hin, hcom, hbod⟩ :=
        ih hl' ⟨lexer', marks, bodies, false, inComment⟩ rfl hvalid
      simp only [Lexer.after, List.length_cons, List.drop_succ_cons, List.zip_cons_cons,
        balance_cons, Scan.shift] at hcons
      refine ⟨t', (c, mark) :: chars, ?_, by simp [hfst], ?_, ?_, hin, hcom, hbod⟩
      · rw [List.cons_append, read_cons hc, ← List.cons_append, hnext, hread]
        rcases t'.read rest with _ | ⟨line, ls⟩ <;> rfl
      · simp only [balance_cons, hbal, List.length_nil, List.drop_zero, List.zip_nil_right,
          balance_nil, hcons]
        omega
      · simp only [hscan, List.length_nil, List.drop_zero, hcons]

/-- The lines behind the end of a line. -/
def readBehind (p : Progress) : List Char → List LexedLine
  | [] => []
  | _ :: cs => (atLine p.scan p.pending cs).read cs

/-- The state behind the line at whose end the lexer is. -/
def behind (t : TextLexer) : Progress :=
  ⟨{ t.lexer.scan with heredocs := [] }, t.bodies ++ t.lexer.scan.heredocs⟩

theorem read_lineEnd (t : TextLexer) {rest : List Char}
    (hrest : rest = [] ∨ rest.head? = some '\n') :
    t.read rest = t.endLine :: readBehind t.behind rest := by
  cases rest with
  | nil => rfl
  | cons c cs =>
    obtain rfl : c = '\n' := by simpa using hrest
    rw [read, if_pos rfl]
    rfl

end TextLexer

namespace Progress

/-- What is open behind a line as the lexer reads it. -/
def follow (p : Progress) (l : List Char) : Progress :=
  match p.pending with
  | id :: others => if trim l = id then { p with pending := others } else p
  | [] => ⟨{ (p.scan.line l).1 with heredocs := [] }, (p.scan.line l).1.heredocs⟩

/-- A state between two lines. -/
structure AtLineStart (p : Progress) : Prop where
  /-- Strings and interpolations alternate. -/
  valid : p.scan.Valid
  /-- Every heredoc that was opened is pending. -/
  heredocs : p.scan.heredocs = []

theorem atLineStart_start : start.AtLineStart := ⟨Scan.valid_start, rfl⟩

theorem AtLineStart.follow {p : Progress} (hp : p.AtLineStart) (l : List Char) :
    (p.follow l).AtLineStart := by
  obtain ⟨scan, pending⟩ := p
  cases pending with
  | cons id others =>
    by_cases ht : trim l = id
    · simp only [Progress.follow, if_pos ht]
      exact ⟨hp.valid, hp.heredocs⟩
    · simpa only [Progress.follow, if_neg ht] using hp
  | nil =>
    have hv := Scan.line_valid hp.valid l
    exact ⟨⟨hv.nested, hv.comment, fun _ h => by cases h⟩, rfl⟩

end Progress

/-- A line that the lexer reads in a state. -/
structure LexedIn (p : Progress) (l : List Char) (lexed : LexedLine) : Prop where
  chars : lexed.chars.map (·.1) = l
  inHeredoc : lexed.inHeredoc = !p.pending.isEmpty
  inComment : lexed.inComment = p.scan.inComment
  /-- Outside heredocs the brackets in code are those that a scan of the line counts. -/
  balance_eq : p.pending = [] → balance lexed.chars = (p.scan.line l).2
  opens : p.pending = [] → lexed.opens = (p.scan.line l).1.heredocs

/-- The lexer reads the lines of a text one by one. -/
theorem TextLexer.read_atLine {p : Progress} (hp : p.AtLineStart) {l : List Char} (hl : '\n' ∉ l)
    {rest : List Char} (hrest : rest = [] ∨ rest.head? = some '\n') :
    ∃ lexed, LexedIn p l lexed ∧
      (atLine p.scan p.pending (l ++ rest)).read (l ++ rest) =
        lexed :: readBehind (p.follow l) rest := by
  obtain ⟨scan, pending⟩ := p
  obtain ⟨hv, h0⟩ := hp
  dsimp only at hv h0 ⊢
  cases pending with
  | cons id others =>
    have htake : (l ++ rest).takeWhile (· != '\n') = l := by
      have hall : ∀ c ∈ l, (c != '\n') = true := fun c hc => by
        simpa using fun h : c = '\n' => hl (h ▸ hc)
      rw [List.takeWhile_append_of_pos hall]
      rcases hrest with rfl | hrest
      · simp
      · obtain ⟨cs, rfl⟩ := List.head?_eq_some_iff.1 hrest
        simp
    have hbehind : (atLine scan (id :: others) (l ++ rest)).behind =
        Progress.follow ⟨scan, id :: others⟩ l := by
      simp only [atLine, behind, htake, Progress.follow, h0, List.append_nil]
      rw [← h0]
      split <;> rfl
    refine ⟨_, ?_, by rw [read_heredoc rfl hl, read_lineEnd _ hrest, hbehind]; rfl⟩
    exact ⟨by simp [endLine, Function.comp_def], rfl, rfl, nofun, nofun⟩
  | nil =>
    have hstarts : startsToken rest = true := by
      rcases hrest with rfl | hrest
      · rfl
      · obtain ⟨cs, rfl⟩ := List.head?_eq_some_iff.1 hrest
        exact startsToken_lineEnd cs
    obtain ⟨t, chars, hread, hfst, hbal, hscan, hin, hcom, hbod⟩ :=
      read_line hl hstarts (atLine scan [] (l ++ rest)) rfl hv
    have hline : (atLine scan [] (l ++ rest)).lexer.rest l = scan.line l := rfl
    simp only [show (atLine scan [] (l ++ rest)).held = [] from rfl, List.length_nil, List.drop_zero,
      List.zip_nil_right, balance_nil, Int.zero_add, hline] at hbal hscan
    have hbehind : t.behind = Progress.follow ⟨scan, []⟩ l := by
      simp only [behind, hscan, hbod, Progress.follow]
      rfl
    refine ⟨_, ?_, by rw [hread, read_lineEnd _ hrest, hbehind]; rfl⟩
    exact ⟨by simp [endLine, hfst], hin, hcom, fun _ => by simp [endLine, hbal],
      fun _ => by simp [endLine, hscan]⟩

/-! ## All lines -/

namespace Progress

variable {p : Progress} {raw : List Char}

/-- Reading a line follows the lexer unless the line opens a heredoc behind the end of a comment. -/
theorem step_eq_follow (hp : p.AtLineStart)
    (h : p.pending = [] → p.scan.inComment = true → (p.scan.line raw).1.heredocs = []) :
    (p.step raw).1 = p.follow raw := by
  obtain ⟨scan, pending⟩ := p
  cases pending with
  | cons id others => rfl
  | nil =>
    by_cases hc : scan.inComment = true
    · have h0 := h rfl hc
      simp only [step, follow, if_pos hc, h0]
      rw [← h0]
    · by_cases hb : allBlank raw = true
      · have hline := Scan.line_allBlank hp.valid hb
        have h0 : scan.heredocs = [] := hp.heredocs
        dsimp only at hline
        simp only [step, follow, if_neg hc, if_pos hb, hline, h0]
        rw [← h0]
      · simp only [step, follow, if_neg hc, if_neg hb]

theorem step_verbatim (h : p.pending ≠ []) : (p.step raw).2.kind = .verbatim := by
  obtain ⟨scan, pending⟩ := p
  cases pending with
  | cons id others => rfl
  | nil => exact absurd rfl h

theorem step_net (hp : p.AtLineStart) (h : p.pending = []) :
    (p.step raw).2.net = if p.scan.inComment then 0 else (p.scan.line raw).2 := by
  obtain ⟨scan, pending⟩ := p
  dsimp only at h
  subst h
  by_cases hc : scan.inComment = true
  · simp only [step, if_pos hc]
  · by_cases hb : allBlank raw = true
    · have hline := Scan.line_allBlank hp.valid hb
      dsimp only at hline
      simp only [step, if_neg hc, if_pos hb, hline]
    · simp only [step, if_neg hc, if_neg hb]

theorem follow_append_blank (hp : p.AtLineStart) {b : List Char} (hb : allBlank b = true) :
    p.follow (raw ++ b) = p.follow raw := by
  unfold follow
  rw [trim_append_blank hb, Scan.line_append_blank hp.valid hb]

end Progress

/-- The lines that the lexer reads in a state. -/
def lexRun (p : Progress) : List (List Char) → List LexedLine
  | [] => []
  | l :: ls => (TextLexer.atLine p.scan p.pending (unlines (l :: ls))).read (unlines (l :: ls))

theorem lexRun_cons {p : Progress} (hp : p.AtLineStart) {l : List Char} (hl : '\n' ∉ l)
    (ls : List (List Char)) :
    ∃ lexed, LexedIn p l lexed ∧ lexRun p (l :: ls) = lexed :: lexRun (p.follow l) ls := by
  cases ls with
  | nil =>
    obtain ⟨lexed, hlexed, hread⟩ := TextLexer.read_atLine hp hl (Or.inl rfl)
    refine ⟨lexed, hlexed, ?_⟩
    rw [List.append_nil] at hread
    simp only [lexRun, unlines_singleton, hread, TextLexer.readBehind]
  | cons l' ls =>
    obtain ⟨lexed, hlexed, hread⟩ := TextLexer.read_atLine hp hl
      (Or.inr (rfl : List.head? ('\n' :: unlines (l' :: ls)) = some '\n'))
    refine ⟨lexed, hlexed, ?_⟩
    rw [lexRun, unlines_cons (by simp), hread]
    rfl

/-- What a line and its kind have to do with the line as the lexer reads it. -/
structure Agree (line : Line) (lexed : LexedLine) : Prop where
  chars : ∃ b, allBlank b = true ∧ lexed.chars.map (·.1) = line.raw ++ b
  heredoc : lexed.inHeredoc = true → line.kind = .verbatim
  net : lexed.inHeredoc = false → line.net = if lexed.inComment then 0 else balance lexed.chars

theorem LexedIn.agree {p : Progress} (hp : p.AtLineStart) {raw b : List Char} {lexed : LexedLine}
    (hb : allBlank b = true) (h : LexedIn p (raw ++ b) lexed) : Agree (p.step raw).2 lexed where
  chars := ⟨b, hb, by rw [h.chars, Progress.step_raw]⟩
  heredoc hin := Progress.step_verbatim fun hnil => by simp [h.inHeredoc, hnil] at hin
  net hin := by
    have hpend : p.pending = [] := by simpa [h.inHeredoc] using hin
    rw [Progress.step_net hp hpend, h.inComment, h.balance_eq hpend,
      Scan.line_append_blank hp.valid hb]

/-- A line that does not open a heredoc behind the end of a comment leaves the lexer where reading
the line leads to. -/
theorem LexedIn.follow_eq {p : Progress} (hp : p.AtLineStart) {raw b : List Char}
    {lexed : LexedLine} (hb : allBlank b = true) (h : LexedIn p (raw ++ b) lexed)
    (hopens : lexed.opensBehindComment = false) : p.follow (raw ++ b) = (p.step raw).1 := by
  rw [Progress.follow_append_blank hp hb, Progress.step_eq_follow hp]
  intro hpend hcom
  have := h.opens hpend
  rw [Scan.line_append_blank hp.valid hb] at this
  simpa [LexedLine.opensBehindComment, h.inHeredoc, h.inComment, hpend, hcom, this] using hopens

/-- The line behind one that opens a heredoc behind the end of a comment belongs to the heredoc, but
is verbatim only if it starts inside another comment. -/
theorem LexedIn.behindComment {p : Progress} (hp : p.AtLineStart) {raw b : List Char}
    {lexed : LexedLine} (hb : allBlank b = true) (h : LexedIn p (raw ++ b) lexed)
    (hopens : lexed.opensBehindComment = true) {l raw' : List Char} {lexed' : LexedLine}
    (h' : LexedIn (p.follow (raw ++ b)) l lexed') :
    lexed'.inHeredoc = true ∧
      (((p.step raw).1.step raw').2.kind = .verbatim ↔ lexed'.inComment = true) := by
  obtain ⟨⟨hin, hcom⟩, hne⟩ : (lexed.inHeredoc = false ∧ lexed.inComment = true) ∧
      lexed.opens ≠ [] := by
    simpa [LexedLine.opensBehindComment] using hopens
  have hpend : p.pending = [] := by simpa [h.inHeredoc] using hin
  have hscan : p.scan.inComment = true := by rw [← h.inComment, hcom]
  rw [h.opens hpend, Scan.line_append_blank hp.valid hb] at hne
  rw [Progress.follow_append_blank hp hb] at h'
  obtain ⟨scan, pending⟩ := p
  dsimp only at hpend hscan hne
  subst hpend
  refine ⟨by simp [h'.inHeredoc, Progress.follow, hne], ?_⟩
  rw [h'.inComment]
  simp only [Progress.step, hscan, if_true, Progress.follow]
  by_cases hc : (scan.line raw).1.inComment = true
  · simp [hc]
  · by_cases hb' : allBlank raw' = true <;> simp [hc, hb']

/-- Up to the first line that opens a heredoc behind the end of a comment, lines agree with the lines
that the lexer reads. -/
theorem run_agree {p : Progress} (hp : p.AtLineStart) {pieces raws : List (List Char)}
    (h : List.Forall₂ (fun piece raw => '\n' ∉ piece ∧ ∃ b, allBlank b = true ∧ piece = raw ++ b)
      pieces raws) {i : Nat} {line : Line} {lexed : LexedLine}
    (hline : (p.run raws).2[i]? = some line) (hlexed : (lexRun p pieces)[i]? = some lexed)
    (hearlier : ∀ e ∈ (lexRun p pieces).take i, e.opensBehindComment = false) :
    Agree line lexed ∧ (lexed.opensBehindComment = true →
      ∀ next ∈ (p.run raws).2[i + 1]?, ∀ lexed' ∈ (lexRun p pieces)[i + 1]?,
        lexed'.inHeredoc = true ∧ (next.kind = .verbatim ↔ lexed'.inComment = true)) := by
  induction h generalizing p i with
  | nil => simp [lexRun] at hlexed
  | @cons piece raw pieces raws hpiece hrest ih =>
    obtain ⟨hn, b, hb, rfl⟩ := hpiece
    obtain ⟨first, hfirst, hcons⟩ := lexRun_cons hp hn pieces
    rw [hcons] at hlexed hearlier ⊢
    rw [Progress.run_cons] at hline ⊢
    cases i with
    | zero =>
      obtain rfl : first = lexed := by simpa using hlexed
      obtain rfl : (p.step raw).2 = line := by simpa using hline
      refine ⟨hfirst.agree hp hb, fun hopens next hnext lexed' hlexed' => ?_⟩
      cases hrest with
      | nil => simp [lexRun] at hlexed'
      | @cons piece' raw' pieces raws hpiece' _ =>
        obtain ⟨second, hsecond, hcons'⟩ := lexRun_cons (hp.follow (raw ++ b)) hpiece'.1 pieces
        rw [hcons'] at hlexed'
        rw [Progress.run_cons] at hnext
        obtain rfl : second = lexed' := by simpa using hlexed'
        obtain rfl : ((p.step raw).1.step raw').2 = next := by simpa using hnext
        exact hfirst.behindComment hp hb hopens hsecond
    | succ i =>
      have hfollow := hfirst.follow_eq hp hb (hearlier first (by simp))
      have hp' := hp.follow (raw ++ b)
      rw [hfollow] at hlexed hearlier hp' ⊢
      exact ih hp' (by simpa using hline) (by simpa using hlexed) fun e he =>
        hearlier e (by simp [he])

/-! ## A text -/

theorem map_chars_lexRun {p : Progress} (hp : p.AtLineStart) {pieces : List (List Char)}
    (h : ∀ piece ∈ pieces, '\n' ∉ piece) :
    (lexRun p pieces).map (fun lexed => lexed.chars.map (·.1)) = pieces := by
  induction pieces generalizing p with
  | nil => rfl
  | cons piece pieces ih =>
    obtain ⟨lexed, hlexed, hcons⟩ := lexRun_cons hp (h piece (by simp)) pieces
    rw [hcons, List.map_cons, hlexed.chars,
      ih (hp.follow piece) fun l hl => h l (List.mem_cons_of_mem _ hl)]

theorem lexRun_splitOn (text : List Char) :
    lexRun .start (text.splitOn '\n') = (TextLexer.atLine .start [] text).read text := by
  obtain ⟨piece, pieces, hps⟩ := List.exists_cons_of_ne_nil (List.splitOn_ne_nil '\n' text)
  have htext : unlines (piece :: pieces) = text := by
    rw [← hps, unlines, List.intercalate_splitOn]
  rw [hps, lexRun, htext]
  rfl

/-- The lexer reads the lines of a text, up to blanks at their ends. -/
theorem exists_pieces (text : List Char) :
    ∃ raws, List.Forall₂
        (fun piece raw => '\n' ∉ piece ∧ ∃ b, allBlank b = true ∧ piece = raw ++ b)
        (text.splitOn '\n') raws ∧
      lines text <+: raws ∧ lexLines text <+: lexRun .start (text.splitOn '\n') ∧
      (lexLines text).length = (lines text).length := by
  have hmem : ∀ piece ∈ text.splitOn '\n', '\n' ∉ piece := fun _ h => not_mem_splitOn h
  have hchars := map_chars_lexRun Progress.atLineStart_start hmem
  obtain ⟨ps, last, hps⟩ := exists_splitOn text
  obtain ⟨ls, hls⟩ : ∃ ls, lexRun .start (text.splitOn '\n') = ls := ⟨_, rfl⟩
  have hlex : lexLines text =
      ls.dropLast ++ ls.getLast?.toList.filter fun last => !last.chars.isEmpty := by
    rw [lexLines, ← lexRun_splitOn, hls]
  rw [hls] at hchars ⊢
  rw [hps] at hchars hmem ⊢
  obtain ⟨ls, b, rfl, hinit, hlast⟩ := List.map_eq_append_iff.1 hchars
  obtain ⟨lexed, rfl, hlexed⟩ := List.map_eq_singleton_iff.1 hlast
  have hlines := lines_of_splitOn hps
  rw [List.dropLast_concat, List.getLast?_concat, Option.toList_some] at hlex
  have hempty : lexed.chars.isEmpty = last.isEmpty := by
    rw [← hlexed]
    cases lexed.chars <;> rfl
  refine ⟨ps.map chompReturn ++ [last], ?_, ?_, ?_, ?_⟩
  · refine List.rel_append ?_ (List.Forall₂.cons ⟨hmem last (by simp), [], rfl, by simp⟩ .nil)
    rw [List.forall₂_map_right_iff, List.forall₂_same]
    exact fun piece h => ⟨hmem piece (by simp [h]), exists_chompReturn piece⟩
  · rw [hlines, List.prefix_append_right_inj]
    cases last <;> simp
  · rw [hlex, List.prefix_append_right_inj, List.filter_singleton, hempty]
    cases last <;> simp
  · have hlength : ls.length = ps.length := by simpa using congrArg List.length hinit
    rw [hlex, hlines, List.filter_singleton, List.filter_singleton, hempty]
    cases last <;> simp [hlength]

/-- The kinds and the balances of the lines of a text agree with a lexer over the whole text, up to
the first line that opens a heredoc behind the end of a comment that was open at its start. Lines of
heredocs are verbatim and keep all but the blanks at their ends. On any other line the balance is
that of the brackets in code, except that nothing counts on a line that starts inside a comment. The
line behind the first that opens a heredoc behind a comment belongs to the heredoc, but is verbatim
only if it starts inside another comment. -/
theorem classify_lexed (text : List Char) {i : Nat} {line : Line} {lexed : LexedLine}
    (hline : (classify text)[i]? = some line) (hlexed : (lexLines text)[i]? = some lexed)
    (hearlier : ∀ earlier ∈ (lexLines text).take i, earlier.opensBehindComment = false) :
    trimEnd (lexed.chars.map (·.1)) = trimEnd line.raw ∧
      (lexed.inHeredoc = true → line.kind = .verbatim ∧
        ∀ out ∈ (lines (format text))[i]?, out = trimEnd line.raw) ∧
      (lexed.inHeredoc = false →
        line.net = if lexed.inComment then 0 else balance lexed.chars) ∧
      (lexed.opensBehindComment = true →
        ∀ next ∈ (classify text)[i + 1]?, ∀ lexedNext ∈ (lexLines text)[i + 1]?,
          lexedNext.inHeredoc = true ∧ (next.kind = .verbatim ↔ lexedNext.inComment = true)) := by
  obtain ⟨raws, hraws, hlines, hlex, hlength⟩ := exists_pieces text
  have hclass : classify text = (Progress.start.run raws).2.take (lines text).length := by
    rw [← Progress.run_take, ← List.prefix_iff_eq_take.1 hlines]
    rfl
  rw [List.prefix_iff_eq_take, hlength] at hlex
  obtain ⟨hi, -⟩ := List.getElem?_eq_some_iff.1 hline
  rw [length_classify] at hi
  rw [hlex, List.take_take, Nat.min_eq_left (Nat.le_of_lt hi)] at hearlier
  have hline' := hline
  rw [hclass, List.getElem?_take_of_lt hi] at hline'
  rw [hlex, List.getElem?_take_of_lt hi] at hlexed
  obtain ⟨hagree, hbehind⟩ :=
    run_agree Progress.atLineStart_start hraws hline' hlexed hearlier
  refine ⟨?_, fun hin => ⟨hagree.heredoc hin, ?_⟩, hagree.net, ?_⟩
  · obtain ⟨b, hb, hchars⟩ := hagree.chars
    rw [hchars, trimEnd_append_blank hb]
  · intro out hout
    obtain ⟨level, width, -, -, hrender⟩ := getElem?_layLines hline
    rw [Row.render_verbatim (hagree.heredoc hin)] at hrender
    rw [lines_format, dropBlankEnd_eq_take, List.getElem?_take] at hout
    split at hout
    · rw [hrender, Option.mem_some_iff] at hout
      rw [← hout]
    · cases hout
  · intro hopens next hnext lexedNext hl
    have hi' : i + 1 < (lines text).length := by
      rw [← length_classify]
      exact (List.getElem?_eq_some_iff.1 hnext).1
    rw [hclass, List.getElem?_take_of_lt hi'] at hnext
    rw [hlex, List.getElem?_take_of_lt hi'] at hl
    exact hbehind hopens next hnext lexedNext hl

/-- The body of a heredoc is verbatim and stays as it is. -/
theorem classify_lexed_body :
    (lexLines "x = <<E\n  ]\nE".toList)[1]? =
        some ⟨true, false, "  ]".toList.map (·, .literal), []⟩ ∧
      (classify "x = <<E\n  ]\nE".toList)[1]? = some ⟨"  ]".toList, .verbatim, 0⟩ ∧
      ∀ out ∈ (lines (format "x = <<E\n  ]\nE".toList))[1]?, out = "  ]".toList := by
  have hlexed : (lexLines "x = <<E\n  ]\nE".toList)[1]? =
      some ⟨true, false, "  ]".toList.map (·, .literal), []⟩ := by decide +kernel
  have hline : (classify "x = <<E\n  ]\nE".toList)[1]? = some ⟨"  ]".toList, .verbatim, 0⟩ := by
    decide +kernel
  exact ⟨hlexed, hline, ((classify_lexed _ hline hlexed (by decide +kernel)).2.1 rfl).2⟩

/-- A heredoc opened behind the end of a comment is indented as code. -/
theorem heredoc_behind_comment :
    (lexLines "x = /*\n*/ <<E\n  body\nE".toList).map (·.inHeredoc) = [false, false, true, true] ∧
      (classify "x = /*\n*/ <<E\n  body\nE".toList).map (·.kind) =
        [.code, .verbatim, .code, .verbatim] ∧
      format "x = /*\n*/ <<E\n  body\nE".toList = "x = /*\n*/ <<E\nbody\nE".toList := by
  decide +kernel

/-- Brackets behind the end of a comment are not counted. -/
theorem bracket_behind_comment :
    (lexLines "a = [ /*\n*/ [\n1\n]\n]".toList).map (balance ·.chars) = [1, 1, 0, -1, -1] ∧
      (classify "a = [ /*\n*/ [\n1\n]\n]".toList).map (·.net) = [1, 0, 0, -1, -1] := by
  decide +kernel

end TerraLint.Format
