import TerraLint.Proofs.Hcl.Body
import TerraLint.Proofs.Layout.Reprint
import TerraLint.Proofs.Layout.Written

/-!
# Canonical texts are read as they were written

The text of a canonical form is read structure by structure: headers and braces by themselves, and
attributes as long as each of them reads as itself in its new layout.

* `Steady`: an attribute that reads as itself however its lines are laid out.
* `Reads`: the lines of a canonical form are read as that form.
* `reads_of_readable`: a canonical form is read if its attributes are steady.
-/

namespace TerraLint.Layout

open Text Format Hcl

/-- Lines, each with its end. -/
def ended (ls : List (List Char)) : List Char := ls.flatMap fun l => l ++ ['\n']

/-- The text of lines without the blanks at its start. -/
def dedented : List (List Char) → List Char
  | [] => []
  | f :: fs => unlines (trimStart f :: fs)

/-- Blanks and line ends, then a structure or a closing brace. -/
def Opens (rest : List Char) : Prop :=
  ∃ ws d more, rest = ws ++ d :: more ∧ (∀ c ∈ ws, Cursor.isGap true c = true) ∧
    (Cursor.isNameStart d = true ∨ d = '}')

/-- An attribute that reads as itself, however its lines are laid out and whatever structure comes
next. -/
def Steady (key : String) (text : List Char) : Prop :=
  ∀ fs, List.Forall₂ Kept (lines text) fs → ∀ rest, Opens rest → ∀ byte n,
    4 * (dedented fs ++ '\n' :: rest).length ≤ n →
      ∃ a, item n ⟨dedented fs ++ '\n' :: rest, byte⟩ =
          some (.attr a, ⟨'\n' :: rest, byte + byteLength (dedented fs)⟩) ∧
        a.key = key ∧ a.span = ⟨byte, byte + byteLength (dedented fs)⟩

/-- The keys of the attributes among some canonical forms. -/
def attrKeys (cs : List Canon) : List String :=
  cs.filterMap fun
    | .attr key _ => some key
    | .block _ _ _ => none

/-- A canonical form whose text can be read: attributes are steady, headers are written as they
stand, and no key is assigned twice. -/
inductive Readable : Canon → Prop
  | attr {key : String} {text : List Char} (hu : Upright text) (hs : Steady key text) :
    Readable (.attr key text)
  | block {kind : String} {labels : List String} {slots : Slot → List Canon}
    (hh : Headed kind labels) (hkeys : (attrKeys ((Slot.all true).flatMap slots)).Nodup)
    (hslots : ∀ slot, ∀ c ∈ slots slot, Readable c) : Readable (.block kind labels slots)

/-! ## The text of a piece -/

@[simp] theorem ended_nil : ended [] = [] := rfl

@[simp] theorem ended_append (a b : List (List Char)) : ended (a ++ b) = ended a ++ ended b := by
  simp [ended]

@[simp] theorem ended_cons (l : List Char) (ls : List (List Char)) :
    ended (l :: ls) = l ++ '\n' :: ended ls := by
  simp [ended]

theorem unlines_concat (l : List Char) (ls : List (List Char)) :
    unlines (l :: ls) ++ ['\n'] = l ++ '\n' :: ended ls := by
  induction ls generalizing l with
  | nil => simp
  | cons l' ls ih =>
    rw [unlines_cons (by simp), List.append_assoc, List.cons_append, ih, ended_cons]

theorem unlines_frame (l last : List Char) (ls : List (List Char)) :
    unlines (l :: (ls ++ [last])) = l ++ '\n' :: (ended ls ++ last) := by
  induction ls generalizing l with
  | nil => simp [unlines_cons]
  | cons l' ls ih => rw [List.cons_append, unlines_cons (by simp), ih, ended_cons]; simp

theorem ended_eq_dedented {f indent : List Char} (h : f = indent ++ trimStart f)
    (fs : List (List Char)) : ended (f :: fs) = indent ++ (dedented (f :: fs) ++ ['\n']) := by
  rw [dedented, unlines_concat, ended_cons, ← List.append_assoc, ← h]

theorem Opens.lineFeed {rest : List Char} (h : Opens rest) : Opens ('\n' :: rest) := by
  obtain ⟨ws, d, more, rfl, hws, hd⟩ := h
  refine ⟨'\n' :: ws, d, more, rfl, fun c hc => ?_, hd⟩
  rcases List.mem_cons.1 hc with rfl | hc
  · rfl
  · exact hws c hc

theorem isGap_of_spaced {indent : List Char} (h : Spaced indent) :
    ∀ c ∈ indent, Cursor.isGap true c = true := by
  intro c hc
  have hspace := h c hc
  simp only [isSpacing, Bool.or_eq_true, beq_iff_eq] at hspace
  rcases hspace with rfl | rfl <;> rfl

theorem not_mem_of_spaced {indent : List Char} (h : Spaced indent) : '\n' ∉ indent := by
  intro hmem
  have := h _ hmem
  revert this
  decide

/-- What the reader of bodies sees of a piece: blanks, and a text that starts with a name. -/
structure PieceText (fs : List (List Char)) (indent : List Char) : Prop where
  spaced : Spaced indent
  text : ended fs = indent ++ (dedented fs ++ ['\n'])
  upright : Upright (dedented fs)
  start : ∃ d more, dedented fs = d :: more ∧ Cursor.isNameStart d = true

/-- Lines that stand for themselves are blanks and the rest of their text. -/
theorem PieceText.unlines_eq {fs : List (List Char)} {indent : List Char} (h : PieceText fs indent) :
    unlines fs = indent ++ dedented fs := by
  cases fs with
  | nil =>
    obtain ⟨d, more, hnil, -⟩ := h.start
    cases hnil
  | cons f fs =>
    have htext := h.text
    rw [ended_cons, ← unlines_concat, ← List.append_assoc] at htext
    exact List.append_cancel_right htext

theorem opens_brace : Opens ['}'] := ⟨[], '}', [], rfl, by simp, .inr rfl⟩

/-- Only layout puts blanks before the first line of a text that starts with a character. -/
theorem spaced_of_kept {text f : List Char} {fs : List (List Char)} (hu : Upright text)
    (hkept : List.Forall₂ Kept (lines text) (f :: fs)) : Spaced (f.takeWhile isBlank) := by
  have hfirst : ∀ l ∈ (lines text).head?, trimStart l = l := fun l => hu.trimStart_head
  generalize lines text = ls at hkept hfirst
  cases hkept with
  | @cons l _ _ _ hl _ =>
    refine hl.1.flush fun c hc => ?_
    rw [takeWhile_isBlank_of_trimStart (hfirst l rfl)] at hc
    cases hc

theorem exists_pieceText_attr {key : String} {text f : List Char} {fs : List (List Char)}
    (hu : Upright text) (hs : Steady key text) (hkept : List.Forall₂ Kept (lines text) (f :: fs)) :
    ∃ indent, PieceText (f :: fs) indent := by
  have hstart : ∃ d more, dedented (f :: fs) = d :: more ∧ Cursor.isNameStart d = true := by
    obtain ⟨a, hitem, -⟩ := hs _ hkept ['}'] opens_brace 0 _ le_rfl
    obtain ⟨d, more, hrest, hd⟩ := isNameStart_of_item hitem
    cases hded : dedented (f :: fs) with
    | nil =>
      rw [hded] at hrest
      obtain rfl : '\n' = d := (List.cons.inj hrest).1
      exact absurd hd (by decide)
    | cons c cs =>
      rw [hded] at hrest
      obtain rfl : c = d := (List.cons.inj hrest).1
      exact ⟨c, cs, rfl, hd⟩
  refine ⟨f.takeWhile isBlank, ⟨?_, ?_, ⟨?_, ?_⟩, hstart⟩⟩
  · exact spaced_of_kept hu hkept
  · exact ended_eq_dedented (List.takeWhile_append_dropWhile).symm fs
  · obtain ⟨gs, g, hfs, hg⟩ := exists_last_of_kept hu.toSolid hkept
    rw [dedented, hfs]
    exact solid_unlines_concat gs hg
  · obtain ⟨d, more, hded, hd⟩ := hstart
    rw [hded]
    exact trimStart_cons
      (Cursor.not_isBlank_of_isNameRest (Cursor.isNameRest_of_isNameStart hd)) more

theorem allBlank_of_spaced {indent : List Char} (h : Spaced indent) : allBlank indent = true := by
  rw [allBlank_iff]
  intro c hc
  have hspace := h c hc
  simp only [isSpacing, Bool.or_eq_true, beq_iff_eq] at hspace
  rcases hspace with rfl | rfl <;> decide

theorem trimStart_header {before : List Char} (hbefore : Spaced before) {kind : String}
    {labels : List String} (hh : Headed kind labels) (rest : List Char) :
    trimStart (before ++ (headerText kind labels ++ ' ' :: rest)) =
      headerText kind labels ++ ' ' :: rest := by
  obtain ⟨⟨c, cs, hkind, hc⟩, -⟩ := hh.name
  rw [trimStart_blank_append (allBlank_of_spaced hbefore), headerText_append, hkind]
  exact trimStart_cons
    (Cursor.not_isBlank_of_isNameRest (Cursor.isNameRest_of_isNameStart hc)) _

theorem Headed.lineFeed {kind : String} {labels : List String} (h : Headed kind labels) :
    '\n' ∉ headerText kind labels := by
  intro hmem
  have htext := headerText_append kind labels []
  have hmem' : '\n' ∈ kind.toList ++ ' ' :: (Cursor.labelsText labels ++ []) := by
    rw [← htext]
    exact List.mem_append_left _ hmem
  rw [List.append_nil] at hmem'
  rcases List.mem_append.1 hmem' with hkind | hlabels
  · have hblank := Cursor.not_isBlank_of_isNameRest (h.name.rest _ hkind)
    exact absurd hblank (by decide)
  · obtain ⟨label, hlabel, hchar⟩ : ∃ label ∈ labels, '\n' ∈ label.toList := by
      simpa [Cursor.labelsText, Cursor.labelText] using hlabels
    exact (ne_of_escapeChar ((h.labels label hlabel).chars.2 _ hchar)).2.2.1 rfl

/-- What follows the opening brace of a block. -/
def blockRest (after : List Char) (sections : List (List (List Char))) : List Char :=
  if sections.isEmpty then ['}'] else '\n' :: (ended (joinLines sections) ++ (after ++ ['}']))

theorem solid_blockRest (after : List Char) (sections : List (List (List Char))) :
    Solid (blockRest after sections) := by
  have hbrace : Solid ['}'] := ⟨by simp, by decide⟩
  unfold blockRest
  split
  · exact hbrace
  · have := hbrace.append ('\n' :: (ended (joinLines sections) ++ after))
    simpa using this

/-- The lines of a block: indentation, its header, and the rest of its text. -/
theorem indentedLines_text {before : List Char} (hbefore : Spaced before) {kind : String}
    {labels : List String} (hh : Headed kind labels) (after : List Char)
    (sections : List (List (List Char))) :
    dedented (indentedLines before after kind labels sections) =
        headerText kind labels ++ ' ' :: '{' :: blockRest after sections ∧
      ended (indentedLines before after kind labels sections) =
        before ++ (dedented (indentedLines before after kind labels sections) ++ ['\n']) := by
  unfold indentedLines blockRest
  split
  · have htrim := trimStart_header hbefore hh ['{', '}']
    exact ⟨by rw [dedented, htrim, unlines_singleton], ended_eq_dedented (by rw [htrim]) _⟩
  · have htrim := trimStart_header hbefore hh ['{']
    refine ⟨?_, ended_eq_dedented (by rw [htrim]) _⟩
    rw [List.cons_append, dedented, htrim, unlines_frame]
    simp

theorem exists_pieceText {c : Canon} {p : Piece} (h : Reprinted c p) (hc : Readable c) :
    ∃ indent, PieceText p.1 indent := by
  cases h with
  | attr hkept =>
    cases hc with
    | attr hu hs => exact exists_pieceText_attr hu hs hkept
  | @block kind labels slots pieces before after hbefore hafter hpieces =>
    cases hc with
    | block hh _ _ =>
      obtain ⟨hded, hended⟩ := indentedLines_text hbefore hh after (pieceSections pieces)
      obtain ⟨⟨d, more, hkind, hd⟩, -⟩ := hh.name
      have hsolid := (solid_blockRest after (pieceSections pieces)).append
        (headerText kind labels ++ [' ', '{'])
      refine ⟨before, hbefore, hended, ⟨?_, ?_⟩, ?_⟩
      · rw [hded]
        simpa using hsolid
      · rw [hded]
        exact @trimStart_header [] (by simp [Spaced]) kind labels hh _
      · rw [hded, headerText_append, hkind]
        exact ⟨d, _, rfl, hd⟩

/-! ## Keys -/

@[simp] theorem attrKeys_append (a b : List Canon) : attrKeys (a ++ b) = attrKeys a ++ attrKeys b := by
  simp [attrKeys]

theorem attrKeys_reprinted {c : Canon} {p : Piece} (h : Reprinted c p) :
    attrKeys [p.2] = attrKeys [c] := by
  cases h with
  | attr _ => rfl
  | block _ _ _ => rfl

theorem itemKeys_of_writes {file : SourceFile} {c : Canon} {it : Item} (h : Writes file c it) :
    itemKeys [it] = attrKeys [c] := by
  cases h with
  | attr => rfl
  | block _ _ _ => rfl

theorem itemKeys_rows {file : SourceFile} {cs : List Canon} {ps : List Piece} {its : List Item}
    (h : List.Forall₂ Reprinted cs ps) (hw : List.Forall₂ (fun p it => Writes file p.2 it) ps its) :
    itemKeys its = attrKeys cs := by
  induction h generalizing its with
  | nil =>
    cases hw
    rfl
  | @cons c p cs ps hcp _ ih =>
    cases hw with
    | @cons _ it _ its hwrites hrest =>
      have hitems : itemKeys (it :: its) = itemKeys [it] ++ itemKeys its := itemKeys_append [it] its
      have hcanons : attrKeys (c :: cs) = attrKeys [c] ++ attrKeys cs := attrKeys_append [c] cs
      rw [hitems, hcanons, ih hrest, itemKeys_of_writes hwrites, attrKeys_reprinted hcp]

/-! ## Runs of the reader of bodies -/

section Run

variable (name : String) (T : List Char)

/-- A structure stands after some text, on lines of its own, and ends within some text. -/
structure Between (before upto : List Char) (it : Item) : Prop where
  start : byteLength before ≤ it.span.start
  stop : it.span.start ≤ byteLength upto
  first : before.count '\n' < firstLine (.parse name T) it
  order : firstLine (.parse name T) it ≤ lastLine (.parse name T) it
  last : lastLine (.parse name T) it ≤ upto.count '\n'

/-- The lines of a canonical form, wherever they stand in the text, are read as a structure that is
written as they say. An attribute needs a line end and another structure behind it. -/
def Reads (c : Canon) : Prop :=
  ∀ p, Reprinted c p → ∀ pre post n, T = pre ++ dedented p.1 ++ post →
    ((∃ key text, c = .attr key text) → ∃ rest, post = '\n' :: rest ∧ Opens rest) →
    4 * (dedented p.1 ++ post).length ≤ n →
      ∃ it, item n ⟨dedented p.1 ++ post, byteLength pre⟩ =
          some (it, ⟨post, byteLength (pre ++ dedented p.1)⟩) ∧
        it.span = ⟨byteLength pre, byteLength (pre ++ dedented p.1)⟩ ∧
          Writes (.parse name T) p.2 it

/-- Structures that were read from some lines. -/
structure RowsRead (ps : List Piece) (before upto : List Char) (its : List Item) : Prop where
  writes : List.Forall₂ (fun p it => Writes (.parse name T) p.2 it) ps its
  inner : its.Pairwise (Earlier (.parse name T))
  between : ∀ it ∈ its, Between name T before upto it

variable {name T}

theorem Between.mono {before before' upto upto' : List Char} {it : Item}
    (h : Between name T before upto it) (hb : before' <+: before) (hu : upto <+: upto') :
    Between name T before' upto' it := by
  obtain ⟨b, rfl⟩ := hb
  obtain ⟨u, rfl⟩ := hu
  have hstart := h.start
  have hstop := h.stop
  have hfirst := h.first
  have hlast := h.last
  rw [byteLength_append] at hstart
  rw [List.count_append] at hfirst
  refine ⟨by omega, ?_, by omega, h.order, ?_⟩
  · rw [byteLength_append]
    omega
  · rw [List.count_append]
    omega

theorem Between.earlier {before mid upto : List Char} {a b : Item}
    (ha : Between name T before mid a) (hb : Between name T mid upto b) :
    Earlier (.parse name T) a b := by
  have hstart := ha.stop.trans hb.start
  have hline := (ha.order.trans ha.last).trans_lt hb.first
  exact ⟨hstart, hline⟩

/-- Where a piece stands that was read from its text. -/
theorem between_of_span {fs : List (List Char)} {indent pre rest : List Char} {it : Item}
    (hp : PieceText fs indent) (hT : T = pre ++ ended fs ++ rest)
    (hspan : it.span = ⟨byteLength (pre ++ indent), byteLength (pre ++ indent ++ dedented fs)⟩) :
    Between name T pre (pre ++ ended fs) it := by
  have hT' : T = pre ++ indent ++ dedented fs ++ '\n' :: rest := by
    rw [hT, hp.text]
    simp
  obtain ⟨hfirst, hlast⟩ := @SourceFile.rangeOf_line name (pre ++ indent) (dedented fs)
    ('\n' :: rest) hp.upright
  rw [← hT', ← hspan] at hfirst hlast
  have hindent : indent.count '\n' = 0 := List.count_eq_zero.2 (not_mem_of_spaced hp.spaced)
  have hcount : (pre ++ ended fs).count '\n' = (pre ++ indent ++ dedented fs).count '\n' + 1 := by
    rw [hp.text]
    simp only [List.count_append, List.count_singleton_self]
    omega
  constructor
  · rw [hspan, byteLength_append]
    dsimp only
    omega
  · rw [hspan, hp.text]
    simp only [byteLength_append]
    omega
  · rw [firstLine, hfirst, List.count_append]
    omega
  · have hsum : (pre ++ indent ++ dedented fs).count '\n' =
        (pre ++ indent).count '\n' + (dedented fs).count '\n' := List.count_append
    rw [firstLine, lastLine, hfirst, hlast, hsum]
    omega
  · rw [lastLine, hlast, hcount]

/-- One piece is read, and what follows it is left. -/
theorem read_one {c : Canon} {p : Piece} (hc : Readable c) (hread : Reads name T c)
    (hp : Reprinted c p) (pre : List Char) {rest : List Char} (hT : T = pre ++ ended p.1 ++ rest)
    (hrest : Opens rest) {read : List Item} (hkeys : (itemKeys read ++ attrKeys [c]).Nodup) {n : Nat}
    (hn : 4 * (ended p.1 ++ rest).length + 4 ≤ n) :
    ∃ it m, 4 * rest.length + 4 ≤ m ∧
      items n read ⟨ended p.1 ++ rest, byteLength pre⟩ =
        items m (read ++ [it]) ⟨rest, byteLength (pre ++ ended p.1)⟩ ∧
      Writes (.parse name T) p.2 it ∧ Between name T pre (pre ++ ended p.1) it := by
  obtain ⟨indent, htext⟩ := exists_pieceText hp hc
  have hT' : T = pre ++ indent ++ dedented p.1 ++ '\n' :: rest := by
    rw [hT, htext.text]
    simp
  have hlen : (ended p.1 ++ rest).length =
      indent.length + (dedented p.1 ++ '\n' :: rest).length := by
    rw [htext.text]
    simp only [List.length_append, List.length_cons, List.length_nil]
    omega
  obtain ⟨m, rfl⟩ : ∃ m, n = m + 1 := ⟨n - 1, by omega⟩
  obtain ⟨it, hitem, hspan, hwrites⟩ := hread p hp (pre ++ indent) ('\n' :: rest) m hT'
    (fun _ => ⟨rest, rfl, hrest⟩) (by omega)
  have hfresh : (itemKeys read ++ itemKeys [it]).Nodup := by
    rw [itemKeys_of_writes hwrites, attrKeys_reprinted hp]
    exact hkeys
  refine ⟨it, m, ?_, ?_, hwrites, between_of_span htext hT hspan⟩
  · rw [hlen, List.length_append, List.length_cons] at hn
    omega
  · rw [byteLength_append] at hitem
    have hrun := items_item (isGap_of_spaced htext.spaced) htext.start hitem hfresh
    have hsplit : ended p.1 ++ rest = indent ++ (dedented p.1 ++ '\n' :: rest) := by
      rw [htext.text]
      simp
    have hbyte : byteLength (pre ++ ended p.1) =
        byteLength (pre ++ indent ++ dedented p.1) + 1 := by
      rw [htext.text]
      simp only [byteLength_append]
      have : byteLength ['\n'] = 1 := by decide
      omega
    rw [hsplit, hrun, hbyte]

theorem opens_pieces {cs : List Canon} {ps : List Piece} (h : List.Forall₂ Reprinted cs ps)
    (hc : ∀ c ∈ cs, Readable c) {rest : List Char} (hrest : Opens rest) :
    Opens (ended (ps.flatMap (·.1)) ++ rest) := by
  cases h with
  | nil => exact hrest
  | @cons c p cs ps hcp _ =>
    obtain ⟨indent, htext⟩ := exists_pieceText hcp (hc c List.mem_cons_self)
    obtain ⟨d, more, hded, hd⟩ := htext.start
    refine ⟨indent, d, more ++ ['\n'] ++ ended (ps.flatMap (·.1)) ++ rest, ?_,
      isGap_of_spaced htext.spaced, .inl hd⟩
    rw [List.flatMap_cons, ended_append, htext.text, hded]
    simp

theorem read_pieces {cs : List Canon} {ps : List Piece} (h : List.Forall₂ Reprinted cs ps)
    (hc : ∀ c ∈ cs, Readable c) (hread : ∀ c ∈ cs, Reads name T c) (pre : List Char)
    {rest : List Char} (hT : T = pre ++ ended (ps.flatMap (·.1)) ++ rest) (hrest : Opens rest) {read : List Item}
    (hkeys : (itemKeys read ++ attrKeys cs).Nodup) {n : Nat}
    (hn : 4 * (ended (ps.flatMap (·.1)) ++ rest).length + 4 ≤ n) :
    ∃ its m, 4 * rest.length + 4 ≤ m ∧
      items n read ⟨ended (ps.flatMap (·.1)) ++ rest, byteLength pre⟩ =
        items m (read ++ its) ⟨rest, byteLength (pre ++ ended (ps.flatMap (·.1)))⟩ ∧
      RowsRead name T ps pre (pre ++ ended (ps.flatMap (·.1))) its := by
  induction h generalizing pre read n with
  | nil =>
    refine ⟨[], n, by simpa using hn, by simp, ⟨.nil, .nil, by simp⟩⟩
  | @cons c p cs ps hcp hps ih =>
    have hkeys' : attrKeys (c :: cs) = attrKeys [c] ++ attrKeys cs := attrKeys_append [c] cs
    rw [hkeys', ← List.append_assoc] at hkeys
    rw [List.flatMap_cons, ended_append] at hT hn ⊢
    have hc' : ∀ d ∈ cs, Readable d := fun d hd => hc d (List.mem_cons_of_mem _ hd)
    have hopens := opens_pieces hps hc' hrest
    obtain ⟨it, m, hm, hrun, hwrites, hbetween⟩ := read_one (hc c List.mem_cons_self)
      (hread c List.mem_cons_self) hcp pre (by rw [hT]; simp) hopens
      (List.nodup_append.1 hkeys).1 (n := n) (by rwa [List.append_assoc] at hn)
    have hkeys'' : (itemKeys (read ++ [it]) ++ attrKeys cs).Nodup := by
      rw [itemKeys_append, itemKeys_of_writes hwrites, attrKeys_reprinted hcp]
      exact hkeys
    obtain ⟨its, m', hm', hrun', hrows⟩ := ih hc' (fun d hd => hread d (List.mem_cons_of_mem _ hd))
      (pre ++ ended p.1) (by rw [hT]; simp) hkeys'' hm
    have hpre : pre ++ (ended p.1 ++ ended (ps.flatMap (·.1))) =
        pre ++ ended p.1 ++ ended (ps.flatMap (·.1)) := (List.append_assoc ..).symm
    refine ⟨it :: its, m', hm', ?_, ⟨.cons hwrites hrows.writes, ?_, ?_⟩⟩
    · rw [List.append_assoc, hrun, hrun', hpre, List.append_assoc]
      rfl
    · exact .cons (fun it' hit' => hbetween.earlier (hrows.between it' hit')) hrows.inner
    · rw [hpre]
      intro it' hit'
      rcases List.mem_cons.1 hit' with rfl | hit'
      · exact hbetween.mono (List.prefix_refl _) (List.prefix_append _ _)
      · exact (hrows.between it' hit').mono (List.prefix_append _ _) (List.prefix_refl _)

section Slots

variable {slots : Slot → List Canon} {pieces : Slot → List Piece}
  (h : ∀ slot, List.Forall₂ Reprinted (slots slot) (pieces slot))
  (hc : ∀ slot, ∀ c ∈ slots slot, Readable c)

/-- The lines of the sections of some slots. -/
def slotLines (pieces : Slot → List Piece) (order : List Slot) : List (List Char) :=
  joinLines ((order.map fun slot => (pieces slot).flatMap (·.1)).filter fun ls => !ls.isEmpty)

theorem slotLines_cons (slot : Slot) (order : List Slot) :
    slotLines pieces (slot :: order) =
      if (pieces slot).flatMap (·.1) = [] then slotLines pieces order
      else if slotLines pieces order = [] then (pieces slot).flatMap (·.1)
      else (pieces slot).flatMap (·.1) ++ [] :: slotLines pieces order := by
  unfold slotLines
  have hmem : ∀ ls ∈ (order.map fun slot => (pieces slot).flatMap (·.1)).filter
      (fun ls => !ls.isEmpty), ls ≠ [] := by
    intro ls hls
    simpa using (List.mem_filter.1 hls).2
  rw [List.map_cons, List.filter_cons]
  generalize (order.map fun slot => (pieces slot).flatMap (·.1)).filter
    (fun ls => !ls.isEmpty) = sections at hmem
  by_cases hnil : (pieces slot).flatMap (·.1) = []
  · simp [hnil]
  rw [if_pos (by simpa using hnil), if_neg hnil]
  cases sections with
  | nil => simp [joinLines]
  | cons s ss =>
    have hne : joinLines (s :: ss) ≠ [] := by
      have hs := hmem s List.mem_cons_self
      cases ss with
      | nil => simpa [joinLines] using hs
      | cons _ _ =>
        rw [joinLines_cons (by simp)]
        simp
    rw [if_neg hne, joinLines_cons (by simp)]

/-- Between the lines of a slot and those of the slots behind it stands a line end, unless there are
none. -/
theorem exists_separator (pieces : Slot → List Piece) (slot : Slot) (order : List Slot) :
    ∃ sep, (sep = [] ∨ sep = ['\n']) ∧
      ended (slotLines pieces (slot :: order)) =
        ended ((pieces slot).flatMap (·.1)) ++ (sep ++ ended (slotLines pieces order)) ∧
      (sep = [] → (pieces slot).flatMap (·.1) = [] ∨ slotLines pieces order = []) := by
  rw [slotLines_cons]
  split
  · rename_i hnil
    exact ⟨[], .inl rfl, by simp [hnil], fun _ => .inl hnil⟩
  split
  · rename_i hnil
    exact ⟨[], .inl rfl, by simp [hnil], fun _ => .inr hnil⟩
  · exact ⟨['\n'], .inr rfl, by simp, fun hsep => absurd hsep (by simp)⟩

include h hc

theorem opens_slots (order : List Slot) {rest : List Char} (hrest : Opens rest) :
    Opens (ended (slotLines pieces order) ++ rest) := by
  induction order with
  | nil => exact hrest
  | cons slot order ih =>
    rw [slotLines_cons]
    split
    · exact ih
    split
    · exact opens_pieces (h slot) (hc slot) hrest
    · rw [ended_append, ended_cons, List.append_assoc]
      exact opens_pieces (h slot) (hc slot) ih.lineFeed

/-- The pieces of all slots are read, slot by slot. -/
theorem read_slots (hread : ∀ slot, ∀ c ∈ slots slot, Reads name T c) (order : List Slot)
    (pre : List Char) {rest : List Char}
    (hT : T = pre ++ ended (slotLines pieces order) ++ rest) (hrest : Opens rest)
    {read : List Item} (hkeys : (itemKeys read ++ attrKeys (order.flatMap slots)).Nodup) {n : Nat}
    (hn : 4 * (ended (slotLines pieces order) ++ rest).length + 4 ≤ n) :
    ∃ itss m, 4 * rest.length + 4 ≤ m ∧
      items n read ⟨ended (slotLines pieces order) ++ rest, byteLength pre⟩ =
        items m (read ++ itss.flatten) ⟨rest, byteLength (pre ++ ended (slotLines pieces order))⟩ ∧
      List.Forall₂ (fun slot its => RowsRead name T (pieces slot) pre
        (pre ++ ended (slotLines pieces order)) its) order itss ∧
      itss.Pairwise fun its its' => ∀ a ∈ its, ∀ b ∈ its', Apart (.parse name T) a b := by
  induction order generalizing pre read n with
  | nil => exact ⟨[], n, by simpa [slotLines, joinLines] using hn, by simp [slotLines, joinLines], .nil, .nil⟩
  | cons slot order ih =>
    have hkeys' : attrKeys ((slot :: order).flatMap slots) =
        attrKeys (slots slot) ++ attrKeys (order.flatMap slots) := by
      rw [List.flatMap_cons, attrKeys_append]
    rw [hkeys', ← List.append_assoc] at hkeys
    obtain ⟨sep, hsep, hlines, hempty⟩ := exists_separator pieces slot order
    have hgap : ∀ c ∈ sep, Cursor.isGap true c = true := by
      rcases hsep with rfl | rfl <;> simp [Cursor.isGap]
    have hopens := opens_slots h hc order hrest
    have hopens' : Opens (sep ++ (ended (slotLines pieces order) ++ rest)) := by
      rcases hsep with rfl | rfl
      · exact hopens
      · exact hopens.lineFeed
    rw [hlines] at hT hn ⊢
    obtain ⟨its, m, hm, hrun, hrows⟩ := read_pieces (h slot) (hc slot) (hread slot) pre
      (by rw [hT]; simp) hopens' (List.nodup_append.1 hkeys).1 (n := n) (by simpa using hn)
    rw [items_skip hgap] at hrun
    have hkeys'' : (itemKeys (read ++ its) ++ attrKeys (order.flatMap slots)).Nodup := by
      rw [itemKeys_append, itemKeys_rows (h slot) hrows.writes]
      exact hkeys
    have hm' : 4 * (ended (slotLines pieces order) ++ rest).length + 4 ≤ m := by
      rw [List.length_append] at hm
      omega
    obtain ⟨itss, m', hm'', hrun', hall, hpairs⟩ := ih
      (pre ++ ended ((pieces slot).flatMap (·.1)) ++ sep) (by rw [hT]; simp) hkeys'' hm'
    have hpre : pre ++ (ended ((pieces slot).flatMap (·.1)) ++
          (sep ++ ended (slotLines pieces order))) =
        pre ++ ended ((pieces slot).flatMap (·.1)) ++ sep ++ ended (slotLines pieces order) := by
      simp
    rw [hpre]
    refine ⟨its :: itss, m', hm'', ?_, .cons ?_ (hall.imp fun s r hr => ?_), .cons ?_ hpairs⟩
    · rw [← byteLength_append] at hrun
      rw [List.append_assoc, List.append_assoc, hrun, hrun', List.flatten_cons, List.append_assoc]
    · refine ⟨hrows.writes, hrows.inner, fun it hit => (hrows.between it hit).mono
        (List.prefix_refl _) ?_⟩
      rw [List.append_assoc]
      exact List.prefix_append _ _
    · refine ⟨hr.writes, hr.inner, fun it hit => (hr.between it hit).mono ?_ (List.prefix_refl _)⟩
      rw [List.append_assoc]
      exact List.prefix_append _ _
    · -- Two slots that hold anything have a line end between them.
      intro its' hits' a ha b hb
      obtain ⟨s, -, hr⟩ := exists_of_mem_forall₂ hall.flip hits'
      have hab := hrows.between a ha
      have hbb := hr.between b hb
      have hearlier : Earlier (.parse name T) a b :=
        (hab.mono (List.prefix_refl _) (List.prefix_append _ sep)).earlier hbb
      refine ⟨hearlier, ?_⟩
      have hlast := hab.last
      have hfirst := hbb.first
      rcases hsep with rfl | rfl
      · exfalso
        have hafirst := hab.first
        have haorder := hab.order
        have hborder := hbb.order
        have hblast := hbb.last
        rcases hempty rfl with hnil | hnil
        · rw [hnil, ended_nil, List.append_nil] at hlast
          omega
        · rw [hnil, ended_nil, List.append_nil] at hblast
          omega
      · rw [List.count_append, List.count_singleton_self] at hfirst
        omega

end Slots

/-- Structures that were read slot by slot make up a block that is written so. -/
theorem writes_block {pieces : Slot → List Piece} {its : Slot → List Item} {before upto : List Char}
    (hrows : ∀ slot, RowsRead name T (pieces slot) before upto (its slot))
    (hpairs : (Slot.all true).Pairwise fun s s' =>
      ∀ a ∈ its s, ∀ b ∈ its s', Apart (.parse name T) a b)
    (kind : String) (labels : List String) (span : Span) :
    Writes (.parse name T) (.block kind labels fun slot => (pieces slot).map (·.2))
      (.block ⟨kind, labels, (Slot.all true).flatMap its, span⟩) := by
  have hfst : ∀ slot, (((pieces slot).map (·.2)).zip (its slot)).map (·.1) =
      (pieces slot).map (·.2) := fun slot =>
    List.map_fst_zip (by rw [List.length_map, (hrows slot).writes.length_eq])
  have hsnd : ∀ slot, (((pieces slot).map (·.2)).zip (its slot)).map (·.2) = its slot := fun slot =>
    List.map_snd_zip (by rw [List.length_map, (hrows slot).writes.length_eq])
  have hmem : ∀ {slot r}, r ∈ ((pieces slot).map (·.2)).zip (its slot) → r.2 ∈ its slot :=
    fun {slot r} hr => (List.of_mem_zip hr).2
  have hwrites := @Writes.block (.parse name T) kind labels span
    (fun slot => ((pieces slot).map (·.2)).zip (its slot)) ?_ ?_ ?_
  · simpa only [hfst, hsnd] using hwrites
  · intro slot r hr
    have hall : List.Forall₂ (Writes (.parse name T)) ((pieces slot).map (·.2)) (its slot) :=
      List.forall₂_map_left_iff.2 (hrows slot).writes
    exact (List.forall₂_iff_zip.1 hall).2 hr
  · intro slot
    have hinner := (hrows slot).inner
    rw [← hsnd slot] at hinner
    exact List.pairwise_map.1 hinner
  · refine hpairs.imp fun hss r hr r' hr' => ?_
    exact hss r.2 (hmem hr) r'.2 (hmem hr')

theorem reads_attr {key : String} {text : List Char} (hc : Readable (.attr key text)) :
    Reads name T (.attr key text) := by
  intro p hp pre post n hT hpost hn
  obtain ⟨rest, rfl, hrest⟩ := hpost ⟨key, text, rfl⟩
  obtain ⟨indent, htext⟩ := exists_pieceText hp hc
  cases hp with
  | @attr _ _ f fs hkept =>
    cases hc with
    | attr hu hs =>
      obtain ⟨a, hitem, rfl, hspan⟩ := hs (f :: fs) hkept rest hrest (byteLength pre) n hn
      have hslice := @SourceFile.slice_rangeOf name pre _ ('\n' :: rest) htext.upright
      rw [← hT, byteLength_append, ← hspan] at hslice
      rw [byteLength_append]
      refine ⟨.attr a, hitem, hspan, ?_⟩
      have hwrites := @Writes.attr (.parse name T) a
      rw [SourceFile.textOf, hslice] at hwrites
      exact hwrites

/-- The body of a block is read slot by slot. -/
theorem read_body {slots : Slot → List Canon} {pieces : Slot → List Piece}
    (h : ∀ slot, List.Forall₂ Reprinted (slots slot) (pieces slot))
    (hc : ∀ slot, ∀ c ∈ slots slot, Readable c)
    (hread : ∀ slot, ∀ c ∈ slots slot, Reads name T c)
    (hkeys : (attrKeys ((Slot.all true).flatMap slots)).Nodup) (before after : List Char)
    (hafter : Spaced after) (post : List Char)
    (hT : T = before ++ ended (slotLines pieces (Slot.all true)) ++ (after ++ '}' :: post)) {n : Nat}
    (hn : 4 * (ended (slotLines pieces (Slot.all true)) ++ (after ++ '}' :: post)).length + 4 ≤ n) :
    ∃ its : Slot → List Item,
      items n [] ⟨ended (slotLines pieces (Slot.all true)) ++ (after ++ '}' :: post),
          byteLength before⟩ =
        some ((Slot.all true).flatMap its, ⟨'}' :: post,
          byteLength (before ++ ended (slotLines pieces (Slot.all true)) ++ after)⟩) ∧
      ∀ kind labels span, Writes (.parse name T)
        (.block kind labels fun slot => (pieces slot).map (·.2))
        (.block ⟨kind, labels, (Slot.all true).flatMap its, span⟩) := by
  have hopens : Opens (after ++ '}' :: post) :=
    ⟨after, '}', post, rfl, isGap_of_spaced hafter, .inr rfl⟩
  have hkeys' : (itemKeys [] ++ attrKeys ((Slot.all true).flatMap slots)).Nodup := by
    simpa using hkeys
  obtain ⟨itss, m, hm, hrun, hall, hpairs⟩ :=
    read_slots h hc hread (Slot.all true) before hT hopens hkeys' hn
  obtain ⟨its, rfl, hrows⟩ := exists_fun_of_forall₂ (by decide) hall
  obtain ⟨m, rfl⟩ : ∃ k, m = k + 1 := ⟨m - 1, by omega⟩
  refine ⟨its, ?_, fun kind labels span => writes_block
    (fun slot => hrows slot (slot_mem_all slot)) (List.pairwise_map.1 hpairs) kind labels span⟩
  rw [hrun, items_close (isGap_of_spaced hafter), byteLength_append, List.nil_append]
  simp only [byteLength_append, List.flatMap]

theorem length_le_labelsText (labels : List String) :
    labels.length ≤ (Cursor.labelsText labels).length := by
  induction labels with
  | nil => simp
  | cons label labels ih =>
    simp only [Cursor.labelsText, List.flatMap_cons, List.length_append, List.length_cons] at ih ⊢
    omega

/-- The body of a block is read with its braces. -/
theorem read_blockBody {slots : Slot → List Canon} {pieces : Slot → List Piece}
    (h : ∀ slot, List.Forall₂ Reprinted (slots slot) (pieces slot))
    (hc : ∀ slot, ∀ c ∈ slots slot, Readable c)
    (hread : ∀ slot, ∀ c ∈ slots slot, Reads name T c)
    (hkeys : (attrKeys ((Slot.all true).flatMap slots)).Nodup) (before after : List Char)
    (hafter : Spaced after) (post : List Char)
    (hT : T = before ++ '{' :: blockRest after (pieceSections pieces) ++ post) {n : Nat}
    (hn : 4 * (blockRest after (pieceSections pieces) ++ post).length + 2 ≤ n) :
    ∃ its : Slot → List Item,
      blockBody n ⟨'{' :: (blockRest after (pieceSections pieces) ++ post), byteLength before⟩ =
        some ((Slot.all true).flatMap its,
          ⟨post, byteLength (before ++ '{' :: blockRest after (pieceSections pieces))⟩) ∧
      ∀ kind labels span, Writes (.parse name T)
        (.block kind labels fun slot => (pieces slot).map (·.2))
        (.block ⟨kind, labels, (Slot.all true).flatMap its, span⟩) := by
  obtain ⟨n, rfl⟩ : ∃ k, n = k + 1 := ⟨n - 1, by omega⟩
  have hjoin : slotLines pieces (Slot.all true) = joinLines (pieceSections pieces) := rfl
  unfold blockRest at hT hn ⊢
  split at hT
  · rename_i hempty
    have hnil : slotLines pieces (Slot.all true) = [] := by
      rw [hjoin, List.isEmpty_iff.1 hempty]
      rfl
    obtain ⟨its, hrun, hwrites⟩ := read_body h hc hread hkeys (before ++ ['{']) []
      (by simp [Spaced]) post (by rw [hT, hnil]; simp) le_rfl
    -- Nothing stands between the braces, so that nothing was read.
    have hclose := @items_close (4 * (ended (slotLines pieces (Slot.all true)) ++
      ([] ++ '}' :: post)).length + 3) (byteLength (before ++ ['{'])) [] [] (by simp) post
    rw [hnil] at hrun hclose
    have hbody : (Slot.all true).flatMap its = [] :=
      (Prod.mk.inj (Option.some.inj (hclose.symm.trans hrun))).1.symm
    refine ⟨its, ?_, hwrites⟩
    rw [if_pos hempty, hbody]
    refine (blockBody_empty n _ post).trans ?_
    simp only [byteLength_append]
    rfl
  · rename_i hne
    rw [if_neg hne] at hn ⊢
    obtain ⟨its, hrun, hwrites⟩ := read_body h hc hread hkeys (before ++ ['{', '\n']) after hafter
      post (n := n) (by rw [hT, hjoin]; simp) (by
        rw [hjoin]
        simp only [List.length_append, List.length_cons, List.cons_append, List.length_nil] at hn ⊢
        omega)
    refine ⟨its, ?_, hwrites⟩
    have htwo : byteLength (before ++ ['{', '\n']) = byteLength before + 2 := by
      rw [byteLength_append]
      rfl
    rw [htwo, hjoin] at hrun
    have hread := blockBody_lines hrun
    have htext : '{' :: ('\n' :: (ended (joinLines (pieceSections pieces)) ++ (after ++ ['}'])) ++
        post) = '{' :: '\n' :: (ended (joinLines (pieceSections pieces)) ++ (after ++ '}' :: post)) := by
      simp
    have hbyte : byteLength (before ++ '{' :: '\n' :: (ended (joinLines (pieceSections pieces)) ++
          (after ++ ['}']))) =
        byteLength (before ++ ['{', '\n'] ++ ended (joinLines (pieceSections pieces)) ++ after) + 1 := by
      have hone : byteLength ['}'] = 1 := by decide
      simp only [byteLength_append, byteLength_cons, byteLength_nil] at hone ⊢
      omega
    rw [htext, hread, hbyte]

theorem reads_block {kind : String} {labels : List String} {slots : Slot → List Canon}
    (hc : Readable (.block kind labels slots))
    (ih : ∀ slot, ∀ c ∈ slots slot, Reads name T c) : Reads name T (.block kind labels slots) := by
  intro p hp pre post n hT _ hn
  cases hp with
  | @block _ _ _ pieces before after hbefore hafter hpieces =>
    cases hc with
    | block hh hkeys hslots =>
      obtain ⟨hded, -⟩ := indentedLines_text hbefore hh after (pieceSections pieces)
      rw [headerText_append] at hded
      rw [hded] at hT hn ⊢
      have hkind : 0 < kind.toList.length := by
        obtain ⟨⟨c, cs, hcs, -⟩, -⟩ := hh.name
        rw [hcs]
        simp
      have hlabels := length_le_labelsText labels
      have hlen : (kind.toList ++ ' ' :: (Cursor.labelsText labels ++
          '{' :: blockRest after (pieceSections pieces)) ++ post).length =
            kind.toList.length + (Cursor.labelsText labels).length + 2 +
              (blockRest after (pieceSections pieces) ++ post).length := by
        simp only [List.length_append, List.length_cons]
        omega
      rw [hlen] at hn
      obtain ⟨n, rfl⟩ : ∃ k, n = k + 1 := ⟨n - 1, by omega⟩
      obtain ⟨its, hbody, hwrites⟩ := read_blockBody hpieces hslots ih hkeys
        (pre ++ (kind.toList ++ ' ' :: Cursor.labelsText labels)) after hafter post (n := n)
        (by rw [hT]; simp) (by omega)
      rw [byteLength_append] at hbody
      have hlabels : ∀ label ∈ labels, Verbatim label.toList :=
        fun label hlabel => (hh.labels label hlabel).verbatim
      have hitem := item_block hh.name hlabels (by omega) hbody
      have htext : kind.toList ++ ' ' :: (Cursor.labelsText labels ++
          '{' :: blockRest after (pieceSections pieces)) ++ post =
            kind.toList ++ ' ' :: (Cursor.labelsText labels ++
              '{' :: (blockRest after (pieceSections pieces) ++ post)) := by
        simp
      have hstop : pre ++ (kind.toList ++ ' ' :: Cursor.labelsText labels) ++
          '{' :: blockRest after (pieceSections pieces) =
            pre ++ (kind.toList ++ ' ' :: (Cursor.labelsText labels ++
              '{' :: blockRest after (pieceSections pieces))) := by
        simp
      rw [hstop] at hitem
      rw [htext]
      exact ⟨_, hitem, rfl, hwrites kind labels _⟩

theorem reads_of_readable {c : Canon} (hc : Readable c) : Reads name T c := by
  induction c using Canon.induct with
  | attr key text => exact reads_attr hc
  | block kind labels slots ih =>
    refine reads_block hc fun slot c hmem => ih slot c hmem ?_
    cases hc with
    | block _ _ hslots => exact hslots slot c hmem

end Run

end TerraLint.Layout
