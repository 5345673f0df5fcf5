import TerraLint.Proofs.Layout.Reading

/-!
# Texts put together from structures

The texts of structures, each on lines of its own, are laid out together. What is read off the result
is the same structures, as long as each of them reads as itself in its new layout.

* `Holds`: a structure that reads as itself however its lines are laid out.
* `Column`: laid out structures, one after the other.
* `Column.exists_run`: what is read off them.
-/

namespace TerraLint.Layout

open Text Format Hcl

/-- Structures under one name: attributes with one key, or blocks of one type with the same labels and
with the same keys in their bodies. -/
inductive SameName : Item → Item → Prop
  | attr {a a' : Attribute} (hkey : a'.key = a.key) : SameName (.attr a) (.attr a')
  | block {b b' : Block} (hkind : b'.kind = b.kind) (hlabels : b'.labels = b.labels)
    (hkeys : itemKeys b'.body = itemKeys b.body) : SameName (.block b) (.block b')

/-- The end of the text, or a line end before a structure or a closing brace. -/
def Follows (rest : List Char) : Prop := rest = [] ∨ ∃ more, rest = '\n' :: more ∧ Opens more

/-- What may be asked of a structure that is read off a new text, and of the one it came from. -/
abbrev Resemblance := SourceFile → Item → Item → Prop

/-- A structure that reads as itself however the lines of its text are laid out and whatever structure
comes next. -/
def Holds (R : Resemblance) (it : Item) (text : List Char) : Prop :=
  ∀ fs, List.Forall₂ Kept (lines text) fs → ∀ pre rest, Follows rest → ∀ n,
    4 * (dedented fs ++ rest).length ≤ n →
      ∃ it', item n ⟨dedented fs ++ rest, byteLength pre⟩ =
          some (it', ⟨rest, byteLength (pre ++ dedented fs)⟩) ∧
        it'.span = ⟨byteLength pre, byteLength (pre ++ dedented fs)⟩ ∧ SameName it it' ∧
        ∀ name, R (.parse name (pre ++ dedented fs ++ rest)) it it'

/-- A structure of a file with the name and the characters of another one. -/
structure Copied (R : Resemblance) (file : SourceFile) (r : Item × List Char) (it : Item) : Prop where
  same : SameName r.1 it
  text : squeeze (file.textOf it.span) = squeeze r.2
  resembles : R file r.1 it

variable {R : Resemblance}

theorem SameName.itemKeys_eq {it it' : Item} (h : SameName it it') :
    itemKeys [it'] = itemKeys [it] := by
  cases h with
  | attr hkey => simp [itemKeys, Body.attributes, Item.attr?, hkey]
  | block => rfl

/-! ## One structure -/

theorem Holds.imp {R R' : Resemblance} {it : Item} {text : List Char} (h : Holds R it text)
    (himp : ∀ file it it', R file it it' → R' file it it') : Holds R' it text := by
  intro fs hkept pre rest hrest n hn
  obtain ⟨it', hitem, hspan, hsame, hresembles⟩ := h fs hkept pre rest hrest n hn
  exact ⟨it', hitem, hspan, hsame, fun name => himp _ _ _ (hresembles name)⟩

/-- What the reader of bodies sees of a structure on its lines: blanks, and a text that starts with a
name. -/
theorem Holds.exists_pieceText {it : Item} {text : List Char} (h : Holds R it text) (hu : Upright text)
    {fs : List (List Char)} (hkept : List.Forall₂ Kept (lines text) fs) :
    ∃ indent, PieceText fs indent := by
  obtain ⟨it', hitem, -⟩ := h fs hkept [] [] (.inl rfl) _ le_rfl
  obtain ⟨d, more, hrest, hd⟩ := isNameStart_of_item hitem
  simp only [List.append_nil] at hrest
  obtain ⟨f, fs, rfl⟩ : ∃ f fs', fs = f :: fs' := by
    cases fs with
    | nil => cases hrest
    | cons f fs => exact ⟨f, fs, rfl⟩
  refine ⟨f.takeWhile isBlank, ⟨?_, ?_, ⟨?_, ?_⟩, d, more, hrest, hd⟩⟩
  · exact spaced_of_kept hu hkept
  · exact ended_eq_dedented (List.takeWhile_append_dropWhile).symm fs
  · obtain ⟨gs, g, hfs, hg⟩ := exists_last_of_kept hu.toSolid hkept
    rw [dedented, hfs]
    exact solid_unlines_concat gs hg
  · rw [hrest]
    exact trimStart_cons
      (Cursor.not_isBlank_of_isNameRest (Cursor.isNameRest_of_isNameStart hd)) more

theorem squeeze_dedented (fs : List (List Char)) : squeeze (dedented fs) = fs.flatMap squeeze := by
  cases fs with
  | nil => rfl
  | cons f fs => rw [dedented, squeeze_unlines, List.flatMap_cons, List.flatMap_cons, squeeze_trimStart]

theorem squeeze_of_kept {text : List Char} {fs : List (List Char)}
    (hkept : List.Forall₂ Kept (lines text) fs) : squeeze (dedented fs) = squeeze text := by
  rw [squeeze_dedented, ← squeeze_unlines_lines, squeeze_unlines]
  generalize lines text = ls at hkept
  induction hkept with
  | nil => rfl
  | cons h _ ih => rw [List.flatMap_cons, List.flatMap_cons, ih, squeeze_congr h.1.core]

/-! ## Structures one after the other -/

/-- A structure that holds, and its text. -/
structure Settled (R : Resemblance) (r : Item × List Char) : Prop where
  upright : Upright r.2
  holds : Holds R r.1 r.2

/-- A structure is read off its lines, and then what follows them. -/
theorem read_row {r : Item × List Char} (hr : Settled R r) {fs : List (List Char)} {indent : List Char}
    (hkept : List.Forall₂ Kept (lines r.2) fs) (htext : PieceText fs indent) (name : String)
    {T rest : List Char} (pre : List Char) (hT : T = pre ++ (indent ++ (dedented fs ++ rest)))
    (hrest : Follows rest) {next : Cursor}
    (hnext : Cursor.endOfLine ⟨rest, byteLength (pre ++ indent ++ dedented fs)⟩ = some next)
    {read : List Item} (hkeys : (itemKeys read ++ itemKeys [r.1]).Nodup) {n : Nat}
    (hn : 4 * (dedented fs ++ rest).length ≤ n) :
    ∃ it, items (n + 1) read ⟨indent ++ (dedented fs ++ rest), byteLength pre⟩ =
        items n (read ++ [it]) next ∧ Copied R (.parse name T) r it := by
  obtain ⟨it, hitem, hspan, hsame, hresembles⟩ := hr.holds fs hkept (pre ++ indent) rest hrest n hn
  have hslice := @SourceFile.slice_rangeOf name (pre ++ indent) _ rest htext.upright
  have hT' : T = pre ++ indent ++ dedented fs ++ rest := by rw [hT]; simp
  rw [← hT', ← hspan] at hslice
  rw [byteLength_append pre indent] at hitem
  refine ⟨it, items_structure (isGap_of_spaced htext.spaced) htext.start hitem hnext ?_, hsame, ?_, ?_⟩
  · rw [hsame.itemKeys_eq]
    exact hkeys
  · rw [SourceFile.textOf, hslice]
    exact squeeze_of_kept hkept
  · rw [hT']
    exact hresembles name

/-- The laid out texts of structures, each on lines of its own, before some rest. -/
inductive Column (R : Resemblance) : 
    List (Item × List Char) → List Char → List Char → Prop
  | nil {rest : List Char} (h : Opens rest) : Column R [] rest rest
  | last {r : Item × List Char} {fs : List (List Char)} {indent : List Char} (hr : Settled R r)
    (hkept : List.Forall₂ Kept (lines r.2) fs) (htext : PieceText fs indent) :
    Column R [r] (indent ++ dedented fs) []
  | cons {r : Item × List Char} {rs : List (Item × List Char)} {fs : List (List Char)}
    {indent gap text rest : List Char} (hr : Settled R r) (hkept : List.Forall₂ Kept (lines r.2) fs)
    (htext : PieceText fs indent) (hgap : ∀ c ∈ gap, Cursor.isGap true c = true)
    (h : Column R rs text rest) :
    Column R (r :: rs) (indent ++ (dedented fs ++ '\n' :: (gap ++ text))) rest

namespace Column

variable {rs : List (Item × List Char)} {text rest : List Char}

theorem opens (h : Column R rs text rest) : Opens text := by
  have hpiece : ∀ {fs : List (List Char)} {indent : List Char}, PieceText fs indent →
      ∀ more, Opens (indent ++ (dedented fs ++ more)) := by
    intro fs indent htext more
    obtain ⟨d, more', hded, hd⟩ := htext.start
    exact ⟨indent, d, more' ++ more, by rw [hded]; simp, isGap_of_spaced htext.spaced, .inl hd⟩
  cases h with
  | nil h => exact h
  | last _ _ htext => simpa using hpiece htext []
  | cons _ _ htext => exact hpiece htext _

theorem opens_gap {gap : List Char} (h : Column R rs text rest)
    (hgap : ∀ c ∈ gap, Cursor.isGap true c = true) : Opens (gap ++ text) := by
  obtain ⟨ws, d, more, rfl, hws, hd⟩ := h.opens
  refine ⟨gap ++ ws, d, more, by simp, fun c hc => ?_, hd⟩
  rcases List.mem_append.1 hc with hc | hc
  · exact hgap c hc
  · exact hws c hc

/-- What is read off laid out structures is a copy of each of them. -/
theorem exists_run (h : Column R rs text rest) (name : String) {T : List Char} (pre : List Char)
    (hT : T = pre ++ text) {read : List Item}
    (hkeys : (itemKeys read ++ itemKeys (rs.map (·.1))).Nodup) {n : Nat}
    (hn : 4 * text.length + 4 ≤ n) :
    ∃ its mid m, text = mid ++ rest ∧ 4 * rest.length + 4 ≤ m ∧
      items n read ⟨text, byteLength pre⟩ =
        items m (read ++ its) ⟨rest, byteLength (pre ++ mid)⟩ ∧
      List.Forall₂ (Copied R (.parse name T)) rs its := by
  induction h generalizing pre read n with
  | nil => exact ⟨[], [], n, rfl, hn, by simp, .nil⟩
  | @last r fs indent hr hkept htext =>
    obtain ⟨n, rfl⟩ : ∃ k, n = k + 1 := ⟨n - 1, by omega⟩
    rw [List.length_append] at hn
    have hone := read_row hr hkept htext name pre (by simpa using hT) (show Follows [] from .inl rfl) rfl
      (by simpa [List.map_cons] using hkeys) (n := n) (by simp; omega)
    obtain ⟨it, hrun, hcopy⟩ := hone
    refine ⟨[it], _, n, (List.append_nil _).symm, ?_, ?_, .cons hcopy .nil⟩
    · obtain ⟨d, more, hded, -⟩ := htext.start
      rw [hded, List.length_cons] at hn
      simp only [List.length_nil]
      omega
    · rw [List.append_nil] at hrun
      rw [hrun, List.append_assoc]
  | @cons r rs fs indent gap text rest hr hkept htext hgap h ih =>
    obtain ⟨n, rfl⟩ : ∃ k, n = k + 1 := ⟨n - 1, by omega⟩
    simp only [List.length_append, List.length_cons] at hn
    have hsplit : itemKeys ((r :: rs).map (·.1)) = itemKeys [r.1] ++ itemKeys (rs.map (·.1)) :=
      itemKeys_append [r.1] _
    rw [hsplit, ← List.append_assoc] at hkeys
    obtain ⟨it, hrun, hcopy⟩ := read_row hr hkept htext name pre hT
      (.inr ⟨_, rfl, h.opens_gap hgap⟩) (endOfLine_lineFeed _ _)
      (List.nodup_append.1 hkeys).1 (n := n) (by simp; omega)
    have hkeys' : (itemKeys (read ++ [it]) ++ itemKeys (rs.map (·.1))).Nodup := by
      rw [itemKeys_append, hcopy.same.itemKeys_eq]
      exact hkeys
    obtain ⟨its, mid, m, rfl, hm, hrun', hcopies⟩ := ih
      (pre ++ indent ++ dedented fs ++ '\n' :: gap) (by rw [hT]; simp) hkeys' (n := n) (by omega)
    refine ⟨it :: its, indent ++ (dedented fs ++ '\n' :: (gap ++ mid)), m, by simp, hm, ?_,
      .cons hcopy hcopies⟩
    have hbyte : byteLength (pre ++ indent ++ dedented fs) + 1 + byteLength gap =
        byteLength (pre ++ indent ++ dedented fs ++ '\n' :: gap) := by
      have hfeed : byteLength ('\n' :: gap) = 1 + byteLength gap := byteLength_cons _ _
      rw [byteLength_append _ ('\n' :: gap), hfeed]
      omega
    rw [hrun, items_skip hgap, hbyte, hrun']
    simp

end Column

/-! ## Texts in normal layout -/

/-- A text in normal layout is its lines. -/
theorem format_eq_unlines (text : List Char) : format text = unlines (lines (format text)) := by
  rw [lines_format]
  exact format_eq text

/-- Normal layout keeps the lines of a text that ends in a character. -/
theorem kept_format {text : List Char} (h : Solid text) :
    List.Forall₂ Kept (lines text) (lines (format text)) := by
  rw [lines_format_of_solid h]
  have htidy : ∀ f ∈ layLines (lines text), Tidy f := by
    intro f hf
    refine ⟨trimEnd_of_mem_layLines hf, ?_⟩
    rw [← lines_format_of_solid h] at hf
    exact not_mem_of_mem_lines hf
  exact ((List.forall₂_and_left _ _).2 ⟨htidy, (eased_layLines _).flip⟩).flip.imp
    fun _ _ h => ⟨h.2, h.1⟩

theorem Kept.trans {a b c : List Char} (hab : Kept a b) (hbc : Kept b c) : Kept a c :=
  ⟨hab.1.trans hbc.1, hbc.2⟩

theorem forall₂_kept_trans {as bs cs : List (List Char)} (hab : List.Forall₂ Kept as bs)
    (hbc : List.Forall₂ Kept bs cs) : List.Forall₂ Kept as cs := by
  induction hab generalizing cs with
  | nil => exact hbc
  | cons h _ ih =>
    cases hbc with
    | cons h' hbc => exact .cons (h.trans h') (ih hbc)

/-- A structure holds in normal layout, too. -/
theorem Holds.format {it : Item} {text : List Char} (h : Holds R it text) (hs : Solid text) :
    Holds R it (format text) :=
  fun fs hkept => h fs (forall₂_kept_trans (kept_format hs) hkept)

section Texts

variable {rs : List (Item × List Char)} {fss : List (List (List Char))}

/-- Lines of structures, laid out, with a blank line between each two. -/
theorem column_sections (hr : ∀ r ∈ rs, Settled R r)
    (h : List.Forall₂ (fun r fs => List.Forall₂ Kept (lines r.2) fs) rs fss) (hne : rs ≠ []) :
    Column R rs (unlines (joinLines fss)) [] := by
  induction h with
  | nil => exact absurd rfl hne
  | @cons r fs rs fss hkept hkepts ih =>
    have hset := hr r List.mem_cons_self
    obtain ⟨indent, htext⟩ := hset.holds.exists_pieceText hset.upright hkept
    by_cases hnil : rs = []
    · subst hnil
      cases hkepts
      have hone : unlines (joinLines [fs]) = indent ++ dedented fs := by
        rw [← htext.unlines_eq]
        simp [joinLines]
      rw [hone]
      exact .last hset hkept htext
    · have hfss : fss ≠ [] := by
        rintro rfl
        exact hnil (List.forall₂_nil_right_iff.1 hkepts)
      have hcol := ih (fun r' hr' => hr r' (List.mem_cons_of_mem _ hr')) hnil
      have hfs : fs ≠ [] := by
        rintro rfl
        obtain ⟨d, more, hded, -⟩ := htext.start
        cases hded
      have hjoin : joinLines fss ≠ [] := by
        intro hj
        obtain ⟨ws, d, more, hopen, -⟩ := hcol.opens
        rw [hj] at hopen
        simp at hopen
      have hsplit : unlines (joinLines (fs :: fss)) =
          indent ++ (dedented fs ++ '\n' :: (['\n'] ++ unlines (joinLines fss))) := by
        rw [joinLines_cons hfss, unlines_append hfs (by simp), unlines_cons hjoin, htext.unlines_eq]
        simp
      rw [hsplit]
      exact .cons hset hkept htext (by simp [Cursor.isGap]) hcol

/-- Lines of structures, laid out, each with its end. -/
theorem column_ended (hr : ∀ r ∈ rs, Settled R r)
    (h : List.Forall₂ (fun r fs => List.Forall₂ Kept (lines r.2) fs) rs fss) {rest : List Char}
    (hrest : Opens rest) : Column R rs (ended fss.flatten ++ rest) rest := by
  induction h with
  | nil => exact .nil hrest
  | @cons r fs rs fss hkept hkepts ih =>
    have hset := hr r List.mem_cons_self
    obtain ⟨indent, htext⟩ := hset.holds.exists_pieceText hset.upright hkept
    have hsplit : ended (fs :: fss).flatten ++ rest =
        indent ++ (dedented fs ++ '\n' :: ([] ++ (ended fss.flatten ++ rest))) := by
      rw [List.flatten_cons, ended_append, htext.text]
      simp
    rw [hsplit]
    exact .cons hset hkept htext (by simp)
      (ih fun r' hr' => hr r' (List.mem_cons_of_mem _ hr'))

theorem solid_texts (hr : ∀ r ∈ rs, Settled R r) : ∀ text ∈ rs.map (·.2), Solid text := by
  intro text ht
  obtain ⟨r, hmem, rfl⟩ := List.mem_map.1 ht
  exact (hr r hmem).upright.toSolid

/-- Structures that hold are read off their texts in normal layout, with a blank line between each
two. -/
theorem exists_parse_sections (hr : ∀ r ∈ rs, Settled R r) (hne : rs ≠ [])
    (hkeys : (itemKeys (rs.map (·.1))).Nodup) :
    ∃ its, parseBody (format (joinSections (rs.map (·.2)))) = some its ∧ ∀ name,
      List.Forall₂ (Copied R (.parse name (format (joinSections (rs.map (·.2)))))) rs its := by
  obtain ⟨hsolid, hlines⟩ := lines_joinSections (solid_texts hr) (by simpa using hne)
  have hkept := kept_format hsolid
  rw [hlines] at hkept
  obtain ⟨fss, hfss, heq⟩ := exists_joinLines hkept
  rw [List.map_map, List.forall₂_map_left_iff] at hfss
  have hcol := column_sections hr hfss hne
  rw [← heq, ← format_eq_unlines] at hcol
  obtain ⟨T, hT⟩ : ∃ T, T = format (joinSections (rs.map (·.2))) := ⟨_, rfl⟩
  rw [← hT] at hcol ⊢
  have hrun := fun name => hcol.exists_run name [] rfl
    (show (itemKeys [] ++ itemKeys (rs.map (·.1))).Nodup by simpa using hkeys) (n := depthBound T) (by rw [depthBound]; omega)
  have hparse : ∀ name, ∃ its, parseBody T = some its ∧
      List.Forall₂ (Copied R (.parse name T)) rs its := by
    intro name
    obtain ⟨its, mid, m, -, hm, hrun, hcopied⟩ := hrun name
    obtain ⟨m, rfl⟩ : ∃ k, m = k + 1 := ⟨m - 1, by omega⟩
    refine ⟨its, ?_, hcopied⟩
    have hbyte : byteLength ([] : List Char) = 0 := rfl
    rw [hbyte, items_end, List.nil_append] at hrun
    rw [parseBody, Cursor.ofText, hrun]
    rfl
  obtain ⟨its, hits, -⟩ := hparse ""
  refine ⟨its, hits, fun name => ?_⟩
  obtain ⟨its', hits', hcopied⟩ := hparse name
  rw [hits] at hits'
  rwa [Option.some.inj hits']

/-- Laid out lines of texts are apart. -/
theorem exists_flatten {α : Type} (text : α → List Char) (rs : List α) {ls : List (List Char)}
    (h : List.Forall₂ Kept (rs.flatMap fun r => lines (text r)) ls) :
    ∃ fss, List.Forall₂ (fun r fs => List.Forall₂ Kept (lines (text r)) fs) rs fss ∧
      ls = fss.flatten := by
  induction rs generalizing ls with
  | nil =>
    cases h
    exact ⟨[], .nil, rfl⟩
  | cons r rs ih =>
    rw [List.flatMap_cons] at h
    obtain ⟨fs, rest, rfl, hfs, hrest⟩ := exists_append_of_forall₂ h
    obtain ⟨fss, hfss, rfl⟩ := ih hrest
    exact ⟨fs :: fss, .cons hfs hfss, rfl⟩

/-- The text of a block without labels that holds some structures, one after the other. -/
def enclosed (kind : String) (rs : List (Item × List Char)) : List Char :=
  kind.toList ++ [' ', '{', '\n'] ++ unlines (rs.map (·.2)) ++ ['\n', '}']

/-- What is asked of a block that holds copies of some structures. -/
def Encloses (R : Resemblance) (kind : String) (rs : List (Item × List Char)) : Resemblance :=
  fun file _ it => ∃ b, it = .block b ∧ b.kind = kind ∧ b.labels = [] ∧
    List.Forall₂ (Copied R file) rs b.body

theorem lines_enclosed {kind : String} (hname : Cursor.IsName kind.toList)
    (hr : ∀ r ∈ rs, Settled R r) (hne : rs ≠ []) :
    Solid (enclosed kind rs) ∧
      lines (enclosed kind rs) = blockLines kind [] [rs.flatMap fun r => lines r.2] := by
  have hhead : Headed kind [] := ⟨hname, by simp⟩
  have hsolid := solid_unlines (solid_texts hr) (by simpa using hne)
  have hbraced := lines_braced hhead.lineFeed
    (show ∀ text ∈ [unlines (rs.map (·.2))], Solid text by simpa using hsolid)
  have htext : braced (headerText kind []) (joinSections [unlines (rs.map (·.2))]) =
      enclosed kind rs := by
    have hjoin : joinSections [unlines (rs.map (·.2))] = unlines (rs.map (·.2)) := by
      simp [joinSections]
    rw [hjoin, braced, hsolid.allBlank]
    rfl
  rw [htext, List.map_singleton, lines_unlines_of_solid (solid_texts hr), List.flatMap_map] at hbraced
  exact hbraced

theorem itemKeys_of_copied {file : SourceFile} {its : List Item}
    (h : List.Forall₂ (Copied R file) rs its) : itemKeys its = itemKeys (rs.map (·.1)) := by
  induction h with
  | nil => rfl
  | @cons r it rs its hcopied _ ih =>
    have hitems : itemKeys (it :: its) = itemKeys [it] ++ itemKeys its := itemKeys_append [it] its
    have horiginals : itemKeys ((r :: rs).map (·.1)) = itemKeys [r.1] ++ itemKeys (rs.map (·.1)) :=
      itemKeys_append [r.1] _
    rw [hitems, horiginals, ih, hcopied.same.itemKeys_eq]

/-- A block is read whose lines hold some structures. -/
theorem read_enclosed {kind : String} (hname : Cursor.IsName kind.toList) {inner after : List Char}
    (hafter : Spaced after) {rest : List Char}
    (hcol : Column R rs (inner ++ (after ++ '}' :: rest)) (after ++ '}' :: rest))
    (hkeys : (itemKeys (rs.map (·.1))).Nodup) (pre : List Char) {T : List Char}
    (hT : T = pre ++ (kind.toList ++ [' ', '{', '\n'] ++ inner ++ after ++ ['}']) ++ rest) {n : Nat}
    (hn : 4 * (inner ++ (after ++ '}' :: rest)).length + 6 ≤ n) (name : String) :
    ∃ b, item n ⟨kind.toList ++ [' ', '{', '\n'] ++ inner ++ after ++ ['}'] ++ rest, byteLength pre⟩ =
        some (.block b, ⟨rest, b.span.stop⟩) ∧
      b.span = ⟨byteLength pre,
        byteLength (pre ++ (kind.toList ++ [' ', '{', '\n'] ++ inner ++ after ++ ['}']))⟩ ∧
      b.kind = kind ∧ b.labels = [] ∧ List.Forall₂ (Copied R (.parse name T)) rs b.body := by
  obtain ⟨n, rfl⟩ : ∃ k, n = k + 2 := ⟨n - 2, by omega⟩
  obtain ⟨its, mid, m, hmid, hm, hrun, hcopied⟩ := hcol.exists_run name (T := T)
    (pre ++ (kind.toList ++ [' ', '{', '\n'])) (by rw [hT]; simp)
    (show (itemKeys [] ++ itemKeys (rs.map (·.1))).Nodup by simpa using hkeys) (n := n) (by omega)
  obtain rfl : mid = inner := (List.append_cancel_right hmid).symm
  obtain ⟨m, rfl⟩ : ∃ k, m = k + 1 := ⟨m - 1, by omega⟩
  have hstart : byteLength (pre ++ (kind.toList ++ [' ', '{', '\n'])) =
      byteLength pre + byteLength (kind.toList ++ ' ' :: Cursor.labelsText []) + 2 := by
    have hthree : byteLength [' ', '{', '\n'] = 3 := by decide
    have hone : byteLength (' ' :: Cursor.labelsText []) = 1 := by decide
    simp only [byteLength_append, hthree, hone]
    omega
  rw [items_close (isGap_of_spaced hafter), List.nil_append, hstart] at hrun
  have hlabels : ∀ label ∈ ([] : List String), Verbatim label.toList := by simp
  have hitem := item_block hname hlabels (by simp) (blockBody_lines hrun)
  have htext : kind.toList ++ [' ', '{', '\n'] ++ mid ++ after ++ ['}'] ++ rest =
      kind.toList ++ ' ' :: (Cursor.labelsText [] ++
        '{' :: '\n' :: (mid ++ (after ++ '}' :: rest))) := by
    simp [Cursor.labelsText]
  rw [htext]
  refine ⟨_, hitem, ?_, rfl, rfl, hcopied⟩
  have hbrace : byteLength ['}'] = 1 := by decide
  simp only [byteLength_append, hbrace]
  congr 1
  omega

/-- A block is read off the laid out text of some structures in braces, whatever comes behind it. -/
theorem read_kept_enclosed {kind : String} (hname : Cursor.IsName kind.toList)
    (hr : ∀ r ∈ rs, Settled R r) (hne : rs ≠ []) (hkeys : (itemKeys (rs.map (·.1))).Nodup) (span : Span)
    {fs : List (List Char)} (hkept : List.Forall₂ Kept (lines (enclosed kind rs)) fs)
    (pre rest : List Char) {n : Nat} (hn : 4 * (dedented fs ++ rest).length ≤ n) :
    ∃ it, item n ⟨dedented fs ++ rest, byteLength pre⟩ =
        some (it, ⟨rest, byteLength (pre ++ dedented fs)⟩) ∧
      it.span = ⟨byteLength pre, byteLength (pre ++ dedented fs)⟩ ∧
      SameName (.block ⟨kind, [], rs.map (·.1), span⟩) it ∧
      ∀ name, Encloses R kind rs (.parse name (pre ++ dedented fs ++ rest))
        (.block ⟨kind, [], rs.map (·.1), span⟩) it := by
  have hhead : Headed kind [] := ⟨hname, by simp⟩
  rw [(lines_enclosed hname hr hne).2] at hkept
  obtain ⟨before, after, sections, hbefore, hafter, hsections, rfl⟩ :=
    exists_indentedLines hhead hkept
  obtain ⟨ls, rfl, hls⟩ := exists_singleton_of_forall₂ hsections
  obtain ⟨fss, hfss, rfl⟩ := exists_flatten (·.2) rs hls
  obtain ⟨hded, -⟩ := indentedLines_text hbefore hhead after [fss.flatten]
  have hblock : dedented (indentedLines before after kind [] [fss.flatten]) =
      kind.toList ++ [' ', '{', '\n'] ++ ended fss.flatten ++ after ++ ['}'] := by
    rw [hded, headerText_append]
    simp [blockRest, joinLines, Cursor.labelsText]
  rw [hblock] at hn ⊢
  have hcol := column_ended hr hfss (show Opens (after ++ '}' :: rest) from
    ⟨after, '}', rest, rfl, isGap_of_spaced hafter, .inr rfl⟩)
  have hread := read_enclosed hname hafter hcol hkeys pre rfl (n := n) (by
    simp only [List.length_append, List.length_cons, List.length_nil] at hn ⊢
    omega)
  obtain ⟨b, hitem, hspan, hkind, hlabels, hcopied⟩ := hread ""
  refine ⟨.block b, ?_, hspan, .block hkind hlabels (itemKeys_of_copied hcopied), fun name => ?_⟩
  · rw [hitem, hspan]
  · obtain ⟨b', hitem', hspan', hkind', hlabels', hcopied'⟩ := hread name
    obtain rfl : b' = b := by
      rw [hitem] at hitem'
      exact (Item.block.inj (Prod.mk.inj (Option.some.inj hitem')).1).symm
    refine ⟨b', rfl, hkind', hlabels', ?_⟩
    simpa using hcopied'

/-- A block that holds some structures holds itself. -/
theorem holds_enclosed {kind : String} (hname : Cursor.IsName kind.toList)
    (hr : ∀ r ∈ rs, Settled R r) (hne : rs ≠ []) (hkeys : (itemKeys (rs.map (·.1))).Nodup)
    (span : Span) :
    Holds (Encloses R kind rs) (.block ⟨kind, [], rs.map (·.1), span⟩) (enclosed kind rs) :=
  fun _ hkept pre rest _ _ hn => read_kept_enclosed hname hr hne hkeys span hkept pre rest hn

end Texts

/-- A text in normal layout is what its lines hold. -/
theorem dedented_lines_format {text : List Char} (h : Upright text) :
    dedented (lines (format text)) = format text := by
  have hlines := format_eq_unlines text
  cases hhead : lines (format text) with
  | nil => rw [hlines, hhead]; rfl
  | cons f fs =>
    rw [dedented, (upright_format h).trimStart_head (by rw [hhead]; rfl), ← hhead, ← hlines]

end TerraLint.Layout
