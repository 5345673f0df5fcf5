import TerraLint.Proofs.Data.Arrangement
import TerraLint.Proofs.Hcl.Steps
import TerraLint.Proofs.Layout.Assembly
import TerraLint.Source.MapText

/-!
# Objects with an entry on each line

The entries of an object are written on lines of their own, with commas left out. What is read off
such a text, in whatever layout, is an object with the same keys in the same order, as long as each
entry reads as itself on its lines.

* `EntryHolds`: an entry that reads as itself however its lines are laid out.
* `read_entries`: entries are read off their lines.
* `holds_object`: an attribute with such an object reads as itself.
* `legible_of_inLine`: entries in one line each read as themselves.
-/

namespace TerraLint.Hcl

open Cursor

theorem endsBlanks_of_isDigit {c : Char} (h : c.isDigit = true) : endsBlanks c = true := by
  by_contra hne
  simp only [endsBlanks, Bool.not_eq_true', Bool.not_eq_false, Bool.or_eq_true, beq_iff_eq] at hne
  rcases hne with ((((rfl | rfl) | rfl) | rfl) | rfl) | rfl
  all_goals exact absurd h (by decide)

/-- An expression starts with a character that is no blank, starts no comment and closes no brace. -/
theorem starts_of_expr {n : Nat} {m : Mode} {c d : Cursor} {e : Expr} (h : expr n m c = .ok (e, d)) :
    ∃ ch rest, c.rest = ch :: rest ∧ endsBlanks ch = true ∧ ch ≠ '}' := by
  have hword : ∀ {next : Cursor} {name : String}, c.name = some (name, next) →
      ∃ ch rest, c.rest = ch :: rest ∧ endsBlanks ch = true ∧ ch ≠ '}' := by
    intro next name hname
    obtain ⟨⟨⟨ch, more, hmore, hch⟩, -⟩, hrest, -⟩ := isName_of_name hname
    refine ⟨ch, _, by rw [hrest, hmore]; rfl, endsBlanks_of_isNameStart hch, ?_⟩
    rintro rfl
    exact absurd hch (by decide)
  cases (sound n).expr h with
  | expr hterm _ =>
    cases hterm with
    | number hnumber =>
      obtain ⟨ch, rest, hrest, hch⟩ := isDigit_of_number hnumber
      refine ⟨ch, rest, hrest, endsBlanks_of_isDigit hch, ?_⟩
      rintro rfl
      exact absurd hch (by decide)
    | wordTerm _ _ h =>
      cases h with
      | word hname _ _ _ _ => exact hword hname
      | call hname _ _ _ _ => exact hword hname
    | heredocTerm hrest _ => exact ⟨_, _, hrest, by decide, by decide⟩
    | _ => exact ⟨_, _, by assumption, by decide, by decide⟩

end TerraLint.Hcl

namespace TerraLint.Layout

open Text Format Hcl

/-! ## Entries that hold -/

/-- What comes after an entry: a line end, and then a closing brace or one of some texts, laid out. -/
def Continues (texts : List (List Char)) (rest : List Char) : Prop :=
  ∃ gap next, rest = '\n' :: (gap ++ next) ∧ Spaced gap ∧ (next.head? = some '}' ∨
    ∃ text ∈ texts, ∃ fs, List.Forall₂ Kept (lines text) fs ∧ dedented fs <+: next)

/-- An entry is read between two cursors, with `=` as its sign. -/
structure EntryRead (n : Nat) (key value : Expr) (c d : Cursor) : Prop where
  /-- The entry does not start like a comprehension. -/
  plain : startsComprehension c.rest = false
  parts : ∃ c₁ c₂ c₃ c₄, expr n .inline c = .ok (key, c₁) ∧ c₁.skipInline = some c₂ ∧
    c₂.expect ['='] = some c₃ ∧ c₃.skipInline = some c₄ ∧ expr n .inline c₄ = .ok (value, d)

/-- Two keys that are equal to the same keys. -/
def Interchangeable (key key' : Expr) : Prop :=
  ∀ other : Expr, key'.same other = key.same other ∧ other.same key' = other.same key

/-- A key that was read off a text is another key, written in the same way. -/
structure SameKey (file : SourceFile) (key : Expr) (T : List Char) (key' : Expr) : Prop where
  interchangeable : Interchangeable key key'
  text : ∀ name, (SourceFile.parse name T).exprText key' = file.exprText key

/-- An entry that reads as itself however its lines are laid out, whichever of some texts comes
next. -/
def EntryHolds (file : SourceFile) (texts : List (List Char)) (e : Entry) : Prop :=
  ∀ fs, List.Forall₂ Kept (lines (file.entryText e).2) fs → ∀ pre rest, Continues texts rest → ∀ n,
    4 * (dedented fs ++ rest).length ≤ n →
      ∃ key value, EntryRead n key value ⟨dedented fs ++ rest, byteLength pre⟩
          ⟨rest, byteLength (pre ++ dedented fs)⟩ ∧
        SameKey file e.key (pre ++ dedented fs ++ rest) key

/-- Entries that read as themselves on lines of their own, one after the other. -/
structure Legible (file : SourceFile) (es : List Entry) : Prop where
  upright : ∀ e ∈ es, Upright (file.entryText e).2
  holds : ∀ e ∈ es, EntryHolds file (es.map fun e => (file.entryText e).2) e
  /-- Keys that are equal are written in the same way. -/
  apart : ∀ e ∈ es, ∀ e' ∈ es, e.key.same e'.key = true → file.exprText e.key = file.exprText e'.key

section Entries

variable {file : SourceFile} {es xs : List Entry} {fss : List (List (List Char))}

/-- The lines of a text are blanks and the rest of it. -/
theorem exists_ended {text : List Char} (hu : Upright text) {fs : List (List Char)}
    (hkept : List.Forall₂ Kept (lines text) fs) :
    ∃ indent, Spaced indent ∧ ended fs = indent ++ (dedented fs ++ ['\n']) := by
  cases fs with
  | nil =>
    obtain ⟨ps, last, -, -, hlines⟩ := hu.toSolid.exists_last
    rw [hlines, List.forall₂_nil_right_iff] at hkept
    simp at hkept
  | cons f fs =>
    exact ⟨f.takeWhile isBlank, spaced_of_kept hu hkept,
      ended_eq_dedented (List.takeWhile_append_dropWhile).symm fs⟩

/-- After the line end of an entry stands the next one, or the closing brace. -/
theorem continues_ended (h : Legible file es) (hxs : ∀ e ∈ xs, e ∈ es)
    (hkept : List.Forall₂ (fun e fs => List.Forall₂ Kept (lines (file.entryText e).2) fs) xs fss)
    {after : List Char} (hafter : Spaced after) (rest : List Char) :
    Continues (es.map fun e => (file.entryText e).2)
      ('\n' :: (ended fss.flatten ++ (after ++ '}' :: rest))) := by
  cases hkept with
  | nil => exact ⟨after, '}' :: rest, rfl, hafter, .inl rfl⟩
  | @cons e fs xs fss hfs _ =>
    have he := hxs e List.mem_cons_self
    obtain ⟨indent, hindent, hended⟩ := exists_ended (h.upright e he) hfs
    refine ⟨indent, dedented fs ++ '\n' :: (ended fss.flatten ++ (after ++ '}' :: rest)), ?_, hindent,
      .inr ⟨_, List.mem_map.2 ⟨e, he, rfl⟩, fs, hfs, List.prefix_append _ _⟩⟩
    rw [List.flatten_cons, ended_append, hended]
    simp

/-- Entries are read off their lines up to the closing brace. -/
theorem read_entries (h : Legible file es) (hxs : ∀ e ∈ xs, e ∈ es)
    (hkept : List.Forall₂ (fun e fs => List.Forall₂ Kept (lines (file.entryText e).2) fs) xs fss)
    {after : List Char} (hafter : Spaced after) {gap : List Char}
    (hgap : ∀ c ∈ gap, Cursor.isGap true c = true) (rest pre : List Char) {T : List Char}
    (hT : T = pre ++ (gap ++ (ended fss.flatten ++ (after ++ '}' :: rest)))) (read : List Entry) {n : Nat}
    (hn : 4 * (gap ++ (ended fss.flatten ++ (after ++ '}' :: rest))).length + 1 ≤ n) :
    ∃ new stop, objectEntries n read
        ⟨gap ++ (ended fss.flatten ++ (after ++ '}' :: rest)), byteLength pre⟩ =
          .ok (new.foldl (fun es e => insertEntry e es) read, stop,
            ⟨rest, byteLength (pre ++ (gap ++ (ended fss.flatten ++ (after ++ ['}']))))⟩) ∧
      List.Forall₂ (fun e e' => SameKey file e.key T e'.key) xs new ∧
      ∃ next, Cursor.skipLines ⟨gap ++ (ended fss.flatten ++ (after ++ '}' :: rest)), byteLength pre⟩ =
        some next ∧ startsComprehension next.rest = false := by
  induction hkept generalizing gap pre read n with
  | nil =>
    obtain ⟨n, rfl⟩ : ∃ k, n = k + 1 := ⟨n - 1, by omega⟩
    have hskip : Cursor.skipLines ⟨(gap ++ after) ++ '}' :: rest, byteLength pre⟩ =
        some ⟨'}' :: rest, byteLength pre + byteLength (gap ++ after)⟩ :=
      Cursor.skip_append (fun c hc => (List.mem_append.1 hc).elim (hgap c) (isGap_of_spaced hafter c))
        (by decide) rest _
    have hread : objectEntries (n + 1) read _ = _ := entries_succ_iff.2 (.stop hskip rfl)
    have hbyte : byteLength pre + byteLength (gap ++ after) + 1 =
        byteLength (pre ++ (gap ++ (ended [] ++ (after ++ ['}'])))) := by
      have hbrace : byteLength ['}'] = 1 := by decide
      simp only [byteLength_append, hbrace, ended_nil, byteLength_nil]
      omega
    rw [List.append_assoc] at hread hskip
    dsimp only at hread
    rw [hbyte] at hread
    exact ⟨[], _, hread, .nil, _, hskip, rfl⟩
  | @cons e fs xs fss hfs hfss ih =>
    have he := hxs e List.mem_cons_self
    have hxs' : ∀ x ∈ xs, x ∈ es := fun x hx => hxs x (List.mem_cons_of_mem _ hx)
    obtain ⟨indent, hindent, hended⟩ := exists_ended (h.upright e he) hfs
    obtain ⟨tail, htail⟩ : ∃ tail, tail = ended fss.flatten ++ (after ++ '}' :: rest) := ⟨_, rfl⟩
    have hcontinues := continues_ended h hxs' hfss hafter rest
    rw [← htail] at hcontinues
    have htext : gap ++ (ended (fs :: fss).flatten ++ (after ++ '}' :: rest)) =
        (gap ++ indent) ++ (dedented fs ++ '\n' :: tail) := by
      rw [List.flatten_cons, ended_append, hended, htail]
      simp
    rw [htext] at hn hT ⊢
    obtain ⟨n, rfl⟩ : ∃ k, n = k + 1 := ⟨n - 1, by omega⟩
    have hlen : 4 * (dedented fs ++ '\n' :: tail).length ≤ n := by
      simp only [List.length_append] at hn ⊢
      omega
    obtain ⟨key, value, ⟨hplain, c₁, c₂, c₃, c₄, hkey, h₂, hsign, h₄, hvalue⟩, hsame⟩ :=
      h.holds e he fs hfs (pre ++ (gap ++ indent)) _ hcontinues n hlen
    obtain ⟨ch, more, hmore, hch, hbrace⟩ := starts_of_expr hkey
    dsimp only at hmore
    have hskip : Cursor.skipLines ⟨(gap ++ indent) ++ (dedented fs ++ '\n' :: tail), byteLength pre⟩ =
        some ⟨dedented fs ++ '\n' :: tail, byteLength (pre ++ (gap ++ indent))⟩ := by
      rw [hmore, byteLength_append pre]
      exact Cursor.skip_append
        (fun c hc => (List.mem_append.1 hc).elim (hgap c) (isGap_of_spaced hindent c)) hch more _
    have hskip₅ : Cursor.skipInline ⟨'\n' :: tail, byteLength (pre ++ (gap ++ indent) ++ dedented fs)⟩ =
        some ⟨'\n' :: tail, byteLength (pre ++ (gap ++ indent) ++ dedented fs)⟩ := rfl
    have hentry : EntryStep n _ (.mk key value false) _ := .mk hkey h₂ hsign h₄ hvalue hskip₅
    obtain ⟨new, stop, hmoreRead, hnew, -⟩ := ih hxs'
      (show ∀ c ∈ [], Cursor.isGap true c = true by simp) (pre ++ (gap ++ indent) ++ dedented fs ++ ['\n'])
      (by rw [hT, htail]; simp) (insertEntry (.mk key value false .newline) read) (n := n) (by
        simp only [List.length_append, List.length_cons, List.length_nil, htail] at hn ⊢
        omega)
    refine ⟨.mk key value false .newline :: new, stop, ?_, .cons ?_ hnew, _, hskip, hplain⟩
    · have hbyte : byteLength (pre ++ (gap ++ indent) ++ dedented fs ++ ['\n']) =
          byteLength (pre ++ (gap ++ indent) ++ dedented fs) + 1 := byteLength_append _ _
      have hstop : pre ++ (gap ++ indent) ++ dedented fs ++ ['\n'] ++
          ([] ++ (ended fss.flatten ++ (after ++ ['}']))) =
            pre ++ (gap ++ (ended (fs :: fss).flatten ++ (after ++ ['}']))) := by
        rw [List.flatten_cons, ended_append, hended]
        simp
      rw [hstop, List.nil_append, ← htail, hbyte] at hmoreRead
      exact entries_succ_iff.2 (.line hskip (by rw [hmore]; simpa using hbrace) hentry rfl hmoreRead)
    · have hT' : T = pre ++ (gap ++ indent) ++ dedented fs ++ '\n' :: tail := by
        rw [hT]
        simp
      rw [hT']
      exact hsame

end Entries

/-! ## Entries with equal keys -/

section Insertion

variable {α : Type} {f : Entry → α} {P : Entry → Prop}
  (hsame : ∀ e e' : Entry, P e → P e' → e.key.same e'.key = true → f e = f e')

theorem mem_insertEntry {e entry : Entry} {es : List Entry} (h : e ∈ insertEntry entry es) :
    e = entry ∨ e ∈ es := by
  induction es with
  | nil => exact .inl (List.mem_singleton.1 h)
  | cons x es ih =>
    unfold insertEntry at h
    split at h
    · exact (List.mem_cons.1 h).imp_right (List.mem_cons_of_mem _)
    · rcases List.mem_cons.1 h with rfl | h
      · exact .inr List.mem_cons_self
      · exact (ih h).imp_right (List.mem_cons_of_mem _)

include hsame

/-- An entry takes the place of one that is written alike, or comes last. -/
theorem map_insertEntry {entry : Entry} (hentry : P entry) {es : List Entry} (hes : ∀ e ∈ es, P e) :
    ((insertEntry entry es).map f).Sublist (es.map f ++ [f entry]) := by
  induction es with
  | nil => exact List.Sublist.refl _
  | cons e es ih =>
    unfold insertEntry
    split
    · rename_i heq
      rw [List.map_cons, List.map_cons, hsame e entry (hes e List.mem_cons_self) hentry heq]
      exact List.Sublist.cons_cons _ (List.sublist_append_left _ _)
    · exact (ih fun e' he' => hes e' (List.mem_cons_of_mem _ he')).cons_cons _

theorem map_foldl_insertEntry {new read : List Entry} (hnew : ∀ e ∈ new, P e)
    (hread : ∀ e ∈ read, P e) :
    ((new.foldl (fun es e => insertEntry e es) read).map f).Sublist ((read ++ new).map f) := by
  induction new generalizing read with
  | nil => simp
  | cons entry new ih =>
    have hentry := hnew entry List.mem_cons_self
    have hinserted : ∀ e ∈ insertEntry entry read, P e := by
      intro e he
      rcases mem_insertEntry he with rfl | he
      · exact hentry
      · exact hread e he
    have hlater := ih (fun e he => hnew e (List.mem_cons_of_mem _ he)) hinserted
    refine hlater.trans ?_
    rw [List.map_append, List.map_append, List.map_cons, ← List.singleton_append, ← List.append_assoc]
    exact (map_insertEntry hsame hentry hread).append_right _

end Insertion

/-! ## The line with the key of an attribute -/

/-- No sign stands in the key of an assignment that starts with a name. -/
theorem sign_not_mem_key {c : Char} (hc : Cursor.isNameStart c = true) {cs : List Char}
    {a : Assignment} (h : Assignment.parse? (c :: cs) = some a) : '=' ∉ a.key := by
  obtain ⟨b, value, hkey, -, -⟩ := Assignment.parse?_eq_some h
  have hquote : c ≠ '"' := by
    rintro rfl
    exact absurd hc (by decide)
  rw [Assignment.key?.eq_2 c cs hquote] at hkey
  obtain ⟨hword, hkey⟩ := Option.ite_none_right_eq_some.1 hkey
  obtain ⟨hkey, -⟩ := Prod.mk.inj (Option.some.inj hkey)
  rw [← hkey]
  intro hmem
  rcases List.mem_cons.1 hmem with rfl | hmem
  · exact absurd hc (by decide)
  · exact absurd (List.mem_takeWhile_imp hmem) (by decide)

/-- Texts with a sign are the same before the first sign and behind it. -/
theorem eq_of_first_sign {a b x y : List Char} (ha : '=' ∉ a) (hb : '=' ∉ b)
    (h : a ++ '=' :: x = b ++ '=' :: y) : a = b ∧ x = y := by
  have hfirst : ∀ {s t : List Char}, '=' ∉ s → (s ++ '=' :: t).takeWhile (· != '=') = s := by
    intro s t hs
    rw [List.takeWhile_append_of_pos fun c hc => bne_iff_ne.2 (ne_of_mem_of_not_mem hc hs)]
    simp
  obtain rfl : a = b := by rw [← hfirst ha, h, hfirst hb]
  exact ⟨rfl, (List.cons.inj (List.append_cancel_left h)).2⟩

theorem plain_of_all {v : List Char} (h : v.all (fun c => !isBlank c || isSpacing c) = true) :
    Plain v := by
  intro c hc hblank
  simpa [hblank] using List.all_eq_true.1 h c hc

theorem spaced_one : Spaced [' '] := List.forall_mem_singleton.2 rfl

/-- A line that assigns to a name keeps its key and its value, and blanks around the sign. -/
theorem exists_signs {key : String} (hname : Cursor.IsName key.toList) {b b' v f : List Char}
    (hb : Spaced b) (hb' : Spaced b') (hplain : Plain v) (hv : Upright v)
    (h : Kept (key.toList ++ (b ++ '=' :: (b' ++ v))) f) :
    ∃ g g', Spaced g ∧ Spaced g' ∧ trimStart f = key.toList ++ (g ++ '=' :: (g' ++ v)) := by
  obtain ⟨⟨c, cs, hkey, hc⟩, hrest⟩ := hname
  have hsign : '=' ∉ key.toList ++ b := by
    intro hmem
    rcases List.mem_append.1 hmem with hmem | hmem
    · exact absurd (hrest _ hmem) (by decide)
    · exact absurd (hb _ hmem) (by decide)
  obtain ⟨l, hl⟩ : ∃ l, l = key.toList ++ (b ++ '=' :: (b' ++ v)) := ⟨_, rfl⟩
  rw [← hl] at h
  have htrimStart : trimStart l = l := by
    rw [hl, hkey]
    exact trimStart_cons (Cursor.not_isBlank_of_isNameRest (Cursor.isNameRest_of_isNameStart hc)) _
  have htrimEnd : trimEnd l = l := by
    have hsolid := hv.toSolid.append (key.toList ++ (b ++ '=' :: b'))
    have hfront : key.toList ++ (b ++ '=' :: b') ++ v = l := by
      rw [hl]
      simp
    rw [hfront] at hsolid
    exact hsolid.trimEnd
  have htrim : trim l = l := by rw [trim_eq, htrimStart, htrimEnd]
  cases hparse : Assignment.parse? l with
  | none =>
    obtain ⟨indent, hindent, rfl⟩ := exists_indent htrim hparse h.1 h.2
    refine ⟨b, b', hb, hb', ?_⟩
    rw [trimStart_blank_append (allBlank_of_spaced hindent), htrimStart, hl]
  | some a =>
    -- The key of the assignment is the name: both end before the first sign.
    have hnot : '=' ∉ a.key := by
      rw [hl, hkey] at hparse
      exact sign_not_mem_key hc hparse
    have hplainLine : Plain l := by
      intro x hx hblank
      rw [hl] at hx
      simp only [List.mem_append, List.mem_cons] at hx
      rcases hx with hx | hx | rfl | hx | hx
      · rw [Cursor.not_isBlank_of_isNameRest (hrest x hx)] at hblank
        cases hblank
      · exact hb x hx
      · cases hblank
      · exact hb' x hx
      · exact hplain x hx hblank
    obtain ⟨ha, hvalue⟩ : a.key = key.toList ∧ a.value = v := by
      obtain ⟨g, value, hkey?, hg, hvalue, -⟩ := Assignment.parse?_eq_some hparse
      obtain ⟨hline, -, hend, -, -⟩ := Assignment.key?_eq_some hkey?
      have hg' : '=' ∉ g := fun hmem => absurd (allBlank_iff.1 hg _ hmem) (by decide)
      obtain ⟨hkeys, hvalues⟩ := eq_of_first_sign (a := key.toList ++ b) (b := a.key ++ g)
        (x := b' ++ v) hsign (by simp [hnot, hg'])
        (by rw [List.append_assoc a.key, ← hline, hl]; simp)
      constructor
      · have hkeyEnd : trimEnd key.toList = key.toList := by
          obtain ⟨xs, x, hlast⟩ := List.eq_nil_or_concat' key.toList |>.resolve_left (by rw [hkey]; simp)
          rw [hlast]
          exact trimEnd_concat (Cursor.not_isBlank_of_isNameRest (hrest x (by rw [hlast]; simp))) xs
        rw [← hend, ← trimEnd_append_blank hg, ← hkeys, trimEnd_append_blank (allBlank_of_spaced hb),
          hkeyEnd]
      · have hv' : trim v = v := by rw [trim_eq, hv.trimStart, hv.trimEnd]
        rw [hvalue, ← hvalues, trim_blank_append (allBlank_of_spaced hb'), hv']
    have htrimf : trim f = trimStart f := by
      rw [trim_eq, ← trimStart_trimEnd_comm, h.2.trimEnd]
    have hparse' : Assignment.parse? (trimStart f) = some a := by
      rw [← htrimf, parse?_congr h.1.core, htrim, hparse]
    obtain ⟨b₁, b₂, hb₁, hb₂, hf, -⟩ := Assignment.eq_of_parse? hparse' h.2.trimStart.trimEnd
    have hspaced : ∀ b, allBlank b = true → (∀ x ∈ b, x ∈ trimStart f) → Spaced b :=
      fun b hb hsub x hx => h.1.plain hplainLine x
        ((List.dropWhile_suffix _).subset (hsub x hx)) (allBlank_iff.1 hb x hx)
    refine ⟨b₁, b₂, hspaced b₁ hb₁ ?_, hspaced b₂ hb₂ ?_, ?_⟩
    · rw [hf]
      simp +contextual
    · rw [hf]
      simp +contextual
    · rw [hf, ha, hvalue]
      simp

/-! ## Attributes with an object -/

section Object

variable {file : SourceFile} {es xs : List Entry} {fss : List (List (List Char))}

/-- What is asked of an attribute that was read off the text of an object with some entries: the keys
of its entries are among theirs, in the same order. -/
def ListsKeys (file : SourceFile) (xs : List Entry) : Resemblance := fun file' _ it =>
  ∃ a es stop, it = .attr a ∧ a.value.form = .object es stop ∧
    (es.map fun e => file'.exprText e.key).Sublist (xs.map fun e => file.exprText e.key)

/-- The keys that were read are in the order of the keys that were written. -/
theorem sublist_of_sameKey (h : Legible file es) (hxs : ∀ e ∈ xs, e ∈ es) {T : List Char}
    {new : List Entry} (hnew : List.Forall₂ (fun e e' => SameKey file e.key T e'.key) xs new)
    (name : String) :
    ((new.foldl (fun es e => insertEntry e es) []).map fun e =>
        (SourceFile.parse name T).exprText e.key).Sublist (xs.map fun e => file.exprText e.key) := by
  have hall : ∀ e' ∈ new, ∃ e ∈ es, SameKey file e.key T e'.key := by
    intro e' he'
    obtain ⟨e, he, hsame⟩ := exists_of_mem_forall₂ hnew.flip he'
    exact ⟨e, hxs e he, hsame⟩
  have hsub := map_foldl_insertEntry (f := fun e => (SourceFile.parse name T).exprText e.key)
    (P := fun e' => ∃ e ∈ es, SameKey file e.key T e'.key) (fun e₁ e₂ h₁ h₂ heq => by
      obtain ⟨x₁, hx₁, hsame₁⟩ := h₁
      obtain ⟨x₂, hx₂, hsame₂⟩ := h₂
      rw [(hsame₁.interchangeable _).1, (hsame₂.interchangeable _).2] at heq
      rw [hsame₁.text name, hsame₂.text name, h.apart x₁ hx₁ x₂ hx₂ heq]) hall (List.forall_mem_nil _)
  rw [List.nil_append] at hsub
  have htexts : new.map (fun e => (SourceFile.parse name T).exprText e.key) =
      xs.map fun e => file.exprText e.key := by
    clear hxs hall hsub
    induction hnew with
    | nil => rfl
    | cons hsame _ ih => rw [List.map_cons, List.map_cons, ih, hsame.text name]
  rwa [htexts] at hsub

theorem isGap_false_of_spaced {ws : List Char} (h : Spaced ws) :
    ∀ c ∈ ws, Cursor.isGap false c = true := by
  intro c hc
  have hspace := h c hc
  simp only [isSpacing, Bool.or_eq_true, beq_iff_eq] at hspace
  rcases hspace with rfl | rfl <;> rfl

/-- No operation goes on with an expression in the same line. -/
def Quiet (rest : List Char) : Prop :=
  ∀ byte, ∃ next, Cursor.skipInline ⟨rest, byte⟩ = some next ∧ Stays .inline next.rest

theorem Follows.quiet {rest : List Char} (h : Follows rest) : Quiet rest := by
  intro byte
  rcases h with rfl | ⟨more, rfl, -⟩
  · exact ⟨_, rfl, rfl⟩
  · exact ⟨_, rfl, rfl⟩

/-- An object is read when its entries are. -/
theorem expr_object {n byte : Nat} {inner : List Char} {next d next' : Cursor} {stop : Option Span}
    (hskip : Cursor.skipLines ⟨inner, byte + 1⟩ = some next)
    (hplain : startsComprehension next.rest = false)
    (hentries : objectEntries (n + 1) [] ⟨inner, byte + 1⟩ = .ok (es, stop, d))
    (hinline : d.skipInline = some next') (hstays : Stays .inline next'.rest) :
    expr (n + 3) .inline ⟨'{' :: inner, byte⟩ =
      .ok (.node (some ⟨byte, d.byte⟩) (.object es stop), d) := by
  have hterm := TermStep.object (m := .inline) (c := ⟨'{' :: inner, byte⟩) rfl hskip hplain hentries
  exact expr_succ_iff.2 ⟨_, _, _, term_succ_iff.2 hterm, operations_succ_iff.2 (.stay hinline hstays)⟩

theorem endsName_of_spaced {g : List Char} (hg : Spaced g) (x : List Char) :
    Cursor.endsName (g ++ '=' :: x) = true := by
  cases g with
  | nil => rfl
  | cons c cs =>
    have hc := hg c List.mem_cons_self
    simp only [isSpacing, Bool.or_eq_true, beq_iff_eq] at hc
    rcases hc with rfl | rfl <;> rfl

/-- An attribute is read off its key, blanks, the sign, blanks and a value. -/
theorem item_assigned {key : String} (hname : Cursor.IsName key.toList) {g g' : List Char}
    (hg : Spaced g) (hg' : Spaced g') {ch : Char} (hch : Cursor.endsBlanks ch = true)
    {more : List Char} {n byte : Nat} {value : Expr} {d : Cursor}
    (hvalue : expr n .inline ⟨ch :: more, byte + byteLength (key.toList ++ (g ++ '=' :: g'))⟩ =
      .ok (value, d)) :
    ∃ keySpan, item (n + 1) ⟨key.toList ++ (g ++ '=' :: (g' ++ ch :: more)), byte⟩ =
      some (.attr ⟨key, keySpan, value, ⟨byte, d.byte⟩⟩, d) := by
  have hkey := Cursor.name_append hname (endsName_of_spaced hg (g' ++ ch :: more)) byte
  have hskip₁ : Cursor.skipInline _ = _ := Cursor.skip_append (isGap_false_of_spaced hg)
    (show Cursor.endsBlanks '=' = true from by decide) (g' ++ ch :: more)
    (byte + byteLength key.toList)
  have hsign := Cursor.expect_append ['='] (g' ++ ch :: more)
    (byte + byteLength key.toList + byteLength g)
  have hskip₂ : Cursor.skipInline _ = _ := Cursor.skip_append (isGap_false_of_spaced hg') hch more
    (byte + byteLength key.toList + byteLength g + byteLength ['='])
  have hbyte : byte + byteLength (key.toList ++ (g ++ '=' :: g')) =
      byte + byteLength key.toList + byteLength g + byteLength ['='] + byteLength g' := by
    rw [← List.singleton_append]
    simp only [byteLength_append]
    omega
  rw [hbyte] at hvalue
  exact ⟨_, item_succ_iff.2 (.attr hkey hskip₁ hsign hskip₂ hvalue)⟩

/-- An attribute is read off a key, a sign, and lines with entries in braces. -/
theorem read_object {key : String} (hname : Cursor.IsName key.toList) (h : Legible file es)
    (hxs : ∀ e ∈ xs, e ∈ es)
    (hkept : List.Forall₂ (fun e fs => List.Forall₂ Kept (lines (file.entryText e).2) fs) xs fss)
    {g g' gap after : List Char} (hg : Spaced g) (hg' : Spaced g') (hafter : Spaced after)
    (hgap : ∀ c ∈ gap, Cursor.isGap true c = true) {rest : List Char} (hrest : Quiet rest)
    (pre : List Char) {text : List Char} (htext : text =
      key.toList ++ (g ++ '=' :: (g' ++ '{' :: (gap ++ (ended fss.flatten ++ (after ++ ['}']))))))
    {n : Nat} (hn : 4 * (text ++ rest).length ≤ n) :
    ∃ a, item n ⟨text ++ rest, byteLength pre⟩ =
        some (.attr a, ⟨rest, byteLength (pre ++ text)⟩) ∧
      a.span = ⟨byteLength pre, byteLength (pre ++ text)⟩ ∧ a.key = key ∧
      ∀ name it, ListsKeys file xs (.parse name (pre ++ text ++ rest)) it (.attr a) := by
  obtain ⟨inner, hinner⟩ :
      ∃ inner, inner = gap ++ (ended fss.flatten ++ (after ++ '}' :: rest)) := ⟨_, rfl⟩
  obtain ⟨front, hfront⟩ : ∃ front, front = pre ++ (key.toList ++ (g ++ '=' :: g')) ++ ['{'] :=
    ⟨_, rfl⟩
  have hT : pre ++ text ++ rest = front ++ inner := by
    rw [htext, hfront, hinner]
    simp
  have hcursor : text ++ rest = key.toList ++ (g ++ '=' :: (g' ++ '{' :: inner)) := by
    rw [htext, hinner]
    simp
  have hstop : front ++ (gap ++ (ended fss.flatten ++ (after ++ ['}']))) = pre ++ text := by
    rw [htext, hfront]
    simp
  have hbyte : byteLength front =
      byteLength pre + byteLength (key.toList ++ (g ++ '=' :: g')) + 1 := by
    have hbrace : byteLength ['{'] = 1 := by decide
    rw [hfront, byteLength_append, byteLength_append, hbrace]
  rw [hcursor] at hn ⊢
  obtain ⟨n, rfl⟩ : ∃ k, n = k + 4 := ⟨n - 4, by
    simp only [List.length_append, List.length_cons] at hn
    omega⟩
  obtain ⟨new, stop, hentries, hnew, next, hskip, hplain⟩ :=
    read_entries h hxs hkept hafter hgap rest front (T := front ++ inner) (by rw [hinner]) []
      (n := n + 1) (by
        rw [hinner] at hn
        simp only [List.length_append, List.length_cons] at hn ⊢
        omega)
  rw [← hinner, hstop, hbyte] at hentries
  rw [← hinner, hbyte] at hskip
  obtain ⟨next', hinline, hstays⟩ := hrest (byteLength (pre ++ text))
  obtain ⟨keySpan, hitem⟩ := item_assigned hname hg hg' (by decide)
    (expr_object hskip hplain hentries hinline hstays)
  refine ⟨_, hitem, rfl, rfl, fun name it => ⟨_, _, _, rfl, rfl, ?_⟩⟩
  rw [hT]
  exact sublist_of_sameKey h hxs hnew name

/-- The text of an object with an entry on each line. -/
theorem enclose_eq (start : List Char) (xs : List Entry) :
    SourceFile.enclose start (xs.map fun e => (file.entryText e).2) =
      if xs.isEmpty then start ++ ['{', '}']
      else start ++ ['{', '\n'] ++ unlines (xs.map fun e => (file.entryText e).2) ++ ['\n', '}'] := by
  cases xs with
  | nil => rfl
  | cons e xs =>
    have hmem : '=' ∈ withoutLayout (unlines ((e :: xs).map fun e => (file.entryText e).2)) := by
      rw [withoutLayout, List.mem_filter]
      refine ⟨?_, by decide⟩
      by_cases hxs : xs = []
      · simp [hxs, SourceFile.entryText]
      · rw [List.map_cons, unlines_cons (by simpa using hxs)]
        simp [SourceFile.entryText]
    rw [SourceFile.enclose, if_neg (by simpa using List.ne_nil_of_mem hmem)]
    rfl

/-- The lines of an object with an entry on each line. -/
theorem lines_object {key : String} (hname : Cursor.IsName key.toList) (h : Legible file es)
    (hxs : ∀ e ∈ xs, e ∈ es) :
    Upright (SourceFile.enclose (key.toList ++ [' ', '=', ' ']) (xs.map fun e => (file.entryText e).2)) ∧
      lines (SourceFile.enclose (key.toList ++ [' ', '=', ' ']) (xs.map fun e => (file.entryText e).2)) =
        if xs.isEmpty then [key.toList ++ [' ', '=', ' '] ++ ['{', '}']]
        else (key.toList ++ [' ', '=', ' '] ++ ['{']) ::
          (xs.flatMap fun e => lines (file.entryText e).2) ++ [['}']] := by
  obtain ⟨⟨c, cs, hkey, hc⟩, hrest⟩ := hname
  have hfeed : '\n' ∉ key.toList := fun hmem => absurd (hrest _ hmem) (by decide)
  have hstart : ∀ more, trimStart (key.toList ++ more) = key.toList ++ more := by
    intro more
    rw [hkey]
    exact trimStart_cons (Cursor.not_isBlank_of_isNameRest (Cursor.isNameRest_of_isNameStart hc)) _
  have hclose : Solid ['}'] := ⟨by simp, by decide⟩
  have hsolid : ∀ text ∈ xs.map fun e => (file.entryText e).2, Solid text := by
    intro text ht
    obtain ⟨e, he, rfl⟩ := List.mem_map.1 ht
    exact (h.upright e (hxs e he)).toSolid
  rw [enclose_eq]
  by_cases hnil : xs = []
  · subst hnil
    refine ⟨⟨?_, ?_⟩, ?_⟩
    · have := hclose.append (key.toList ++ [' ', '=', ' ', '{'])
      simpa using this
    · rw [List.isEmpty_nil, if_pos rfl, List.append_assoc]
      exact hstart _
    · exact lines_of_not_mem (by simpa using hfeed) (by simp)
  · have hempty : xs.isEmpty = false := by simpa using hnil
    rw [hempty, if_neg (by decide), if_neg (by decide)]
    have hbody := solid_unlines hsolid (by simpa using hnil)
    have hopen : Solid (key.toList ++ [' ', '=', ' '] ++ ['{']) :=
      (⟨by simp, by decide⟩ : Solid ['{']).append _
    have htext : key.toList ++ [' ', '=', ' '] ++ ['{', '\n'] ++
        unlines (xs.map fun e => (file.entryText e).2) ++ ['\n', '}'] =
          (key.toList ++ [' ', '=', ' '] ++ ['{']) ++
            '\n' :: (unlines (xs.map fun e => (file.entryText e).2) ++ '\n' :: ['}']) := by
      simp
    rw [htext]
    refine ⟨⟨?_, ?_⟩, ?_⟩
    · have := hclose.append ((key.toList ++ [' ', '=', ' '] ++ ['{']) ++
        '\n' :: (unlines (xs.map fun e => (file.entryText e).2) ++ ['\n']))
      simpa using this
    · rw [List.append_assoc, List.append_assoc]
      exact hstart _
    · rw [hopen.lines_append, hbody.lines_append, lines_unlines_of_solid hsolid, List.flatMap_map,
        lines_of_not_mem (by simpa using hfeed) (by simp)]
      rfl

/-- An attribute is read off the laid out text of an object with an entry on each line. -/
theorem read_kept_object {a : Attribute} (hname : Cursor.IsName a.key.toList) (h : Legible file es)
    (hxs : ∀ e ∈ xs, e ∈ es) {fs : List (List Char)}
    (hkept : List.Forall₂ Kept (lines (SourceFile.enclose (a.key.toList ++ [' ', '=', ' '])
      (xs.map fun e => (file.entryText e).2))) fs) (pre : List Char) {rest : List Char}
    (hrest : Quiet rest) {n : Nat} (hn : 4 * (dedented fs ++ rest).length ≤ n) :
    ∃ it, item n ⟨dedented fs ++ rest, byteLength pre⟩ =
        some (it, ⟨rest, byteLength (pre ++ dedented fs)⟩) ∧
      it.span = ⟨byteLength pre, byteLength (pre ++ dedented fs)⟩ ∧ SameName (.attr a) it ∧
      ∀ name, ListsKeys file xs (.parse name (pre ++ dedented fs ++ rest)) (.attr a) it := by
  rw [(lines_object hname h hxs).2] at hkept
  obtain ⟨g, g', gap, after, fss, hg, hg', hgap, hafter, hfss, htext⟩ : ∃ g g' gap after fss,
      Spaced g ∧ Spaced g' ∧ (∀ c ∈ gap, Cursor.isGap true c = true) ∧ Spaced after ∧
        List.Forall₂ (fun e fs => List.Forall₂ Kept (lines (file.entryText e).2) fs) xs fss ∧
        dedented fs = a.key.toList ++
          (g ++ '=' :: (g' ++ '{' :: (gap ++ (ended fss.flatten ++ (after ++ ['}']))))) := by
    by_cases hnil : xs = []
    · subst hnil
      obtain ⟨f, rfl, hf⟩ := exists_singleton_of_forall₂ hkept
      obtain ⟨g, g', hg, hg', htext⟩ := exists_signs hname (v := ['{', '}'])
        spaced_one spaced_one (plain_of_all (by decide)) ⟨⟨by simp, by decide⟩, by decide⟩ (by simpa using hf)
      refine ⟨g, g', [], [], [], hg, hg', by simp, by simp [Spaced], .nil, ?_⟩
      rw [dedented, unlines_singleton, htext]
      simp
    · have hempty : xs.isEmpty = false := by simpa using hnil
      rw [hempty, if_neg (by decide), List.cons_append] at hkept
      cases hkept with
      | @cons _ f _ ls hf hls =>
        obtain ⟨mid, last, rfl, hmid, hlast⟩ := exists_append_of_forall₂ hls
        obtain ⟨close, rfl, hclose⟩ := exists_singleton_of_forall₂ hlast
        obtain ⟨fss, hfss, rfl⟩ := exists_flatten (fun e => (file.entryText e).2) xs hmid
        obtain ⟨g, g', hg, hg', htext⟩ := exists_signs hname (v := ['{'])
          spaced_one spaced_one (plain_of_all (by decide)) ⟨⟨by simp, by decide⟩, by decide⟩
          (by simpa using hf)
        obtain ⟨after, hafter, rfl⟩ := exists_indent (by decide) (by decide) hclose.1 hclose.2
        refine ⟨g, g', ['\n'], after, fss, hg, hg', by simp [Cursor.isGap], hafter, hfss, ?_⟩
        rw [dedented, unlines_frame, htext]
        simp
  obtain ⟨a', hitem, hspan, hkey, hlists⟩ :=
    read_object hname h hxs hfss hg hg' hafter hgap hrest pre htext hn
  exact ⟨.attr a', hitem, hspan, .attr hkey, fun name => hlists name _⟩

/-- An attribute reads as itself when it is written with an entry on each line. -/
theorem holds_object {a : Attribute} (hname : Cursor.IsName a.key.toList) (h : Legible file es)
    (hxs : ∀ e ∈ xs, e ∈ es) :
    Holds (ListsKeys file xs) (.attr a)
      (SourceFile.enclose (a.key.toList ++ [' ', '=', ' ']) (xs.map fun e => (file.entryText e).2)) :=
  fun _ hkept pre _ hrest _ hn => read_kept_object hname h hxs hkept pre hrest.quiet hn

end Object

/-! ## Entries in one line -/

section Line

variable {file : SourceFile} {e : Entry} {key : String}

theorem startsWord_of_isNameStart {c : Char} (h : Cursor.isNameStart c = true) : startsWord c = true := by
  rw [startsWord, Bool.not_eq_true', Bool.or_eq_false_iff]
  constructor
  · by_contra hdigit
    have hdigits : ∀ n < 10, Cursor.isNameStart (Char.ofNat (n + 48)) = false := by decide
    simp only [Bool.not_eq_false, Char.isDigit, Bool.and_eq_true, decide_eq_true_eq] at hdigit
    have hlow : 48 ≤ c.toNat := hdigit.1
    have hhigh : c.toNat ≤ 57 := hdigit.2
    have hname := hdigits (c.toNat - 48) (by omega)
    rw [Nat.sub_add_cancel hlow, Char.ofNat_toNat, h] at hname
    cases hname
  · by_contra hsign
    rw [Bool.not_eq_false, List.contains_iff_mem] at hsign
    have hsigns : (['"', '[', '{', '(', '<', '!', '-'].all fun d => !Cursor.isNameStart d) = true := by
      decide
    have hname := List.all_eq_true.1 hsigns c hsign
    rw [h] at hname
    cases hname

/-- A comprehension starts with a word of its own. -/
theorem eq_for_of_startsComprehension (hname : Cursor.IsName key.toList) {rest : List Char}
    (hends : Cursor.endsName rest = true) (h : startsComprehension (key.toList ++ rest) = true) :
    key = "for" := by
  unfold startsComprehension at h
  split at h
  · rename_i c more heq
    simp only [Bool.or_eq_true, beq_iff_eq] at h
    have hfor : Cursor.IsName "for".toList :=
      ⟨⟨'f', _, rfl, by decide⟩, List.all_eq_true.1 (by decide)⟩
    have hc : Cursor.endsName (c :: more) = true := by
      rcases h with (((rfl | rfl) | rfl) | rfl) | rfl <;> rfl
    have hread := Cursor.name_append hfor hc 0
    rw [show "for".toList ++ c :: more = key.toList ++ rest from heq.symm,
      Cursor.name_append hname hends] at hread
    exact (Prod.mk.inj (Option.some.inj hread)).1
  · cases h

/-- A name before a sign is read as a word. -/
theorem expr_name (hname : Cursor.IsName key.toList) {g x : List Char} (hg : Spaced g)
    (hx : x.head? ≠ some '=') (n byte : Nat) :
    expr (n + 4) .inline ⟨key.toList ++ (g ++ '=' :: x), byte⟩ =
      .ok (.node (some ⟨byte, byte + byteLength key.toList⟩) (wordForm key),
        ⟨g ++ '=' :: x, byte + byteLength key.toList⟩) := by
  have hread := Cursor.name_append hname (endsName_of_spaced hg x) byte
  have hskip : Cursor.skipInline ⟨g ++ '=' :: x, byte + byteLength key.toList⟩ =
      some ⟨'=' :: x, byte + byteLength key.toList + byteLength g⟩ :=
    Cursor.skip_append (isGap_false_of_spaced hg) (by decide) x _
  have hone : Cursor.qualifiers false (n + 1) [key] ⟨g ++ '=' :: x, byte + byteLength key.toList⟩ =
      some ([key], ⟨g ++ '=' :: x, byte + byteLength key.toList⟩) := by
    unfold Cursor.qualifiers
    rw [show Cursor.skip false _ = _ from hskip]
    rfl
  have hstays : Stays .inline ('=' :: x) := by
    show operator? ('=' :: x) = none
    cases x with
    | nil => rfl
    | cons c cs =>
      have hc : c ≠ '=' := fun heq => hx (congrArg some heq)
      unfold operator?
      split
      all_goals first | rfl | (rename_i heq; simp_all)
  obtain ⟨⟨c, cs, hkey, hc⟩, hrest⟩ := hname
  have hword := word_succ_iff.2 (.bare (m := .inline) (n := n + 1) hread hone hskip (by simp) rfl)
  have hterm := TermStep.word (x := c) (by rw [hkey]; rfl) (startsWord_of_isNameStart hc) hword
  exact expr_succ_iff.2 ⟨_, _, _, term_succ_iff.2 hterm, operations_succ_iff.2 (.stay hskip hstays)⟩

/-- A text in quotes that needs no escapes is read as one run of literal text. -/
theorem templateParts_label {s : String} (h : Unescaped s) (rest : List Char) (n byte : Nat) :
    ∃ parts, templateParts (n + 2) .quote [] ⟨s.toList ++ '"' :: rest, byte⟩ =
      .ok (parts, ⟨'"' :: rest, byte + byteLength s.toList⟩) ∧ quotedForm parts = .string s := by
  have hends : ∀ m ps byte, templateParts (m + 1) .quote ps ⟨'"' :: rest, byte⟩ =
      .ok (ps, ⟨'"' :: rest, byte⟩) := by
    intro m ps byte
    exact parts_succ_iff.2 (.stop rfl rfl)
  by_cases hnil : s.toList = []
  · obtain rfl : s = "" := by rw [← String.ofList_toList (s := s), hnil]
    exact ⟨[], hends (n + 1) _ _, rfl⟩
  · obtain ⟨hm, hc⟩ := h.chars
    have hrun := Cursor.quotedRun_label h.verbatim hnil rest byte
    refine ⟨[.literal s], ?_, rfl⟩
    obtain ⟨c, cs, hs⟩ := List.exists_cons_of_ne_nil hnil
    have hquote : c ≠ '"' := (ne_of_escapeChar (hc c (by rw [hs]; exact List.mem_cons_self))).1
    have hliteral : startsSequence (c :: cs ++ '"' :: rest) = false := by
      rw [hs] at hm
      -- A marker is followed by a brace nowhere, and so opens no sequence.
      have hopen : isMarker c = true → ∀ r, cs ++ '"' :: rest ≠ '{' :: r := by
        intro hmark r heq
        cases cs with
        | nil => simp at heq
        | cons d cs =>
          obtain rfl : d = '{' := (List.cons.inj heq).1
          simp [unmarked, hmark] at hm
      unfold startsSequence
      split
      · rename_i r heq
        obtain ⟨rfl, htail⟩ := List.cons.inj heq
        exact absurd htail (hopen rfl r)
      · rename_i r heq
        obtain ⟨rfl, htail⟩ := List.cons.inj heq
        exact absurd htail (hopen rfl r)
      · rfl
    rw [← hs] at hliteral
    have hnot : Closer.quote.comesNext (s.toList ++ '"' :: rest) = false := by
      rw [hs]
      simpa [Closer.comesNext] using hquote
    have hread : Closer.quote.literalRun ⟨s.toList ++ '"' :: rest, byte⟩ =
        .ok (s, ⟨'"' :: rest, byte + byteLength s.toList⟩) := congrArg (liftM : Option _ → Reading _) hrun
    exact parts_succ_iff.2 (.literal hliteral hnot hread (hends n _ _))

/-- A text in quotes that needs no escapes is read as a string. -/
theorem expr_label {s : String} (h : Unescaped s) {rest : List Char} (hrest : Quiet rest) (n byte : Nat) :
    expr (n + 4) .inline ⟨Cursor.labelText s ++ rest, byte⟩ =
      .ok (.node (some ⟨byte, byte + byteLength (Cursor.labelText s)⟩) (.string s),
        ⟨rest, byte + byteLength (Cursor.labelText s)⟩) := by
  obtain ⟨parts, hparts, hform⟩ := templateParts_label h rest n (byte + 1)
  obtain ⟨next, hskip, hstays⟩ := hrest (byte + byteLength (Cursor.labelText s))
  have hclose := Cursor.expect_append ['"'] rest (byte + 1 + byteLength s.toList)
  have hbyte : byte + 1 + byteLength s.toList + byteLength ['"'] =
      byte + byteLength (Cursor.labelText s) := by
    have hquote : byteLength ['"'] = 1 := by decide
    rw [Cursor.byteLength_labelText, hquote]
    omega
  rw [hbyte] at hclose
  have htext : Cursor.labelText s ++ rest = '"' :: (s.toList ++ '"' :: rest) := by
    simp [Cursor.labelText]
  have hterm := TermStep.quoted (m := .inline) (c := ⟨Cursor.labelText s ++ rest, byte⟩) htext hparts hclose
  rw [hform] at hterm
  exact expr_succ_iff.2 ⟨_, _, _, term_succ_iff.2 hterm, operations_succ_iff.2 (.stay hskip hstays)⟩

/-- A value in one line that is read as it stands. -/
structure Brief (v : List Char) : Prop where
  line : '\n' ∉ v
  plain : Plain v
  upright : Upright v
  start : ∃ d more, v = d :: more ∧ Cursor.endsBlanks d = true ∧ d ≠ '='
  reads : ∀ rest, Quiet rest → ∀ byte n, 4 * (v ++ rest).length ≤ n →
    ∃ e, expr n .inline ⟨v ++ rest, byte⟩ = .ok (e, ⟨rest, byte + byteLength v⟩)

/-- A text in quotes that needs no escapes is such a value. -/
theorem brief_label {s : String} (h : Unescaped s) (hplain : Plain s.toList) :
    Brief (Cursor.labelText s) where
  line := by
    intro hmem
    simp only [Cursor.labelText, List.mem_cons, List.mem_append, List.not_mem_nil, or_false] at hmem
    rcases hmem with hmem | hmem | hmem
    · exact absurd hmem (by decide)
    · exact (ne_of_escapeChar (h.chars.2 _ hmem)).2.2.1 rfl
    · exact absurd hmem (by decide)
  plain := by
    intro c hc hblank
    simp only [Cursor.labelText, List.mem_cons, List.mem_append, List.not_mem_nil, or_false] at hc
    rcases hc with rfl | hc | rfl
    · cases hblank
    · exact hplain c hc hblank
    · cases hblank
  upright := ⟨(⟨by simp, by decide⟩ : Solid ['"']).append ('"' :: s.toList), trimStart_cons (by decide) _⟩
  start := ⟨'"', _, rfl, by decide, by decide⟩
  reads rest hrest byte n hn := by
    obtain ⟨n, rfl⟩ : ∃ k, n = k + 4 := ⟨n - 4, by
      simp only [Cursor.labelText, List.length_append, List.length_cons] at hn
      omega⟩
    exact ⟨_, expr_label h hrest n byte⟩

/-- An entry in one line, with a name as its key. -/
structure InLine (file : SourceFile) (e : Entry) (key : String) : Prop where
  name : Cursor.IsName key.toList
  plain : key ≠ "for"
  form : e.key.form = wordForm key
  key : file.exprText e.key = key.toList
  value : Brief (file.exprText e.value)

namespace InLine

theorem text (h : InLine file e key) :
    (file.entryText e).2 = key.toList ++ [' ', '=', ' '] ++ file.exprText e.value := by
  rw [SourceFile.entryText, h.key]

theorem upright_key (h : InLine file e key) : Upright key.toList := by
  obtain ⟨⟨c, cs, hc, hstart⟩, -⟩ := id h.name
  refine ⟨h.name.solid, ?_⟩
  rw [hc]
  exact trimStart_cons (Cursor.not_isBlank_of_isNameRest (Cursor.isNameRest_of_isNameStart hstart)) _

theorem upright (h : InLine file e key) : Upright (file.entryText e).2 := by
  rw [h.text]
  refine ⟨h.value.upright.toSolid.append _, ?_⟩
  obtain ⟨⟨c, cs, hc, hstart⟩, -⟩ := id h.name
  rw [hc]
  exact trimStart_cons (Cursor.not_isBlank_of_isNameRest (Cursor.isNameRest_of_isNameStart hstart)) _

/-- An entry in one line reads as itself. -/
theorem entryHolds (h : InLine file e key) (texts : List (List Char)) : EntryHolds file texts e := by
  obtain ⟨hname, hfor, hform, hkey, hfeed, hplain, hu, ⟨d, more, hv, hd, hsign⟩, hreads⟩ := id h
  have hline : lines (file.entryText e).2 = [(file.entryText e).2] := by
    have hkeyFeed : '\n' ∉ key.toList := fun hmem => absurd (hname.rest _ hmem) (by decide)
    rw [h.text]
    exact lines_of_not_mem (by simp [hkeyFeed, hfeed]) (by simp)
  intro fs hkept pre rest hcontinues n hn
  rw [hline, h.text] at hkept
  obtain ⟨f, rfl, hf⟩ := exists_singleton_of_forall₂ hkept
  obtain ⟨g, g', hg, hg', hded⟩ := exists_signs hname spaced_one spaced_one hplain hu (by simpa using hf)
  obtain ⟨gap, next, rfl, -, -⟩ := hcontinues
  have hdedented : dedented [f] = key.toList ++ (g ++ '=' :: (g' ++ file.exprText e.value)) := by
    rw [dedented, unlines_singleton, hded]
  rw [hdedented] at hn ⊢
  have hnosign : (g' ++ (file.exprText e.value ++ '\n' :: (gap ++ next))).head? ≠ some '=' := by
    rw [hv]
    cases g' with
    | nil => simpa using hsign
    | cons c cs =>
      have hc := hg' c List.mem_cons_self
      simp only [List.cons_append, List.head?_cons, ne_eq, Option.some.injEq]
      rintro rfl
      exact absurd hc (by decide)
  obtain ⟨n, rfl⟩ : ∃ k, n = k + 4 := ⟨n - 4, by
    simp only [List.length_append, List.length_cons] at hn
    omega⟩
  have hread := expr_name hname hg hnosign n (byteLength pre)
  have hskip₁ : Cursor.skipInline ⟨g ++ '=' :: (g' ++ (file.exprText e.value ++ '\n' :: (gap ++ next))),
      byteLength pre + byteLength key.toList⟩ = some _ :=
    Cursor.skip_append (isGap_false_of_spaced hg) (by decide) _ _
  have hexpect := Cursor.expect_append ['='] (g' ++ (file.exprText e.value ++ '\n' :: (gap ++ next)))
    (byteLength pre + byteLength key.toList + byteLength g)
  have hskip₂ : Cursor.skipInline ⟨g' ++ (d :: (more ++ '\n' :: (gap ++ next))),
      byteLength pre + byteLength key.toList + byteLength g + byteLength ['=']⟩ = some _ :=
    Cursor.skip_append (isGap_false_of_spaced hg') hd _ _
  obtain ⟨value, hvalue⟩ := hreads ('\n' :: (gap ++ next)) (fun _ => ⟨_, rfl, rfl⟩)
    (byteLength pre + byteLength key.toList + byteLength g + byteLength ['='] + byteLength g') (n + 4)
    (by
      simp only [List.length_append, List.length_cons] at hn ⊢
      omega)
  have hcursor : key.toList ++ (g ++ '=' :: (g' ++ file.exprText e.value)) ++ '\n' :: (gap ++ next) =
      key.toList ++ (g ++ '=' :: (g' ++ (file.exprText e.value ++ '\n' :: (gap ++ next)))) := by simp
  have hbyte : byteLength pre + byteLength key.toList + byteLength g + byteLength ['='] +
      byteLength g' + byteLength (file.exprText e.value) =
        byteLength (pre ++ (key.toList ++ (g ++ '=' :: (g' ++ file.exprText e.value)))) := by
    have hsigns : byteLength ('=' :: (g' ++ file.exprText e.value)) =
        byteLength ['='] + byteLength (g' ++ file.exprText e.value) := byteLength_append ['='] _
    simp only [byteLength_append, hsigns]
    omega
  rw [hbyte] at hvalue
  rw [hcursor]
  refine ⟨_, value, ⟨?_, _, _, _, _, hread, hskip₁, hexpect, ?_, hvalue⟩, ?_, ?_⟩
  · rw [Bool.eq_false_iff]
    exact fun h => hfor (eq_for_of_startsComprehension hname (endsName_of_spaced hg _) h)
  · rw [hv]
    exact hskip₂
  · generalize e.key = key' at hform
    obtain ⟨span, form⟩ := key'
    obtain rfl : form = wordForm key := hform
    rintro ⟨span', form'⟩
    simp only [Expr.same, and_self]
  · intro name
    rw [hkey]
    rw [List.append_assoc, hcursor, ← List.append_assoc pre, ← byteLength_append]
    exact SourceFile.slice_rangeOf h.upright_key

end InLine

theorem eq_of_same_wordForm {a b : String} (h : (wordForm a).same (wordForm b) = true) : a = b := by
  unfold wordForm at h
  split_ifs at h <;> simp_all [Form.same]

/-- Entries in one line each read as themselves. -/
theorem legible_of_inLine {es : List Entry} (h : ∀ e ∈ es, ∃ key, InLine file e key) :
    Legible file es where
  upright e he := (h e he).elim fun _ hline => hline.upright
  holds e he := (h e he).elim fun _ hline => hline.entryHolds _
  apart e he e' he' hsame := by
    obtain ⟨key, hline⟩ := h e he
    obtain ⟨key', hline'⟩ := h e' he'
    have hforms : e.key.form.same e'.key.form = true := by
      generalize e.key = k, e'.key = k' at hsame
      cases k
      cases k'
      rwa [Expr.same] at hsame
    rw [hline.form, hline'.form] at hforms
    rw [hline.key, hline'.key, eq_of_same_wordForm hforms]

end Line

end TerraLint.Layout
