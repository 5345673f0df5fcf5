import TerraLint.Format
import TerraLint.Proofs.Format.Assignment

/-!
# Lines in their normal layout

A line in its normal layout differs from the line as written in blanks only: those at its ends and
those around the sign of an assignment. Reading it in the place of the line as written therefore
leads to the same state, gives it the same kind and balance, and its normal layout is itself again.

* `Relaid`: a text is a line in its normal layout, at some level and width.
* `core`: what the layout of a line leaves alone.
* `Progress.step_congr`: reading a line with the same core.
* `Relaid.render`: laying out a line in its normal layout again.
-/

namespace TerraLint.Format

open Text

/-- The line with other text. -/
def Line.withRaw (line : Line) (raw : List Char) : Line := { line with raw := raw }

@[simp] theorem Line.withRaw_kind (line : Line) (raw : List Char) :
    (line.withRaw raw).kind = line.kind := rfl

@[simp] theorem Line.withRaw_net (line : Line) (raw : List Char) :
    (line.withRaw raw).net = line.net := rfl

@[simp] theorem Line.withRaw_raw (line : Line) (raw : List Char) :
    (line.withRaw raw).raw = raw := rfl

/-- A text is a line in its normal layout, at some level and with some width of its key column. -/
def Relaid (line : Line) (out : List Char) : Prop :=
  ∃ level width, out = (Row.ofLine line level).render width

/-! ## The three kinds of lines -/

theorem Row.render_blank {line : Line} (h : line.kind = .blank) (level width : Nat) :
    (Row.ofLine line level).render width = [] := by
  simp [Row.render, Row.ofLine, h]

theorem Row.render_verbatim {line : Line} (h : line.kind = .verbatim) (level width : Nat) :
    (Row.ofLine line level).render width = trimEnd line.raw := by
  simp [Row.render, Row.ofLine, h]

/-- The text of a code line without its indentation. -/
def codeText (width : Nat) (raw : List Char) : List Char :=
  match Assignment.parse? (trim raw) with
  | some a => a.render width
  | none => trim raw

theorem Row.render_code {line : Line} (h : line.kind = .code) (level width : Nat) :
    (Row.ofLine line level).render width =
      List.replicate (2 * level) ' ' ++ codeText width line.raw := by
  obtain ⟨raw, kind, net⟩ := line
  dsimp only at h
  subst h
  rfl

theorem trim_codeText (width : Nat) (raw : List Char) :
    trim (codeText width raw) = codeText width raw := by
  unfold codeText
  split
  · rename_i a h
    exact Assignment.trim_render h width
  · exact trim_trim raw

theorem parse?_codeText (width : Nat) (raw : List Char) :
    Assignment.parse? (codeText width raw) = Assignment.parse? (trim raw) := by
  unfold codeText
  split
  · rename_i a h
    rw [Assignment.parse?_render h, h]
  · rfl

theorem line_codeText {s : Scan} (hs : s.Valid) (width : Nat) (raw : List Char) :
    s.line (codeText width raw) = s.line raw := by
  unfold codeText
  split
  · rename_i a h
    rw [Assignment.line_render hs h (trimEnd_trim raw), Scan.line_trim hs]
  · exact Scan.line_trim hs raw

theorem squeeze_codeText (width : Nat) (raw : List Char) :
    squeeze (codeText width raw) = squeeze raw := by
  unfold codeText
  split
  · rename_i a h
    rw [Assignment.squeeze_render h (trimEnd_trim raw), squeeze_trim]
  · exact squeeze_trim raw

theorem mem_of_mem_trim {c : Char} {cs : List Char} (h : c ∈ trim cs) : c ∈ cs := by
  obtain ⟨a, b, -, -, hcs⟩ := exists_trim cs
  rw [hcs]
  simp [h]

theorem mem_codeText {width : Nat} {raw : List Char} {c : Char} (h : c ∈ codeText width raw) :
    c ∈ raw ∨ c = ' ' := by
  unfold codeText at h
  split at h
  · rename_i a ha
    exact (Assignment.mem_render ha (trimEnd_trim raw) h).imp_left mem_of_mem_trim
  · exact Or.inl (mem_of_mem_trim h)

/-! ## What the layout leaves alone -/

/-- What the layout of a line leaves alone: the assignment that it holds, or else its text without
the blanks around it. -/
def core (raw : List Char) : Option Assignment × List Char :=
  match Assignment.parse? (trim raw) with
  | some a => (some a, [])
  | none => (none, trim raw)

section Core

variable {raw raw' : List Char}

theorem core_of_some {a : Assignment} (h : Assignment.parse? (trim raw) = some a) :
    core raw = (some a, []) := by
  unfold core
  rw [h]

theorem core_of_none (h : Assignment.parse? (trim raw) = none) : core raw = (none, trim raw) := by
  unfold core
  rw [h]

theorem parse?_congr (h : core raw' = core raw) :
    Assignment.parse? (trim raw') = Assignment.parse? (trim raw) := by
  have hfst : ∀ cs, (core cs).1 = Assignment.parse? (trim cs) := by
    intro cs
    unfold core
    split <;> simp_all
  rw [← hfst, ← hfst, h]

theorem codeText_congr (h : core raw' = core raw) (width : Nat) :
    codeText width raw' = codeText width raw := by
  have hparse := parse?_congr h
  unfold codeText
  rw [hparse]
  cases hp : Assignment.parse? (trim raw) with
  | some a => rfl
  | none =>
    rw [core_of_none hp, core_of_none (hparse.trans hp)] at h
    exact (Prod.mk.inj h).2

theorem core_eq_of_trim (h : trim raw' = trim raw) : core raw' = core raw := by
  unfold core
  rw [h]

theorem core_eq_of_codeText {width : Nat} (h : trim raw' = codeText width raw) :
    core raw' = core raw := by
  have hparse : Assignment.parse? (trim raw') = Assignment.parse? (trim raw) := by
    rw [h, parse?_codeText]
  cases hp : Assignment.parse? (trim raw) with
  | some a => rw [core_of_some hp, core_of_some (hparse.trans hp)]
  | none =>
    rw [core_of_none hp, core_of_none (hparse.trans hp), h]
    unfold codeText
    rw [hp]

theorem squeeze_congr (h : core raw' = core raw) : squeeze raw' = squeeze raw := by
  rw [← squeeze_codeText 0 raw', codeText_congr h, squeeze_codeText]

theorem allBlank_congr (h : core raw' = core raw) : allBlank raw' = allBlank raw := by
  rw [Bool.eq_iff_iff, ← squeeze_eq_nil_iff, ← squeeze_eq_nil_iff, squeeze_congr h]

theorem line_congr {s : Scan} (hs : s.Valid) (h : core raw' = core raw) :
    s.line raw' = s.line raw := by
  rw [← line_codeText hs 0 raw', codeText_congr h, line_codeText hs]

/-- A text without a sign of an assignment is a line without its blanks only if the line assigns
nothing. -/
theorem trim_eq_iff_of_core (h : core raw' = core raw) {id : List Char} (hid : '=' ∉ id) :
    trim raw' = id ↔ trim raw = id := by
  have hparse := parse?_congr h
  cases hp : Assignment.parse? (trim raw) with
  | none =>
    rw [core_of_none hp, core_of_none (hparse.trans hp)] at h
    rw [(Prod.mk.inj h).2]
  | some a =>
    have hmem : ∀ {cs : List Char}, Assignment.parse? (trim cs) = some a → trim cs ≠ id := by
      intro cs hcs heq
      obtain ⟨b₁, b₂, -, -, hcontent, -⟩ := Assignment.eq_of_parse? hcs (trimEnd_trim cs)
      exact hid (by rw [← heq, hcontent]; simp)
    exact ⟨fun heq => absurd heq (hmem (hparse.trans hp)), fun heq => absurd heq (hmem hp)⟩

end Core

theorem trim_indented (n width : Nat) (raw : List Char) :
    trim (List.replicate n ' ' ++ codeText width raw) = codeText width raw := by
  rw [trim_blank_append (allBlank_spaces n), trim_codeText]

/-! ## A laid out line -/

namespace Relaid

variable {line : Line} {out : List Char}

theorem core_eq (h : Relaid line out) (hb : line.kind = .blank → allBlank line.raw = true) :
    core out = core line.raw := by
  obtain ⟨level, width, rfl⟩ := h
  cases hk : line.kind with
  | blank =>
    rw [Row.render_blank hk]
    exact core_eq_of_trim (by rw [trim_eq_nil_iff.2 (hb hk), trim_eq_nil_iff.2 rfl])
  | verbatim =>
    rw [Row.render_verbatim hk]
    exact core_eq_of_trim (trim_trimEnd _)
  | code =>
    rw [Row.render_code hk]
    exact core_eq_of_codeText (trim_indented _ width _)

/-- The normal layout has no blank at the end of a line. -/
theorem trimEnd_eq (h : Relaid line out) (hc : line.kind = .code → allBlank line.raw = false) :
    trimEnd out = out := by
  obtain ⟨level, width, rfl⟩ := h
  cases hk : line.kind with
  | blank => rw [Row.render_blank hk, trimEnd_nil]
  | verbatim => rw [Row.render_verbatim hk, trimEnd_trimEnd]
  | code =>
    have hself : trimEnd (codeText width line.raw) = codeText width line.raw := by
      conv_lhs => rw [← trim_codeText, trimEnd_trim, trim_codeText]
    have hne : codeText width line.raw ≠ [] := by
      intro hnil
      have := squeeze_codeText width line.raw
      rw [hnil, eq_comm, show squeeze [] = [] from rfl, squeeze_eq_nil_iff, hc hk] at this
      cases this
    rw [Row.render_code hk, trimEnd_append (by rwa [hself]), hself]

/-- The normal layout adds no characters but spaces. -/
theorem mem (h : Relaid line out) {c : Char} (hc : c ∈ out) : c ∈ line.raw ∨ c = ' ' := by
  obtain ⟨level, width, rfl⟩ := h
  cases hk : line.kind with
  | blank => simp [Row.render_blank hk] at hc
  | verbatim =>
    rw [Row.render_verbatim hk] at hc
    exact Or.inl ((List.rdropWhile_prefix isBlank line.raw).subset hc)
  | code =>
    rw [Row.render_code hk, List.mem_append] at hc
    rcases hc with hc | hc
    · exact Or.inr (List.eq_of_mem_replicate hc)
    · exact mem_codeText hc

/-- Laying out a line in its normal layout gives what laying out the line gives. -/
theorem render (h : Relaid line out) (level width : Nat) :
    (Row.ofLine (line.withRaw out) level).render width = (Row.ofLine line level).render width := by
  obtain ⟨lv, w, rfl⟩ := h
  cases hk : line.kind with
  | blank =>
    have hk' : (line.withRaw ((Row.ofLine line lv).render w)).kind = .blank := hk
    rw [Row.render_blank hk', Row.render_blank hk]
  | verbatim =>
    have hk' : (line.withRaw ((Row.ofLine line lv).render w)).kind = .verbatim := hk
    rw [Row.render_verbatim hk', Row.render_verbatim hk, Row.render_verbatim hk, Line.withRaw_raw,
      trimEnd_trimEnd]
  | code =>
    have hk' : (line.withRaw ((Row.ofLine line lv).render w)).kind = .code := hk
    rw [Row.render_code hk', Row.render_code hk, Row.render_code hk, Line.withRaw_raw,
      codeText_congr (core_eq_of_codeText (trim_indented _ w _))]

end Relaid

/-! ## Reading a laid out line -/

namespace Progress

/-- What a step makes of its line. -/
theorem step_raw (p : Progress) (raw : List Char) : (p.step raw).2.raw = raw := by
  unfold step
  split
  · rfl
  · split
    · rfl
    · split <;> rfl

theorem step_blank {p : Progress} {raw : List Char} (h : (p.step raw).2.kind = .blank) :
    allBlank raw = true := by
  unfold step at h
  split at h
  · cases h
  · split at h
    · cases h
    · split at h
      · assumption
      · cases h

theorem step_code {p : Progress} {raw : List Char} (h : (p.step raw).2.kind = .code) :
    allBlank raw = false := by
  unfold step at h
  split at h
  · cases h
  · split at h
    · cases h
    · split at h
      · cases h
      · simpa using ‹¬allBlank raw = true›

/-- A state that occurs between two lines. -/
structure Valid (p : Progress) : Prop where
  scan : p.scan.Valid
  pending : ∀ id ∈ p.pending, '=' ∉ id

theorem valid_start : start.Valid := ⟨Scan.valid_start, nofun⟩

theorem step_valid {p : Progress} (hp : p.Valid) (raw : List Char) : (p.step raw).1.Valid := by
  obtain ⟨scan, pending⟩ := p
  obtain ⟨hs, hpend⟩ := hp
  have hline := Scan.line_valid hs raw
  dsimp only at hs hpend hline
  cases pending with
  | cons id others =>
    simp only [step]
    split
    · exact ⟨hs, fun id' h => hpend id' (List.mem_cons_of_mem _ h)⟩
    · exact ⟨hs, hpend⟩
  | nil =>
    simp only [step]
    split
    · exact ⟨hline, nofun⟩
    · split
      · exact ⟨hs, nofun⟩
      · exact ⟨⟨hline.nested, hline.comment, nofun⟩, hline.heredocs⟩

/-- Reading a line with the same core leads to the same state and gives it the same kind and the
same balance. -/
theorem step_congr {p : Progress} (hp : p.Valid) {raw raw' : List Char}
    (h : core raw' = core raw) :
    p.step raw' = ((p.step raw).1, (p.step raw).2.withRaw raw') := by
  obtain ⟨scan, pending⟩ := p
  cases pending with
  | cons id others =>
    have hid := trim_eq_iff_of_core h (hp.pending id List.mem_cons_self)
    simp only [step, Line.withRaw, hid]
  | nil =>
    have hline := line_congr hp.scan h
    dsimp only at hline
    simp only [step, allBlank_congr h, hline, Line.withRaw]
    split
    · rfl
    · split <;> rfl

end Progress

theorem Row.ofLine_assignment {line : Line} {raw : List Char} (h : core raw = core line.raw)
    (level : Nat) :
    (Row.ofLine (line.withRaw raw) level).assignment = (Row.ofLine line level).assignment := by
  simp only [Row.ofLine, Line.withRaw_kind, Line.withRaw_raw, parse?_congr h]

end TerraLint.Format
