import TerraLint.Proofs.Rule.Places
import TerraLint.Rule.CountIndex
import TerraLint.Rule.Heredoc
import TerraLint.Rule.VariableName

/-!
# Issues about terms differ

The rules about expressions look at the terms in the values of a file. A term with a span starts with
a token of its own, so that what is reported at one term differs from what is reported at another,
and each range shows the text of its term. A term without a span is reported at the null range.

* `termStarts_subperm`: the terms in all values of a body are some of what starts in it.
* `spread_heredocs`, `exists_spread_countIndexes`, `exists_spread_references`: the three rules.
-/

namespace TerraLint

open Text Hcl

namespace Hcl

mutual

theorem termStarts_subperm_block :
    ∀ b : Block, (b.allAttributes.flatMap fun a => a.value.termStarts).Subperm b.starts
  | ⟨kind, labels, body, span⟩ => by
    rw [Block.allAttributes, Block.starts_eq]
    exact (termStarts_subperm body).trans (List.sublist_cons_self _ _).subperm

/-- The terms in all values of a body are some of what starts in it. -/
theorem termStarts_subperm : ∀ items : List Item,
    ((Body.allAttributes items).flatMap fun a => a.value.termStarts).Subperm
      (items.flatMap Item.starts)
  | [] => by
    rw [Body.allAttributes, nestedAttributes]
    exact List.Subperm.refl _
  | .attr a :: items => by
    have hrest := termStarts_subperm items
    have heq : Body.allAttributes (.attr a :: items) = a :: Body.allAttributes items := by
      rw [Body.allAttributes, Body.allAttributes, nestedAttributes]
      rfl
    rw [heq, List.flatMap_cons, List.flatMap_cons, Item.starts, List.cons_append]
    exact ((List.subperm_append_left _).2 hrest).trans (List.sublist_cons_self _ _).subperm
  | .block b :: items => by
    have hrest := termStarts_subperm items
    have heq : (Body.allAttributes (.block b :: items)).Perm
        (b.allAttributes ++ Body.allAttributes items) := by
      have hattributes : Body.attributes (.block b :: items) = Body.attributes items := rfl
      unfold Body.allAttributes
      rw [nestedAttributes, hattributes, ← List.append_assoc, ← List.append_assoc]
      exact List.perm_append_comm.append_right _
    rw [List.flatMap_cons, Item.starts]
    refine (heq.flatMap_right _).subperm.trans ?_
    rw [List.flatMap_append]
    exact (termStarts_subperm_block b).append hrest

end

/-- The terms of an expression show parts of a text. -/
def Expr.Anchored (text : List Char) (e : Expr) : Prop :=
  ∀ x ∈ e.preorder, ∃ d, Shown (.ofText text) d x

theorem Expr.mem_preorder_self (e : Expr) : e ∈ e.preorder := by
  rw [Expr.preorder_eq]
  exact List.mem_cons_self

theorem Expr.mem_preorder_of_child {e child x : Expr} (hchild : child ∈ e.children)
    (hx : x ∈ child.preorder) : x ∈ e.preorder := by
  rw [Expr.preorder_eq]
  exact List.mem_cons_of_mem _ (List.mem_flatMap.2 ⟨child, hchild, hx⟩)

theorem Expr.mem_preorder_iff {e x : Expr} :
    x ∈ e.preorder ↔ x = e ∨ ∃ child ∈ e.children, x ∈ child.preorder := by
  rw [Expr.preorder_eq, List.mem_cons, List.mem_flatMap]

theorem Expr.mem_preorder_trans {e y x : Expr} (hy : y ∈ e.preorder) (hx : x ∈ y.preorder) :
    x ∈ e.preorder := by
  rcases Expr.mem_preorder_iff.1 hy with rfl | ⟨child, hchild, hy⟩
  · exact hx
  · have : sizeOf child < sizeOf e := Expr.size_lt_of_mem_children hchild
    exact Expr.mem_preorder_of_child hchild (mem_preorder_trans hy hx)
termination_by sizeOf e

theorem Expr.Anchored.of_mem {text : List Char} {e x : Expr} (h : e.Anchored text)
    (hx : x ∈ e.preorder) : x.Anchored text :=
  fun y hy => h y (Expr.mem_preorder_trans hx hy)

theorem Expr.Anchored.child {text : List Char} {e child : Expr} (h : e.Anchored text)
    (hchild : child ∈ e.children) : child.Anchored text :=
  fun x hx => h x (Expr.mem_preorder_of_child hchild hx)

section

variable {text : List Char} {d : Cursor} {body : Body} (h : Stack (.ofText text) d body)

include h

theorem Stack.sited {a : Attribute} (ha : a ∈ body.allAttributes) :
    ∃ c' d', Reaches (.ofText text) c' ∧ Sited c' d' [a.value] := by
  obtain ⟨c₁, d₁, hreach, hstands⟩ := h.exists_of_inside (inside_of_mem_body ha)
  cases hstands with
  | attr _ _ _ ha =>
    obtain ⟨c₂, hclose, hsited⟩ := ha.value
    exact ⟨c₂, d₁, hreach.trans hclose.reaches, hsited⟩

theorem Stack.anchored {a : Attribute} (ha : a ∈ body.allAttributes) : a.value.Anchored text := by
  obtain ⟨c', d', hreach, hsited⟩ := h.sited ha
  exact fun x hx => ⟨d', (hsited.shown _ List.mem_cons_self x hx).mono hreach (.refl _)⟩

theorem Stack.nodup_termStarts {as : List Attribute} (has : as.Sublist body.allAttributes) :
    (as.flatMap fun a => a.value.termStarts).Nodup :=
  (nodup_of_subperm (termStarts_subperm body) h.tokens.nodup).sublist (has.flatMap _)

end

end Hcl

theorem Hcl.Expr.termStart?_eq_some {x : Expr} (hterm : x.form.isTerm = true) {span : Span}
    (hspan : x.span = some span) : x.termStart? = some span.start := by
  unfold Expr.termStart?
  rw [if_pos hterm, hspan]
  rfl

theorem Hcl.Expr.termStarts_eq_flatMap (e : Expr) :
    e.termStarts = e.preorder.flatMap fun x => x.termStart?.toList :=
  List.filterMap_eq_flatMap_toList _ _

/-! ## Heredocs -/

/-- A range in a file shows the first line of a heredoc. -/
def SourceFile.MarksHeredoc (file : SourceFile) (range : SourceRange) : Prop :=
  ∃ mid, file.Shows range mid ∧ '\n' ∉ mid ∧ ['<', '<'] <+: mid

theorem SourceFile.MarksHeredoc.marks {file : SourceFile} {range : SourceRange}
    (h : file.MarksHeredoc range) : file.Marks range := by
  obtain ⟨mid, hshows, -⟩ := h
  exact ⟨mid, hshows⟩

/-- The first line of a text that was read ends where its line does, or where the text does. -/
theorem firstLine_reads {name : String} {text mid : List Char} {c d : Cursor}
    (hc : Reaches (.ofText text) c) (h : Reads c d mid) :
    Heredoc.firstLine (.parse name text) ⟨c.byte, d.byte⟩ = (SourceFile.parse name text).range c.byte
      (c.byte + byteLength (mid.takeWhile (· != '\n'))) := by
  obtain ⟨before, htext, hbefore⟩ := SourceFile.exists_of_reaches hc
  have hdrop : dropBytes? c.byte text = some c.rest :=
    dropBytes?_eq_some_iff.2 ⟨before, htext, hbefore.symm⟩
  have hmid := List.takeWhile_append_dropWhile (p := (· != '\n')) (l := mid)
  have hlength := congrArg byteLength hmid
  rw [byteLength_append] at hlength
  unfold Heredoc.firstLine
  dsimp only [SourceFile.parse]
  rw [hdrop, Option.getD_some, h.rest, List.takeWhile_append, h.byte]
  split
  · -- The text has one line, which may go on behind it.
    rename_i hall
    have hwhole : mid.takeWhile (· != '\n') = mid :=
      (List.takeWhile_prefix _).eq_of_length hall
    rw [hwhole, byteLength_append]
    congr 1
    split <;> omega
  · rename_i hpart
    have hle : (mid.takeWhile (· != '\n')).length ≤ mid.length :=
      (List.takeWhile_prefix _).length_le
    rw [if_pos (by rw [List.length_append]; omega)]
    congr 1
    omega

theorem spread_checkHeredoc {name : String} {text : List Char} {e x : Expr} (h : e.Anchored text)
    (hx : x ∈ e.preorder) {content : String} (hcontent : x.heredocText? = some content) :
    Spread (SourceFile.parse name text).MarksHeredoc x.termStart?.toList
      (Heredoc.check (.parse name text) (x, content)) := by
  unfold Heredoc.check
  split
  · rename_i message span _ hspan
    obtain ⟨marker, parts, hform⟩ : ∃ marker parts, x.form = .heredoc marker parts := by
      unfold Expr.heredocText? at hcontent
      split at hcontent
      · exact ⟨_, _, ‹_›⟩
      · cases hcontent
    have hterm : x.form.isTerm = true := by rw [hform]; rfl
    obtain ⟨d, hshown⟩ := h x hx
    obtain ⟨c', d', mid, hstart, hreads, -, rfl, hsign⟩ := hshown.term hterm span hspan
    rw [hform] at hsign
    obtain ⟨more, rfl⟩ := hsign
    let line := '<' :: '<' :: more.takeWhile (· != '\n')
    have hline : (['<', '<'] ++ more).takeWhile (· != '\n') = line := by simp [line]
    have hfirst : Reads c' ⟨more.dropWhile (· != '\n') ++ d'.rest, c'.byte + byteLength line⟩
        line := by
      refine ⟨?_, rfl, '<', _, rfl, by decide⟩
      rw [hreads.rest]
      simp [line, ← List.append_assoc]
    have hsolid : Solid ['<', '<'] := ⟨by decide, by decide⟩
    rw [Expr.termStart?_eq_some hterm hspan, firstLine_reads hstart hreads, hline]
    refine Spread.reads hstart hfirst ⟨_, SourceFile.shows_reads hstart hfirst, ?_, ?_⟩ message
    · intro hmem
      have hmem := (List.rdropWhile_prefix _ line).subset hmem
      rw [← hline] at hmem
      have hne := List.mem_takeWhile_imp hmem
      simp at hne
    · exact hsolid.prefix_trimEnd ⟨_, rfl⟩
  · exact .nil

theorem spread_heredocs {name : String} {text : List Char} {d : Cursor} {body : Body}
    (h : Stack (.ofText text) d body) :
    Spread (SourceFile.parse name text).MarksHeredoc
      (body.allAttributes.flatMap fun a => a.value.termStarts)
      (Rule.heredocUsage.findings (.parse name text) body) := by
  unfold Rule.heredocUsage
  dsimp only
  rw [List.flatMap_assoc]
  refine Spread.flatMap _ (fun a ha => ?_) (h.nodup_termStarts (List.Sublist.refl _))
  have hnodup : a.value.termStarts.Nodup :=
    (List.nodup_flatMap.1 (h.nodup_termStarts (List.Sublist.refl _))).1 a ha
  rw [Expr.termStarts_eq_flatMap] at hnodup ⊢
  unfold Expr.heredocs
  rw [List.filterMap_eq_flatMap_toList, List.flatMap_assoc]
  refine Spread.flatMap _ (fun x hx => ?_) hnodup
  cases hcontent : x.heredocText? with
  | none => exact .nil
  | some content =>
    have hcheck := @spread_checkHeredoc name text _ _ (h.anchored ha) hx _ hcontent
    rw [Option.map_some, Option.toList_some, List.flatMap_singleton]
    exact hcheck

/-! ## `count.index` -/

theorem nodup_eraseDups {α : Type} [BEq α] [LawfulBEq α] (xs : List α) : xs.eraseDups.Nodup := by
  match xs with
  | [] => exact .nil
  | x :: xs =>
    rw [List.eraseDups_cons, List.nodup_cons]
    refine ⟨fun hmem => ?_, nodup_eraseDups _⟩
    have hne := (List.mem_filter.1 (List.mem_eraseDups.1 hmem)).2
    rw [beq_self_eq_true] at hne
    cases hne
termination_by xs.length
decreasing_by exact Nat.lt_succ_of_le (List.length_filter_le _ _)

theorem Hcl.Expr.mem_countIndexes {nested : Bool} {e x : Expr} (h : x ∈ e.countIndexes nested) :
    x ∈ e.preorder ∧ x.isCountIndex = true := by
  rw [Expr.countIndexes] at h
  split at h
  · rename_i hfound
    obtain rfl := List.mem_singleton.1 h
    exact ⟨x.mem_preorder_self, (Bool.and_eq_true_iff.1 hfound).2⟩
  · obtain ⟨⟨⟨marked, child⟩, hplace⟩, -, hx⟩ := List.mem_flatMap.1 h
    have hchild : child ∈ e.children := by
      rw [Expr.children, ← Form.map_places]
      exact List.mem_map.2 ⟨_, hplace, rfl⟩
    have : sizeOf child < sizeOf e := Expr.size_lt_of_mem_children hchild
    obtain ⟨hmem, hfound⟩ := mem_countIndexes hx
    exact ⟨Expr.mem_preorder_of_child hchild hmem, hfound⟩
termination_by sizeOf e

theorem Hcl.Expr.form_of_name? {e : Expr} {name : String} (h : e.name? = some name) :
    e.form = .variable name := by
  unfold Expr.name? at h
  split at h
  · rename_i hform
    rw [hform, Option.some.inj h]
  · cases h

/-- A traversal that starts with the variable `count` and the step `.index`. -/
def Hcl.Expr.StartsAtIndex (x : Expr) : Prop :=
  ∃ root span steps, x.form = .traversal root (.attr span "index" :: steps) ∧
    root.form = .variable "count"

theorem Hcl.Expr.isCountIndex_iff {x : Expr} : x.isCountIndex = true ↔ x.StartsAtIndex := by
  constructor
  · intro h
    unfold Expr.isCountIndex at h
    split at h
    · rename_i root span name steps hform
      obtain ⟨hroot, hname⟩ := Bool.and_eq_true_iff.1 h
      obtain rfl := beq_iff_eq.1 hname
      exact ⟨root, span, steps, hform, Expr.form_of_name? (beq_iff_eq.1 hroot)⟩
    · cases h
  · rintro ⟨root, span, steps, hform, hroot⟩
    unfold Expr.isCountIndex
    rw [hform]
    simp [Expr.name?, hroot]

/-- A reference to `count.index` was read between two cursors, up to the end of its first step. -/
structure ReadsIndex (text : List Char) (x : Expr) (c d : Cursor) (mid : List Char) : Prop where
  form : ∃ root place span steps, x.form = .traversal root (.attr span "index" :: steps) ∧
    root.form = .variable "count" ∧ root.span = some place ∧ place.start = c.byte ∧
    span.stop = d.byte
  start : Reaches (.ofText text) c
  reads : Reads c d mid
  first : "count".toList <+: mid
  last : "index".toList <:+ mid

/-- Cursors behind the start of a text that have one offset have one text left. -/
theorem rest_eq_of_byte {text : List Char} {c c' : Cursor} (h : Reaches (.ofText text) c)
    (h' : Reaches (.ofText text) c') (hbyte : c.byte = c'.byte) : c.rest = c'.rest := by
  obtain ⟨before, htext, hbefore⟩ := SourceFile.exists_of_reaches h
  obtain ⟨before', htext', hbefore'⟩ := SourceFile.exists_of_reaches h'
  have hdrop : dropBytes? c.byte text = some c.rest :=
    dropBytes?_eq_some_iff.2 ⟨before, htext, hbefore.symm⟩
  have hdrop' : dropBytes? c.byte text = some c'.rest :=
    dropBytes?_eq_some_iff.2 ⟨before', htext', hbyte.trans hbefore' |>.symm⟩
  exact Option.some.inj (hdrop.symm.trans hdrop')

theorem Hcl.Expr.Anchored.readsIndex {text : List Char} {x : Expr} (h : x.Anchored text)
    (hindex : x.isCountIndex = true) (hspanned : x.Spanned) :
    ∃ c d mid, ReadsIndex text x c d mid := by
  obtain ⟨root, span, steps, hform, hroot⟩ := Expr.isCountIndex_iff.1 hindex
  obtain ⟨place, hplace⟩ := Option.isSome_iff_exists.1 (hspanned.root root _ hform)
  have hterm : root.form.isTerm = true := by rw [hroot]; rfl
  have hmem : root ∈ x.preorder := by
    refine Expr.mem_preorder_of_child ?_ root.mem_preorder_self
    rw [Expr.children, hform]
    exact List.mem_cons_self
  obtain ⟨stop, hx⟩ := h x x.mem_preorder_self
  obtain ⟨c, d, mid, hstart, hreads, -, hfrom, hto, hend⟩ :=
    hx.step root _ steps hform hterm place hplace
  obtain ⟨stop', hr⟩ := h root hmem
  obtain ⟨c', d', word, hstart', hreads', -, hspan, hword⟩ := hr.term hterm place hplace
  rw [hroot] at hword
  obtain ⟨rfl, -⟩ := hword
  have hlast : "index".toList <:+ mid := hend.1
  -- The root is read from where the reference is, so that its name comes first.
  have hrest : c.rest = c'.rest := rest_eq_of_byte hstart hstart' (by rw [← hfrom, hspan])
  rw [hreads.rest, hreads'.rest] at hrest
  have hcount : "count".toList <+: mid ++ d.rest := ⟨d'.rest, hrest.symm⟩
  have hlength : "count".toList.length = "index".toList.length := by decide
  exact ⟨c, d, mid, ⟨root, place, span, steps, hform, hroot, hplace, hfrom, hto⟩, hstart, hreads,
    List.prefix_of_prefix_length_le hcount (List.prefix_append mid d.rest)
      (hlength.trans_le hlast.length_le), hlast⟩

/-- The range of a reference to `count.index` goes from its root up to the end of its first step. -/
theorem ReadsIndex.range_eq {text : List Char} {x : Expr} {c d : Cursor} {mid : List Char}
    (h : ReadsIndex text x c d mid) (file : SourceFile) :
    file.countIndexRange x = file.range c.byte d.byte := by
  obtain ⟨root, place, span, steps, hform, -, hplace, hfrom, hto⟩ := h.form
  unfold SourceFile.countIndexRange
  rw [hform, ← hfrom, ← hto]
  dsimp only
  rw [hplace]
  rfl

/-- The ranges of references to `count.index` are made different before they are reported. -/
theorem exists_spread_countIndexes {name : String} {text : List Char} {d : Cursor} {body : Body}
    (h : Stack (.ofText text) d body) :
    ∃ starts, Spread (SourceFile.parse name text).Marks starts
      (Rule.countIndexUsage.findings (.parse name text) body) := by
  let found := body.allAttributes.flatMap fun a => a.value.countIndexes false
  let ranges := (found.map (SourceFile.parse name text).countIndexRange).eraseDups
  refine ⟨ranges.map fun r => r.start.byte, ?_, fun f hf => ?_⟩
  · exact (nodup_eraseDups _).map fun r r' heq => (Finding.issue.inj heq).2
  · obtain ⟨r, hr, rfl⟩ := List.mem_map.1 hf
    refine ⟨_, r, rfl, ?_⟩
    obtain ⟨e, he, rfl⟩ := List.mem_map.1 (List.mem_eraseDups.1 hr)
    obtain ⟨a, ha, he⟩ := List.mem_flatMap.1 he
    obtain ⟨hmem, hfound⟩ := Expr.mem_countIndexes he
    obtain ⟨c', d', -, hsited⟩ := h.sited ha
    have hspanned := hsited.spanned _ (List.mem_singleton.2 rfl) e hmem
    obtain ⟨c', stop, mid, hread⟩ := ((h.anchored ha).of_mem hmem).readsIndex hfound hspanned
    have hrange := hread.range_eq (.parse name text)
    have hbyte : ((SourceFile.parse name text).countIndexRange e).start.byte ∈
        ranges.map fun r => r.start.byte := List.mem_map_of_mem hr
    rw [hrange] at hbyte ⊢
    exact ⟨⟨_, SourceFile.shows_reads hread.start hread.reads⟩,
      SourceFile.line_range_pos name text _ _, hbyte⟩

/-! ## Names of variables -/

/-- A range in a file shows the word that a reference to a variable starts with. -/
def SourceFile.MarksVar (file : SourceFile) (range : SourceRange) : Prop :=
  file.Shows range "var".toList

theorem Hcl.Expr.form_root {e : Expr} {r : Reference} (h : e.reference? = some r) :
    r.root ∈ e.preorder ∧ r.root.form = .variable r.rootName := by
  unfold Expr.reference? at h
  split at h
  · rename_i name hform
    obtain rfl := Option.some.inj h
    exact ⟨e.mem_preorder_self, hform⟩
  · rename_i root steps hform
    obtain ⟨name, hname, rfl⟩ := Option.map_eq_some_iff.1 h
    have hchild : root ∈ e.children := by
      rw [Expr.children, hform]
      exact List.mem_cons_self
    exact ⟨Expr.mem_preorder_of_child hchild root.mem_preorder_self, Expr.form_of_name? hname⟩
  · cases h

/-- A reference starts with its first name. -/
theorem Hcl.Expr.mem_references {e : Expr} {r : Reference} (h : r ∈ e.references) :
    r.root ∈ e.preorder ∧ r.root.form = .variable r.rootName := by
  rw [Expr.references] at h
  split at h
  · rename_i r' hr'
    rcases List.mem_cons.1 h with rfl | h
    · exact Expr.form_root hr'
    · obtain ⟨⟨child, hchild⟩, -, hr⟩ := List.mem_flatMap.1 h
      have hchild := List.mem_of_mem_drop hchild
      have : sizeOf child < sizeOf e := Expr.size_lt_of_mem_children hchild
      obtain ⟨hmem, hform⟩ := mem_references hr
      exact ⟨Expr.mem_preorder_of_child hchild hmem, hform⟩
  · obtain ⟨⟨child, hchild⟩, -, hr⟩ := List.mem_flatMap.1 h
    have : sizeOf child < sizeOf e := Expr.size_lt_of_mem_children hchild
    obtain ⟨hmem, hform⟩ := mem_references hr
    exact ⟨Expr.mem_preorder_of_child hchild hmem, hform⟩
termination_by sizeOf e

namespace VariableName

mutual

theorem nestedVisited_sublist : ∀ items : List Item,
    (nestedVisited items).Sublist (nestedAttributes items)
  | [] => by
    rw [nestedVisited, nestedAttributes]
  | .attr _ :: items => by
    rw [nestedVisited, nestedAttributes]
    exact nestedVisited_sublist items
  | .block b :: items => by
    rw [nestedVisited, nestedAttributes]
    refine List.Sublist.append ?_ (nestedVisited_sublist items)
    split
    · exact List.nil_sublist _
    · exact visited_sublist b

theorem visited_sublist : ∀ b : Block, (visited b).Sublist b.allAttributes
  | ⟨_, _, body, _⟩ => by
    rw [visited, Block.allAttributes]
    exact (nestedVisited_sublist body).append_left _

end

theorem nestedAttributes_eq_flatMap (items : List Item) :
    nestedAttributes items = (Body.blocks items).flatMap Block.allAttributes := by
  induction items with
  | nil => rw [nestedAttributes]; rfl
  | cons item items ih =>
    cases item with
    | attr a => rw [nestedAttributes, ih]; rfl
    | block b => rw [nestedAttributes, ih]; rfl

/-- The attributes that are looked at are some of all attributes. -/
theorem visited_blocks_sublist (body : Body) (p : Block → Bool) :
    ((body.blocks.filter p).flatMap visited).Sublist body.allAttributes := by
  have hnested : ((body.blocks.filter p).flatMap Block.allAttributes).Sublist
      (nestedAttributes body) := by
    rw [nestedAttributes_eq_flatMap]
    exact List.filter_sublist.flatMap _
  have hvisited := List.Sublist.flatMap_right (body.blocks.filter p) fun b _ => visited_sublist b
  exact (hvisited.trans hnested).trans (List.sublist_append_right _ _)

theorem termStarts_assigned_sublist (e : Expr) :
    ((assigned e).flatMap Expr.termStarts).Sublist e.termStarts := by
  unfold assigned
  split
  · rename_i cond yes no hform
    rw [Expr.termStarts_eq e, termStart?_eq_none (by rw [hform]; rfl), Expr.children, hform]
    exact List.sublist_append_right _ _
  · rw [List.flatMap_singleton]
  · exact List.nil_sublist _

theorem anchored_assigned {text : List Char} {e x : Expr} (h : e.Anchored text)
    (hx : x ∈ assigned e) : x.Anchored text := by
  unfold assigned at hx
  split at hx
  · rename_i cond yes no hform
    refine h.child ?_
    rw [Expr.children, hform]
    exact List.mem_cons_of_mem _ hx
  · obtain rfl := List.mem_singleton.1 hx
    exact h
  · cases hx

theorem misnamed_ne_unnamed (property variableName : String) :
    "Variable or Property name is empty" ≠
      "Property:`" ++ property ++ "` Variable:`" ++ variableName ++
        "` is invalid, expected var name:$\x7bprefix\x7d" ++ property := by
  intro heq
  have hhead := congrArg (fun s => s.toList.head?) heq
  simp at hhead

variable {name : String} {text : List Char}

/-- The two issues about a reference stand at one range and say different things. -/
theorem spread_checkReference {P : SourceRange → Prop} {property : String} {r : Reference}
    {starts : List Nat}
    (h : ∀ m, Spread P starts [.issue m ((SourceFile.parse name text).exprRange r.root)]) :
    Spread P starts (checkReference (.parse name text) property r) := by
  have hne := misnamed_ne_unnamed property r.name
  unfold checkReference
  dsimp only
  split
  · split
    · exact h _
    · refine ⟨?_, fun f hf => ?_⟩
      · refine List.nodup_cons.2 ⟨fun hmem => ?_, (h _).nodup⟩
        exact hne (Finding.issue.inj (List.mem_singleton.1 hmem)).1
      · rcases List.mem_cons.1 hf with rfl | hf
        · exact (h _).within _ (List.mem_singleton.2 rfl)
        · exact (h _).within f hf
  · split
    · exact .nil
    · exact h _

theorem filter_checkReference_eq_nil {file : SourceFile} {property : String} {r : Reference}
    (h : r.root.span = none) : (checkReference file property r).filter Finding.isPlaced = [] := by
  have hrange : file.exprRange r.root = .null := by
    unfold SourceFile.exprRange
    rw [h]
  unfold checkReference
  dsimp only
  rw [hrange]
  split <;> split <;> rfl

/-- A reference to a variable stands at the word that it starts with. -/
theorem spread_checkExpr {property : String} {e : Expr} (h : e.Anchored text) :
    Spread (SourceFile.parse name text).MarksVar e.termStarts
      ((checkExpr (.parse name text) property e).filter Finding.isPlaced) := by
  unfold checkExpr
  split
  · rename_i r hr
    split
    · rename_i hvar
      have hmem : r ∈ e.references := by
        rw [hr]
        exact List.mem_singleton.2 rfl
      obtain ⟨hroot, hform⟩ := Expr.mem_references hmem
      have hterm : r.root.form.isTerm = true := by rw [hform]; rfl
      cases hspan : r.root.span with
      | none =>
        rw [filter_checkReference_eq_nil hspan]
        exact .nil
      | some span =>
        refine Spread.sublist (spread_checkReference fun m => ?_) List.filter_sublist
        obtain ⟨d, hshown⟩ := h r.root hroot
        obtain ⟨c', d', mid, hstart, hreads, -, rfl, hword⟩ := hshown.term hterm span hspan
        rw [hform, hvar] at hword
        obtain ⟨rfl, -⟩ := hword
        have hrange : (SourceFile.parse name text).exprRange r.root =
            (SourceFile.parse name text).range c'.byte d'.byte := by
          unfold SourceFile.exprRange
          rw [hspan]
          rfl
        rw [hrange]
        refine (Spread.reads hstart hreads (SourceFile.shows_reads hstart hreads) m).grow ?_
        rw [Expr.termStarts_eq_flatMap]
        refine List.mem_flatMap.2 ⟨r.root, hroot, ?_⟩
        rw [Expr.termStart?_eq_some hterm hspan]
        exact List.mem_singleton.2 rfl
    · exact .nil
  · exact .nil

theorem spread_checkAttribute {a : Attribute} (h : a.value.Anchored text)
    (hnodup : a.value.termStarts.Nodup) :
    Spread (SourceFile.parse name text).MarksVar a.value.termStarts
      ((checkAttribute (.parse name text) a).filter Finding.isPlaced) := by
  have hsub := termStarts_assigned_sublist a.value
  unfold checkAttribute
  split
  · exact .nil
  · rw [List.filter_flatMap]
    refine (Spread.flatMap _ (fun x hx => ?_) (hnodup.sublist hsub)).mono hsub.subset
    exact spread_checkExpr (anchored_assigned h hx)

end VariableName

/-- What is reported about references with a span. -/
theorem exists_spread_references {name : String} {text : List Char} {d : Cursor} {body : Body}
    (h : Stack (.ofText text) d body) :
    ∃ starts, Spread (SourceFile.parse name text).MarksVar starts
      ((Rule.variableNameConvention.findings (.parse name text) body).filter Finding.isPlaced) := by
  have hsub := VariableName.visited_blocks_sublist body isResource
  have hnodup := h.nodup_termStarts hsub
  unfold Rule.variableNameConvention
  dsimp only
  rw [List.filter_flatMap]
  refine ⟨_, Spread.flatMap _ (fun a ha => ?_) hnodup⟩
  exact VariableName.spread_checkAttribute (h.anchored (hsub.subset ha))
    ((List.nodup_flatMap.1 hnodup).1 a ha)

end TerraLint
