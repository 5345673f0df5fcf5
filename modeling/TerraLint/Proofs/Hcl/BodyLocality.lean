import TerraLint.Proofs.Hcl.Locality
import TerraLint.Proofs.Hcl.Placement

/-!
# Structures with less text behind

A structure that is read before a text `t` is read without it, too: a block ends at its brace, an
attribute where its line does.

* `LocalBody`, `body_locality`: every reader of bodies.
-/

namespace TerraLint.Hcl

open Text Cursor

variable {t : List Char} {c d e : Cursor} {n : Nat}

/-! ## Line ends and labels -/

theorem endOfLine_again (h : c.endOfLine = some d) : c.skipLines = d.skipLines := by
  obtain ⟨c₁, hskip, h⟩ := Option.bind_eq_some_iff.1 h
  have hagain : c.skipLines = c₁.skipLines := skip_again (fun _ => rfl) hskip
  split at h
  · obtain rfl := Option.some.inj h
    exact hagain
  · exact hagain.trans (lineBreak_again h)

theorem endOfLine_of_ahead (h : (c.ahead t).endOfLine = some (d.ahead t)) :
    c.endOfLine = some d := by
  obtain ⟨c₁, hskip, h⟩ := Option.bind_eq_some_iff.1 h
  obtain ⟨c₁, rfl⟩ : ∃ c' : Cursor, c₁ = c'.ahead t := by
    split at h
    · exact ⟨d, Option.some.inj h⟩
    · exact exists_ahead (reaches_lineBreak h)
  unfold endOfLine
  rw [skipInline, skip_of_ahead hskip]
  simp only [Option.bind_eq_bind, Option.bind_some]
  split at h
  · rename_i hnil
    rw [(List.append_eq_nil_iff.1 hnil).1]
    exact congrArg some (ahead_inj.1 (Option.some.inj h))
  · split
    · rename_i hnil
      exact absurd hnil (ne_nil_of_lineBreak (lineBreak_of_ahead h))
    · exact lineBreak_of_ahead h

theorem quotedLabel_of_ahead {label : String} (h : (c.ahead t).quotedLabel = some (label, d.ahead t)) :
    c.quotedLabel = some (label, d) := by
  rw [quotedLabel_iff] at h ⊢
  cases h with
  | empty hopen hclose =>
    obtain ⟨c₁, rfl⟩ := exists_ahead (reaches_expect hclose)
    exact .empty (expect_of_ahead hopen) (expect_of_ahead hclose)
  | @run c₁ c₂ _ _ hopen hrun hclose =>
    obtain ⟨c₂, rfl⟩ := exists_ahead (reaches_expect hclose)
    have hreach : Reaches c₁ (c₂.ahead t) := (quotedRun_iff.1 hrun).reaches
    obtain ⟨c₁, rfl⟩ := exists_ahead hreach
    have hclose' := expect_of_ahead hclose
    have hrest : c₂.rest = '"' :: d.rest := (expect_eq_some.1 hclose').1
    have hrun' : Closer.quote.Runs [] c₁ label c₂ := by
      refine Closer.Runs.of_ahead ?_ ?_ (quotedRun_iff.1 hrun)
      · rw [hrest]
        exact fun hsequence => by cases hsequence
      · rw [hrest]
        exact fun _ => rfl
    exact .run (expect_of_ahead hopen) (quotedRun_iff.2 hrun') hclose'

theorem labels_of_ahead {read ls : List String} (hd : d.rest ≠ [])
    (h : (c.ahead t).labels n read = some (ls, d.ahead t)) : c.labels n read = some (ls, d) := by
  induction n generalizing read c with
  | zero => cases h
  | succ n ih =>
    rw [labels_succ_iff] at h ⊢
    generalize hc : c.ahead t = c', hd' : d.ahead t = d' at h
    cases h with
    | stop hbrace =>
      obtain rfl := ahead_inj.1 (hc.trans hd'.symm)
      refine .stop ?_
      rw [← hc, ahead, List.head?_append_of_ne_nil _ hd] at hbrace
      exact hbrace
    | more hlabel hskip hmore =>
      subst hc hd'
      obtain ⟨c₂, rfl⟩ := exists_ahead (reaches_labels hmore)
      obtain ⟨c₁, rfl⟩ := exists_ahead (reaches_skip hskip)
      exact .more (hlabel.imp quotedLabel_of_ahead name_of_ahead) (skip_of_ahead hskip) (ih hmore)

/-! ## Bodies -/

/-- What the readers of bodies with a bound give before `t` they give without it. -/
structure LocalBody (t : List Char) (n : Nat) : Prop where
  items : ∀ {read c all d}, Unambiguous c.rest → d.rest ≠ [] →
    items n read (c.ahead t) = some (all, d.ahead t) → items n read c = some (all, d)
  item : ∀ {c it d}, Unambiguous c.rest → (∀ a, it = .attr a → Clear t d) →
    item n (c.ahead t) = some (it, d.ahead t) → item n c = some (it, d)
  blockBody : ∀ {c body d}, Unambiguous c.rest →
    blockBody n (c.ahead t) = some (body, d.ahead t) → blockBody n c = some (body, d)

theorem reaches_items {read all : List Item} (h : items n read c = some (all, d)) : Reaches c d := by
  obtain ⟨_, _, hstack⟩ := (places n).items h
  exact hstack.reaches

theorem closes_item {it : Item} (h : item n c = some (it, d)) : Closes c d :=
  ((places n).item h).closes

/-- Structures that are read before `t` start before it. -/
theorem exists_skipLines_of_items {read all : List Item}
    (h : items n read c = some (all, d.ahead t)) : ∃ e : Cursor, c.skipLines = some (e.ahead t) := by
  cases n with
  | zero => simp [Hcl.items] at h
  | succ n =>
    generalize hd : d.ahead t = d' at h
    cases items_succ_iff.1 h with
    | stop hskip => exact ⟨d, hd ▸ hskip⟩
    | more hskip hitem _ hend hmore =>
      subst hd
      obtain ⟨e, rfl⟩ := exists_ahead
        ((closes_item hitem).reaches.trans ((endOfLine_spec hend).1.trans (reaches_items hmore)))
      exact ⟨e, hskip⟩

namespace LocalBody

variable (ih : LocalBody t n)

include ih

theorem items_succ {read all : List Item} (hs : Unambiguous c.rest) (hd : d.rest ≠ [])
    (h : Hcl.items (n + 1) read (c.ahead t) = some (all, d.ahead t)) :
    Hcl.items (n + 1) read c = some (all, d) := by
  rw [items_succ_iff] at h ⊢
  generalize hd' : d.ahead t = d' at h
  cases h with
  | stop hskip hstop =>
    subst hd'
    refine .stop (skip_of_ahead hskip) (.inr ?_)
    rw [ahead, List.head?_append_of_ne_nil _ hd] at hstop
    exact hstop.resolve_left fun hnil => hd (List.append_eq_nil_iff.1 hnil).1
  | more hskip hitem hfresh hend hmore =>
    subst hd'
    obtain ⟨c₃, rfl⟩ := exists_ahead (reaches_items hmore)
    obtain ⟨c₂, rfl⟩ := exists_ahead (endOfLine_spec hend).1
    obtain ⟨c₁, rfl⟩ := exists_ahead (closes_item hitem).reaches
    have hskip' := skip_of_ahead hskip
    have hs₁ := hs.after (reaches_skip hskip')
    obtain ⟨e, he⟩ := exists_skipLines_of_items hmore
    have hclear : Clear t c₂ := .inr ⟨e, (endOfLine_again hend).trans he⟩
    have hitem' := ih.item hs₁ (fun _ _ => hclear) hitem
    have hend' := endOfLine_of_ahead hend
    have hs₃ := hs₁.after ((closes_item hitem').reaches.trans (endOfLine_spec hend').1)
    exact .more hskip' hitem' hfresh hend' (ih.items hs₃ hd hmore)

theorem item_step {it : Item} (hs : Unambiguous c.rest) (hd : ∀ a, it = .attr a → Clear t d)
    (h : ItemStep n (c.ahead t) it (d.ahead t)) : ItemStep n c it d := by
  generalize hd' : d.ahead t = d' at h
  cases h with
  | attr hname h₂ hsign h₄ hvalue =>
    subst hd'
    obtain ⟨c₄, rfl⟩ := exists_ahead (closes_expr hvalue).reaches
    obtain ⟨c₃, rfl⟩ := exists_ahead (reaches_skip h₄)
    obtain ⟨c₂, rfl⟩ := exists_ahead (reaches_expect hsign)
    obtain ⟨c₁, rfl⟩ := exists_ahead (reaches_skip h₂)
    have hname' := name_of_ahead hname
    have h₂' := skip_of_ahead h₂
    have hsign' := expect_of_ahead hsign
    have h₄' := skip_of_ahead h₄
    have hreach := ((closes_name hname').reaches.trans (reaches_skip h₂')).trans
      ((reaches_expect hsign').trans (reaches_skip h₄'))
    exact .attr hname' h₂' hsign' h₄'
      ((locality t n).expr (hs.after hreach) (hd _ rfl) hvalue)
  | block hname h₂ hne hlabels hbody =>
    subst hd'
    obtain ⟨c₃, rfl⟩ := exists_ahead ((places n).blockBody hbody).1.reaches
    obtain ⟨c₂, rfl⟩ := exists_ahead (reaches_labels hlabels)
    obtain ⟨c₁, rfl⟩ := exists_ahead (reaches_skip h₂)
    have hname' := name_of_ahead hname
    have h₂' := skip_of_ahead h₂
    -- The labels end before the brace, which stands before `t`.
    have hbrace : c₃.rest ≠ [] := by
      have hlt := ((places n).blockBody hbody).1.length_lt
      intro hnil
      dsimp only [ahead] at hlt
      rw [hnil, List.nil_append, List.length_append] at hlt
      omega
    have hlabels' := labels_of_ahead hbrace hlabels
    have hreach := (closes_name hname').reaches.trans ((reaches_skip h₂').trans
      (reaches_labels hlabels'))
    refine .block hname' h₂' (fun hhead => hne ?_) hlabels' (ih.blockBody (hs.after hreach) hbody)
    obtain ⟨rest, hrest⟩ := List.head?_eq_some_iff.1 hhead
    rw [ahead, hrest]
    rfl

theorem item_succ {it : Item} (hs : Unambiguous c.rest) (hd : ∀ a, it = .attr a → Clear t d)
    (h : Hcl.item (n + 1) (c.ahead t) = some (it, d.ahead t)) :
    Hcl.item (n + 1) c = some (it, d) :=
  item_succ_iff.2 (ih.item_step hs hd (item_succ_iff.1 h))

theorem blockBody_succ {body : List Item} (hs : Unambiguous c.rest)
    (h : Hcl.blockBody (n + 1) (c.ahead t) = some (body, d.ahead t)) :
    Hcl.blockBody (n + 1) c = some (body, d) := by
  rw [blockBody_succ_iff] at h ⊢
  generalize hd : d.ahead t = d' at h
  cases h with
  | empty hopen h₂ hclose =>
    subst hd
    obtain ⟨c₂, rfl⟩ := exists_ahead (reaches_expect hclose)
    obtain ⟨c₁, rfl⟩ := exists_ahead (reaches_skip h₂)
    exact .empty (expect_of_ahead hopen) (skip_of_ahead h₂) (expect_of_ahead hclose)
  | lines hopen h₂ hbreak hitems hclose =>
    subst hd
    obtain ⟨c₄, rfl⟩ := exists_ahead (reaches_expect hclose)
    obtain ⟨c₃, rfl⟩ := exists_ahead (reaches_items hitems)
    obtain ⟨c₂, rfl⟩ := exists_ahead (reaches_lineBreak hbreak)
    obtain ⟨c₁, rfl⟩ := exists_ahead (reaches_skip h₂)
    have hopen' := expect_of_ahead hopen
    have h₂' := skip_of_ahead h₂
    have hbreak' := lineBreak_of_ahead hbreak
    have hclose' := expect_of_ahead hclose
    have hne : c₄.rest ≠ [] := by
      rw [(expect_eq_some.1 hclose').1]
      exact List.cons_ne_nil _ _
    have hreach := (reaches_expect hopen').trans ((reaches_skip h₂').trans
      (reaches_lineBreak hbreak'))
    exact .lines hopen' h₂' hbreak' (ih.items (hs.after hreach) hne hitems) hclose'
  | inline hopen h₂ hitem h₄ hclose =>
    subst hd
    obtain ⟨c₄, rfl⟩ := exists_ahead (reaches_expect hclose)
    obtain ⟨c₃, rfl⟩ := exists_ahead (reaches_skip h₄)
    obtain ⟨c₂, rfl⟩ := exists_ahead (stands_attribute hitem).closes.reaches
    obtain ⟨c₁, rfl⟩ := exists_ahead (reaches_skip h₂)
    have hopen' := expect_of_ahead hopen
    have h₂' := skip_of_ahead h₂
    have hclose' := expect_of_ahead hclose
    have hclear : Clear t c₃ := clear_of_token h₄ (expect_eq_some.1 hclose').1 (by decide)
    have hs₂ := hs.after ((reaches_expect hopen').trans (reaches_skip h₂'))
    exact .inline hopen' h₂' (ih.item_step hs₂ (fun _ _ => hclear) hitem) (skip_of_ahead h₄) hclose'

end LocalBody

/-- What is read of a body before `t` is read without it. -/
theorem body_locality (t : List Char) (n : Nat) : LocalBody t n := by
  induction n with
  | zero =>
    constructor
    all_goals
      intros
      rename_i h
      simp only [items, item, blockBody, reduceCtorEq] at h
  | succ n ih => exact ⟨ih.items_succ, ih.item_succ, ih.blockBody_succ⟩

end TerraLint.Hcl
