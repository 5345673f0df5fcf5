import Mathlib.Data.List.Chain
import TerraLint.Proofs.Hcl.Body
import TerraLint.Proofs.Hcl.Placement
import TerraLint.Proofs.Hcl.Trivia

/-!
# What stands between two structures

Between two structures of a body that follow each other stand blanks and comments only.

* `Apart`: only blanks and comments stand between two cursors.
* `Follows`: a structure stands behind another with nothing else between them.
* `isChain_follows`: each structure of a body follows the one before it.
-/

namespace TerraLint.Hcl

open Text Cursor

/-- Only blanks and comments stand between two cursors. -/
def Apart (c d : Cursor) : Prop :=
  ∃ comments text, Gap true comments text ∧ c.rest = text ++ d.rest ∧
    d.byte = c.byte + byteLength text

theorem Apart.trans {c d e : Cursor} (h : Apart c d) (h' : Apart d e) : Apart c e := by
  obtain ⟨comments, text, hgap, hrest, hbyte⟩ := h
  obtain ⟨comments', text', hgap', hrest', hbyte'⟩ := h'
  refine ⟨_, _, hgap.append hgap', by rw [hrest, hrest', List.append_assoc], ?_⟩
  rw [hbyte', hbyte, byteLength_append, Nat.add_assoc]

theorem Apart.of_reaches {c d : Cursor} (h : Reaches c d)
    (hgap : ∃ comments text, Gap true comments text ∧ c.rest = text ++ d.rest) : Apart c d := by
  obtain ⟨comments, text, hgap, hrest⟩ := hgap
  exact ⟨comments, text, hgap, hrest, h.byte_eq hrest⟩

theorem apart_of_skipLines {c d : Cursor} (h : c.skipLines = some d) : Apart c d :=
  .of_reaches (reaches_skip h) (gap_of_skip h)

theorem apart_of_endOfLine {c d : Cursor} (h : c.endOfLine = some d) : Apart c d :=
  .of_reaches (endOfLine_spec h).1 (gap_of_endOfLine h)

/-- Behind a cursor a structure stands behind another with only blanks and comments between them. -/
def Follows (c : Cursor) (x y : Item) : Prop :=
  ∃ c₁ d₁ c₂ d₂, Reaches c c₁ ∧ Stands c₁ d₁ x ∧ Apart d₁ c₂ ∧ Stands c₂ d₂ y

theorem Follows.of_reaches {c c' : Cursor} (h : Reaches c c') {x y : Item} (hxy : Follows c' x y) :
    Follows c x y := by
  obtain ⟨c₁, d₁, c₂, d₂, hreach, hx, hapart, hy⟩ := hxy
  exact ⟨c₁, d₁, c₂, d₂, h.trans hreach, hx, hapart, hy⟩

/-- The structures read from a cursor follow each other, the first behind blanks and comments. -/
theorem follows_items {n : Nat} {read all : List Item} {c d : Cursor}
    (h : items n read c = some (all, d)) : ∃ new, all = read ++ new ∧
      (∀ y ∈ new.head?, ∃ c' d', Apart c c' ∧ Stands c' d' y) ∧ new.IsChain (Follows c) := by
  induction n generalizing read c with
  | zero => simp [items] at h
  | succ n ih =>
    cases items_succ_iff.1 h with
    | stop => exact ⟨[], (List.append_nil _).symm, by simp, .nil⟩
    | @more c₁ c₂ c₃ _ it _ hskip hitem _ hend hmore =>
      obtain ⟨new, rfl, hhead, hchain⟩ := ih hmore
      have hstands := (places n).item hitem
      have hlead := reaches_skip hskip
      have hreach := (hlead.trans hstands.closes.reaches).trans (endOfLine_spec hend).1
      refine ⟨it :: new, by rw [List.append_assoc]; rfl, ?_, ?_⟩
      · intro y hy
        obtain rfl : it = y := Option.some.inj hy
        exact ⟨c₁, c₂, apart_of_skipLines hskip, hstands⟩
      · refine List.isChain_cons.2 ⟨fun y hy => ?_, hchain.imp fun _ _ => .of_reaches hreach⟩
        obtain ⟨c', d', hapart, hnext⟩ := hhead y hy
        exact ⟨c₁, c₂, c', d', hlead, hstands, (apart_of_endOfLine hend).trans hapart, hnext⟩

theorem follows_blockBody {n : Nat} {c d : Cursor} {body : List Item}
    (h : blockBody n c = some (body, d)) : body.IsChain (Follows c) := by
  cases n with
  | zero => simp [blockBody] at h
  | succ n =>
    cases blockBody_succ_iff.1 h with
    | empty => exact .nil
    | lines hopen hskip hbreak hitems =>
      have hreach := (reaches_expect hopen).trans (reaches_skip hskip)
      obtain ⟨new, rfl, -, hchain⟩ := follows_items hitems
      exact hchain.imp fun _ _ => .of_reaches (hreach.trans (reaches_lineBreak hbreak))
    | inline => exact .singleton _

/-- Each structure of a block at any depth follows the one before it. -/
theorem isChain_follows {text : List Char} {body : Body} (hparse : parseBody text = some body)
    {b : Block} (hb : Inside (.block b) body) : b.body.IsChain (Follows (.ofText text)) := by
  obtain ⟨n, c', d', hreach, -, hitem⟩ := readBehind_of_parseBody hparse hb
  cases n with
  | zero => simp [item] at hitem
  | succ n =>
    cases item_succ_iff.1 hitem with
    | block hname hskip _ hlabels hbody =>
      have hheader := ((closes_name hname).reaches.trans (reaches_skip hskip)).trans
        (reaches_labels hlabels)
      exact (follows_blockBody hbody).imp fun _ _ => .of_reaches (hreach.trans hheader)

end TerraLint.Hcl
