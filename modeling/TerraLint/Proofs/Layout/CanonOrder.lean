import TerraLint.Proofs.Layout.Canon

/-!
# The order of a canonical form

The arguments of a canonical form are in the slots they belong to, and in each slot they follow the
order of its kind. Both are read off names alone, so that the canonical form tells them by itself.

* `Canon.Sorted`: all arguments are where they belong.
* `canon_sorted`: the canonical form of a block is sorted.
-/

namespace TerraLint.Layout

open Text Hcl

namespace Canon

/-- The name that an argument is classified under. -/
def name : Canon → String
  | .attr key _ => key
  | .block kind labels _ => blockName ⟨kind, labels, [], ⟨0, 0⟩⟩

/-- The key that an argument is sorted by. -/
def sortKey : Canon → String
  | .attr key _ => key
  | .block kind labels _ => blockSortField ⟨kind, labels, [], ⟨0, 0⟩⟩

/-- The slot of an argument. -/
def slot (cl : Classifier) (isRoot : Bool) (c : Canon) : Slot :=
  match c with
  | .attr _ _ => .ofAttribute isRoot (cl.classify c.name)
  | .block _ _ _ => .ofBlock isRoot (cl.classify c.name)

/-- Whether an argument may stand before another in a section of a kind. -/
def precedes (cl : Classifier) (kind : SectionKind) (a b : Canon) : Bool :=
  match kind with
  | .headMeta | .tailMeta => (cl.classify b.name).priority ≤ (cl.classify a.name).priority
  | .attributes | .nestedBlocks => stringLe a.sortKey b.sortKey

/-- All arguments are in their slots and in order. -/
inductive Sorted (cl : Classifier) : Bool → Canon → Prop
  | attr {isRoot : Bool} {key : String} {text : List Char} : Sorted cl isRoot (.attr key text)
  | block {isRoot : Bool} {kind : String} {labels : List String} {slots : Slot → List Canon}
    (hslot : ∀ slot, ∀ c ∈ slots slot, c.slot cl isRoot = slot)
    (horder : ∀ slot, (slots slot).Pairwise fun a b => precedes cl slot.kind a b = true)
    (hsorted : ∀ slot, ∀ c ∈ slots slot, Sorted cl false c) :
    Sorted cl isRoot (.block kind labels slots)

end Canon

/-- The member says of its place what its canonical form says. -/
structure Member.Faithful (cl : Classifier) (isRoot : Bool) (m : Member) : Prop where
  slot : m.slot = m.canon.slot cl isRoot
  key : m.key = m.canon.sortKey
  priority : m.priority = (cl.classify m.canon.name).priority
  sorted : m.canon.Sorted cl false

namespace Member

variable {cl : Classifier} {isRoot : Bool}

theorem precedes_canon {a b : Member} (ha : a.Faithful cl isRoot) (hb : b.Faithful cl isRoot)
    (kind : SectionKind) : precedes kind a b = a.canon.precedes cl kind b.canon := by
  cases kind <;> simp only [precedes, Canon.precedes, ha.key, hb.key, ha.priority, hb.priority]

theorem precedes_total (kind : SectionKind) (a b : Member) :
    precedes kind a b = true ∨ precedes kind b a = true := by
  cases kind with
  | headMeta | tailMeta =>
    simp only [precedes, decide_eq_true_eq]
    omega
  | attributes | nestedBlocks => exact stringLe_total _ _

theorem precedes_trans (kind : SectionKind) (a b c : Member) (hab : precedes kind a b = true)
    (hbc : precedes kind b c = true) : precedes kind a c = true := by
  cases kind with
  | headMeta | tailMeta =>
    simp only [precedes, decide_eq_true_eq] at hab hbc ⊢
    omega
  | attributes | nestedBlocks => exact stringLe_trans hab hbc

theorem mem_ordered {kind : SectionKind} {ms : List Member} {m : Member} :
    m ∈ ordered kind ms ↔ m ∈ ms := by
  unfold ordered
  rw [mem_sortBy, mem_sortBy]

/-- The members in a slot are in order. -/
theorem sorted_inSlot {ms : List Member} (h : ∀ m ∈ ms, m.Faithful cl isRoot) (kind : String)
    (labels : List String) : (Canon.block kind labels (inSlot ms)).Sorted cl isRoot := by
  have hmem : ∀ {slot m}, m ∈ ordered slot.kind (ms.filter fun m => m.slot == slot) →
      m.Faithful cl isRoot ∧ m.slot = slot := by
    intro slot m hm
    obtain ⟨hms, hslot⟩ := List.mem_filter.1 (mem_ordered.1 hm)
    exact ⟨h m hms, beq_iff_eq.1 hslot⟩
  refine .block (fun slot c hc => ?_) (fun slot => ?_) fun slot c hc => ?_
  · obtain ⟨m, hm, rfl⟩ := List.mem_map.1 hc
    rw [← (hmem hm).1.slot, (hmem hm).2]
  · unfold inSlot
    rw [List.pairwise_map]
    refine List.Pairwise.imp_of_mem ?_ (pairwise_sortBy (precedes_total slot.kind)
      (precedes_trans slot.kind) _)
    intro a b ha hb hab
    rwa [precedes_canon (hmem ha).1 (hmem hb).1] at hab
  · obtain ⟨m, hm, rfl⟩ := List.mem_map.1 hc
    exact (hmem hm).1.sorted

end Member

variable {file : SourceFile} {cl : Classifier}

theorem faithful_attributeMember (isRoot : Bool) (a : Attribute) :
    (attributeMember file cl isRoot a).Faithful cl isRoot := ⟨rfl, rfl, rfl, .attr⟩

mutual

/-- The canonical form of a block is sorted. -/
theorem canon_sorted (isRoot : Bool) : (b : Block) → (canon file cl isRoot b).Sorted cl isRoot
  | ⟨kind, labels, body, _⟩ => by
    rw [canon]
    refine Member.sorted_inSlot (fun m hm => ?_) kind labels
    rcases List.mem_append.1 hm with hm | hm
    · obtain ⟨a, -, rfl⟩ := List.mem_map.1 hm
      exact faithful_attributeMember isRoot a
    · exact faithful_blockMembers isRoot body m hm

theorem faithful_blockMembers (isRoot : Bool) : (items : List Item) →
    ∀ m ∈ blockMembers file cl isRoot items, m.Faithful cl isRoot
  | [] => by simp [blockMembers]
  | .attr _ :: items => by
    rw [blockMembers]
    exact faithful_blockMembers isRoot items
  | .block ⟨kind, labels, body, span⟩ :: items => by
    intro m hm
    rw [blockMembers] at hm
    rcases List.mem_cons.1 hm with rfl | hm
    · refine ⟨?_, ?_, ?_, canon_sorted false ⟨kind, labels, body, span⟩⟩
      all_goals rw [canon]; rfl
    · exact faithful_blockMembers isRoot items m hm

end

end TerraLint.Layout
