import Mathlib.Data.List.Lex
import TerraLint.Proofs.Layout.Sections

/-!
# The outermost blocks out of order

A block of a layout tree has an address: which nested block to go into, from the outside in. In the
order of their addresses a block comes before those inside it, and these come before its later
siblings. The blocks that are reported are those out of order inside blocks in order only.

* `Outermost`: a block that is out of order while all blocks around it are in order.
* `Tree.misplaced_outermost`: these blocks are reported, each once, in the order of their addresses.
-/

namespace TerraLint.Layout

/-! ## Addresses -/

namespace Tree

/-- The block at an address among a block and the blocks inside it. -/
def at? : List Nat → Tree → Option Tree
  | [], t => some t
  | i :: address, t => t.nested[i]?.bind (at? address)

/-- The blocks of a tree: the tree itself, and those in the arguments of every section. -/
inductive Has : Tree → Tree → Prop
  | self (t : Tree) : Has t t
  | inside {t u x : Tree} {s : Section} {arg : Arg} (hs : s ∈ t.sections) (harg : arg ∈ s.args)
    (hblock : arg.content = .block u) (h : Has u x) : Has t x

variable {t u x : Tree}

theorem mem_nested :
    u ∈ t.nested ↔ ∃ s ∈ t.sections, ∃ arg ∈ s.args, arg.content = .block u := by
  simp only [nested, args, List.mem_filterMap, List.mem_flatMap]
  constructor
  · rintro ⟨arg, ⟨s, hs, harg⟩, hblock⟩
    refine ⟨s, hs, arg, harg, ?_⟩
    split at hblock
    · cases hblock
    · rename_i hcontent
      rw [hcontent, Option.some.inj hblock]
  · rintro ⟨s, hs, arg, harg, hblock⟩
    exact ⟨arg, ⟨s, hs, harg⟩, by rw [hblock]⟩

theorem size_lt_of_mem_nested (h : u ∈ t.nested) : sizeOf u < sizeOf t := by
  obtain ⟨s, hs, arg, harg, hblock⟩ := mem_nested.1 h
  have hsection := List.sizeOf_lt_of_mem hs
  have hargument := List.sizeOf_lt_of_mem harg
  obtain ⟨name, sortField, path, range, defRange, header, sections⟩ := t
  obtain ⟨kind, args, covered⟩ := s
  obtain ⟨key, place, priority, content⟩ := arg
  dsimp only at hsection hargument hblock
  subst hblock
  simp only [Tree.mk.sizeOf_spec, Section.mk.sizeOf_spec, Arg.mk.sizeOf_spec,
    Content.block.sizeOf_spec] at hsection hargument ⊢
  omega

/-- Every block of a tree has an address, whichever section it is in. -/
theorem has_iff : Has t x ↔ ∃ address, t.at? address = some x := by
  constructor
  · intro h
    induction h with
    | self t => exact ⟨[], rfl⟩
    | @inside t u x s arg hs harg hblock _ ih =>
      obtain ⟨address, hat⟩ := ih
      obtain ⟨i, hi⟩ := List.getElem?_of_mem (mem_nested.2 ⟨s, hs, arg, harg, hblock⟩)
      exact ⟨i :: address, by rw [at?, hi, Option.bind_some, hat]⟩
  · rintro ⟨address, hat⟩
    induction address generalizing t with
    | nil =>
      obtain rfl := Option.some.inj hat
      exact .self t
    | cons i address ih =>
      obtain ⟨u, hu, hat⟩ := Option.bind_eq_some_iff.1 hat
      obtain ⟨s, hs, arg, harg, hblock⟩ := mem_nested.1 (List.mem_of_getElem? hu)
      exact .inside hs harg hblock (ih hat)

/-- What is reported about a block: its dotted path, its header and its canonical form. -/
def report (t : Tree) : Misplaced := ⟨".".intercalate t.path, t.defRange, t.render⟩

/-- A block in order stands for the blocks nested in it. -/
theorem misplaced_eq_nested (t : Tree) :
    t.misplaced = if t.isOrdered then t.nested.flatMap misplaced else [t.report] := by
  have hnested : t.nested.flatMap misplaced = t.args.flatMap fun arg => arg.content.misplaced := by
    rw [nested, List.filterMap_eq_flatMap_toList, List.flatMap_assoc]
    refine List.flatMap_congr fun arg _ => ?_
    cases hcontent : arg.content <;> simp [Content.misplaced]
  rw [misplaced_eq, hnested]
  rfl

end Tree

/-! ## Outermost blocks -/

/-- A block out of order that stands in blocks in order only. -/
structure Outermost (t : Tree) (address : List Nat) (x : Tree) : Prop where
  found : t.at? address = some x
  misplaced : x.isOrdered = false
  around : ∀ above, above <+: address → above ≠ address → ∀ y, t.at? above = some y →
    y.isOrdered = true

theorem outermost_nil {t x : Tree} : Outermost t [] x ↔ x = t ∧ t.isOrdered = false := by
  constructor
  · rintro ⟨hfound, hmisplaced, -⟩
    obtain rfl := Option.some.inj hfound
    exact ⟨rfl, hmisplaced⟩
  · rintro ⟨rfl, hmisplaced⟩
    refine ⟨rfl, hmisplaced, fun above habove hne => ?_⟩
    exact absurd (List.prefix_nil.1 habove) hne

theorem outermost_cons {t x : Tree} {i : Nat} {address : List Nat} :
    Outermost t (i :: address) x ↔
      t.isOrdered = true ∧ ∃ u, t.nested[i]? = some u ∧ Outermost u address x := by
  constructor
  · rintro ⟨hfound, hmisplaced, haround⟩
    obtain ⟨u, hu, hfound⟩ := Option.bind_eq_some_iff.1 hfound
    refine ⟨haround [] (List.nil_prefix) (by simp) t rfl, u, hu, hfound, hmisplaced, ?_⟩
    intro above habove hne y hy
    refine haround (i :: above) (List.cons_prefix_cons.2 ⟨rfl, habove⟩) (by simpa using hne) y ?_
    rw [Tree.at?, hu, Option.bind_some, hy]
  · rintro ⟨hordered, u, hu, hfound, hmisplaced, haround⟩
    refine ⟨by rw [Tree.at?, hu, Option.bind_some, hfound], hmisplaced, ?_⟩
    intro above habove hne y hy
    cases above with
    | nil =>
      obtain rfl := Option.some.inj hy
      exact hordered
    | cons j above =>
      obtain ⟨rfl, hrest⟩ := List.cons_prefix_cons.1 habove
      rw [Tree.at?, hu, Option.bind_some] at hy
      exact haround above hrest (by simpa using hne) y hy

/-- No outermost block stands inside another one. -/
theorem Outermost.eq_of_prefix {t x y : Tree} {a b : List Nat} (hx : Outermost t a x)
    (hy : Outermost t b y) (hab : a <+: b) : a = b := by
  by_contra hne
  have hordered := hy.around a hab hne x hx.found
  rw [hx.misplaced] at hordered
  cases hordered

/-! ## What is reported -/

/-- Blocks with their addresses: all those with a property, in the order of their addresses, are what
is reported. -/
structure Lists (P : List Nat → Tree → Prop) (reported : List Misplaced)
    (spots : List (List Nat × Tree)) : Prop where
  reports : reported = spots.map fun spot => spot.2.report
  mem : ∀ address x, (address, x) ∈ spots ↔ P address x
  sorted : (spots.map Prod.fst).Pairwise (· < ·)

theorem Lists.congr {P Q : List Nat → Tree → Prop} {reported : List Misplaced}
    {spots : List (List Nat × Tree)} (h : Lists P reported spots)
    (hPQ : ∀ address x, P address x ↔ Q address x) : Lists Q reported spots :=
  ⟨h.reports, fun address x => (h.mem address x).trans (hPQ address x), h.sorted⟩

/-- The outermost blocks in siblings, of which the first one has the number `k`. -/
def OutermostFrom (k : Nat) (ts : List Tree) (address : List Nat) (x : Tree) : Prop :=
  ∃ i u rest, ts[i]? = some u ∧ address = (k + i) :: rest ∧ Outermost u rest x

theorem outermostFrom_cons {k : Nat} {t x : Tree} {ts : List Tree} {address : List Nat} :
    OutermostFrom k (t :: ts) address x ↔
      (∃ rest, address = k :: rest ∧ Outermost t rest x) ∨
        OutermostFrom (k + 1) ts address x := by
  constructor
  · rintro ⟨i, u, rest, hu, rfl, h⟩
    cases i with
    | zero =>
      obtain rfl := Option.some.inj hu
      exact .inl ⟨rest, rfl, h⟩
    | succ i => exact .inr ⟨i, u, rest, hu, by rw [Nat.add_right_comm, Nat.add_assoc], h⟩
  · rintro (⟨rest, rfl, h⟩ | ⟨i, u, rest, hu, rfl, h⟩)
    · exact ⟨0, t, rest, rfl, rfl, h⟩
    · exact ⟨i + 1, u, rest, hu, by rw [Nat.add_right_comm, Nat.add_assoc], h⟩

/-- What is reported about siblings lists the outermost blocks in them. -/
theorem exists_lists_siblings {ts : List Tree}
    (h : ∀ t ∈ ts, ∃ spots, Lists (Outermost t) t.misplaced spots) (k : Nat) :
    ∃ spots, Lists (OutermostFrom k ts) (ts.flatMap Tree.misplaced) spots := by
  induction ts generalizing k with
  | nil =>
    refine ⟨[], rfl, fun address x => ?_, List.Pairwise.nil⟩
    simp [OutermostFrom]
  | cons t ts ih =>
    obtain ⟨first, hfirst⟩ := h t List.mem_cons_self
    obtain ⟨later, hlater⟩ := ih (fun u hu => h u (List.mem_cons_of_mem _ hu)) (k + 1)
    refine ⟨first.map (fun spot => (k :: spot.1, spot.2)) ++ later, ?_, fun address x => ?_, ?_⟩
    · rw [List.flatMap_cons, hfirst.reports, hlater.reports, List.map_append, List.map_map]
      rfl
    · rw [outermostFrom_cons, List.mem_append, hlater.mem]
      refine or_congr_left ?_
      rw [List.mem_map]
      constructor
      · rintro ⟨⟨rest, x'⟩, hmem, heq⟩
        obtain ⟨rfl, rfl⟩ := Prod.mk.inj heq
        exact ⟨rest, rfl, (hfirst.mem rest x').1 hmem⟩
      · rintro ⟨rest, rfl, hx⟩
        exact ⟨(rest, x), (hfirst.mem rest x).2 hx, rfl⟩
    · have hmap : (first.map fun spot => (k :: spot.1, spot.2)).map Prod.fst =
          (first.map Prod.fst).map (k :: ·) := by
        rw [List.map_map, List.map_map]
        rfl
      rw [List.map_append, hmap, List.pairwise_append]
      refine ⟨?_, hlater.sorted, fun a ha b hb => ?_⟩
      · rw [List.pairwise_map]
        exact hfirst.sorted.imp fun {a b} hab => List.cons_lt_cons_iff.2 (.inr ⟨rfl, hab⟩)
      · -- A later sibling has a greater number.
        obtain ⟨rest, -, rfl⟩ := List.mem_map.1 ha
        obtain ⟨⟨b, x⟩, hmem, rfl⟩ := List.mem_map.1 hb
        obtain ⟨i, u, rest', -, rfl, -⟩ := (hlater.mem b x).1 hmem
        exact List.cons_lt_cons_iff.2 (.inl (by omega))

/-- What is reported about a block lists the outermost blocks in it. -/
theorem exists_lists (t : Tree) : ∃ spots, Lists (Outermost t) t.misplaced spots := by
  rw [Tree.misplaced_eq_nested]
  split
  · rename_i hordered
    obtain ⟨spots, hspots⟩ := @exists_lists_siblings t.nested
      (fun u hu => have := Tree.size_lt_of_mem_nested hu; exists_lists u) 0
    refine ⟨spots, hspots.congr fun address x => ?_⟩
    cases address with
    | nil =>
      rw [outermost_nil, hordered]
      simp [OutermostFrom]
    | cons i address =>
      rw [outermost_cons]
      simp only [hordered, true_and, OutermostFrom, Nat.zero_add, List.cons.injEq]
      constructor
      · rintro ⟨j, u, rest, hu, ⟨rfl, rfl⟩, hx⟩
        exact ⟨u, hu, hx⟩
      · rintro ⟨u, hu, hx⟩
        exact ⟨i, u, address, hu, ⟨rfl, rfl⟩, hx⟩
  · rename_i hunordered
    refine ⟨[([], t)], rfl, fun address x => ?_, List.pairwise_singleton _ _⟩
    rw [List.mem_singleton, Prod.mk.injEq]
    cases address with
    | nil => simp [outermost_nil, hunordered]
    | cons i address => simp [outermost_cons, hunordered]
termination_by sizeOf t

/-- A block out of order stands inside an outermost one, or is one itself. -/
theorem exists_outermost {t x : Tree} {address : List Nat} (hat : t.at? address = some x)
    (hx : x.isOrdered = false) : ∃ above y, Outermost t above y := by
  induction address generalizing t with
  | nil =>
    obtain rfl := Option.some.inj hat
    exact ⟨[], t, outermost_nil.2 ⟨rfl, hx⟩⟩
  | cons i address ih =>
    obtain ⟨u, hu, hat⟩ := Option.bind_eq_some_iff.1 hat
    cases hordered : t.isOrdered with
    | false => exact ⟨[], t, outermost_nil.2 ⟨rfl, hordered⟩⟩
    | true =>
      obtain ⟨above, y, hy⟩ := ih hat
      exact ⟨i :: above, y, outermost_cons.2 ⟨hordered, u, hu, hy⟩⟩

/-- What is reported about a layout tree: an entry for each block that is out of order while all
blocks around it are in order, a block before those inside it and these before its later siblings.
No entry stands inside another one, and there is none just when every block of every section is in
order. -/
theorem Tree.misplaced_outermost (t : Tree) :
    (∃ spots : List (List Nat × Tree),
      t.misplaced = spots.map (fun spot =>
        ⟨".".intercalate spot.2.path, spot.2.defRange, spot.2.render⟩) ∧
      (∀ address x, (address, x) ∈ spots ↔ Outermost t address x) ∧
      (spots.map Prod.fst).Pairwise (· < ·) ∧
      (spots.map Prod.fst).Pairwise fun a b => ¬a <+: b ∧ ¬b <+: a) ∧
    (t.misplaced = [] ↔ ∀ x, t.Has x → x.isOrdered = true) := by
  obtain ⟨spots, hspots⟩ := exists_lists t
  refine ⟨⟨spots, hspots.reports, hspots.mem, hspots.sorted, ?_⟩, ?_⟩
  · have hmem : ∀ a ∈ spots.map Prod.fst, ∃ x, Outermost t a x := by
      intro a ha
      obtain ⟨⟨a, x⟩, hmem, rfl⟩ := List.mem_map.1 ha
      exact ⟨x, (hspots.mem a x).1 hmem⟩
    refine hspots.sorted.imp_of_mem fun {a b} ha hb hlt => ?_
    obtain ⟨x, hx⟩ := hmem a ha
    obtain ⟨y, hy⟩ := hmem b hb
    have hne : a ≠ b := fun heq => List.lt_irrefl b (heq ▸ hlt)
    exact ⟨fun hab => hne (hx.eq_of_prefix hy hab), fun hba => hne (hy.eq_of_prefix hx hba).symm⟩
  · rw [hspots.reports, List.map_eq_nil_iff]
    constructor
    · intro hnil x hx
      obtain ⟨address, hat⟩ := has_iff.1 hx
      by_contra hordered
      obtain ⟨above, y, hy⟩ := exists_outermost hat (Bool.eq_false_iff.2 hordered)
      have hmem := (hspots.mem above y).2 hy
      rw [hnil] at hmem
      cases hmem
    · intro hall
      rw [List.eq_nil_iff_forall_not_mem]
      rintro ⟨address, x⟩ hmem
      have hx := (hspots.mem address x).1 hmem
      have hordered := hall x (has_iff.2 ⟨address, hx.found⟩)
      rw [hx.misplaced] at hordered
      cases hordered

end TerraLint.Layout
