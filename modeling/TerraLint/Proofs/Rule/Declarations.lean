import TerraLint.Proofs.Hcl.Body
import TerraLint.Proofs.Layout.Sections
import TerraLint.Proofs.Rule.Places
import TerraLint.Rule.ArgumentLayout
import TerraLint.Rule.DeclarationOrder
import TerraLint.Rule.SeparateFile
import TerraLint.Rule.TerraformBlock
import TerraLint.Rule.VariableDeclaration

/-!
# Issues about declarations differ

The rules about the blocks of a file and their arguments report each block or argument at most once:
an issue stands at the header of its block, or at the key or the whole of its argument, and each of
these starts with a token of its own.

* `spread_checkProviders`, `spread_misplaced`: the checks that report more than one issue for a block.
* `exists_spread_checkBlocks`, `exists_spread_checkSeparate`: the checks that report one for a file.
* `Hcl.Block.attribute?_eq_some_iff`: a block assigns a key at most once, so all that has it is found.
* `Hcl.pairwise_blocksOf_start`: the blocks of one type come in the order in which they stand.
-/

namespace TerraLint

open Text Hcl

theorem Hcl.Inside.within {b : Block} {items : List Item} {item : Item}
    (h : Inside (.block b) items) (hitem : item ∈ b.body) : Inside item items := by
  induction h with
  | here h => exact .nested h (.here hitem)
  | nested hb _ ih => exact .nested hb ih

theorem Hcl.Block.size_lt_of_mem_body {b child : Block} (h : .block child ∈ b.body) :
    sizeOf child < sizeOf b := by
  obtain ⟨kind, labels, body, span⟩ := b
  have hlt : sizeOf (Item.block child) < sizeOf body := List.sizeOf_lt_of_mem h
  rw [Item.block.sizeOf_spec] at hlt
  rw [Block.mk.sizeOf_spec]
  omega

theorem Hcl.mem_attributes_of_attribute? {b : Block} {key : String} {a : Attribute}
    (h : b.attribute? key = some a) : a ∈ b.attributes := List.mem_of_find?_eq_some h

section

variable {name : String} {text : List Char} {d : Cursor} {body : Body} {b : Block}
  (h : Stack (.ofText text) d body) (hb : Inside (.block b) body)

include h

/-! ## Whole files -/

theorem exists_spread_checkBlocks (title : String) (precedes : Block → Block → Bool)
    (kind : String) :
    ∃ starts, Spread (SourceFile.parse name text).Marks starts
      (DeclarationOrder.checkBlocks title precedes (.parse name text)
      (body.blocksOf kind)) := by
  cases hblocks : body.blocksOf kind with
  | nil => exact ⟨[], .nil⟩
  | cons first rest =>
    have hfirst : first ∈ body.blocksOf kind := by
      rw [hblocks]
      exact List.mem_cons_self
    have hinside : Inside (.block first) body :=
      .here (mem_of_mem_blocks (List.mem_of_mem_filter hfirst))
    refine ⟨[first.span.start], ?_⟩
    unfold DeclarationOrder.checkBlocks
    dsimp only
    split
    · exact .nil
    · exact .defRange h hinside _

theorem exists_spread_checkSeparate (kind message : String) :
    ∃ starts, Spread (SourceFile.parse name text).Marks starts
      (checkSeparate kind message (.parse name text) body) := by
  unfold checkSeparate
  split
  · exact ⟨[], .nil⟩
  · split
    · rename_i other hother
      have hmem : other ∈ body.blocks := List.mem_of_find?_eq_some hother
      exact ⟨_, .defRange h (.here (mem_of_mem_blocks hmem)) _⟩
    · exact ⟨[], .nil⟩

/-! ## Single blocks -/

include hb

theorem spread_header (m : String) :
    Spread (SourceFile.parse name text).Marks b.starts
      [.issue m ((SourceFile.parse name text).defRange b)] :=
  (Spread.defRange h hb m).grow b.start_mem_starts

theorem spread_key {a : Attribute} (ha : a ∈ b.attributes) (m : String) :
    Spread (SourceFile.parse name text).Marks b.starts
      [.issue m ((SourceFile.parse name text).keyRange a)] := by
  refine (Spread.keyRange h (hb.within (mem_of_mem_attributes ha)) m).grow ?_
  exact Block.start_attribute_mem ha

theorem spread_checkLocals :
    Spread (SourceFile.parse name text).Marks b.starts
      (DeclarationOrder.checkLocals (.parse name text) b) := by
  unfold DeclarationOrder.checkLocals
  dsimp only
  split
  · exact .nil
  · exact spread_header h hb _

theorem spread_checkVersion :
    Spread (SourceFile.parse name text).Marks b.starts
      (TerraformBlock.checkVersion (.parse name text) b) := by
  unfold TerraformBlock.checkVersion
  dsimp only
  split
  · exact spread_header h hb _
  · rename_i version hversion
    split
    · exact spread_key h hb (mem_attributes_of_attribute? hversion) _
    · exact .nil

/-- A variable whose sensitivity has no value is a failure and no issue. -/
theorem spread_checkSensitive :
    Spread (SourceFile.parse name text).Marks b.starts
      ((checkSensitive (.parse name text) b).filter Finding.isPlaced) := by
  unfold checkSensitive
  split
  · rename_i preset sensitive hpreset _
    split
    · exact .nil
    · split
      · exact .nil
      · split
        · have hkey := mem_attributes_of_attribute? hpreset
          exact (spread_key h hb hkey _).sublist List.filter_sublist
        · exact .nil
  · exact .nil

theorem spread_checkNullable :
    Spread (SourceFile.parse name text).Marks b.starts (checkNullable (.parse name text) b) := by
  unfold checkNullable
  split
  · exact .nil
  · rename_i nullable hnullable
    have hmem := mem_attributes_of_attribute? hnullable
    split
    · exact .nil
    · refine (Spread.rangeOf h (hb.within (mem_of_mem_attributes hmem)) _).grow ?_
      exact Block.start_attribute_mem hmem

theorem exists_stack_body : ∃ c' d', Stack c' d' b.body := by
  obtain ⟨c', d', -, hstands⟩ := h.exists_of_inside hb
  obtain ⟨c₁, d₁, -, hbody⟩ := hstands.body
  exact ⟨c₁, d₁, hbody⟩

/-! ## Required providers -/

omit h hb in
theorem Hcl.starts_attributes_sublist (items : List Item) :
    ((Body.attributes items).map fun a => a.span.start).Sublist (items.flatMap Item.starts) := by
  induction items with
  | nil => exact .slnil
  | cons item items ih =>
    cases item with
    | attr a => exact (ih.trans (List.sublist_append_right _ _)).cons_cons _
    | block b => exact ih.trans (List.sublist_append_right _ _)

theorem nodup_starts_attributes : (b.attributesByOffset.map fun a => a.span.start).Nodup := by
  obtain ⟨c', d', hbody⟩ := exists_stack_body h hb
  have hperm : b.attributesByOffset.Perm b.attributes := sortBy_perm _
  refine (hperm.map _).nodup_iff.2 (hbody.tokens.nodup.sublist ?_)
  exact starts_attributes_sublist b.body

theorem spread_checkProviders :
    Spread (SourceFile.parse name text).Marks b.starts
      (TerraformBlock.checkProviders (.parse name text) b) := by
  unfold TerraformBlock.checkProviders
  dsimp only
  split
  · rw [List.map_eq_flatMap]
    let all := b.attributesByOffset.map fun a => (a, (SourceFile.parse name text).mapText a)
    have hsub : (all.filter fun p => !p.2.isSorted).Sublist all := List.filter_sublist
    have hmem : ∀ p ∈ all.filter fun p => !p.2.isSorted, p.1 ∈ b.attributes := by
      intro p hp
      obtain ⟨a, ha, rfl⟩ := List.mem_map.1 (hsub.subset hp)
      exact mem_sortBy.1 ha
    refine (Spread.flatMap (fun p => [p.1.span.start]) (fun p hp => ?_) ?_).mono ?_
    · exact .keyRange h (hb.within (mem_of_mem_attributes (hmem p hp))) _
    · rw [← List.map_eq_flatMap]
      refine (nodup_starts_attributes h hb).sublist ?_
      have hmap := hsub.map fun p => p.1.span.start
      rw [List.map_map] at hmap
      exact hmap
    · intro n hn
      obtain ⟨p, hp, hn⟩ := List.mem_flatMap.1 hn
      obtain rfl := List.mem_singleton.1 hn
      exact Block.start_attribute_mem (hmem p hp)
  · exact spread_header h hb _

theorem spread_checkRequiredProviders :
    Spread (SourceFile.parse name text).Marks b.starts
      (TerraformBlock.checkRequiredProviders (.parse name text) b) := by
  unfold TerraformBlock.checkRequiredProviders
  split
  · exact spread_header h hb _
  · obtain ⟨c', d', hbody⟩ := exists_stack_body h hb
    have hdeclared : (b.blocksOf "required_providers").Sublist b.blocks := List.filter_sublist
    refine (Spread.blocks hbody hdeclared fun child hchild => ?_).mono fun n hn => ?_
    · have hmem := mem_of_mem_blocks (hdeclared.subset hchild)
      exact spread_checkProviders h (hb.within hmem)
    · exact b.starts_blocks_subset ((hdeclared.flatMap _).subset hn)

/-! ## Layout -/

omit hb in
/-- The blocks out of order inside a block, or the block itself. -/
theorem spread_misplaced (message : Layout.Misplaced → String) (cl : Layout.Classifier) :
    ∀ (b : Block), Inside (.block b) body → ∀ (isRoot : Bool) (path : List String),
      Spread (SourceFile.parse name text).Marks b.starts
        ((Layout.Tree.build (.parse name text) cl isRoot path b).misplaced.map
        fun m => .issue (message m) m.range)
  | b, hb, isRoot, path => by
    obtain ⟨c', d', hbody⟩ := exists_stack_body h hb
    rw [Layout.Tree.misplaced_eq]
    split
    · -- A block in order stands for the blocks among its arguments, in whatever order.
      have hargs := @Layout.args_build_perm (.parse name text) cl isRoot path b hbody.pairwise_start
      rw [List.map_flatMap]
      refine Spread.perm ?_ (hargs.flatMap_right _).symm
      unfold Layout.sourceArgs
      rw [List.flatMap_map]
      refine (Spread.flatMap Item.starts (fun item hitem => ?_)
        hbody.tokens.nodup).mono fun n hn => ?_
      · match item, hitem with
        | .attr a, _ => exact .nil
        | .block child, hitem =>
          have : sizeOf child < sizeOf b := Block.size_lt_of_mem_body hitem
          exact spread_misplaced message cl child (hb.within hitem) false _
      · rw [Block.starts_eq]
        exact List.mem_cons_of_mem _ hn
    · have hrange : (Layout.Tree.build (.parse name text) cl isRoot path b).defRange =
          (SourceFile.parse name text).defRange b := by
        obtain ⟨kind, labels, items, span⟩ := b
        rw [Layout.Tree.build]
      rw [List.map_singleton]
      dsimp only
      rw [hrange]
      exact spread_header h hb _
termination_by b => sizeOf b

end

/-! ## Keys and blocks of a file -/

namespace Hcl

theorem Block.attribute?_eq_none_iff {b : Block} {key : String} :
    b.attribute? key = none ↔ ∀ a ∈ b.attributes, a.key ≠ key := by
  simp [Block.attribute?, Body.attribute?, Block.attributes, List.find?_eq_none]

theorem Block.attribute?_eq_some_iff {b : Block} (hb : Formed (.block b)) {key : String}
    {a : Attribute} : b.attribute? key = some a ↔ a ∈ b.attributes ∧ a.key = key := by
  constructor
  · intro h
    exact ⟨mem_attributes_of_attribute? h, by simpa using List.find?_some h⟩
  · rintro ⟨ha, hkey⟩
    cases hb with
    | block _ hkeys _ =>
      have hkeys : (b.attributes.map Attribute.key).Nodup := hkeys
      cases hfound : b.attribute? key with
      | none => exact absurd hkey (attribute?_eq_none_iff.1 hfound a ha)
      | some found =>
        have hfoundKey : found.key = key := by simpa using List.find?_some hfound
        have hsame := List.inj_on_of_nodup_map hkeys (mem_attributes_of_attribute? hfound) ha
          (hfoundKey.trans hkey.symm)
        rw [hsame]

variable {text : List Char} {body : Body}

theorem formed_of_mem_blocksOf (h : parseBody text = some body) {kind : String} {b : Block}
    (hb : b ∈ body.blocksOf kind) : Formed (.block b) :=
  (formed_of_parseBody h).formed _ (mem_of_mem_blocks (List.mem_of_mem_filter hb))

/-- Of two blocks of one type the first one starts first. -/
theorem pairwise_blocksOf_start (h : parseBody text = some body) (kind : String) :
    (body.blocksOf kind).Pairwise fun b b' => b.span.start < b'.span.start := by
  obtain ⟨d, hstack⟩ := stack_of_parseBody h
  have hblocks : body.blocks.Pairwise fun b b' => b.span.start ≤ b'.span.start := by
    refine List.pairwise_filterMap.2 (hstack.pairwise_start.imp fun {x y} hxy b hb b' hb' => ?_)
    cases x with
    | attr a => cases hb
    | block _ =>
      cases y with
      | attr a => cases hb'
      | block _ =>
        obtain rfl := Option.some.inj hb
        obtain rfl := Option.some.inj hb'
        exact hxy
  have hstarts : (body.blocks.flatMap Block.starts).Nodup :=
    hstack.tokens.nodup.sublist (starts_blocks_sublist body)
  refine List.Pairwise.filter _ (hblocks.imp₂ (fun b b' hle hdisjoint => ?_)
    (List.nodup_flatMap.1 hstarts).2)
  have hne : b.span.start ≠ b'.span.start := fun heq =>
    hdisjoint b.start_mem_starts (heq ▸ b'.start_mem_starts)
  exact Nat.lt_of_le_of_ne hle hne

end Hcl

end TerraLint
