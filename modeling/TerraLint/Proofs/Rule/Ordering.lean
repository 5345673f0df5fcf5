import TerraLint.Proofs.Data.Arrangement
import TerraLint.Proofs.Layout.Steadiness
import TerraLint.Rule.DeclarationOrder

/-!
# Rules about the order of declarations

An order rule is silent just when the declarations stand in the order of its key. Otherwise it
suggests a text with the same declarations in that order, and it is silent about that text.

* `variableKey`: the key of a variable.
* `Ordering`: what an order rule finds about some declarations.
* `checkBlocks_eq_samePlaces`: blocks are out of order when sorting moves one of them.
* `order_suggestions_hold`: what the three order rules find.
-/

namespace TerraLint.DeclarationOrder

open Text Hcl Layout

/-! ## Keys -/

/-- Variables with a default come first, then it is the name that counts. -/
def variableKey (v : Block) : Bool ×ₗ String :=
  toLex ((v.attribute? "default").isNone, v.firstLabel)

theorem variablePrecedes_iff (a b : Block) :
    variablePrecedes a b = true ↔ variableKey a ≤ variableKey b := by
  unfold variablePrecedes variableKey
  rw [Prod.Lex.toLex_le_toLex]
  dsimp only
  split
  · rename_i heq
    simp [heq, stringLe_iff]
  · rename_i hne
    revert hne
    cases (a.attribute? "default").isNone <;> cases (b.attribute? "default").isNone <;> simp

theorem outputPrecedes_iff (a b : Block) :
    outputPrecedes a b = true ↔ a.firstLabel ≤ b.firstLabel :=
  stringLe_iff _ _

theorem isNone_attribute?_iff {b : Block} {key : String} :
    (b.attribute? key).isNone = true ↔ key ∉ itemKeys b.body := by
  rw [Option.isNone_iff_eq_none, Block.attribute?, Body.attribute?, List.find?_eq_none, itemKeys,
    List.mem_map]
  constructor
  · rintro h ⟨a, ha, rfl⟩
    exact h a ha (beq_self_eq_true _)
  · intro h a ha hkey
    exact h ⟨a, ha, beq_iff_eq.1 hkey⟩

section Names

variable {b b' : Block}

theorem firstLabel_eq_of_sameName (h : SameName (.block b) (.block b')) :
    b'.firstLabel = b.firstLabel := by
  cases h with
  | block _ hlabels _ => rw [Block.firstLabel, Block.firstLabel, Block.firstLabel?, hlabels]; rfl

theorem variableKey_eq_of_sameName (h : SameName (.block b) (.block b')) :
    variableKey b' = variableKey b := by
  have hlabel := firstLabel_eq_of_sameName h
  cases h with
  | block _ _ hkeys =>
    have hnone : (b'.attribute? "default").isNone = (b.attribute? "default").isNone := by
      rw [Bool.eq_iff_iff, isNone_attribute?_iff, isNone_attribute?_iff, hkeys]
    rw [variableKey, variableKey, hnone, hlabel]

end Names

/-! ## Suggestions -/

/-- What follows the first line of a message. -/
def suggestion (message : String) : List Char := (message.toList.dropWhile (· != '\n')).drop 1

theorem suggestion_of_title {head : String} {title : List Char} (hhead : head.toList = title ++ ['\n'])
    (htitle : '\n' ∉ title) (text : List Char) : suggestion (head ++ String.ofList text) = text := by
  have hlist : (head ++ String.ofList text).toList = title ++ '\n' :: text := by
    simp [hhead]
  rw [suggestion, hlist, List.dropWhile_append_of_pos fun c hc =>
    bne_iff_ne.2 (ne_of_mem_of_not_mem hc htitle)]
  rfl

theorem suggestion_append {title : String} (htitle : title.toList.all (· != '\n') = true)
    (text : List Char) : suggestion (title ++ "\n" ++ String.ofList text) = text :=
  @suggestion_of_title _ title.toList (by simp)
    (fun hmem => by simpa using List.all_eq_true.1 htitle _ hmem) text

/-- A structure of another file with the name and the characters of one that was checked. -/
structure CopyOf (file file' : SourceFile) (it it' : Item) : Prop where
  same : SameName it it'
  text : squeeze (file'.textOf it'.span) = squeeze (file.textOf it.span)

/-- A text that holds copies of some blocks and nothing else, and about which a rule is silent. -/
def DeclaresBlocks (rule : Rule) (file : SourceFile) (blocks : List Block) (text : List Char) : Prop :=
  ∃ its, parseBody text = some its ∧ ∀ name, rule.findings (.parse name text) its = [] ∧
    List.Forall₂ (CopyOf file (.parse name text)) (blocks.map .block) its

/-- A text that holds one `locals` block with copies of some attributes and nothing else, and about
which the rule for them is silent. -/
def DeclaresLocals (file : SourceFile) (values : List Attribute) (text : List Char) : Prop :=
  ∃ b, parseBody text = some [.block b] ∧ b.kind = "locals" ∧ b.labels = [] ∧ ∀ name,
    Rule.localsOrder.findings (.parse name text) [.block b] = [] ∧
      List.Forall₂ (CopyOf file (.parse name text)) (values.map .attr) b.body

/-- What an order rule finds about declarations: nothing just when they stand in the order of a key,
else an issue that suggests them in that order. -/
structure Ordering {α κ : Type} [LinearOrder κ] (key : α → κ) (xs : List α)
    (suggests : List α → List Char → Prop) (findings : List Finding) : Prop where
  silent : findings = [] ↔ SortedBy key xs
  spoken : ∀ f ∈ findings, ∃ message range ys, f = .issue message range ∧ Arranged key xs ys ∧
    suggests ys (suggestion message)

/-- Every structure resembles every other one. -/
def anything : Resemblance := fun _ _ _ => True

section Copies

variable {file file' : SourceFile} {α : Type} {it : α → Item} {xs : List α} {its : List Item}

theorem copies_of_copied
    (h : List.Forall₂ (Copied anything file') (xs.map fun x => (it x, file.textOf (it x).span)) its) :
    List.Forall₂ (CopyOf file file') (xs.map it) its := by
  rw [List.forall₂_map_left_iff] at h ⊢
  exact h.imp fun x it' hcopied => ⟨hcopied.same, hcopied.text⟩

end Copies

theorem itemKeys_attributes (values : List Attribute) :
    itemKeys (values.map .attr) = values.map Attribute.key := by
  induction values with
  | nil => rfl
  | cons a values ih => exact congrArg (a.key :: ·) ih

theorem itemKeys_blocks (bs : List Block) : itemKeys (bs.map .block) = [] := by
  induction bs with
  | nil => rfl
  | cons b bs ih => exact ih

/-! ## Blocks -/

section Blocks

variable {κ : Type} [LinearOrder κ] {key : Block → κ} {precedes : Block → Block → Bool}
  {title kind : String} {file : SourceFile}

theorem checkBlocks_eq_nil_iff (hle : ∀ a b, precedes a b = true ↔ key a ≤ key b)
    (blocks : List Block) :
    checkBlocks title precedes file blocks = [] ↔ SortedBy key blocks := by
  cases blocks with
  | nil => simp [checkBlocks, SortedBy]
  | cons b bs =>
    rw [checkBlocks, ← inOrder_iff_sorted hle]
    split <;> simp [*]

/-- A block is told from an equal one by its place: the check is the same when it compares the places
of the sorted blocks with those that they had. -/
theorem checkBlocks_eq_samePlaces (hle : ∀ a b, precedes a b = true ↔ key a ≤ key b) (b : Block)
    (bs : List Block) :
    checkBlocks title precedes file (b :: bs) =
      let sorted := sortBy (fun a b => precedes a.1 b.1) (b :: bs).zipIdx
      if samePlaces (b :: bs).zipIdx sorted then []
      else [.issue (title ++ "\n" ++ renderBlocks file (sorted.map (·.1))) (file.defRange b)] := by
  have hsame : samePlaces (b :: bs).zipIdx
      (sortBy (fun a b => precedes a.1 b.1) (b :: bs).zipIdx) = inOrder precedes (b :: bs) := by
    refine samePlaces_sortBy (fun a c => ?_) (fun a c d hac hcd => ?_) _
    · rw [hle, hle]
      exact le_total _ _
    · rw [hle] at hac hcd ⊢
      exact hac.trans hcd
  have hsorted : (sortBy (fun a b => precedes a.1 b.1) (b :: bs).zipIdx).map (·.1) =
      sortBy precedes (b :: bs) := by
    have hfst : ∀ a c : Block × Nat, precedes a.1 c.1 = precedes (Prod.fst a) (Prod.fst c) :=
      fun _ _ => rfl
    rw [map_sortBy hfst, List.zipIdx_map_fst]
  dsimp only
  rw [hsame, hsorted]
  rfl

/-- Blocks that are read off the sorted texts are sorted. -/
theorem sorted_of_copies (hkey : ∀ b b', SameName (.block b) (.block b') → key b' = key b)
    {file' : SourceFile} {bs : List Block} {its : List Item}
    (h : List.Forall₂ (CopyOf file file') (bs.map .block) its) (hsorted : SortedBy key bs)
    (hkind : ∀ b ∈ bs, b.kind = kind) : SortedBy key (Body.blocksOf its kind) := by
  have hmap : (Body.blocksOf its kind).map key = bs.map key := by
    rw [List.forall₂_map_left_iff] at h
    clear hsorted
    induction h with
    | nil => rfl
    | @cons b it bs its hcopy _ ih =>
      have ih := ih fun b' hb' => hkind b' (List.mem_cons_of_mem _ hb')
      obtain ⟨hsame, -⟩ := hcopy
      cases hsame with
      | @block _ b' hkind' hlabels hkeys =>
        have hk : b'.kind = kind := hkind'.trans (hkind b List.mem_cons_self)
        have hblocks : Body.blocksOf (.block b' :: its) kind = b' :: Body.blocksOf its kind := by
          simp [Body.blocksOf, Body.blocks, Item.block?, hk]
        rw [hblocks, List.map_cons, List.map_cons, ih, hkey b b' (.block hkind' hlabels hkeys)]
  rw [SortedBy, ← List.pairwise_map (f := key) (R := (· ≤ ·))] at hsorted ⊢
  rwa [hmap]

/-- Sorted blocks that hold are declared by their texts in normal layout. -/
theorem declaresBlocks_of_sorted {rule : Rule} (hle : ∀ a b, precedes a b = true ↔ key a ≤ key b)
    (hkey : ∀ b b', SameName (.block b) (.block b') → key b' = key b)
    (hrule : ∀ file body, rule.findings file body =
      checkBlocks title precedes file (body.blocksOf kind))
    {text : List Char} {body : Body} (h : parseBody text = some body) (name : String)
    {bs : List Block} (hbs : ∀ b ∈ bs, b ∈ body.blocksOf kind) (hne : bs ≠ [])
    (hsorted : SortedBy key bs)
    (hholds : ∀ b ∈ bs, Holds anything (.block b) ((SourceFile.parse name text).textOf b.span)) :
    DeclaresBlocks rule (.parse name text) bs
      (format (joinSections (bs.map fun b => (SourceFile.parse name text).textOf b.span))) := by
  obtain ⟨rs, hrs⟩ : ∃ rs : List (Item × List Char), rs = bs.map fun b =>
      (Item.block b, (SourceFile.parse name text).textOf (Item.block b).span) := ⟨_, rfl⟩
  have hblock : ∀ b ∈ bs, b ∈ body.blocks ∧ b.kind = kind := by
    intro b hb
    obtain ⟨hmem, hkind⟩ := List.mem_filter.1 (hbs b hb)
    exact ⟨hmem, beq_iff_eq.1 hkind⟩
  have hsettled : ∀ r ∈ rs, Settled anything r := by
    intro r hr
    rw [hrs] at hr
    obtain ⟨b, hb, rfl⟩ := List.mem_map.1 hr
    exact ⟨SourceFile.upright_textOf h name (.here (mem_of_mem_blocks (hblock b hb).1)), hholds b hb⟩
  have hkeys : itemKeys (rs.map (·.1)) = [] := by
    rw [hrs, List.map_map]
    exact itemKeys_blocks bs
  have htexts : rs.map (·.2) =
      bs.map fun b => (SourceFile.parse name text).textOf b.span := by
    rw [hrs, List.map_map]
    rfl
  obtain ⟨its, hparse, hcopied⟩ := exists_parse_sections hsettled
    (by rw [hrs]; simpa using hne) (by rw [hkeys]; exact List.nodup_nil)
  rw [htexts] at hparse hcopied
  refine ⟨its, hparse, fun name' => ?_⟩
  have hcopies := hcopied name'
  rw [hrs] at hcopies
  have hcopies := copies_of_copied hcopies
  refine ⟨?_, hcopies⟩
  rw [hrule, checkBlocks_eq_nil_iff hle]
  exact sorted_of_copies hkey hcopies hsorted fun b hb => (hblock b hb).2

theorem ordering_checkBlocks (rule : Rule) (hle : ∀ a b, precedes a b = true ↔ key a ≤ key b)
    (hkey : ∀ b b', SameName (.block b) (.block b') → key b' = key b)
    (hrule : ∀ file body, rule.findings file body =
      checkBlocks title precedes file (body.blocksOf kind))
    (htitle : title.toList.all (· != '\n') = true) {text : List Char} {body : Body}
    (h : parseBody text = some body) (name : String) :
    Ordering key (body.blocksOf kind) (fun blocks T =>
      (∀ b ∈ blocks, Holds anything (.block b) ((SourceFile.parse name text).textOf b.span)) →
        DeclaresBlocks rule (.parse name text) blocks T)
      (rule.findings (.parse name text) body) where
  silent := by rw [hrule, checkBlocks_eq_nil_iff hle]
  spoken f hf := by
    rw [hrule] at hf
    obtain ⟨blocks, hblocks⟩ : ∃ bs, bs = body.blocksOf kind := ⟨_, rfl⟩
    rw [← hblocks] at hf ⊢
    unfold checkBlocks at hf
    split at hf
    · cases hf
    · rename_i first more
      split at hf
      · cases hf
      · obtain rfl := List.mem_singleton.1 hf
        have harranged := arranged_sortBy hle (first :: more)
        refine ⟨_, _, _, rfl, harranged, fun hholds => ?_⟩
        rw [renderBlocks, suggestion_append htitle]
        refine declaresBlocks_of_sorted hle hkey hrule h name (fun b hb => ?_) (fun hnil => ?_)
          harranged.sorted hholds
        · rw [mem_sortBy, hblocks] at hb
          exact hb
        · have hlength := harranged.perm.length_eq
          rw [hnil] at hlength
          cases hlength

end Blocks

/-! ## Values of `locals` blocks -/

section Locals

variable {text : List Char} {body : Body}

/-- The attributes of a block that was read are in source order. -/
theorem attributesByOffset_of_parseBody (h : parseBody text = some body) {b : Block}
    (hb : Inside (.block b) body) : b.attributesByOffset = b.attributes := by
  obtain ⟨d, hstack⟩ := stack_of_parseBody h
  obtain ⟨c₁, d₁, -, hstands⟩ := hstack.exists_of_inside hb
  obtain ⟨c₂, d₂, -, hbody⟩ := hstands.body
  exact attributesByOffset_eq (hbody.pairwise_start)

theorem checkLocals_eq_nil_iff {file : SourceFile} {b : Block}
    (hb : b.attributesByOffset = b.attributes) :
    checkLocals file b = [] ↔ SortedBy Attribute.key b.attributes := by
  have hle : ∀ a b : Attribute, stringLe a.key b.key = true ↔ a.key ≤ b.key :=
    fun a b => stringLe_iff _ _
  rw [← inOrder_iff_sorted hle, checkLocals, hb]
  split
  · rename_i hin
    exact iff_of_true rfl hin
  · rename_i hout
    exact iff_of_false (by simp) hout

theorem keys_of_copies {file file' : SourceFile} {values : List Attribute} {its : List Item}
    (h : List.Forall₂ (CopyOf file file') (values.map .attr) its) :
    (Body.attributes its).map Attribute.key = values.map Attribute.key := by
  rw [List.forall₂_map_left_iff] at h
  induction h with
  | nil => rfl
  | @cons a it values its hcopy _ ih =>
    obtain ⟨hsame, -⟩ := hcopy
    cases hsame with
    | @attr _ a' hkey =>
      have hattributes : Body.attributes (.attr a' :: its) = a' :: Body.attributes its := rfl
      rw [hattributes, List.map_cons, List.map_cons, ih, hkey]

/-- Sorted values that hold are declared by their texts in one `locals` block in normal layout. -/
theorem declaresLocals_of_sorted (h : parseBody text = some body) (name : String)
    {values : List Attribute} (hvalues : ∀ a ∈ values, Inside (.attr a) body) (hne : values ≠ [])
    (hkeys : (values.map Attribute.key).Nodup) (hsorted : SortedBy Attribute.key values)
    (hholds : ∀ a ∈ values, Holds anything (.attr a) ((SourceFile.parse name text).textOf a.span)) :
    DeclaresLocals (.parse name text) values (format ("locals \x7b\n".toList ++
      unlines (values.map fun a => (SourceFile.parse name text).textOf a.span) ++ ['\n', '}'])) := by
  obtain ⟨rs, hrs⟩ : ∃ rs : List (Item × List Char), rs = values.map fun a =>
      (Item.attr a, (SourceFile.parse name text).textOf (Item.attr a).span) := ⟨_, rfl⟩
  have hsettled : ∀ r ∈ rs, Settled anything r := by
    intro r hr
    rw [hrs] at hr
    obtain ⟨a, ha, rfl⟩ := List.mem_map.1 hr
    exact ⟨SourceFile.upright_textOf h name (hvalues a ha), hholds a ha⟩
  have hrskeys : itemKeys (rs.map (·.1)) = values.map Attribute.key := by
    rw [hrs, List.map_map]
    exact itemKeys_attributes values
  have htexts : rs.map (·.2) = values.map fun a => (SourceFile.parse name text).textOf a.span := by
    rw [hrs, List.map_map]
    rfl
  have hrsne : rs ≠ [] := by
    rw [hrs]
    simpa using hne
  have hname : Cursor.IsName "locals".toList := ⟨⟨'l', _, rfl, by decide⟩, List.all_eq_true.1 (by decide)⟩
  rw [← hrskeys] at hkeys
  have hupright : Upright (enclosed "locals" rs) :=
    ⟨(lines_enclosed hname hsettled hrsne).1, trimStart_cons (by decide) _⟩
  obtain ⟨its, hparse, hcopied⟩ := exists_parse_sections
    (List.forall_mem_singleton.2 (show Settled (Encloses anything "locals" rs)
      (.block ⟨"locals", [], rs.map (·.1), ⟨0, 0⟩⟩, enclosed "locals" rs) from
        ⟨hupright, holds_enclosed hname hsettled hrsne hkeys _⟩))
    (by simp) List.nodup_nil
  have hjoin : joinSections [enclosed "locals" rs] = enclosed "locals" rs := by simp [joinSections]
  have henclosed : enclosed "locals" rs = "locals \x7b\n".toList ++
      unlines (values.map fun a => (SourceFile.parse name text).textOf a.span) ++ ['\n', '}'] := by
    rw [enclosed, htexts]
    rfl
  rw [List.map_singleton, hjoin, henclosed] at hparse hcopied
  generalize format _ = T at hparse hcopied ⊢
  obtain ⟨it, rfl⟩ : ∃ it, its = [it] := by
    have := hcopied ""
    cases this with
    | cons _ hnil =>
      cases hnil
      exact ⟨_, rfl⟩
  have hone := fun name' => (List.forall₂_cons.1 (hcopied name')).1.resembles
  obtain ⟨b, rfl, hkind, hlabels, -⟩ := hone ""
  refine ⟨b, hparse, hkind, hlabels, fun name' => ?_⟩
  obtain ⟨b', hb', -, -, hbody⟩ := hone name'
  obtain rfl := Item.block.inj hb'
  rw [hrs] at hbody
  have hcopies := copies_of_copied hbody
  refine ⟨?_, hcopies⟩
  have hfindings : Rule.localsOrder.findings (.parse name' T) [.block b] =
      checkLocals (.parse name' T) b := by
    have hblocks : Body.blocksOf [.block b] "locals" = [b] := by
      simp [Body.blocksOf, Body.blocks, Item.block?, hkind]
    exact (congrArg (List.flatMap _) hblocks).trans (List.flatMap_singleton _ _)
  rw [hfindings, checkLocals_eq_nil_iff (attributesByOffset_of_parseBody hparse (.here (by simp)))]
  rw [SortedBy, ← List.pairwise_map (f := Attribute.key) (R := (· ≤ ·))] at hsorted ⊢
  rwa [Block.attributes, keys_of_copies hcopies]

theorem ordering_checkLocals (h : parseBody text = some body) (name : String) {b : Block}
    (hb : .block b ∈ body) :
    Ordering Attribute.key b.attributes (fun values T =>
      (∀ a ∈ values, Holds anything (.attr a) ((SourceFile.parse name text).textOf a.span)) →
        DeclaresLocals (.parse name text) values T)
      (checkLocals (.parse name text) b) where
  silent := checkLocals_eq_nil_iff (attributesByOffset_of_parseBody h (.here hb))
  spoken f hf := by
    rw [checkLocals, attributesByOffset_of_parseBody h (.here hb)] at hf
    split at hf
    · cases hf
    · rename_i hout
      obtain rfl := List.mem_singleton.1 hf
      have hle : ∀ x y : Attribute, stringLe x.key y.key = true ↔ x.key ≤ y.key :=
        fun x y => stringLe_iff _ _
      have harranged := arranged_sortBy hle b.attributes
      refine ⟨_, _, _, rfl, harranged, fun hholds => ?_⟩
      have hkeys : (b.attributes.map Attribute.key).Nodup := by
        cases (formed_of_parseBody h).formed _ hb with
        | block _ hkeys _ => exact hkeys
      have hmessage : suggestion ("Recommended locals variable order:\n" ++
          renderLocals (.parse name text) (sortOn Attribute.key b.attributes)) =
            format ("locals \x7b\n".toList ++ unlines ((sortOn Attribute.key b.attributes).map
              fun a => (SourceFile.parse name text).textOf a.span) ++ ['\n', '}']) :=
        suggestion_append (show "Recommended locals variable order:".toList.all (· != '\n') = true from
          by decide) _
      rw [hmessage]
      refine declaresLocals_of_sorted h name (fun a ha => ?_) (fun hnil => ?_)
        ((harranged.perm.map _).nodup_iff.2 hkeys) harranged.sorted hholds
      · exact .nested hb (.here (mem_of_mem_attributes (harranged.perm.mem_iff.1 ha)))
      · have hempty : b.attributes = [] := by
          have hlength := harranged.perm.length_eq
          rw [hnil] at hlength
          exact List.eq_nil_of_length_eq_zero hlength.symm
        rw [hempty] at hout
        exact hout rfl

end Locals

/-- What the order rules find in a file: nothing just when the declarations are in order, else a text
with the same declarations in order, about which the rule is silent. A text is only laid out anew, so
that it has to hold. -/
theorem order_suggestions_hold {text : List Char} {body : Body} (h : parseBody text = some body)
    (name : String) :
    Ordering variableKey (body.blocksOf "variable") (fun vs T =>
        (∀ v ∈ vs, Holds anything (.block v) ((SourceFile.parse name text).textOf v.span)) →
          DeclaresBlocks Rule.variableOrder (.parse name text) vs T)
      (Rule.variableOrder.findings (.parse name text) body) ∧
    Ordering Block.firstLabel (body.blocksOf "output") (fun os T =>
        (∀ o ∈ os, Holds anything (.block o) ((SourceFile.parse name text).textOf o.span)) →
          DeclaresBlocks Rule.outputOrder (.parse name text) os T)
      (Rule.outputOrder.findings (.parse name text) body) ∧
    ∃ perBlock : List (List Finding),
      Rule.localsOrder.findings (.parse name text) body = perBlock.flatten ∧
      List.Forall₂ (fun b findings => Ordering Attribute.key b.attributes (fun values T =>
        (∀ a ∈ values, Holds anything (.attr a) ((SourceFile.parse name text).textOf a.span)) →
          DeclaresLocals (.parse name text) values T) findings) (body.blocksOf "locals") perBlock := by
  refine ⟨ordering_checkBlocks Rule.variableOrder variablePrecedes_iff
      (fun _ _ => variableKey_eq_of_sameName) (fun _ _ => rfl) (by decide) h name,
    ordering_checkBlocks Rule.outputOrder outputPrecedes_iff
      (fun _ _ => firstLabel_eq_of_sameName) (fun _ _ => rfl) (by decide) h name,
    (body.blocksOf "locals").map (checkLocals (.parse name text)), ?_, ?_⟩
  · exact List.flatMap_def
  · rw [List.forall₂_map_right_iff, List.forall₂_same]
    intro b hb
    exact ordering_checkLocals h name (mem_of_mem_blocks (List.mem_filter.1 hb).1)

/-- Two variables, one with a block in it, and two values, one with a heredoc, each two of them the
wrong way round. -/
def swapped : List Char := ("variable \"b\" \x7b\n  validation \x7b\n    condition = true\n  \x7d\n\x7d\n" ++
  "variable \"a\" \x7b\x7d\nlocals \x7b\n  y = <<E\n text\nE\n  x = 1\n\x7d\n").toList

/-- The suggestions declare them the right way round, for their texts are tame. -/
theorem order_suggestions_hold_swapped : ∃ body b, parseBody swapped = some body ∧
    body.blocksOf "locals" = [b] ∧
    (∃ message range vs, .issue message range ∈
        Rule.variableOrder.findings (.parse "main.tf" swapped) body ∧
      Arranged variableKey (body.blocksOf "variable") vs ∧
      DeclaresBlocks Rule.variableOrder (.parse "main.tf" swapped) vs (suggestion message)) ∧
    ∃ message range values, .issue message range ∈
        Rule.localsOrder.findings (.parse "main.tf" swapped) body ∧
      Arranged Attribute.key b.attributes values ∧
      DeclaresLocals (.parse "main.tf" swapped) values (suggestion message) := by
  have hread : ((parseBody swapped).map fun body =>
      ((Rule.variableOrder.findings (.parse "main.tf" swapped) body).isEmpty,
        (Rule.localsOrder.findings (.parse "main.tf" swapped) body).isEmpty,
        (body.blocksOf "locals").length,
        decide (∀ it ∈ body, TameItem (.parse "main.tf" swapped) it),
        decide (∀ b ∈ body.blocks, ∀ it ∈ b.body, TameItem (.parse "main.tf" swapped) it))) =
      some (false, false, 1, true, true) := by
    decide +kernel
  obtain ⟨body, hbody, hread⟩ := Option.map_eq_some_iff.1 hread
  simp only [Prod.mk.injEq, decide_eq_true_eq, List.isEmpty_eq_false_iff] at hread
  obtain ⟨hvariables, hlocals, hone, htame, hinner⟩ := hread
  obtain ⟨b, hb⟩ := List.length_eq_one_iff.1 hone
  have hmem : .block b ∈ body := mem_of_mem_blocks (List.mem_filter.1 (hb ▸ List.mem_singleton_self b)).1
  obtain ⟨hvariable, -, perBlock, hflatten, hperBlock⟩ := order_suggestions_hold hbody "main.tf"
  refine ⟨body, b, hbody, hb, ?_, ?_⟩
  · obtain ⟨f, hf⟩ := List.exists_mem_of_ne_nil _ hvariables
    obtain ⟨message, range, vs, rfl, harranged, hsuggests⟩ := hvariable.spoken f hf
    refine ⟨message, range, vs, hf, harranged, hsuggests fun v hv => ?_⟩
    have hv : .block v ∈ body :=
      mem_of_mem_blocks (List.mem_filter.1 (harranged.perm.mem_iff.1 hv)).1
    exact holds_of_tame hbody (.here hv) (htame _ hv) fun _ _ _ => trivial
  · obtain ⟨f, hf⟩ := List.exists_mem_of_ne_nil _ hlocals
    rw [hb] at hperBlock
    obtain ⟨findings, rest, hordering, hnil, rfl⟩ := List.forall₂_cons_left_iff.1 hperBlock
    obtain rfl := List.forall₂_nil_left_iff.1 hnil
    have hf' := hf
    rw [hflatten, List.flatten_singleton] at hf'
    obtain ⟨message, range, values, rfl, harranged, hsuggests⟩ := hordering.spoken f hf'
    refine ⟨message, range, values, hf, harranged, hsuggests fun a ha => ?_⟩
    have ha : .attr a ∈ b.body := mem_of_mem_attributes (harranged.perm.mem_iff.1 ha)
    exact holds_of_tame hbody (.nested hmem (.here ha))
      (hinner b (List.mem_filter.1 (hb ▸ List.mem_singleton_self b)).1 _ ha) fun _ _ _ => trivial

end TerraLint.DeclarationOrder
