import TerraLint.Proofs.Error
import TerraLint.Proofs.Ignore.Block
import TerraLint.Rule.Registry

/-!
# What is wrong with an ignore configuration

Each block is asked one thing after the other, and it is refused for the first one that fails. A
configuration reports every block that is refused, in order, and such a block adds nothing to the
filter.

* `Valid`: nothing is wrong with a block.
* `checks`, `firstFailure`: what is asked of a block, in order, and the first thing that fails.
* `fault?_ofBlock`: a block is refused for the first thing that fails.
* `IgnoreFilter.parse_faults`: the configurations that are accepted, and the error of the others.
-/

namespace TerraLint

open Hcl

namespace IgnoreBlock

variable {known : List String} {b : Block}

/-! ## What is asked of a block -/

/-- The expression that a pattern in a block of a type writes. In an `ignore` block, a mark in front
of it is left out. -/
def bare (kind pattern : String) : String :=
  if kind = "ignore" then
    match pattern.toList with
    | '!' :: rest => String.ofList rest
    | _ => pattern
  else pattern

/-- Whether the expression that a pattern writes is one. -/
def compiles (kind pattern : String) : Bool := (Regex.parse? (bare kind pattern).toList).isSome

/-- Nothing is wrong with a block: it is of one of the two types, its patterns are a list of strings
that compile, and of the two lists of rules it has one at most, which holds known names. -/
structure Valid (known : List String) (b : Block) : Prop where
  kind : b.kind = "ignore" ∨ b.kind = "retain"
  patterns : ∃ a, b.attribute? "patterns" = some a ∧ isStringList a.value = true ∧
    ∀ p ∈ strings a.value, compiles b.kind p = true
  lists : declares b "include_rules" = false ∨ declares b "exclude_rules" = false
  rules : ∀ key ∈ ["include_rules", "exclude_rules"], ∀ a, b.attribute? key = some a →
    isStringList a.value = true ∧ ∀ name ∈ strings a.value, name ∈ known

/-- What is asked of the patterns of a block, and what is wrong when it fails. -/
def patternChecks (b : Block) : List (Bool × ConfigFault) :=
  match b.attribute? "patterns" with
  | none => [(false, .missingPatterns b.kind)]
  | some a => (isStringList a.value, .notStringList) :: (strings a.value).map fun p =>
    (compiles b.kind p, .badPattern (bare b.kind p) "not a regular expression")

/-- What is asked of a list of rules, and what is wrong when it fails. -/
def ruleChecks (known : List String) (b : Block) (key : String) : List (Bool × ConfigFault) :=
  match b.attribute? key with
  | none => []
  | some a => (isStringList a.value, .notStringList) :: (strings a.value).map fun name =>
    (known.contains name, .unknownRule name)

/-- What is asked of a block, in order. -/
def checks (known : List String) (b : Block) : List (Bool × ConfigFault) :=
  [(b.kind == "ignore" || b.kind == "retain", .unknownBlock b.kind)] ++ (patternChecks b ++
    ([(!(declares b "include_rules" && declares b "exclude_rules"), .bothLists b.kind)] ++
      (ruleChecks known b "include_rules" ++ ruleChecks known b "exclude_rules")))

/-- What is wrong at the first check that fails. -/
def firstFailure (cs : List (Bool × ConfigFault)) : Option ConfigFault :=
  cs.findSome? fun c => if c.1 then none else some c.2

theorem firstFailure_pass (fault : ConfigFault) (cs : List (Bool × ConfigFault)) :
    firstFailure ((true, fault) :: cs) = firstFailure cs := rfl

theorem firstFailure_append (cs ds : List (Bool × ConfigFault)) :
    firstFailure (cs ++ ds) = (firstFailure cs).or (firstFailure ds) := List.findSome?_append

theorem firstFailure_eq_none_iff {cs : List (Bool × ConfigFault)} :
    firstFailure cs = none ↔ ∀ c ∈ cs, c.1 = true := by
  unfold firstFailure
  rw [List.findSome?_eq_none_iff]
  simp

/-! ## The first thing that is wrong -/

/-- A computation that goes on after another one is refused as either of them is. -/
theorem fault?_bind {α β : Type} {x : Except ConfigFault α} {f : α → Except ConfigFault β}
    {cs ds : List (Bool × ConfigFault)} (hx : fault? x = firstFailure cs)
    (hf : ∀ v, x = .ok v → fault? (f v) = firstFailure ds) :
    fault? (x >>= f) = firstFailure (cs ++ ds) := by
  rw [firstFailure_append, ← hx]
  cases x with
  | ok v => exact hf v rfl
  | error fault => rfl

theorem fault?_stringList (e : Expr) :
    fault? (stringList e) = firstFailure [(isStringList e, .notStringList)] := by
  rw [stringList_eq]
  unfold firstFailure
  cases isStringList e <;> rfl

theorem split_eq_bare {kind : IgnoreKind} {name : String}
    (hkind : IgnoreKind.ofName? name = some kind) (p : String) :
    (kind.split p).2 = bare name p := by
  unfold IgnoreKind.split bare
  cases kind with
  | ignore =>
    rw [if_pos (ofName?_eq_ignore_iff.1 hkind)]
    split <;> simp_all
  | retain =>
    have hother : name ≠ "ignore" := by simp [ofName?_eq_retain_iff.1 hkind]
    rw [if_neg hother]

theorem fault?_compileAll {kind : IgnoreKind} {name : String}
    (hkind : IgnoreKind.ofName? name = some kind) (patterns : List String) :
    fault? (compileAll kind patterns) = firstFailure (patterns.map fun p =>
      (compiles name p, .badPattern (bare name p) "not a regular expression")) := by
  unfold compileAll firstFailure compiles
  rw [fault?_mapM, List.findSome?_map]
  congr 1
  funext p
  rw [Function.comp_apply, ← split_eq_bare hkind]
  generalize kind.split p = parts
  obtain ⟨retains, source⟩ := parts
  dsimp only
  unfold compile
  cases Regex.parse? source.toList <;> rfl

theorem fault?_checkKnown (known listed : List String) :
    fault? (checkKnown known listed) =
      firstFailure (listed.map fun name => (known.contains name, .unknownRule name)) := by
  induction listed with
  | nil => rfl
  | cons name listed ih =>
    unfold checkKnown at ih ⊢
    rw [List.find?_cons, List.map_cons]
    cases known.contains name with
    | true => exact ih
    | false => rfl

theorem fault?_selectRules (known : List String) (b : Block) :
    fault? (selectRules known b) = firstFailure
      ([(!(declares b "include_rules" && declares b "exclude_rules"), .bothLists b.kind)] ++
        (ruleChecks known b "include_rules" ++ ruleChecks known b "exclude_rules")) := by
  have hlisted : ∀ {a : Attribute} (rules : List String → List String),
      fault? (do
        let names ← stringList a.value
        checkKnown known names
        return rules names) =
      firstFailure ((isStringList a.value, .notStringList) :: (strings a.value).map fun name =>
        (known.contains name, .unknownRule name)) := by
    intro a rules
    refine fault?_bind (fault?_stringList a.value) fun names hnames => ?_
    obtain rfl := strings_of_stringList hnames
    rw [← fault?_checkKnown]
    cases checkKnown known (strings a.value) <;> rfl
  unfold selectRules declares ruleChecks
  cases b.attribute? "include_rules" with
  | none =>
    cases b.attribute? "exclude_rules" with
    | none => rfl
    | some excluded => exact hlisted _
  | some included =>
    cases b.attribute? "exclude_rules" with
    | none =>
      rw [List.append_nil]
      exact hlisted _
    | some excluded => rfl

theorem ofName?_eq_none_iff {name : String} :
    IgnoreKind.ofName? name = none ↔ name ≠ "ignore" ∧ name ≠ "retain" := by
  unfold IgnoreKind.ofName?
  split <;> simp_all

/-- A block is refused for the first check that fails. -/
theorem fault?_ofBlock (known : List String) (b : Block) :
    fault? (ofBlock known b) = firstFailure (checks known b) := by
  unfold ofBlock checks patternChecks
  cases hkind : IgnoreKind.ofName? b.kind with
  | none =>
    have hname : (b.kind == "ignore" || b.kind == "retain") = false := by
      simpa using ofName?_eq_none_iff.1 hkind
    rw [hname]
    cases b.attribute? "patterns" <;> rfl
  | some kind =>
    have hname : (b.kind == "ignore" || b.kind == "retain") = true := by
      cases kind with
      | ignore => simp [ofName?_eq_ignore_iff.1 hkind]
      | retain => simp [ofName?_eq_retain_iff.1 hkind]
    rw [hname, List.singleton_append, firstFailure_pass]
    cases b.attribute? "patterns" with
    | none => rfl
    | some a =>
      show _ = firstFailure ([(isStringList a.value, .notStringList)] ++ (List.map _ _ ++ _))
      refine fault?_bind (fault?_stringList a.value) fun texts htexts => ?_
      obtain rfl := strings_of_stringList htexts
      refine fault?_bind (fault?_compileAll hkind _) fun compiled _ => ?_
      rw [← fault?_selectRules]
      cases selectRules known b <;> rfl

/-! ## Blocks with nothing wrong -/

theorem forall_patternChecks_iff : (∀ c ∈ patternChecks b, c.1 = true) ↔
    ∃ a, b.attribute? "patterns" = some a ∧ isStringList a.value = true ∧
      ∀ p ∈ strings a.value, compiles b.kind p = true := by
  unfold patternChecks
  cases b.attribute? "patterns" <;> simp

theorem forall_ruleChecks_iff {key : String} : (∀ c ∈ ruleChecks known b key, c.1 = true) ↔
    ∀ a, b.attribute? key = some a →
      isStringList a.value = true ∧ ∀ name ∈ strings a.value, name ∈ known := by
  unfold ruleChecks
  cases b.attribute? key <;> simp

theorem valid_iff : Valid known b ↔ firstFailure (checks known b) = none := by
  rw [firstFailure_eq_none_iff]
  unfold checks
  simp only [List.forall_mem_append, List.forall_mem_singleton, forall_patternChecks_iff,
    forall_ruleChecks_iff]
  constructor
  · intro h
    have hkind : (b.kind == "ignore" || b.kind == "retain") = true := by simpa using h.kind
    have hlists : (!(declares b "include_rules" && declares b "exclude_rules")) = true := by
      simpa using h.lists
    exact ⟨hkind, h.patterns, hlists, h.rules _ (by simp), h.rules _ (by simp)⟩
  · rintro ⟨hkind, hpatterns, hlists, hinclude, hexclude⟩
    refine ⟨by simpa using hkind, hpatterns, by simpa using hlists, ?_⟩
    intro key hkey
    simp only [List.mem_cons, List.not_mem_nil, or_false] at hkey
    rcases hkey with rfl | rfl
    · exact hinclude
    · exact hexclude

instance (known : List String) (b : Block) : Decidable (Valid known b) :=
  decidable_of_iff _ valid_iff.symm

end IgnoreBlock

namespace IgnoreFilter

open IgnoreBlock

variable {known : List String} {b : Block} {text : List Char} {body : Body}

/-- The blocks with something wrong and what is wrong with them, one for one. -/
theorem forall₂_faults (known : List String) (blocks : List Block) :
    List.Forall₂ (fun b fault => firstFailure (checks known b) = some fault)
      (blocks.filter fun b => !decide (Valid known b))
      (blocks.filterMap fun b => fault? (ofBlock known b)) := by
  induction blocks with
  | nil => exact .nil
  | cons b blocks ih =>
    cases hb : fault? (ofBlock known b) with
    | none =>
      have hvalid : Valid known b := valid_iff.2 (fault?_ofBlock known b ▸ hb)
      rw [List.filterMap_cons, hb, List.filter_cons_of_neg (by simp [hvalid])]
      exact ih
    | some fault =>
      have hfault : firstFailure (checks known b) = some fault := fault?_ofBlock known b ▸ hb
      have hinvalid : ¬Valid known b := by simp [valid_iff, hfault]
      rw [List.filterMap_cons, hb, List.filter_cons_of_pos (by simp [hinvalid])]
      exact .cons hfault ih

theorem filterMap_fault?_eq_nil_iff {blocks : List Block} :
    (blocks.filterMap fun b => fault? (ofBlock known b)) = [] ↔ ∀ b ∈ blocks, Valid known b := by
  rw [List.filterMap_eq_nil_iff]
  simp only [fault?_ofBlock, valid_iff]

theorem addBlocks_of_not_valid (h : ¬Valid known b) (path : String) (filter : IgnoreFilter)
    (errors : ErrorList) :
    ∃ fault, firstFailure (checks known b) = some fault ∧
      addBlocks known path filter errors [b] =
        (filter, ⟨errors.errors ++ [.ignoreConfig path fault]⟩) := by
  obtain ⟨fault, hfault⟩ := Option.ne_none_iff_exists'.1 fun hnone => h (valid_iff.2 hnone)
  refine ⟨fault, hfault, ?_⟩
  rw [← fault?_ofBlock] at hfault
  rw [addBlocks_eq]
  cases hb : ofBlock known b with
  | ok said =>
    rw [hb] at hfault
    cases hfault
  | error fault' =>
    rw [hb] at hfault
    obtain rfl := Option.some.inj hfault
    simp [hb, fault?, Except.toOption]

theorem exists_map_eq_ok_iff {ε β : Type} {x : Except ε Unit} {v : β} :
    (∃ w, x.map (fun _ => v) = .ok w) ↔ x = .ok () := by
  cases x <;> simp [Except.map]

/-- A configuration is accepted just when no attribute stands outside of its blocks and nothing is
wrong with any block. When blocks are all that is wrong, its error has one entry for each faulty
block, in order, for the first thing that is wrong with it; one entry is the error itself. A faulty
block leaves the filter as it is. -/
theorem parse_faults (hbody : parseBody text = some body) (known : List String) (path : String) :
    ((∃ filter, parse known path text = .ok filter) ↔
      body.attributes = [] ∧ ∀ b ∈ body.blocks, Valid known b) ∧
    (body.attributes = [] → ∃ faults : List ConfigFault,
      List.Forall₂ (fun b fault => firstFailure (checks known b) = some fault)
        (body.blocks.filter fun b => !decide (Valid known b)) faults ∧
      (∀ fault, faults = [fault] → parse known path text = .error (.ignoreConfig path fault)) ∧
      (2 ≤ faults.length → parse known path text =
        .error (.multiple (faults.map (.ignoreConfig path))))) ∧
    ∀ b, ¬Valid known b → ∀ filter errors, ∃ fault, firstFailure (checks known b) = some fault ∧
      addBlocks known path filter errors [b] =
        (filter, ⟨errors.errors ++ [.ignoreConfig path fault]⟩) := by
  refine ⟨?_, ?_, fun b h => addBlocks_of_not_valid h path⟩
  · cases hattributes : body.attributes with
    | cons a rest => simp [parse_eq_error_of_attribute hbody hattributes]
    | nil =>
      rw [parse_eq_of_no_attribute hbody hattributes, exists_map_eq_ok_iff,
        ErrorList.collapse_eq_ok_iff, List.map_eq_nil_iff, filterMap_fault?_eq_nil_iff]
      exact (and_iff_right rfl).symm
  · intro hattributes
    rw [parse_eq_of_no_attribute hbody hattributes]
    refine ⟨_, forall₂_faults known body.blocks, ?_, ?_⟩
    · intro fault hone
      rw [hone]
      rfl
    · intro hlength
      rw [ErrorList.collapse_eq_multiple (by simpa using hlength)]
      rfl

/-- A configuration with a valid block between two faulty ones. -/
def faultyConfig : List Char :=
  ("skip \x7b\x7d\n" ++ "ignore \x7b\n  patterns = [\"a\"]\n\x7d\n" ++
    "retain \x7b\n  patterns = [1]\n  include_rules = []\n\x7d\n").toList

/-- It is refused with one error for each of the two blocks. -/
theorem parse_faults_two : parse Rule.names "test.ignore" faultyConfig =
    .error (.multiple [.ignoreConfig "test.ignore" (.unknownBlock "skip"),
      .ignoreConfig "test.ignore" .notStringList]) := by
  have hbodies : ∃ body ∈ parseBody faultyConfig, body.attributes = [] ∧
      (body.blocks.filter fun b => !decide (Valid Rule.names b)).map
        (fun b => firstFailure (checks Rule.names b)) =
      [some (.unknownBlock "skip"), some .notStringList] := by decide +kernel
  obtain ⟨body, hbody, hattributes, hchecks⟩ := hbodies
  obtain ⟨-, hblocks, -⟩ := parse_faults hbody Rule.names "test.ignore"
  obtain ⟨faults, hfaults, -, hmultiple⟩ := hblocks hattributes
  have hmap : (body.blocks.filter fun b => !decide (Valid Rule.names b)).map
      (fun b => firstFailure (checks Rule.names b)) = faults.map some := by
    rw [← List.forall₂_eq_eq_eq, List.forall₂_map_left_iff, List.forall₂_map_right_iff]
    exact hfaults
  have hsome : [.unknownBlock "skip", .notStringList].map some = faults.map some :=
    hchecks.symm.trans hmap
  obtain rfl := (List.map_inj_right fun _ _ => Option.some.inj).1 hsome
  exact hmultiple (by simp)

end IgnoreFilter

end TerraLint
