import TerraLint.Proofs.Error
import TerraLint.Proofs.Ignore.Block
import TerraLint.Rule.Registry

/-!
# What an ignore configuration means

A filter is built up block by block in two tables. Which files it skips is said by the blocks
themselves: by their types, by the patterns they list and by the rules they are about.

* `Selects`, `Matches`: the rules that a block is about, and the files that a pattern is about.
* `mem_rules`, `exists_ignores`, `exists_retains`: what a block says.
* `IgnoreFilter.isIgnored_iff_names`: the files that rules skip.
-/

namespace TerraLint

open Hcl

/-! ## Tables of patterns -/

namespace PatternTable

theorem lookup_extend (table : PatternTable) (patterns : List Regex) (name rule : String) :
    ((table.extend patterns name).lookup rule).getD [] =
      (table.lookup rule).getD [] ++ if rule = name then patterns else [] := by
  induction table with
  | nil =>
    unfold extend
    by_cases hname : rule = name
    · simp [hname]
    · simp [List.lookup_cons, hname, beq_false_of_ne hname]
  | cons entry rest ih =>
    obtain ⟨key, before⟩ := entry
    unfold extend
    by_cases hkey : key = name
    · subst hkey
      rw [if_pos rfl, List.lookup_cons, List.lookup_cons]
      by_cases hname : rule = key
      · simp [hname]
      · simp [hname, beq_false_of_ne hname]
    · rw [if_neg hkey, List.lookup_cons, List.lookup_cons]
      by_cases hname : rule = key
      · subst hname
        simp [hkey]
      · simp only [beq_false_of_ne hname]
        exact ih

theorem matchesFile_iff {table : PatternTable} {rule file : String} :
    table.matchesFile rule file = true ↔
      ∃ r ∈ (table.lookup rule).getD [], r.occursIn file.toList = true := by
  unfold matchesFile
  rw [List.any_eq_true]

theorem matchesFile_extendAll (table : PatternTable) (rules : List String)
    (patterns : List Regex) (rule file : String) :
    (table.extendAll rules patterns).matchesFile rule file = true ↔
      table.matchesFile rule file = true ∨
        rule ∈ rules ∧ ∃ r ∈ patterns, r.occursIn file.toList = true := by
  unfold extendAll
  induction rules generalizing table with
  | nil => simp
  | cons name rules ih =>
    rw [List.foldl_cons, ih, matchesFile_iff, lookup_extend, matchesFile_iff, List.mem_cons]
    by_cases hname : rule = name
    · simp only [hname, if_true, List.mem_append]
      grind
    · simp [hname]

end PatternTable

namespace IgnoreBlock

variable {known : List String} {b : Block} {said : IgnoreBlock} {rule file : String}

/-! ## What a block says -/

/-- A block is about a rule: it lists no rules at all, or it includes the rule, or it excludes
others. -/
def Selects (b : Block) (rule : String) : Prop :=
  declares b "include_rules" = false ∧ declares b "exclude_rules" = false ∨
    rule ∈ listed b "include_rules" ∨
    declares b "exclude_rules" = true ∧ rule ∉ listed b "exclude_rules"

/-- A text is a regular expression that matches somewhere in the name of a file. -/
def Matches (source file : String) : Prop :=
  ∃ r, Regex.parse? source.toList = some r ∧ r.occursIn file.toList = true

theorem mem_selectRules {rules : List String} (h : selectRules known b = .ok rules) :
    rule ∈ rules ↔ rule ∈ known ∧ Selects b rule := by
  unfold selectRules at h
  unfold Selects declares
  split at h
  · cases h
  · rename_i hinclude hexclude
    obtain rfl := Except.ok.inj h
    simp [hinclude, hexclude]
  · rename_i included hinclude hexclude
    obtain ⟨names, hnames, h⟩ := bind_eq_ok_iff.1 h
    obtain ⟨-, -, h⟩ := bind_eq_ok_iff.1 h
    obtain rfl := Except.ok.inj h
    rw [strings_of_stringList hnames, ← listed_eq hinclude]
    simp [hinclude, hexclude]
  · rename_i excluded hinclude hexclude
    obtain ⟨names, hnames, h⟩ := bind_eq_ok_iff.1 h
    obtain ⟨-, -, h⟩ := bind_eq_ok_iff.1 h
    obtain rfl := Except.ok.inj h
    rw [strings_of_stringList hnames, ← listed_eq hexclude]
    simp [hinclude, hexclude, listed_eq_nil hinclude]

theorem mem_compileAll {kind : IgnoreKind} {patterns : List String}
    {compiled : List (Bool × Regex)} (h : compileAll kind patterns = .ok compiled) {retains : Bool}
    {r : Regex} : (retains, r) ∈ compiled ↔ ∃ p ∈ patterns, (kind.split p).1 = retains ∧
      Regex.parse? (kind.split p).2.toList = some r := by
  have hall : List.Forall₂ (fun p c => (kind.split p).1 = c.1 ∧
      Regex.parse? (kind.split p).2.toList = some c.2) patterns compiled := by
    refine (forall₂_of_mapM h).imp fun p c hp => ?_
    generalize kind.split p = parts at hp ⊢
    obtain ⟨retains, source⟩ := parts
    obtain ⟨r, hr, hc⟩ := bind_eq_ok_iff.1 hp
    obtain rfl := Except.ok.inj hc
    exact ⟨rfl, compile_eq_ok_iff.1 hr⟩
  clear h
  induction hall with
  | nil => simp
  | @cons p c patterns compiled hp _ ih =>
    have hfirst : (retains, r) = c ↔ (kind.split p).1 = retains ∧
        Regex.parse? (kind.split p).2.toList = some r := by
      rw [hp.1, hp.2, Option.some.injEq, Prod.ext_iff]
      exact and_congr eq_comm eq_comm
    rw [List.mem_cons, hfirst]
    simp [ih]

theorem split_ignore_marked (q : String) : IgnoreKind.ignore.split ("!" ++ q) = (true, q) := by
  have hchars : ("!" ++ q).toList = '!' :: q.toList := by simp
  unfold IgnoreKind.split
  rw [hchars]
  simp

theorem split_ignore_plain {p : String} (h : ∀ q, p ≠ "!" ++ q) :
    IgnoreKind.ignore.split p = (false, p) := by
  have hhead : ∀ rest, p.toList ≠ '!' :: rest := by
    intro rest heq
    apply h (String.ofList rest)
    rw [← String.toList_inj, heq]
    simp
  unfold IgnoreKind.split
  split
  · rename_i rest _ heq
    exact absurd heq (hhead _)
  · rfl
  · rename_i hkind
    cases hkind

theorem split_retain (p : String) : IgnoreKind.retain.split p = (true, p) := by
  unfold IgnoreKind.split
  split <;> simp_all

/-- What a block with these patterns skips and what it checks all the same. -/
theorem exists_compiled {kind : IgnoreKind} {patterns : List String}
    {compiled : List (Bool × Regex)} (h : compileAll kind patterns = .ok compiled)
    (retains : Bool) (file : String) :
    (∃ r, (retains, r) ∈ compiled ∧ r.occursIn file.toList = true) ↔
      ∃ p ∈ patterns, (kind.split p).1 = retains ∧ Matches (kind.split p).2 file := by
  simp only [mem_compileAll h]
  unfold Matches
  grind

theorem exists_ignores (h : ofBlock known b = .ok said) (file : String) :
    (∃ r ∈ said.ignores, r.occursIn file.toList = true) ↔
      b.kind = "ignore" ∧ ∃ p ∈ listed b "patterns", (∀ q, p ≠ "!" ++ q) ∧ Matches p file := by
  obtain ⟨kind, compiled, hkind, hcompiled, -, hignores, -⟩ := exists_of_ofBlock h
  have hmem : ∀ r, r ∈ said.ignores ↔ (false, r) ∈ compiled := by
    intro r
    rw [hignores]
    simp
  simp only [hmem]
  rw [exists_compiled hcompiled]
  cases kind with
  | ignore =>
    have hname := ofName?_eq_ignore_iff.1 hkind
    rw [and_iff_right hname]
    refine exists_congr fun p => and_congr_right fun _ => ?_
    by_cases hmarked : ∃ q, p = "!" ++ q
    · obtain ⟨q, rfl⟩ := hmarked
      simp [split_ignore_marked]
    · have hplain := not_exists.1 hmarked
      rw [split_ignore_plain hplain]
      exact and_congr_left fun _ => iff_of_true rfl hplain
  | retain =>
    have hname := ofName?_eq_retain_iff.1 hkind
    simp [split_retain, hname]

theorem exists_retains (h : ofBlock known b = .ok said) (file : String) :
    (∃ r ∈ said.retains, r.occursIn file.toList = true) ↔
      b.kind = "retain" ∧ (∃ p ∈ listed b "patterns", Matches p file) ∨
        b.kind = "ignore" ∧
          ∃ p ∈ listed b "patterns", ∃ q, p = "!" ++ q ∧ Matches q file := by
  obtain ⟨kind, compiled, hkind, hcompiled, -, -, hretains⟩ := exists_of_ofBlock h
  have hmem : ∀ r, r ∈ said.retains ↔ (true, r) ∈ compiled := by
    intro r
    rw [hretains]
    simp
  simp only [hmem]
  rw [exists_compiled hcompiled]
  cases kind with
  | ignore =>
    have hname := ofName?_eq_ignore_iff.1 hkind
    have hother : b.kind ≠ "retain" := by simp [hname]
    rw [or_iff_right fun h => hother h.1, and_iff_right hname]
    constructor
    · rintro ⟨p, hp, hsplit, hmatches⟩
      by_cases hmarked : ∃ q, p = "!" ++ q
      · obtain ⟨q, rfl⟩ := hmarked
        rw [split_ignore_marked] at hmatches
        exact ⟨_, hp, q, rfl, hmatches⟩
      · rw [split_ignore_plain (not_exists.1 hmarked)] at hsplit
        cases hsplit
    · rintro ⟨_, hp, q, rfl, hmatches⟩
      refine ⟨_, hp, ?_⟩
      rw [split_ignore_marked]
      exact ⟨rfl, hmatches⟩
  | retain =>
    have hname := ofName?_eq_retain_iff.1 hkind
    simp [split_retain, hname]

theorem mem_rules (h : ofBlock known b = .ok said) :
    rule ∈ said.rules ↔ rule ∈ known ∧ Selects b rule := by
  obtain ⟨kind, compiled, -, -, hrules, -, -⟩ := exists_of_ofBlock h
  exact mem_selectRules hrules

/-- Some block of a type is about a rule and lists a pattern with a property. -/
def Names (blocks : List Block) (kind rule : String) (property : String → Prop) : Prop :=
  ∃ b ∈ blocks, b.kind = kind ∧ Selects b rule ∧ ∃ p ∈ listed b "patterns", property p

/-- Two blocks say the same: they have one type, and their lists hold the same strings, in whatever
order and however often. -/
def Alike (b b' : Block) : Prop :=
  b.kind = b'.kind ∧ ∀ key ∈ ["patterns", "include_rules", "exclude_rules"],
    declares b key = declares b' key ∧
      listed b key ⊆ listed b' key ∧ listed b' key ⊆ listed b key

instance (b b' : Block) : Decidable (Alike b b') := inferInstanceAs (Decidable (_ ∧ _))

theorem Alike.mem_listed {b' : Block} (h : Alike b b') {key : String}
    (hkey : key ∈ ["patterns", "include_rules", "exclude_rules"]) {text : String} :
    text ∈ listed b key ↔ text ∈ listed b' key := by
  obtain ⟨-, hthere, hback⟩ := h.2 key hkey
  exact ⟨fun hmem => hthere hmem, fun hmem => hback hmem⟩

theorem Alike.selects {b' : Block} (h : Alike b b') (hselects : Selects b rule) :
    Selects b' rule := by
  have hinclude := (h.2 "include_rules" (by simp)).1
  have hexclude := (h.2 "exclude_rules" (by simp)).1
  unfold Selects at hselects ⊢
  rw [← hinclude, ← hexclude, ← h.mem_listed (by simp), ← h.mem_listed (by simp)]
  exact hselects

theorem names_of_alike {blocks blocks' : List Block} {kind : String} {property : String → Prop}
    (h : ∀ b ∈ blocks, ∃ b' ∈ blocks', Alike b b') (hnames : Names blocks kind rule property) :
    Names blocks' kind rule property := by
  obtain ⟨b, hb, hkind, hselects, p, hp, hproperty⟩ := hnames
  obtain ⟨b', hb', halike⟩ := h b hb
  have hlisted := (halike.mem_listed (by simp)).1 hp
  exact ⟨b', hb', halike.1 ▸ hkind, halike.selects hselects, p, hlisted, hproperty⟩

end IgnoreBlock

namespace IgnoreFilter

open IgnoreBlock

variable {known : List String} {path : String} {text : List Char} {body : Body}
  {filter : IgnoreFilter}

theorem foldl_add (saids : List IgnoreBlock) (filter : IgnoreFilter) : saids.foldl add filter =
    ⟨saids.foldl (fun table said => table.extendAll said.rules said.ignores) filter.ignores,
      saids.foldl (fun table said => table.extendAll said.rules said.retains) filter.retains⟩ := by
  induction saids generalizing filter with
  | nil => rfl
  | cons said saids ih => exact ih _

/-- A table that is filled block by block matches a file when one of the blocks does. -/
theorem matchesFile_foldl (patterns : IgnoreBlock → List Regex) (saids : List IgnoreBlock)
    (table : PatternTable) (rule file : String) :
    (saids.foldl (fun table said => table.extendAll said.rules (patterns said)) table).matchesFile
        rule file = true ↔
      table.matchesFile rule file = true ∨
        ∃ said ∈ saids, rule ∈ said.rules ∧
          ∃ r ∈ patterns said, r.occursIn file.toList = true := by
  induction saids generalizing table with
  | nil => simp
  | cons said saids ih =>
    rw [List.foldl_cons, ih, PatternTable.matchesFile_extendAll, List.exists_mem_cons_iff, or_assoc]

/-- Where a configuration is accepted, all of its blocks are read and their words are the filter. -/
theorem exists_of_parse (hbody : parseBody text = some body)
    (hparse : parse known path text = .ok filter) :
    (∀ b ∈ body.blocks, ∃ said, ofBlock known b = .ok said) ∧
      filter = (body.blocks.filterMap fun b => (ofBlock known b).toOption).foldl add .empty := by
  cases hattributes : body.attributes with
  | cons a rest =>
    rw [parse_eq_error_of_attribute hbody hattributes] at hparse
    cases hparse
  | nil =>
    rw [parse_eq_of_no_attribute hbody hattributes] at hparse
    cases hcollapse : ErrorList.collapse ⟨(body.blocks.filterMap fun b =>
        fault? (ofBlock known b)).map (.ignoreConfig path)⟩ with
    | error e =>
      rw [hcollapse] at hparse
      cases hparse
    | ok _ =>
      rw [hcollapse] at hparse
      have hfaults := List.map_eq_nil_iff.1 (ErrorList.collapse_eq_ok_iff.1 hcollapse)
      refine ⟨fun b hb => ?_, (Except.ok.inj hparse).symm⟩
      exact fault?_eq_none_iff.1 (List.filterMap_eq_nil_iff.1 hfaults b hb)

/-- What the blocks of a configuration say, collected in a table, is what the blocks say. -/
theorem matchesFile_blocks {blocks : List Block}
    (hblocks : ∀ b ∈ blocks, ∃ said, ofBlock known b = .ok said)
    (patterns : IgnoreBlock → List Regex) {property : Block → Prop} {rule file : String}
    (hpatterns : ∀ b said, ofBlock known b = .ok said →
      ((∃ r ∈ patterns said, r.occursIn file.toList = true) ↔ property b)) :
    PatternTable.matchesFile ((blocks.filterMap fun b => (ofBlock known b).toOption).foldl
        (fun table said => PatternTable.extendAll table said.rules (patterns said)) []) rule file =
        true ↔
      rule ∈ known ∧ ∃ b ∈ blocks, Selects b rule ∧ property b := by
  have hempty : PatternTable.matchesFile [] rule file = false := rfl
  rw [matchesFile_foldl, hempty]
  constructor
  · rintro (hfalse | ⟨said, hmem, hrule, hmatch⟩)
    · cases hfalse
    · obtain ⟨b, hb, hsome⟩ := List.mem_filterMap.1 hmem
      obtain ⟨said', hsaid⟩ := hblocks b hb
      rw [hsaid] at hsome
      obtain rfl := Option.some.inj hsome
      obtain ⟨hknown, hselects⟩ := (mem_rules hsaid).1 hrule
      exact ⟨hknown, b, hb, hselects, (hpatterns b _ hsaid).1 hmatch⟩
  · rintro ⟨hknown, b, hb, hselects, hproperty⟩
    obtain ⟨said, hsaid⟩ := hblocks b hb
    have hmem : said ∈ blocks.filterMap fun b => (ofBlock known b).toOption :=
      List.mem_filterMap.2 ⟨b, hb, congrArg Except.toOption hsaid⟩
    have hrule := (mem_rules hsaid).2 ⟨hknown, hselects⟩
    exact .inr ⟨said, hmem, hrule, (hpatterns b _ hsaid).2 hproperty⟩

theorem matchesFile_ignores_iff (hbody : parseBody text = some body)
    (hparse : parse known path text = .ok filter) {rule file : String} :
    filter.ignores.matchesFile rule file = true ↔ rule ∈ known ∧
      Names body.blocks "ignore" rule fun p => (∀ q, p ≠ "!" ++ q) ∧ Matches p file := by
  obtain ⟨hblocks, rfl⟩ := exists_of_parse hbody hparse
  rw [foldl_add]
  have htable := @matchesFile_blocks known body.blocks hblocks (·.ignores) _ rule file
    fun b said hsaid => exists_ignores hsaid file
  refine htable.trans (and_congr_right fun _ => exists_congr fun b => ?_)
  exact and_congr_right fun _ => and_left_comm

theorem matchesFile_retains_iff (hbody : parseBody text = some body)
    (hparse : parse known path text = .ok filter) {rule file : String} :
    filter.retains.matchesFile rule file = true ↔ rule ∈ known ∧
      (Names body.blocks "retain" rule (fun p => Matches p file) ∨
        Names body.blocks "ignore" rule fun p => ∃ q, p = "!" ++ q ∧ Matches q file) := by
  obtain ⟨hblocks, rfl⟩ := exists_of_parse hbody hparse
  rw [foldl_add]
  have htable := @matchesFile_blocks known body.blocks hblocks (·.retains) _ rule file
    fun b said hsaid => exists_retains hsaid file
  refine htable.trans (and_congr_right fun _ => ?_)
  unfold Names
  rw [← exists_or]
  refine exists_congr fun b => ?_
  rw [and_or_left, and_or_left]
  exact or_congr (and_congr_right fun _ => and_left_comm) (and_congr_right fun _ => and_left_comm)

theorem isIgnored_iff (hbody : parseBody text = some body)
    (hparse : parse known path text = .ok filter) (file rule : String) :
    filter.isIgnored file rule = true ↔
      rule ∈ known ∧
      Names body.blocks "ignore" rule (fun p => (∀ q, p ≠ "!" ++ q) ∧ Matches p file) ∧
      ¬Names body.blocks "retain" rule (fun p => Matches p file) ∧
      ¬Names body.blocks "ignore" rule (fun p => ∃ q, p = "!" ++ q ∧ Matches q file) := by
  have hignores := @matchesFile_ignores_iff known path text body filter hbody hparse rule file
  have hretains := @matchesFile_retains_iff known path text body filter hbody hparse rule file
  unfold isIgnored
  rw [Bool.and_eq_true, Bool.not_eq_true', ← Bool.not_eq_true, hignores, hretains]
  tauto

/-- Configurations whose blocks say the same skip the same files. -/
theorem isIgnored_of_alike {path' : String} {text' : List Char} {body' : Body}
    {filter' : IgnoreFilter} (hbody : parseBody text = some body)
    (hparse : parse known path text = .ok filter) (hbody' : parseBody text' = some body')
    (hparse' : parse known path' text' = .ok filter')
    (hthere : ∀ b ∈ body.blocks, ∃ b' ∈ body'.blocks, Alike b b')
    (hback : ∀ b' ∈ body'.blocks, ∃ b ∈ body.blocks, Alike b' b) (file rule : String) :
    filter'.isIgnored file rule = filter.isIgnored file rule := by
  have hnames : ∀ kind property, Names body'.blocks kind rule property ↔
      Names body.blocks kind rule property := by
    intro kind property
    constructor
    · exact names_of_alike hback
    · exact names_of_alike hthere
  rw [Bool.eq_iff_iff, isIgnored_iff hbody' hparse', isIgnored_iff hbody hparse, hnames, hnames,
    hnames]

/-- A rule skips a file just when some block about the rule names a pattern of files to skip that
matches, and no block about the rule names a pattern of files to check that does. So the order of
the blocks and of what they list does not count, nor does how often something is listed. -/
theorem isIgnored_iff_names (hbody : parseBody text = some body)
    (hparse : parse known path text = .ok filter) :
    (∀ file rule, filter.isIgnored file rule = true ↔
      rule ∈ known ∧
      Names body.blocks "ignore" rule (fun p => (∀ q, p ≠ "!" ++ q) ∧ Matches p file) ∧
      ¬Names body.blocks "retain" rule (fun p => Matches p file) ∧
      ¬Names body.blocks "ignore" rule (fun p => ∃ q, p = "!" ++ q ∧ Matches q file)) ∧
    ∀ path' text' body' filter', parseBody text' = some body' →
      parse known path' text' = .ok filter' →
      (∀ b ∈ body.blocks, ∃ b' ∈ body'.blocks, Alike b b') →
      (∀ b' ∈ body'.blocks, ∃ b ∈ body.blocks, Alike b' b) →
      ∀ file rule, filter'.isIgnored file rule = filter.isIgnored file rule := by
  refine ⟨isIgnored_iff hbody hparse, ?_⟩
  intro path' text' body' filter' hbody' hparse' hthere hback
  exact isIgnored_of_alike hbody hparse hbody' hparse' hthere hback

/-- A configuration that skips a directory but for some files of it. -/
def modulesConfig : List Char :=
  "ignore \x7b patterns = [\"^modules/\"] \x7d\nretain \x7b patterns = [\"keep\"] \x7d\n".toList

/-- The same configuration in another order, with a pattern that stands twice. -/
def reorderedConfig : List Char :=
  ("retain \x7b patterns = [\"keep\", \"keep\"] \x7d\n" ++
    "ignore \x7b patterns = [\"^modules/\"] \x7d\n").toList

theorem eq_ok_of_toOption {ε α : Type} {x : Except ε α} {v : α} (h : x.toOption = some v) :
    x = .ok v := by
  cases x with
  | ok w => exact congrArg Except.ok (Option.some.inj h)
  | error e => cases h

/-- A file in the directory is skipped, so no pattern of files to check matches it, and the
configuration in another order skips it as well. -/
theorem isIgnored_iff_names_modules : ∃ body filter filter',
    parseBody modulesConfig = some body ∧
    parse Rule.names "test.ignore" modulesConfig = .ok filter ∧
    parse Rule.names "test.ignore" reorderedConfig = .ok filter' ∧
    ¬Names body.blocks "retain" "terraform_locals_order" (fun p => Matches p "modules/a.tf") ∧
    filter'.isIgnored "modules/a.tf" "terraform_locals_order" = true := by
  have hbodies : ∃ body ∈ parseBody modulesConfig, ∃ body' ∈ parseBody reorderedConfig,
      (∀ b ∈ body.blocks, ∃ b' ∈ body'.blocks, Alike b b') ∧
      ∀ b' ∈ body'.blocks, ∃ b ∈ body.blocks, Alike b' b := by decide +kernel
  have hskipped : ((parse Rule.names "test.ignore" modulesConfig).toOption.map fun filter =>
      filter.isIgnored "modules/a.tf" "terraform_locals_order") = some true := by decide +kernel
  have haccepted : (parse Rule.names "test.ignore" reorderedConfig).toOption.isSome = true := by
    decide +kernel
  obtain ⟨body, hbody, body', hbody', hthere, hback⟩ := hbodies
  obtain ⟨filter, hfilter, hignored⟩ := Option.map_eq_some_iff.1 hskipped
  obtain ⟨filter', hfilter'⟩ := Option.isSome_iff_exists.1 haccepted
  have hparse := eq_ok_of_toOption hfilter
  have hparse' := eq_ok_of_toOption hfilter'
  obtain ⟨hiff, hsame⟩ := isIgnored_iff_names hbody hparse
  obtain ⟨-, -, hretained, -⟩ := (hiff _ _).1 hignored
  refine ⟨body, filter, filter', hbody, hparse, hparse', hretained, ?_⟩
  rw [hsame _ _ _ _ hbody' hparse' hthere hback]
  exact hignored

end IgnoreFilter

end TerraLint
