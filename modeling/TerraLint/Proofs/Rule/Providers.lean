import TerraLint.Proofs.Layout.Keeping
import TerraLint.Proofs.Rule.Ordering
import TerraLint.Rule.TerraformBlock

/-!
# Rules about required providers

Providers that are out of order are reported at once, with a text that has them in order. Else each
provider is reported whose parameters are out of order, with a text that has them in order. A text that
is put in the place of what was reported is not reported again.

* `KeysSorted`: an attribute whose object, if it has one, has its keys in order.
* `Prints`: an attribute whose suggested text reads as itself.
* `Stays`, `stays_of_tame`: a structure about which nothing is suggested and that reads as itself again.
* `readsAs_suggested`: a block with all that is suggested in its place.
* `provider_suggestions_hold`: what the rule finds, and what it finds in its suggestions.
-/

namespace TerraLint.TerraformBlock

open Text Hcl Layout DeclarationOrder

/-- The key of an entry as it is written. -/
def entryKey (file : SourceFile) (e : Entry) : String := String.ofList (file.exprText e.key)

/-- The entries of an attribute's object; any other value has none. -/
def entries (a : Attribute) : List Entry :=
  match a.value.form with
  | .object es _ => es
  | _ => []

/-- The entries of an attribute are in the order of their keys. -/
def KeysSorted (file : SourceFile) (a : Attribute) : Prop := SortedBy (entryKey file) (entries a)

/-- An attribute reads as itself where its text is printed: on lines of their own for the entries of
an object, and as it stands for any other value. -/
structure Prints (file : SourceFile) (a : Attribute) : Prop where
  legible : Legible file (entries a)
  other : (∀ es stop, a.value.form ≠ .object es stop) →
    Holds (fun _ _ it => ∃ a', it = .attr a' ∧ ∀ es stop, a'.value.form ≠ .object es stop) (.attr a)
      (file.textOf a.span)

/-! ## Printed attributes -/

section Printed

variable {file : SourceFile} {a : Attribute}

theorem entries_of_object {es : List Entry} {stop : Option Span} (h : a.value.form = .object es stop) :
    entries a = es := by
  rw [entries, h]

theorem entries_of_other (h : ∀ es stop, a.value.form ≠ .object es stop) : entries a = [] := by
  unfold entries
  split
  · rename_i es stop hform
    exact absurd hform (h es stop)
  · rfl

theorem entryKey_le_iff (e e' : Entry) :
    stringLe (file.entryText e).1 (file.entryText e').1 = true ↔ entryKey file e ≤ entryKey file e' :=
  stringLe_iff _ _

theorem isSorted_mapText_iff : (file.mapText a).isSorted = true ↔ KeysSorted file a := by
  unfold SourceFile.mapText KeysSorted
  split
  · rename_i es stop hform
    have hpairs : ∀ p q : String × List Char, stringLe p.1 q.1 = true ↔ p.1 ≤ q.1 :=
      fun p q => stringLe_iff p.1 q.1
    show inOrderOn (·.1) (es.map file.entryText) = true ↔ _
    rw [inOrderOn, inOrder_iff_sorted hpairs, entries_of_object hform, SortedBy, List.pairwise_map]
    rfl
  · rename_i hform
    rw [entries_of_other hform]
    exact iff_of_true rfl List.Pairwise.nil

instance : Decidable (KeysSorted file a) := decidable_of_iff _ isSorted_mapText_iff

/-- An object is printed with its entries in the order of their keys. -/
theorem text_mapText_object {es : List Entry} {stop : Option Span} (h : a.value.form = .object es stop) :
    ∃ xs, Arranged (entryKey file) (entries a) xs ∧ (file.mapText a).text =
      format (SourceFile.enclose (a.key.toList ++ [' ', '=', ' ']) (xs.map fun e => (file.entryText e).2)) := by
  have hsorted := @isSorted_mapText_iff file a
  rw [KeysSorted, entries_of_object h] at hsorted
  rw [entries_of_object h]
  unfold SourceFile.mapText at hsorted ⊢
  rw [h] at hsorted ⊢
  dsimp only at hsorted ⊢
  split
  · rename_i hin
    refine ⟨es, ⟨.refl es, hsorted.1 hin, fun _ => rfl⟩, ?_⟩
    rw [List.map_map]
    rfl
  · refine ⟨sortBy (fun e e' => stringLe (file.entryText e).1 (file.entryText e').1) es,
      arranged_sortBy entryKey_le_iff es, ?_⟩
    rw [sortOn, ← map_sortBy (f := file.entryText) (fun _ _ => rfl) es, List.map_map]
    rfl

theorem text_mapText_other (h : ∀ es stop, a.value.form ≠ .object es stop) :
    (file.mapText a).text = file.textOf a.span := by
  unfold SourceFile.mapText
  split
  · rename_i es stop hform
    exact absurd hform (h es stop)
  · rfl

/-- What is asked of an attribute that was read off a printed text. -/
def InOrder : Resemblance := fun file _ it => ∃ a, it = .attr a ∧ KeysSorted file a

/-- The entries of an object that was read are in order if those are that were written. -/
theorem keysSorted_of_listsKeys {xs : List Entry} {file' : SourceFile} {it it' : Item}
    (hxs : SortedBy (entryKey file) xs) (h : ListsKeys file xs file' it it') : InOrder file' it it' := by
  obtain ⟨a, es, stop, rfl, hform, hsub⟩ := h
  refine ⟨a, rfl, ?_⟩
  have hkeys : (es.map (entryKey file')).Sublist (xs.map (entryKey file)) := by
    have hstrings := hsub.map String.ofList
    rwa [List.map_map, List.map_map] at hstrings
  rw [SortedBy, ← List.pairwise_map (f := entryKey file) (R := (· ≤ ·))] at hxs
  rw [KeysSorted, entries_of_object hform, SortedBy,
    ← List.pairwise_map (f := entryKey file') (R := (· ≤ ·))]
  exact hxs.sublist hkeys

/-- A printed attribute reads as an attribute with its entries in order. -/
theorem settled_mapText (hname : Cursor.IsName a.key.toList) (hu : Upright (file.textOf a.span))
    (h : Prints file a) : Settled InOrder (.attr a, (file.mapText a).text) := by
  by_cases hobject : ∃ es stop, a.value.form = .object es stop
  · obtain ⟨es, stop, hform⟩ := hobject
    obtain ⟨xs, harranged, htext⟩ := @text_mapText_object file a es stop hform
    have hxs : ∀ e ∈ xs, e ∈ entries a := fun e he => harranged.perm.mem_iff.1 he
    have hupright := (lines_object hname h.legible hxs).1
    have hholds : Holds InOrder (.attr a) (file.mapText a).text := by
      rw [htext]
      exact ((holds_object hname h.legible hxs).format hupright.toSolid).imp
        fun _ _ _ => keysSorted_of_listsKeys harranged.sorted
    refine ⟨?_, hholds⟩
    show Upright (file.mapText a).text
    rw [htext]
    exact upright_format hupright
  · have hother : ∀ es stop, a.value.form ≠ .object es stop := fun es stop heq => hobject ⟨es, stop, heq⟩
    rw [text_mapText_other hother]
    refine ⟨hu, (h.other hother).imp fun file' it it' hit => ?_⟩
    obtain ⟨a', rfl, hform⟩ := hit
    refine ⟨a', rfl, ?_⟩
    rw [KeysSorted, entries_of_other hform]
    exact List.Pairwise.nil

/-- A text that assigns a string without escapes. -/
def AssignsString (key : String) (text : List Char) : Prop :=
  ∃ b b' s, Spaced b ∧ Spaced b' ∧ Unescaped s ∧ Plain s.toList ∧
    text = key.toList ++ (b ++ '=' :: (b' ++ Cursor.labelText s))

/-- A string without escapes reads as itself. -/
theorem holds_of_assignsString {key : String} (hname : Cursor.IsName key.toList) {text : List Char}
    (h : AssignsString key text) (hkey : a.key = key) :
    Holds (fun _ _ it => ∃ a', it = .attr a' ∧ ∀ es stop, a'.value.form ≠ .object es stop) (.attr a)
      text := by
  obtain ⟨b, b', s, hb, hb', hs, hplain, rfl⟩ := h
  have hbrief := brief_label hs hplain
  have hfeed : '\n' ∉ key.toList ++ (b ++ '=' :: (b' ++ Cursor.labelText s)) := by
    simp only [List.mem_append, List.mem_cons, not_or]
    exact ⟨fun hmem => absurd (hname.rest _ hmem) (by decide), fun hmem => absurd (hb _ hmem) (by decide),
      by decide, fun hmem => absurd (hb' _ hmem) (by decide), hbrief.line⟩
  intro fs hkept pre rest hrest n hn
  rw [lines_of_not_mem hfeed (by simp)] at hkept
  obtain ⟨f, rfl, hf⟩ := exists_singleton_of_forall₂ hkept
  obtain ⟨g, g', hg, hg', htrim⟩ := exists_signs hname hb hb' hbrief.plain hbrief.upright hf
  have hdedented : dedented [f] = key.toList ++ (g ++ '=' :: (g' ++ Cursor.labelText s)) := by
    rw [dedented, unlines_singleton, htrim]
  rw [hdedented] at hn ⊢
  obtain ⟨n, rfl⟩ : ∃ k, n = k + 4 + 1 := ⟨n - 5, by
    simp only [Cursor.labelText, List.length_append, List.length_cons] at hn
    omega⟩
  have hvalue := expr_label hs hrest.quiet n (byteLength pre + byteLength (key.toList ++ (g ++ '=' :: g')))
  obtain ⟨keySpan, hitem⟩ := item_assigned hname hg hg' (show Cursor.endsBlanks '"' = true by decide) hvalue
  have hcursor : key.toList ++ (g ++ '=' :: (g' ++ Cursor.labelText s)) ++ rest =
      key.toList ++ (g ++ '=' :: (g' ++ (Cursor.labelText s ++ rest))) := by simp
  have hbyte : byteLength pre + byteLength (key.toList ++ (g ++ '=' :: g')) +
      byteLength (Cursor.labelText s) =
        byteLength (pre ++ (key.toList ++ (g ++ '=' :: (g' ++ Cursor.labelText s)))) := by
    rw [← byteLength_append, ← byteLength_append]
    simp
  rw [hbyte] at hitem
  rw [hcursor]
  exact ⟨_, hitem, rfl, .attr hkey.symm, fun _ => ⟨_, rfl, fun _ _ heq => by cases heq⟩⟩

/-- Entries in one line each, or a string without escapes, print as they stand. -/
theorem prints_of_lines (hname : Cursor.IsName a.key.toList)
    (hentries : ∀ e ∈ entries a, ∃ key, InLine file e key)
    (hother : (∀ es stop, a.value.form ≠ .object es stop) → AssignsString a.key (file.textOf a.span)) :
    Prints file a where
  legible := legible_of_inLine hentries
  other h := holds_of_assignsString hname (hother h) rfl

end Printed

/-! ## Suggested texts -/

/-- An attribute with the key of another one, and with its entries in order. -/
def Restates (a : Attribute) (file : SourceFile) (it : Item) : Prop :=
  ∃ a', it = .attr a' ∧ a'.key = a.key ∧ KeysSorted file a'

/-- A block of the type of another one, with its attributes in another order, about which the rule is
silent. -/
def Reorders (R : Block) (file : SourceFile) (it : Item) : Prop :=
  ∃ R', it = .block R' ∧ R'.kind = R.kind ∧
    (R'.attributes.map Attribute.key).Perm (R.attributes.map Attribute.key) ∧ checkProviders file R' = []

/-- What is suggested for the parameters of a provider. -/
theorem suggestion_parameters {key : String} (hname : Cursor.IsName key.toList) (text : List Char) :
    suggestion ("Parameters of provider `" ++ key ++ "` are expected to be sorted as follows:\n" ++
      String.ofList text) = text := by
  refine @suggestion_of_title _ ("Parameters of provider `".toList ++ key.toList ++
    "` are expected to be sorted as follows:".toList) ?_ ?_ text
  · simp
  · have hkey : '\n' ∉ key.toList := fun hmem => absurd (hname.rest _ hmem) (by decide)
    simp [hkey]

section Suggested

variable {file : SourceFile}

theorem isName_of_mem {R : Block} (h : Formed (.block R)) {a : Attribute} (ha : a ∈ R.attributes) :
    Cursor.IsName a.key.toList := by
  cases h with
  | block _ _ hall =>
    cases hall _ (mem_of_mem_attributes ha) with
    | attr hname => exact hname

/-- The text that is suggested for an attribute reads as that attribute with its entries in order. -/
theorem readsAs_mapText {a : Attribute} (hname : Cursor.IsName a.key.toList) (h : Prints file a)
    (hunsorted : ¬KeysSorted file a) : ReadsAs (file.mapText a).text Quiet (Restates a) := by
  obtain ⟨es, stop, hform⟩ : ∃ es stop, a.value.form = .object es stop := by
    by_contra hother
    refine hunsorted ?_
    rw [KeysSorted, entries_of_other fun es stop heq => hother ⟨es, stop, heq⟩]
    exact List.Pairwise.nil
  obtain ⟨xs, harranged, htext⟩ := @text_mapText_object file a es stop hform
  have hxs : ∀ e ∈ xs, e ∈ entries a := fun e he => harranged.perm.mem_iff.1 he
  have hupright := (lines_object hname h.legible hxs).1
  rw [htext]
  have hdedented := dedented_lines_format hupright
  refine .of_reads fun pre rest hrest n hn => ?_
  obtain ⟨it, hitem, -, hsame, hlists⟩ := read_kept_object hname h.legible hxs
    (kept_format hupright.toSolid) pre hrest (n := n) (by rwa [hdedented])
  rw [hdedented] at hitem hlists
  refine ⟨it, hitem, fun name => ?_⟩
  obtain ⟨a', rfl, hsorted⟩ := keysSorted_of_listsKeys harranged.sorted (hlists name)
  cases hsame with
  | attr hkey => exact ⟨a', rfl, hkey, hsorted⟩

theorem inOrderOn_providers_iff {R : Block} :
    inOrderOn (fun p : Attribute × MapText => p.1.key)
      (R.attributes.map fun a => (a, file.mapText a)) = true ↔ SortedBy Attribute.key R.attributes := by
  have hpairs : ∀ p q : Attribute × MapText, stringLe p.1.key q.1.key = true ↔ p.1.key ≤ q.1.key :=
    fun p q => stringLe_iff _ _
  rw [inOrderOn, inOrder_iff_sorted hpairs, SortedBy, List.pairwise_map]
  rfl

theorem filter_keysSorted (as : List Attribute) :
    (as.filter fun a => ¬KeysSorted file a) = as.filter fun a => !(file.mapText a).isSorted := by
  refine List.filter_congr fun a _ => ?_
  rw [Bool.eq_iff_iff, decide_eq_true_iff, ← isSorted_mapText_iff]
  simp

/-- Of providers in order those are reported whose parameters are not. -/
theorem checkProviders_of_sorted {R : Block} (hR : R.attributesByOffset = R.attributes)
    (h : SortedBy Attribute.key R.attributes) :
    checkProviders file R = (R.attributes.filter fun a => ¬KeysSorted file a).map fun a =>
      .issue ("Parameters of provider `" ++ a.key ++ "` are expected to be sorted as follows:\n" ++
        String.ofList (file.mapText a).text) (file.keyRange a) := by
  unfold checkProviders
  rw [hR, filter_keysSorted]
  dsimp only
  rw [if_pos (inOrderOn_providers_iff.2 h), List.filter_map, List.map_map]
  rfl

/-- Providers out of order are reported at once. -/
theorem checkProviders_of_not_sorted {R : Block} (hR : R.attributesByOffset = R.attributes)
    (h : ¬SortedBy Attribute.key R.attributes) :
    ∃ as, Arranged Attribute.key R.attributes as ∧ checkProviders file R =
      [.issue ("The arguments of `required_providers` are expected to be sorted as follows:\n" ++
        renderProviders R.kind (as.map file.mapText)) (file.defRange R)] := by
  have hle : ∀ a b : Attribute, stringLe a.key b.key = true ↔ a.key ≤ b.key := fun a b => stringLe_iff _ _
  refine ⟨sortBy (fun a b => stringLe a.key b.key) R.attributes, arranged_sortBy hle R.attributes, ?_⟩
  unfold checkProviders
  rw [hR]
  dsimp only
  rw [if_neg fun hin => h (inOrderOn_providers_iff.1 hin), sortOn,
    ← map_sortBy (f := fun a => (a, file.mapText a)) (fun _ _ => rfl) R.attributes, List.map_map]
  rfl

theorem checkProviders_eq_nil_iff {R : Block} (hR : R.attributesByOffset = R.attributes) :
    checkProviders file R = [] ↔
      SortedBy Attribute.key R.attributes ∧ ∀ a ∈ R.attributes, KeysSorted file a := by
  by_cases h : SortedBy Attribute.key R.attributes
  · rw [checkProviders_of_sorted hR h, List.map_eq_nil_iff, List.filter_eq_nil_iff]
    simp [h]
  · obtain ⟨as, -, hfound⟩ := @checkProviders_of_not_sorted file R hR h
    rw [hfound]
    exact iff_of_false (by simp) fun hall => h hall.1

theorem isBlank_of_isLayout {c : Char} (h : isLayout c = true) : isBlank c = true := by
  simp only [isLayout, Bool.or_eq_true, beq_iff_eq] at h
  rcases h with ((rfl | rfl) | rfl) | rfl <;> decide

/-- A text of nothing but layout is blank. -/
theorem allBlank_of_withoutLayout {cs : List Char} (h : withoutLayout cs = []) : allBlank cs = true := by
  rw [withoutLayout, List.filter_eq_nil_iff] at h
  exact allBlank_iff.2 fun c hc => isBlank_of_isLayout (by simpa using h c hc)

/-- A block of printed attributes is written with one of them after the other. -/
theorem enclose_eq_enclosed {kind : String} {rs : List (Item × List Char)}
    (hr : ∀ r ∈ rs, Settled InOrder r) (hne : rs ≠ []) :
    SourceFile.enclose (kind.toList ++ [' ']) (rs.map (·.2)) = enclosed kind rs := by
  have hsolid := solid_unlines (solid_texts hr) (by simpa using hne)
  have hlayout : withoutLayout (unlines (rs.map (·.2))) ≠ [] := by
    intro hnil
    have hblank := hsolid.allBlank
    rw [allBlank_of_withoutLayout hnil] at hblank
    cases hblank
  rw [SourceFile.enclose, enclosed]
  simp [List.isEmpty_eq_false_iff.2 hlayout]

theorem upright_enclosed {kind : String} (hname : Cursor.IsName kind.toList)
    {rs : List (Item × List Char)} (hr : ∀ r ∈ rs, Settled InOrder r) (hne : rs ≠ []) :
    Upright (enclosed kind rs) := by
  refine ⟨(lines_enclosed hname hr hne).1, ?_⟩
  obtain ⟨⟨c, cs, hkind, hc⟩, -⟩ := hname
  rw [enclosed, hkind]
  exact trimStart_cons (Cursor.not_isBlank_of_isNameRest (Cursor.isNameRest_of_isNameStart hc)) _

/-- A structure with the name of another one and, if it is an attribute, with its entries in order. -/
def Ordered (it : Item) (file : SourceFile) (it' : Item) : Prop :=
  SameName it it' ∧ ∀ a, it' = .attr a → KeysSorted file a

/-- The attributes of such structures have the same keys, and their entries are in order. -/
theorem attributes_of_ordered {file' : SourceFile} {its its' : List Item}
    (h : List.Forall₂ (fun it it' => Ordered it file' it') its its') :
    itemKeys its' = itemKeys its ∧ ∀ a ∈ Body.attributes its', KeysSorted file' a := by
  induction h with
  | nil => exact ⟨rfl, by simp [Body.attributes]⟩
  | @cons it it' its its' hordered _ ih =>
    obtain ⟨hsame, hsorted⟩ := hordered
    have hkeys : itemKeys (it' :: its') = itemKeys (it :: its) := by
      rw [← List.singleton_append, itemKeys_append, hsame.itemKeys_eq, ih.1, ← itemKeys_append,
        List.singleton_append]
    refine ⟨hkeys, fun a ha => ?_⟩
    cases hsame with
    | block => exact ih.2 a ha
    | attr =>
      rcases List.mem_cons.1 ha with rfl | ha
      · exact hsorted _ rfl
      · exact ih.2 a ha

/-- The rule is silent about a block that was read with such structures, if their keys are in order. -/
theorem silent_of_ordered {n : Nat} {c d : Cursor} {file' : SourceFile} {R' : Block} {its : List Item}
    (hread : item n c = some (.block R', d))
    (h : List.Forall₂ (fun it it' => Ordered it file' it') its R'.body)
    (hsorted : (itemKeys its).Pairwise (· ≤ ·)) :
    itemKeys R'.body = itemKeys its ∧ checkProviders file' R' = [] := by
  obtain ⟨hkeys, hall⟩ := attributes_of_ordered h
  obtain ⟨_, _, -, hbody⟩ := ((places n).item hread).body
  have hoffset : R'.attributesByOffset = R'.attributes := attributesByOffset_eq hbody.pairwise_start
  rw [← hkeys] at hsorted
  exact ⟨hkeys, (checkProviders_eq_nil_iff hoffset).2 ⟨List.pairwise_map.1 hsorted, hall⟩⟩

/-- The text that is suggested for providers reads as a block with the providers in order. -/
theorem readsAs_renderProviders {R : Block} (hR : Formed (.block R)) {as : List Attribute}
    (harranged : Arranged Attribute.key R.attributes as) (hne : as ≠ [])
    (hu : ∀ a ∈ R.attributes, Upright (file.textOf a.span)) (h : ∀ a ∈ R.attributes, Prints file a) :
    ReadsAs (renderProviders R.kind (as.map file.mapText)).toList (fun _ => True) (Reorders R) := by
  obtain ⟨rs, hrs⟩ : ∃ rs : List (Item × List Char), rs = as.map fun a =>
      (Item.attr a, (file.mapText a).text) := ⟨_, rfl⟩
  have hsettled : ∀ r ∈ rs, Settled InOrder r := by
    intro r hr
    rw [hrs] at hr
    obtain ⟨a, ha, rfl⟩ := List.mem_map.1 hr
    have hmem := harranged.perm.mem_iff.1 ha
    exact settled_mapText (isName_of_mem hR hmem) (hu a hmem) (h a hmem)
  cases hR with
  | block hname hkeys _ =>
    have hrsne : rs ≠ [] := by
      rw [hrs]
      simpa using hne
    have hrskeys : (itemKeys (rs.map (·.1))).Nodup := by
      have hitems : itemKeys (rs.map (·.1)) = as.map Attribute.key := by
        rw [hrs, List.map_map]
        exact itemKeys_attributes as
      rw [hitems]
      exact (harranged.perm.map _).nodup_iff.2 hkeys
    have hrender : (renderProviders R.kind (as.map file.mapText)).toList =
        format (enclosed R.kind rs) := by
      have htexts : (as.map file.mapText).map MapText.text = rs.map (·.2) := by
        rw [hrs, List.map_map, List.map_map]
        rfl
      rw [renderProviders, String.toList_ofList, htexts, enclose_eq_enclosed hsettled hrsne]
    have hupright := upright_enclosed hname hsettled hrsne
    have hkept := kept_format hupright.toSolid
    have hdedented := dedented_lines_format hupright
    rw [hrender]
    obtain ⟨T, hT⟩ : ∃ T, T = format (enclosed R.kind rs) := ⟨_, rfl⟩
    rw [← hT] at hkept hdedented ⊢
    refine .of_reads fun pre rest _ n hn => ?_
    obtain ⟨it, hitem, -, -, hencloses⟩ := read_kept_enclosed hname hsettled hrsne hrskeys ⟨0, 0⟩
      hkept pre rest (n := n) (by rwa [hdedented])
    rw [hdedented] at hitem hencloses
    refine ⟨it, hitem, fun name => ?_⟩
    obtain ⟨R', rfl, hkind, -, hcopied⟩ := hencloses name
    rw [hrs, List.forall₂_map_left_iff] at hcopied
    have hordered : List.Forall₂ (fun it it' => Ordered it (.parse name (pre ++ T ++ rest)) it')
        (as.map Item.attr) R'.body := by
      refine List.forall₂_map_left_iff.2 (hcopied.imp fun a it hit => ⟨hit.same, fun a' heq => ?_⟩)
      obtain ⟨_, rfl, hsorted⟩ := hit.resembles
      exact Item.attr.inj heq ▸ hsorted
    have hkeys : itemKeys (as.map Item.attr) = as.map Attribute.key := itemKeys_attributes as
    obtain ⟨hkeys', hsilent⟩ := silent_of_ordered hitem hordered
      (hkeys ▸ List.pairwise_map.2 harranged.sorted)
    refine ⟨R', rfl, hkind, ?_, hsilent⟩
    have hperm := harranged.perm.map Attribute.key
    rwa [← hkeys, ← hkeys'] at hperm

end Suggested

/-! ## Replaced attributes -/

/-- The text of a structure where all that is suggested for the attributes of its block is put in its
place: an attribute with entries out of order gets the suggested text, all else keeps its own. -/
def suggested (file : SourceFile) : Item → List Char
  | .attr a => if KeysSorted file a then file.textOf a.span else (file.mapText a).text
  | .block b => file.textOf b.span

/-- A structure about which nothing is suggested, and whose own text reads as itself before what stands
behind it. -/
def Stays (file : SourceFile) (it : Item) : Prop :=
  ReadsAs (file.textOf it.span) (upToNext file.text it.span.stop <+: ·) (Ordered it)

/-- A block of the type and with the labels of another one, and with attributes of the same names, about
which the rule is silent. -/
def Settles (R : Block) (file : SourceFile) (it : Item) : Prop :=
  ∃ R', it = .block R' ∧ R'.kind = R.kind ∧ R'.labels = R.labels ∧
    R'.attributes.map Attribute.key = R.attributes.map Attribute.key ∧ checkProviders file R' = []

section Replaced

variable {name : String} {text : List Char} {body : Body} {R : Block}

theorem keysSorted_iff_keyTexts {file : SourceFile} {a : Attribute} :
    KeysSorted file a ↔
      (keyTexts file a.value).Pairwise fun v w => String.ofList v ≤ String.ofList w := by
  have hmap : ∀ es : List Entry, SortedBy (entryKey file) es ↔
      (es.map fun e => file.exprText e.key).Pairwise fun v w => String.ofList v ≤ String.ofList w :=
    fun es => by rw [SortedBy, List.pairwise_map]; rfl
  unfold KeysSorted keyTexts entries
  cases a.value.form with
  | object es gap => exact hmap es
  | _ => exact hmap []

/-- A tame structure whose line ends behind it stays. -/
theorem stays_of_tame (h : parseBody text = some body) (hR : Inside (.block R) body) {it : Item}
    (hit : it ∈ R.body) (htame : TameItem (.parse name text) it)
    (hline : EndsLine (upToNext text it.span.stop))
    (hsorted : ∀ a, it = .attr a → KeysSorted (.parse name text) a) : Stays (.parse name text) it := by
  refine (readsAs_of_tame h name hR hit htame hline).mono (fun _ => id) fun file' it' _ hretains => ?_
  obtain ⟨hsame, hkeys⟩ := hretains
  refine ⟨hsame, ?_⟩
  rintro a' rfl
  cases hsame with
  | @attr a _ hkey =>
    rw [keysSorted_iff_keyTexts, hkeys a a' rfl rfl, ← keysSorted_iff_keyTexts]
    exact hsorted a rfl

/-- The text that is suggested for an attribute, or its own text, fits in its place. -/
theorem fits_suggested (h : parseBody text = some body) (hR : Inside (.block R) body)
    (hformed : Formed (.block R))
    (hprints : ∀ a ∈ R.attributes, ¬KeysSorted (.parse name text) a → Prints (.parse name text) a)
    (hstays : ∀ it ∈ R.body, (∀ a, it = .attr a → KeysSorted (.parse name text) a) →
      Stays (.parse name text) it) {it : Item} (hit : it ∈ R.body) :
    Fits text (suggested (.parse name text)) Ordered it where
  name _ _ hordered := hordered.1
  reads := by
    by_cases hsorted : ∀ a, it = .attr a → KeysSorted (.parse name text) a
    · have hown : suggested (.parse name text) it = (SourceFile.parse name text).textOf it.span := by
        cases it with
        | attr a => exact if_pos (hsorted a rfl)
        | block b => rfl
      rw [hown]
      exact hstays it hit hsorted
    · obtain ⟨a, rfl, hunsorted⟩ : ∃ a, it = .attr a ∧ ¬KeysSorted (.parse name text) a := by
        simpa using hsorted
      have ha : a ∈ R.attributes := List.mem_filterMap.2 ⟨_, hit, rfl⟩
      have hnew : suggested (.parse name text) (.attr a) = ((SourceFile.parse name text).mapText a).text :=
        if_neg hunsorted
      obtain ⟨c, d, w, q, hc, hbyte, hgap⟩ := exists_gap h hR hit
      rw [hnew, ← hbyte, hgap.upToNext_eq hc]
      refine (readsAs_mapText (isName_of_mem hformed ha) (hprints a ha hunsorted) hunsorted).mono
        (fun _ => hgap.quiet) fun file' it' _ hrestates => ?_
      obtain ⟨a', rfl, hkey, hsorted'⟩ := hrestates
      exact ⟨.attr hkey, fun x heq => Item.attr.inj heq ▸ hsorted'⟩

/-- With all suggestions in their places the rule is silent about the block. -/
theorem readsAs_suggested (h : parseBody text = some body) (hR : Inside (.block R) body)
    (hformed : Formed (.block R)) (hin : SortedBy Attribute.key R.attributes)
    (hprints : ∀ a ∈ R.attributes, ¬KeysSorted (.parse name text) a → Prints (.parse name text) a)
    (hstays : ∀ it ∈ R.body, (∀ a, it = .attr a → KeysSorted (.parse name text) a) →
      Stays (.parse name text) it) :
    ReadsAs (respelled text (suggested (.parse name text)) R.span.start R.body R.span.stop)
      (fun _ => True) (Settles R) := by
  refine (readsAs_respelled h hR fun it hit => fits_suggested h hR hformed hprints hstays hit).mono
    (fun _ => id) fun file' it' hread hblock => ?_
  obtain ⟨R', rfl, hkind, hlabels, hordered⟩ := hblock
  obtain ⟨n, c, d, hread⟩ := hread
  obtain ⟨hkeys, hsilent⟩ := silent_of_ordered hread hordered (List.pairwise_map.2 hin)
  exact ⟨R', rfl, hkind, hlabels, hkeys, hsilent⟩

end Replaced

/-! ## What the rule finds -/

/-- What is found about a block of required providers: nothing if the providers and their parameters
are in order. Providers that are out of order are one issue, which comes alone; else there is one issue
for each provider with parameters out of order, as they come. What is suggested is not reported again,
and nothing is reported about the block with all that is suggested in its place. -/
structure ProviderFindings (file : SourceFile) (R : Block) (findings : List Finding) : Prop where
  silent : findings = [] ↔
    SortedBy Attribute.key R.attributes ∧ ∀ a ∈ R.attributes, KeysSorted file a
  providers : ¬SortedBy Attribute.key R.attributes → ∃ message,
    findings = [.issue message (file.defRange R)] ∧
      ((∀ a ∈ R.attributes, Prints file a) →
        ReadsAs (suggestion message) (fun _ => True) (Reorders R))
  parameters : SortedBy Attribute.key R.attributes → List.Forall₂ (fun a f => ∃ message,
    f = .issue message (file.keyRange a) ∧ suggestion message = suggested file (.attr a) ∧
      (Prints file a → ReadsAs (suggestion message) Quiet (Restates a)))
    (R.attributes.filter fun a => ¬KeysSorted file a) findings
  replaced : SortedBy Attribute.key R.attributes →
    (∀ a ∈ R.attributes, ¬KeysSorted file a → Prints file a) →
    (∀ it ∈ R.body, (∀ a, it = .attr a → KeysSorted file a) → Stays file it) →
      ReadsAs (respelled file.text (suggested file) R.span.start R.body R.span.stop) (fun _ => True)
        (Settles R)

section Found

variable {text : List Char} {body : Body}

theorem formed_of_blocksOf (h : parseBody text = some body) {kind kind' : String} {b R : Block}
    (hb : b ∈ body.blocksOf kind) (hR : R ∈ b.blocksOf kind') : Formed (.block R) := by
  cases (formed_of_parseBody h).formed _ (mem_of_mem_blocks (List.mem_filter.1 hb).1) with
  | block _ _ hall => exact hall _ (mem_of_mem_blocks (List.mem_filter.1 hR).1)

theorem providerFindings (h : parseBody text = some body) (name : String) {R : Block}
    (hinside : Inside (.block R) body) (hformed : Formed (.block R)) :
    ProviderFindings (.parse name text) R (checkProviders (.parse name text) R) := by
  obtain ⟨file, hfile⟩ : ∃ file, file = SourceFile.parse name text := ⟨_, rfl⟩
  have hoffset := attributesByOffset_of_parseBody h hinside
  have hu : ∀ a ∈ R.attributes, Upright (file.textOf a.span) := by
    intro a ha
    rw [hfile]
    exact @SourceFile.upright_textOf text body h name (.attr a) (hinside.of_mem (mem_of_mem_attributes ha))
  rw [← hfile]
  refine ⟨checkProviders_eq_nil_iff hoffset, fun hout => ?_, fun hin => ?_, fun hin hprints hstays => ?_⟩
  · obtain ⟨as, harranged, hfound⟩ := @checkProviders_of_not_sorted file R hoffset hout
    refine ⟨_, hfound, fun hprints => ?_⟩
    have hne : as ≠ [] := by
      rintro rfl
      refine hout ?_
      rw [harranged.perm.symm.eq_nil]
      exact List.Pairwise.nil
    have hsuggestion := @suggestion_of_title
      "The arguments of `required_providers` are expected to be sorted as follows:\n"
      "The arguments of `required_providers` are expected to be sorted as follows:".toList
      (by decide) (by decide) (renderProviders R.kind (as.map file.mapText)).toList
    rw [String.ofList_toList] at hsuggestion
    rw [hsuggestion]
    exact readsAs_renderProviders hformed harranged hne hu hprints
  · rw [checkProviders_of_sorted hoffset hin, List.forall₂_map_right_iff, List.forall₂_same]
    intro a ha
    obtain ⟨hmem, hunsorted⟩ := List.mem_filter.1 ha
    have hname := isName_of_mem hformed hmem
    have hunsorted := of_decide_eq_true hunsorted
    refine ⟨_, rfl, ?_, fun hprints => ?_⟩
    · rw [suggestion_parameters hname]
      exact (if_neg hunsorted).symm
    · rw [suggestion_parameters hname]
      exact readsAs_mapText hname hprints hunsorted
  · subst hfile
    exact readsAs_suggested h hinside hformed hin hprints hstays

end Found

/-- What the rule finds about each block of required providers in a file. Its suggestions are laid out
and put together anew, so that what they are made of has to read as itself there. -/
theorem provider_suggestions_hold {text : List Char} {body : Body} (h : parseBody text = some body)
    (name : String) {b R : Block} (hb : b ∈ body.blocksOf "terraform")
    (hR : R ∈ b.blocksOf "required_providers") :
    checkProviders (.parse name text) R <:+:
        Rule.requiredProvidersDeclaration.findings (.parse name text) body ∧
      ProviderFindings (.parse name text) R (checkProviders (.parse name text) R) := by
  obtain ⟨hbmem, -⟩ := List.mem_filter.1 hb
  have hinside : Inside (.block R) body :=
    .nested (mem_of_mem_blocks hbmem) (.here (mem_of_mem_blocks (List.mem_filter.1 hR).1))
  refine ⟨?_, providerFindings h name hinside (formed_of_blocksOf h hb hR)⟩
  have hblock : checkProviders (.parse name text) R <:+: checkRequiredProviders (.parse name text) b := by
    unfold checkRequiredProviders
    split
    · rename_i hnil
      rw [hnil] at hR
      cases hR
    · exact List.infix_of_mem_flatten (List.mem_map_of_mem hR)
  exact hblock.trans (List.infix_of_mem_flatten (List.mem_map_of_mem hb))

/-- Two providers, with a comment behind the second one; the parameters of the first stand the wrong way
round. -/
def unsorted : List Char := ("terraform \x7b\n  required_providers \x7b\n    a = \x7b\n      y = \"1\"\n" ++
  "      x = \"1\"\n    \x7d\n    b = \x7b x = \"1\" \x7d # kept\n  \x7d\n\x7d\n").toList

theorem inLine_one {file : SourceFile} {e : Entry} {name : String} (hname : name = "x" ∨ name = "y")
    (hkey : e.key.name? = some name) (htext : file.exprText e.key = name.toList)
    (hvalue : file.exprText e.value = ['"', '1', '"']) : InLine file e name where
  name := by
    rcases hname with rfl | rfl
    · exact ⟨⟨'x', [], rfl, by decide⟩, List.all_eq_true.1 (by decide)⟩
    · exact ⟨⟨'y', [], rfl, by decide⟩, List.all_eq_true.1 (by decide)⟩
  plain := by rcases hname with rfl | rfl <;> decide
  form := by
    unfold Expr.name? at hkey
    split at hkey
    · rename_i hform
      rw [hform, Option.some.inj hkey]
      rcases hname with rfl | rfl <;> rfl
    · cases hkey
  key := htext
  value := by
    rw [hvalue]
    exact brief_label (s := "1") (by decide) (plain_of_all (by decide))

/-- One issue suggests them the right way round, and with that in its place none is left. -/
theorem provider_suggestions_hold_unsorted : ∃ body b R a message, parseBody unsorted = some body ∧
    b ∈ body.blocksOf "terraform" ∧ R ∈ b.blocksOf "required_providers" ∧
      checkProviders (.parse "main.tf" unsorted) R =
        [.issue message ((SourceFile.parse "main.tf" unsorted).keyRange a)] ∧
      ReadsAs (suggestion message) Quiet (Restates a) ∧
      ReadsAs (respelled unsorted (suggested (.parse "main.tf" unsorted)) R.span.start R.body R.span.stop)
        (fun _ => True) (Settles R) := by
  have hread : ((parseBody unsorted).bind fun body => (body.blocksOf "terraform").head?.bind fun b =>
      (b.blocksOf "required_providers").head?.map fun R =>
        let file := SourceFile.parse "main.tf" unsorted
        (inOrderOn (fun p : Attribute × MapText => p.1.key) (R.attributes.map fun a => (a, file.mapText a)),
          (R.attributes.filter fun a => !(file.mapText a).isSorted).length,
          decide (∀ a ∈ R.attributes, ∀ e ∈ entries a, ∃ name ∈ ["x", "y"], e.key.name? = some name ∧
            file.exprText e.key = name.toList ∧ file.exprText e.value = ['"', '1', '"']),
          decide (∀ it ∈ R.body, TameItem file it ∧ EndsLine (upToNext unsorted it.span.stop)))) =
      some (true, 1, true, true) := by
    decide +kernel
  obtain ⟨body, hbody, hread⟩ := Option.bind_eq_some_iff.1 hread
  obtain ⟨b, hb, hread⟩ := Option.bind_eq_some_iff.1 hread
  obtain ⟨R, hR, hread⟩ := Option.map_eq_some_iff.1 hread
  have hb := List.mem_of_mem_head? hb
  have hR := List.mem_of_mem_head? hR
  simp only [Prod.mk.injEq, decide_eq_true_eq] at hread
  obtain ⟨hin, hone, hentries, htame⟩ := hread
  obtain ⟨-, hfindings⟩ := provider_suggestions_hold hbody "main.tf" hb hR
  have hinside : Inside (.block R) body :=
    .nested (mem_of_mem_blocks (List.mem_filter.1 hb).1)
      (.here (mem_of_mem_blocks (List.mem_filter.1 hR).1))
  have hformed := formed_of_blocksOf hbody hb hR
  have hsorted := inOrderOn_providers_iff.1 hin
  have hprints : ∀ a ∈ R.attributes, ¬KeysSorted (.parse "main.tf" unsorted) a →
      Prints (.parse "main.tf" unsorted) a := by
    intro a ha hkeys
    refine prints_of_lines (isName_of_mem hformed ha) (fun e he => ?_) fun hother => absurd ?_ hkeys
    · obtain ⟨name, hname, hkey, htext, hvalue⟩ := hentries a ha e he
      exact ⟨name, inLine_one (by simpa using hname) hkey htext hvalue⟩
    · rw [KeysSorted, entries_of_other hother]
      exact List.Pairwise.nil
  have hreplaced := hfindings.replaced hsorted hprints fun it hit hkeys =>
    stays_of_tame hbody hinside hit (htame it hit).1 (htame it hit).2 hkeys
  have htext : (SourceFile.parse "main.tf" unsorted).text = unsorted := rfl
  rw [htext] at hreplaced
  obtain ⟨a, ha⟩ := List.length_eq_one_iff.1 hone
  have hparameters := hfindings.parameters hsorted
  rw [filter_keysSorted, ha] at hparameters
  obtain ⟨f, hfound, message, rfl, -, hreads⟩ := exists_singleton_of_forall₂ hparameters
  have hmem := List.mem_filter.1 (ha ▸ List.mem_singleton_self a)
  have hkeys : ¬KeysSorted (.parse "main.tf" unsorted) a := by
    rw [← isSorted_mapText_iff]
    simpa using hmem.2
  exact ⟨body, b, R, a, message, hbody, hb, hR, hfound, hreads (hprints a hmem.1 hkeys), hreplaced⟩

end TerraLint.TerraformBlock
