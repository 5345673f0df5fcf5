import TerraLint.Proofs.Format.Conservation
import TerraLint.Proofs.Format.Idempotence
import TerraLint.Proofs.Hcl.Entries
import TerraLint.Proofs.Layout.Header
import TerraLint.Proofs.Rule.Providers
import TerraLint.Proofs.Source.Reread

/-!
# Map attributes keep their entries

A map attribute that is written anew has all entries of its object in the order of their key texts,
those with one key text as they came, with nothing changed but blanks. An object has fewer entries than
are written in the file if keys are equal: then the last of these entries is printed and counts for the
order, in the place of the first one.

* `exists_writtenEntries`: what an object keeps of the entries that are written in the file.
* `squeeze_enclose`, `squeeze_entryText`: what is printed, without blanks.
* `mapText_keeps_entries`: what is printed of a map, and of any other attribute.
* `mapText_repeatedKeys`: an object with equal keys.
-/

namespace TerraLint.SourceFile

open Text Hcl Cursor TerraformBlock Format

variable {file : SourceFile} {name : String} {text : List Char} {body : Body} {a : Attribute}
  {es : List Entry} {gap : Option Span}

/-- The entries of an attribute's object in the order in which they are written in the file, those with
equal keys included. -/
def writtenEntries? (file : SourceFile) (a : Attribute) : Option (List Entry) := do
  let span ← a.value.span
  let rest ← dropBytes? (span.start + 1) file.text
  (writtenEntries (rest.length + 1) ⟨rest, span.start + 1⟩).toOption

/-- The entries of an object are what it keeps of those that are written in the file. -/
theorem exists_writtenEntries (h : parseBody text = some body) (ha : Inside (.attr a) body)
    (hform : a.value.form = .object es gap) :
    ∃ ws, (parse name text).writtenEntries? a = some ws ∧ es = mergeEntries [] ws := by
  obtain ⟨n, c, d, hc, hn, hitem⟩ := readBehind_of_parseBody h ha
  obtain ⟨n, rfl⟩ : ∃ n', n = n' + 1 := by
    cases n with
    | zero => cases hitem
    | succ n => exact ⟨n, rfl⟩
  obtain @⟨next, c₁, c₂, c₃, _, key, value, hkey, h₁, hsign, h₃, hvalue⟩ := item_succ_iff.1 hitem
  obtain ⟨hreach, hlength⟩ := reaches_value hkey h₁ hsign h₃
  obtain ⟨rest, stop, ws, hrest, hspan, hws, hmerge⟩ :=
    exists_writtenEntries_of_expr (by omega) hvalue hform
  -- The brace stands where the value starts.
  obtain ⟨before, rfl, hbefore⟩ := exists_of_reaches (hc.trans hreach)
  have hdrop : dropBytes? (c₃.byte + 1) (before ++ c₃.rest) = some rest := by
    refine dropBytes?_eq_some_iff.2 ⟨before ++ ['{'], by rw [hrest]; simp, ?_⟩
    rw [byteLength_append, hbefore]
    rfl
  have htext : (parse name (before ++ c₃.rest)).text = before ++ c₃.rest := rfl
  refine ⟨ws, ?_, hmerge⟩
  unfold writtenEntries?
  dsimp only
  rw [hspan, htext]
  simp only [Option.bind_eq_bind, Option.bind_some, hdrop, hws]
  rfl

/-! ## What is printed -/

/-- An entry without blanks. -/
def squeezedEntry (file : SourceFile) (e : Entry) : List Char :=
  squeeze (file.exprText e.key) ++ '=' :: squeeze (file.exprText e.value)

/-- A map attribute without blanks: its key, a sign, and entries in braces. -/
def squeezedMap (file : SourceFile) (key : String) (es : List Entry) : List Char :=
  key.toList ++ '=' :: '{' :: (es.flatMap file.squeezedEntry ++ ['}'])

theorem squeeze_entryText (file : SourceFile) (e : Entry) :
    squeeze (file.entryText e).2 = file.squeezedEntry e := by
  have hsign : squeeze [' ', '=', ' '] = ['='] := by decide
  rw [entryText, squeezedEntry, squeeze_append, squeeze_append, hsign, List.append_assoc]
  rfl

theorem squeeze_of_isName {cs : List Char} (h : Cursor.IsName cs) : squeeze cs = cs :=
  List.filter_eq_self.2 fun c hc => by rw [not_isBlank_of_isNameRest (h.rest c hc)]; rfl

/-- Nothing but blanks is added to what stands in braces. -/
theorem squeeze_enclose (start : List Char) (ls : List (List Char)) :
    squeeze (enclose start ls) = squeeze start ++ '{' :: (ls.flatMap squeeze ++ ['}']) := by
  have hopen : squeeze ['{', '\n'] = ['{'] := by decide
  have hclose : squeeze ['\n', '}'] = ['}'] := by decide
  unfold enclose
  dsimp only
  split
  · rename_i hlayout
    have hnone : ls.flatMap squeeze = [] := by
      rw [← squeeze_unlines, squeeze_eq_nil_iff]
      exact allBlank_of_withoutLayout (List.isEmpty_iff.1 hlayout)
    rw [squeeze_append, hnone]
    rfl
  · rw [squeeze_append, squeeze_append, squeeze_append, hopen, hclose, squeeze_unlines]
    simp

/-- What is printed of a map, against the entries of its object. -/
structure KeepsEntries (file : SourceFile) (a : Attribute) (es : List Entry) : Prop where
  /-- The object keeps the written entries, the last one of those with equal keys. -/
  written : ∃ ws, file.writtenEntries? a = some ws ∧ es = mergeEntries [] ws ∧
    ((ws.Pairwise fun e e' => e.key.same e'.key = false) → es = ws)
  /-- The answer says whether the key texts are in order. -/
  sorted : (file.mapText a).isSorted = true ↔ SortedBy (entryKey file) es
  /-- All entries are printed in that order, which is theirs if they were in order already. -/
  printed : ∃ xs, Arranged (entryKey file) es xs ∧ ((file.mapText a).isSorted = true → xs = es) ∧
    squeeze (file.mapText a).text = file.squeezedMap a.key xs
  formatted : format (file.mapText a).text = (file.mapText a).text

/-- All entries of a map are printed, in the order of their key texts. What is no map is kept as
written. -/
theorem mapText_keeps_entries (name : String) (h : parseBody text = some body)
    (ha : Inside (.attr a) body) :
    (∀ es gap, a.value.form = .object es gap → KeepsEntries (parse name text) a es) ∧
      ((∀ es gap, a.value.form ≠ .object es gap) →
        (parse name text).mapText a = ⟨(parse name text).textOf a.span, true⟩) := by
  constructor
  · intro es gap hform
    obtain ⟨ws, hws, hmerge⟩ := @exists_writtenEntries name text body a es gap h ha hform
    obtain ⟨xs, harranged, htext⟩ := @text_mapText_object (parse name text) a es gap hform
    have hsorted := @isSorted_mapText_iff (parse name text) a
    rw [KeysSorted, entries_of_object hform] at hsorted
    rw [entries_of_object hform] at harranged
    have hname : Cursor.IsName a.key.toList := by
      cases Inside.formed (formed_of_parseBody h).formed ha with
      | attr hname => exact hname
    refine ⟨⟨ws, hws, hmerge, fun hdistinct => ?_⟩, hsorted, ⟨xs, harranged, fun hin => ?_, ?_⟩, ?_⟩
    · exact hmerge.trans (mergeEntries_of_distinct hdistinct)
    · exact harranged.unique (hsorted.1 hin).arranged
    · have hkey : squeeze (a.key.toList ++ [' ', '=', ' ']) = a.key.toList ++ ['='] := by
        rw [squeeze_append, squeeze_of_isName hname]
        rfl
      rw [htext, squeeze_format, squeeze_enclose, hkey, List.flatMap_map, squeezedMap, List.append_assoc]
      simp only [squeeze_entryText]
      rfl
    · rw [htext, format_format]
  · intro hother
    have hanswer : (parse name text).mapText a =
        ⟨((parse name text).mapText a).text, ((parse name text).mapText a).isSorted⟩ := rfl
    rw [hanswer, text_mapText_other hother, MapText.mk.injEq, isSorted_mapText_iff, KeysSorted,
      entries_of_other hother]
    exact ⟨rfl, List.Pairwise.nil⟩

/-! ## Two maps -/

/-- What is shown of the first attribute of a text: whether it is sorted, the keys that its object keeps
and those that are written, and without blanks the text that is printed and all that is written. -/
def shownOfFirst (text : List Char) :
    Option (Bool × List String × List String × List Char × List Char) := do
  let body ← parseBody text
  let a ← body.allAttributes.head?
  let file := parse "main.tf" text
  let ws ← file.writtenEntries? a
  return ((file.mapText a).isSorted, (entries a).map (entryKey file), ws.map (entryKey file),
    squeeze (file.mapText a).text, file.squeezedMap a.key ws)

theorem exists_of_shownOfFirst {sorted : Bool} {kept written : List String} {printed all : List Char}
    (h : shownOfFirst text = some (sorted, kept, written, printed, all)) (hkept : kept ≠ []) :
    ∃ body a es gap ws, parseBody text = some body ∧ Inside (.attr a) body ∧
      a.value.form = .object es gap ∧ (parse "main.tf" text).writtenEntries? a = some ws ∧
      ((parse "main.tf" text).mapText a).isSorted = sorted ∧
      ws.map (entryKey (parse "main.tf" text)) = written ∧
      squeeze ((parse "main.tf" text).mapText a).text = printed ∧
      (parse "main.tf" text).squeezedMap a.key ws = all := by
  obtain ⟨body, hbody, h⟩ := Option.bind_eq_some_iff.1 h
  obtain ⟨a, ha, h⟩ := Option.bind_eq_some_iff.1 h
  obtain ⟨ws, hws, h⟩ := Option.bind_eq_some_iff.1 h
  have h := Option.some.inj h
  simp only [Prod.mk.injEq] at h
  obtain ⟨hsorted, hkeys, hwritten, hprinted, hall⟩ := h
  obtain ⟨es, gap, hform⟩ : ∃ es gap, a.value.form = .object es gap := by
    by_contra hother
    have hnone : entries a = [] := entries_of_other fun es gap heq => hother ⟨es, gap, heq⟩
    rw [hnone] at hkeys
    exact hkept hkeys.symm
  exact ⟨body, a, es, gap, ws, hbody, inside_of_mem_body (List.mem_of_mem_head? ha), hform, hws, hsorted,
    hwritten, hprinted, hall⟩

/-- A map out of order, with a list and a map in it. -/
def nestedMap : List Char := "tags = \x7b b = [1, 2], a = \x7b z = 1, y = 2 \x7d \x7d\n".toList

/-- Its entries are printed the other way round, what stands in them as it is written. -/
theorem mapText_keeps_nestedMap : ∃ body a es gap, parseBody nestedMap = some body ∧
    Inside (.attr a) body ∧ a.value.form = .object es gap ∧
      KeepsEntries (parse "main.tf" nestedMap) a es ∧
      squeeze ((parse "main.tf" nestedMap).mapText a).text =
        "tags=\x7ba=\x7bz=1,y=2\x7db=[1,2]\x7d".toList := by
  have hshown : shownOfFirst nestedMap = some (false, ["b", "a"], ["b", "a"],
      "tags=\x7ba=\x7bz=1,y=2\x7db=[1,2]\x7d".toList, "tags=\x7bb=[1,2]a=\x7bz=1,y=2\x7d\x7d".toList) := by
    decide +kernel
  obtain ⟨body, a, es, gap, ws, hbody, ha, hform, -, -, -, hprinted, -⟩ :=
    exists_of_shownOfFirst hshown (by simp)
  exact ⟨body, a, es, gap, hbody, ha, hform,
    (mapText_keeps_entries "main.tf" hbody ha).1 es gap hform, hprinted⟩

theorem length_squeezedMap {xs ws : List Entry} (h : xs.Perm ws) (key : String) :
    (file.squeezedMap key xs).length = (file.squeezedMap key ws).length := by
  simp [squeezedMap, (h.flatMap_right file.squeezedEntry).length_eq]

/-- A map that has a key twice. -/
def repeatedKeys : List Char := "x = \x7b a = 1, b = 2, a = 3 \x7d\n".toList

/-- It is printed without its first entry, and its keys are in order only without the last one. -/
theorem mapText_repeatedKeys : ∃ body a es gap ws, parseBody repeatedKeys = some body ∧
    Inside (.attr a) body ∧ a.value.form = .object es gap ∧
    (parse "main.tf" repeatedKeys).writtenEntries? a = some ws ∧
    ¬ (((parse "main.tf" repeatedKeys).mapText a).isSorted = true ↔
      SortedBy (entryKey (parse "main.tf" repeatedKeys)) ws) ∧
    ∀ xs, Arranged (entryKey (parse "main.tf" repeatedKeys)) ws xs →
      squeeze ((parse "main.tf" repeatedKeys).mapText a).text ≠
        (parse "main.tf" repeatedKeys).squeezedMap a.key xs := by
  have hshown : shownOfFirst repeatedKeys = some (true, ["a", "b"], ["a", "b", "a"],
      "x=\x7ba=3b=2\x7d".toList, "x=\x7ba=1b=2a=3\x7d".toList) := by
    decide +kernel
  obtain ⟨body, a, es, gap, ws, hbody, ha, hform, hws, hsorted, hwritten, hprinted, hall⟩ :=
    exists_of_shownOfFirst hshown (by simp)
  refine ⟨body, a, es, gap, ws, hbody, ha, hform, hws, fun hiff => ?_, fun xs hxs heq => ?_⟩
  · have hpairs := List.pairwise_map.2 (hiff.1 hsorted)
    rw [hwritten] at hpairs
    exact absurd hpairs (by decide)
  · have hlength := @length_squeezedMap (parse "main.tf" repeatedKeys) _ _ hxs.perm a.key
    rw [← heq, hprinted, hall] at hlength
    exact absurd hlength (by decide)

end TerraLint.SourceFile
