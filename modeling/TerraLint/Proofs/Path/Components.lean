import Mathlib.Data.List.Basic
import TerraLint.Path
import TerraLint.Proofs.Text.Lines

/-!
# Components and pieces of paths

A path is cut into pieces at its slashes. A piece is idle when it is empty or a dot; the others are the
components of the path, after the slash or the dot that it may start with. So the pieces of a path below
a directory are those of the directory and then those of the rest, and idle pieces at the seam do not
show.

* `components_append_slash`: the components of a path below a directory.
* `components_relativeTo?`: what is left of a path as seen from a directory.
* `relativeTo?_append_slash`: a path below a directory is seen from it as the text behind its slash.
* `not_prefix_of_longer`: a name that goes on does not lie below the directory.
* `endsWith_iff_fileName?`, `fileName?_relativeTo?`: the last component, as a suffix and as seen from a
  directory.
-/

namespace TerraLint.Path

variable {ps : List (List Char)} {p : List Char} {directory path rel : String}

/-! ## Pieces that count -/

/-- The pieces that are components. -/
def counted (ps : List (List Char)) : List (List Char) := ps.filter fun p => !isIdle p

@[simp] theorem counted_append (ps qs : List (List Char)) :
    counted (ps ++ qs) = counted ps ++ counted qs := List.filter_append ..

theorem counted_cons_of_isIdle (h : isIdle p = true) (ps : List (List Char)) :
    counted (p :: ps) = counted ps := by
  simp [counted, h]

theorem counted_cons_of_not_isIdle (h : isIdle p = false) (ps : List (List Char)) :
    counted (p :: ps) = p :: counted ps := by
  simp [counted, h]

theorem counted_dropWhile (ps : List (List Char)) : counted (ps.dropWhile isIdle) = counted ps := by
  induction ps with
  | nil => rfl
  | cons p ps ih =>
    cases h : isIdle p with
    | true => rw [List.dropWhile_cons_of_pos h, ih, counted_cons_of_isIdle h]
    | false => rw [List.dropWhile_cons_of_neg (by simp [h])]

theorem counted_reverse (ps : List (List Char)) : counted ps.reverse = (counted ps).reverse :=
  List.filter_reverse ..

theorem counted_trimIdle (ps : List (List Char)) : counted (trimIdle ps) = counted ps := by
  rw [trimIdle, counted_reverse, counted_dropWhile, counted_reverse, List.reverse_reverse,
    counted_dropWhile]

@[simp] theorem dropCounted_zero (ps : List (List Char)) : dropCounted 0 ps = ps := by
  cases ps <;> rfl

theorem counted_dropCounted (n : Nat) (ps : List (List Char)) :
    counted (dropCounted n ps) = (counted ps).drop n := by
  induction ps generalizing n with
  | nil => cases n <;> rfl
  | cons p ps ih =>
    cases n with
    | zero => rw [dropCounted_zero, List.drop_zero]
    | succ n =>
      cases h : isIdle p with
      | true =>
        rw [dropCounted, if_pos h, ih, counted_cons_of_isIdle h]
      | false =>
        rw [dropCounted, if_neg (by simp [h]), ih, counted_cons_of_not_isIdle h, List.drop_succ_cons]

/-- Behind all pieces of `ps` that count, idle ones apart, `qs` goes on. -/
theorem dropWhile_dropCounted (ps qs : List (List Char)) :
    (dropCounted (counted ps).length (ps ++ qs)).dropWhile isIdle = qs.dropWhile isIdle := by
  induction ps with
  | nil =>
    have hnone : (counted []).length = 0 := rfl
    rw [hnone, dropCounted_zero, List.nil_append]
  | cons p ps ih =>
    cases h : isIdle p with
    | true =>
      rw [counted_cons_of_isIdle h]
      cases hn : (counted ps).length with
      | zero =>
        rw [hn, dropCounted_zero] at ih
        rw [dropCounted_zero, List.cons_append, List.dropWhile_cons_of_pos h, ih]
      | succ n =>
        rw [hn] at ih
        rwa [List.cons_append, dropCounted, if_pos h]
    | false =>
      rw [counted_cons_of_not_isIdle h, List.length_cons, List.cons_append, dropCounted,
        if_neg (by simp [h]), ih]

theorem trimIdle_dropCounted (ps qs : List (List Char)) :
    trimIdle (dropCounted (counted ps).length (ps ++ qs)) = trimIdle qs := by
  rw [trimIdle, dropWhile_dropCounted, trimIdle]

/-! ## The pieces at the ends -/

theorem splitOn_first (text : List Char) :
    ∃ first rest, text.splitOn '/' = first :: rest ∧ '/' ∉ first ∧
      (text = first ∧ rest = [] ∨ ∃ more, text = first ++ '/' :: more) := by
  by_cases h : '/' ∈ text
  · obtain ⟨first, more, rfl, hfirst⟩ := List.eq_append_cons_of_mem h
    exact ⟨first, _, List.splitOn_append_cons_self_of_not_mem hfirst more, hfirst, .inr ⟨more, rfl⟩⟩
  · exact ⟨text, [], List.splitOn_eq_singleton h, h, .inl ⟨rfl, rfl⟩⟩

theorem splitOn_last (text : List Char) :
    ∃ front last, text.splitOn '/' = front ++ [last] ∧ '/' ∉ last ∧
      (text = last ∧ front = [] ∨ ∃ before, text = before ++ '/' :: last ∧
        front = before.splitOn '/') := by
  by_cases h : '/' ∈ text
  · obtain ⟨last, before, htext, hlast⟩ := List.eq_append_cons_of_mem (List.mem_reverse.2 h)
    have htext : text = before.reverse ++ '/' :: last.reverse := by
      rw [← List.reverse_reverse text, htext, List.reverse_append, List.reverse_cons,
        List.append_assoc, List.singleton_append]
    have hlast : '/' ∉ last.reverse := fun h => hlast (List.mem_reverse.1 h)
    refine ⟨before.reverse.splitOn '/', last.reverse, ?_, hlast, .inr ⟨before.reverse, htext, rfl⟩⟩
    rw [htext, List.splitOn_append_cons_self, List.splitOn_eq_singleton hlast]
  · exact ⟨[], text, List.splitOn_eq_singleton h, h, .inl ⟨rfl, rfl⟩⟩

/-- A path ends in a slash, or in a slash and a dot. -/
def EndsIdle (path : String) : Prop := ['/'] <:+ path.toList ∨ ['/', '.'] <:+ path.toList

instance : DecidablePred EndsIdle := fun _ => inferInstanceAs (Decidable (_ ∨ _))

theorem isIdle_iff {piece : List Char} : isIdle piece = true ↔ piece = [] ∨ piece = ['.'] := by
  simp [isIdle]

/-- A path that starts with a name starts neither with a slash nor with a dot of its own. -/
theorem anchor_eq_nil_of_pieces {first : List Char} {rest : List (List Char)}
    (h : pieces path = first :: rest) (hfirst : isIdle first = false) : anchor path = [] := by
  obtain ⟨first', rest', hpieces, hslash, hpath⟩ := splitOn_first path.toList
  obtain ⟨rfl, rfl⟩ : first = first' ∧ rest = rest' := List.cons.inj (h.symm.trans hpieces)
  have hne : ¬ (first = [] ∨ first = ['.']) := fun h => by simp [isIdle_iff.2 h] at hfirst
  have hstart : path.toList = first ∨ ∃ more, path.toList = first ++ '/' :: more :=
    hpath.imp_left And.left
  unfold anchor
  cases first with
  | nil => exact absurd (.inl rfl) hne
  | cons c cs =>
    have hc : c ≠ '/' := fun h => hslash (h ▸ List.mem_cons_self)
    cases cs with
    | nil =>
      have hdot : c ≠ '.' := fun h => hne (.inr (h ▸ rfl))
      obtain h | ⟨more, h⟩ := hstart <;> rw [h] <;> split <;> simp_all
    | cons d ds =>
      have hd : d ≠ '/' := fun h => hslash (h ▸ List.mem_cons_of_mem _ List.mem_cons_self)
      obtain h | ⟨more, h⟩ := hstart <;> rw [h] <;> split <;> simp_all

theorem trimIdle_pieces (hanchor : anchor path = []) (hend : ¬ EndsIdle path) (hne : path ≠ "") :
    trimIdle (pieces path) = pieces path := by
  have htext : path.toList ≠ [] := fun h => hne (String.toList_eq_nil_iff.1 h)
  -- The first piece counts, as the path starts with a name.
  have hfirst : (pieces path).dropWhile isIdle = pieces path := by
    obtain ⟨first, rest, hpieces, -, hpath⟩ := splitOn_first path.toList
    rw [pieces, hpieces]
    refine List.dropWhile_cons_of_neg fun hidle => ?_
    unfold anchor at hanchor
    rcases isIdle_iff.1 hidle with rfl | rfl
    · obtain ⟨h, -⟩ | ⟨more, h⟩ := hpath
      · exact htext h
      · simp [h] at hanchor
    · obtain ⟨h, -⟩ | ⟨more, h⟩ := hpath <;> simp [h] at hanchor
  -- So does the last one, as it does not end idle.
  have hlast : (pieces path).reverse.dropWhile isIdle = (pieces path).reverse := by
    obtain ⟨front, last, hpieces, -, hpath⟩ := splitOn_last path.toList
    rw [pieces, hpieces, List.reverse_append, List.reverse_singleton, List.singleton_append]
    refine List.dropWhile_cons_of_neg fun hidle => ?_
    obtain ⟨h, -⟩ | ⟨before, h, -⟩ := hpath
    · unfold anchor at hanchor
      rcases isIdle_iff.1 hidle with rfl | rfl
      · exact htext h
      · simp [h] at hanchor
    · refine hend ?_
      rcases isIdle_iff.1 hidle with rfl | rfl
      · exact .inl ⟨before, h.symm⟩
      · exact .inr ⟨before, h.symm⟩
  rw [trimIdle, hfirst, hlast, List.reverse_reverse]

/-! ## Components -/

/-- A path starts with a slash. -/
def IsAbsolute (path : String) : Prop := ['/'] <+: path.toList

instance : DecidablePred IsAbsolute := fun _ => inferInstanceAs (Decidable (_ <+: _))

theorem IsAbsolute.anchor (h : IsAbsolute path) : anchor path = [.root] := by
  obtain ⟨rest, hrest⟩ := h
  rw [Path.anchor, ← hrest]
  rfl

theorem IsAbsolute.append (h : IsAbsolute path) (more : String) : IsAbsolute (path ++ more) := by
  rw [IsAbsolute, String.toList_append]
  exact h.trans (List.prefix_append _ _)

theorem components_eq (path : String) :
    components path = anchor path ++ (counted (pieces path)).map ofPiece := rfl

/-- Whether a component stands at the start of a path only. -/
def Component.isAnchor : Component → Bool
  | .root | .current => true
  | _ => false

theorem isAnchor_of_mem_anchor {c : Component} (h : c ∈ anchor path) : c.isAnchor = true := by
  unfold anchor at h
  split at h <;> simp_all [Component.isAnchor]

theorem isAnchor_ofPiece (piece : List Char) : (ofPiece piece).isAnchor = false := by
  unfold ofPiece
  split <;> rfl

theorem takeWhile_isAnchor (path : String) :
    (components path).takeWhile Component.isAnchor = anchor path := by
  rw [components_eq, List.takeWhile_append_of_pos fun c => isAnchor_of_mem_anchor]
  cases counted (pieces path) with
  | nil => exact List.append_nil _
  | cons p ps =>
    rw [List.map_cons, List.takeWhile_cons_of_neg (by simp [isAnchor_ofPiece]), List.append_nil]

theorem ofPiece_injective : Function.Injective ofPiece := by
  intro p q h
  unfold ofPiece at h
  split at h <;> split at h <;> simp_all

theorem toList_append_slash (directory path : String) :
    (directory ++ "/" ++ path).toList = directory.toList ++ '/' :: path.toList := by
  rw [String.toList_append, String.toList_append, List.append_assoc]
  rfl

theorem pieces_append_slash (directory path : String) :
    pieces (directory ++ "/" ++ path) = pieces directory ++ pieces path := by
  rw [pieces, toList_append_slash, List.splitOn_append_cons_self]
  rfl

/-- The components of a path below a directory. -/
theorem components_append_slash (h : IsAbsolute directory) (path : String) :
    components (directory ++ "/" ++ path) =
      components directory ++ (counted (pieces path)).map ofPiece := by
  have habs : IsAbsolute (directory ++ "/" ++ path) := (h.append "/").append path
  rw [components_eq, components_eq, habs.anchor, h.anchor, pieces_append_slash, counted_append,
    List.map_append, List.append_assoc]

/-! ## Seen from a directory -/

theorem relativeTo?_eq_some (h : components directory <+: components path) :
    relativeTo? directory path = some (String.ofList (['/'].intercalate
      (trimIdle (dropCounted (counted (pieces directory)).length (pieces path))))) := by
  have hlength : (components directory).length - (anchor directory).length =
      (counted (pieces directory)).length := by
    rw [components_eq, List.length_append, List.length_map, Nat.add_sub_cancel_left]
  rw [relativeTo?, if_pos (List.isPrefixOf_iff_prefix.2 h)]
  dsimp only
  rw [hlength]

theorem relativeTo?_eq_none (h : ¬ components directory <+: components path) :
    relativeTo? directory path = none := by
  rw [relativeTo?, if_neg fun hp => h (List.isPrefixOf_iff_prefix.1 hp)]

/-- A path below a directory is seen from it as the text behind its slash. -/
theorem relativeTo?_append_slash (h : IsAbsolute directory) (hanchor : anchor path = [])
    (hend : ¬ EndsIdle path) : relativeTo? directory (directory ++ "/" ++ path) = some path := by
  have hprefix : components directory <+: components (directory ++ "/" ++ path) := by
    rw [components_append_slash h]
    exact List.prefix_append _ _
  rw [relativeTo?_eq_some hprefix, pieces_append_slash, trimIdle_dropCounted]
  by_cases hne : path = ""
  · subst hne
    rfl
  · rw [trimIdle_pieces hanchor hend hne, pieces, List.intercalate_splitOn, String.ofList_toList]

/-- A path that starts with a name lies below no absolute directory. -/
theorem not_prefix_of_anchor_eq_nil (h : IsAbsolute directory) (hanchor : anchor path = []) :
    ¬ components directory <+: components path := by
  rw [components_eq, components_eq, h.anchor, hanchor, List.nil_append]
  rintro ⟨rest, hrest⟩
  have hroot : Component.root ∈ (counted (pieces path)).map ofPiece := by
    rw [← hrest]
    exact List.mem_append_left _ List.mem_cons_self
  obtain ⟨piece, -, hpiece⟩ := List.mem_map.1 hroot
  exact Bool.false_ne_true ((isAnchor_ofPiece piece).symm.trans (congrArg _ hpiece))

/-- A name that goes on does not lie below the directory. -/
theorem not_prefix_of_longer {more : String} (h : IsAbsolute directory) (hend : ¬ EndsIdle directory)
    (hne : more ≠ "") (hslash : ¬ IsAbsolute more) :
    ¬ components directory <+: components (directory ++ more) := by
  have habs : IsAbsolute (directory ++ more) := h.append more
  obtain ⟨front, last, hpieces, hlast, hdirectory⟩ := splitOn_last directory.toList
  obtain ⟨before, hbefore, rfl⟩ : ∃ before, directory.toList = before ++ '/' :: last ∧
      front = before.splitOn '/' := by
    obtain ⟨rfl, -⟩ | h' := hdirectory
    · exact absurd (h.subset List.mem_cons_self) hlast
    · exact h'
  have hcounts : isIdle last = false := by
    refine Bool.eq_false_iff.2 fun hidle => hend ?_
    rcases isIdle_iff.1 hidle with rfl | rfl
    · exact .inl ⟨before, hbefore.symm⟩
    · exact .inr ⟨before, hbefore.symm⟩
  -- The last piece goes on with a text that is not empty.
  obtain ⟨first, rest, hmore, hfirst⟩ : ∃ first rest,
      (last ++ more.toList).splitOn '/' = (last ++ first) :: rest ∧ first ≠ [] := by
    obtain ⟨first, rest, -, hfirst, htext⟩ := splitOn_first more.toList
    have hmem : '/' ∉ last ++ first := by simp [hlast, hfirst]
    have htext' : more.toList ≠ [] := fun h => hne (String.toList_eq_nil_iff.1 h)
    obtain ⟨htext, -⟩ | ⟨behind, htext⟩ := htext
    · exact ⟨first, [], by rw [htext, List.splitOn_eq_singleton hmem], htext ▸ htext'⟩
    · refine ⟨first, behind.splitOn '/', ?_, ?_⟩
      · rw [htext, ← List.append_assoc, List.splitOn_append_cons_self_of_not_mem hmem]
      · rintro rfl
        exact hslash ⟨behind, htext.symm⟩
  have hcounts' : isIdle (last ++ first) = false := by
    refine Bool.eq_false_iff.2 fun hidle => ?_
    have hlast' : last ≠ [] := fun h => by simp [h, isIdle] at hcounts
    rcases isIdle_iff.1 hidle with hnil | hdot
    · exact hlast' (List.append_eq_nil_iff.1 hnil).1
    · obtain ⟨hnil, -⟩ | ⟨hnil, -⟩ | h' := List.append_eq_singleton_iff.1 hdot
      all_goals simp_all
  have hshort : components directory =
      .root :: (counted (before.splitOn '/')).map ofPiece ++ [ofPiece last] := by
    rw [components_eq, h.anchor, pieces, hpieces, counted_append,
      counted_cons_of_not_isIdle hcounts, List.map_append]
    rfl
  have hlong : components (directory ++ more) = .root :: (counted (before.splitOn '/')).map ofPiece ++
      ofPiece (last ++ first) :: (counted rest).map ofPiece := by
    have htext : (directory ++ more).toList = before ++ '/' :: (last ++ more.toList) := by
      rw [String.toList_append, hbefore, List.append_assoc, List.cons_append]
    rw [components_eq, habs.anchor, pieces, htext, List.splitOn_append_cons_self, hmore,
      counted_append, counted_cons_of_not_isIdle hcounts', List.map_append]
    rfl
  rw [hshort, hlong, List.prefix_append_right_inj, List.singleton_prefix_cons_iff]
  intro heq
  exact hfirst (List.append_right_eq_self.1 (ofPiece_injective heq).symm)

theorem trimIdle_subset (ps : List (List Char)) : trimIdle ps ⊆ ps := fun _ h =>
  (List.dropWhile_sublist _).subset
    (List.mem_reverse.1 ((List.dropWhile_sublist _).subset (List.mem_reverse.1 h)))

theorem dropCounted_subset (n : Nat) (ps : List (List Char)) : dropCounted n ps ⊆ ps := by
  induction ps generalizing n with
  | nil => cases n <;> exact List.Subset.refl _
  | cons p ps ih =>
    cases n with
    | zero =>
      rw [dropCounted_zero]
      exact List.Subset.refl _
    | succ n =>
      rw [dropCounted]
      split
      · exact fun _ h => List.mem_cons_of_mem _ (ih _ h)
      · exact fun _ h => List.mem_cons_of_mem _ (ih _ h)

theorem isIdle_of_trimIdle_eq_cons {first : List Char} {rest : List (List Char)}
    (h : trimIdle ps = first :: rest) : isIdle first = false := by
  have hprefix : first :: rest <+: ps.dropWhile isIdle := h ▸ List.rdropWhile_prefix isIdle _
  obtain ⟨more, hmore⟩ := hprefix
  have hhead := List.head?_dropWhile_not isIdle ps
  rwa [← hmore] at hhead

/-- The components of a text that is put together from pieces. -/
theorem components_join (hslash : ∀ p ∈ ps, '/' ∉ p) :
    components (String.ofList (['/'].intercalate (trimIdle ps))) = (counted ps).map ofPiece := by
  rw [← counted_trimIdle ps]
  cases htrim : trimIdle ps with
  | nil => rfl
  | cons first rest =>
    have hpieces : pieces (String.ofList (['/'].intercalate (first :: rest))) = first :: rest := by
      rw [pieces, String.toList_ofList]
      refine List.splitOn_intercalate '/' (fun p hp => hslash p ?_) (by simp)
      exact trimIdle_subset ps (htrim ▸ hp)
    rw [components_eq, anchor_eq_nil_of_pieces hpieces (isIdle_of_trimIdle_eq_cons htrim), hpieces,
      List.nil_append]

/-- What is left of a path as seen from a directory stands in it behind the components of the
directory, or behind its own anchor if the directory has none. -/
theorem components_relativeTo? (h : relativeTo? directory path = some rel) :
    ∃ front, components path = front ++ components rel ∧
      (front = components directory ∨ front = anchor path) := by
  by_cases hprefix : components directory <+: components path
  · rw [relativeTo?_eq_some hprefix, Option.some.injEq] at h
    have hslash : ∀ p ∈ dropCounted (counted (pieces directory)).length (pieces path), '/' ∉ p :=
      fun p hp => Text.not_mem_splitOn (dropCounted_subset _ _ hp)
    have hrel : components rel =
        ((counted (pieces path)).map ofPiece).drop ((counted (pieces directory)).map ofPiece).length := by
      rw [← h, components_join hslash, counted_dropCounted, List.map_drop, List.length_map]
    by_cases hnone : (counted (pieces directory)).map ofPiece = []
    · exact ⟨anchor path, by rw [hrel, hnone, List.length_nil, List.drop_zero, components_eq], .inr rfl⟩
    · -- Both paths start with the same anchor, so the rest of one starts the rest of the other.
      obtain ⟨more, hmore⟩ := hprefix
      have hlength : ((components directory).takeWhile Component.isAnchor).length ≠
          (components directory).length := by
        rw [takeWhile_isAnchor, components_eq, List.length_append]
        have := List.length_pos_iff.2 hnone
        omega
      have hanchor : anchor directory = anchor path := by
        rw [← takeWhile_isAnchor path, ← hmore, List.takeWhile_append, if_neg hlength,
          takeWhile_isAnchor]
      rw [components_eq path, components_eq directory, hanchor, List.append_assoc,
        List.append_cancel_left_eq] at hmore
      refine ⟨components directory, ?_, .inl rfl⟩
      rw [hrel, components_eq, components_eq, hanchor, ← hmore, List.drop_left, List.append_assoc]
  · simp [relativeTo?_eq_none hprefix] at h

/-! ## The last component -/

theorem fileName?_eq_some_iff {name : String} :
    fileName? path = some name ↔ (components path).getLast? = some (.name name.toList) := by
  unfold fileName?
  split
  · rename_i text hlast
    rw [hlast, Option.some.injEq, Option.some.injEq, Component.name.injEq]
    exact ⟨fun h => h ▸ String.toList_ofList.symm, fun h => h ▸ String.ofList_toList⟩
  · rename_i hlast
    exact ⟨fun h => absurd h.symm (Option.some_ne_none name), fun h => absurd h (hlast name.toList)⟩

/-- A path ends with a name if that is its last component. -/
theorem endsWith_iff_fileName? {name : String} (hname : components name = [.name name.toList]) :
    endsWith path name = true ↔ fileName? path = some name := by
  rw [endsWith, hname, List.isSuffixOf_iff_suffix, fileName?_eq_some_iff, List.getLast?_eq_some_iff]
  exact exists_congr fun _ => eq_comm

/-- The last component does not change where a path is seen from a directory, unless nothing is left of
the path and the directory has that name itself. -/
theorem fileName?_relativeTo? {name : String} (h : relativeTo? directory path = some rel)
    (hdirectory : fileName? directory ≠ some name) :
    fileName? rel = some name ↔ fileName? path = some name := by
  obtain ⟨front, hpath, hfront⟩ := components_relativeTo? h
  rw [fileName?_eq_some_iff, fileName?_eq_some_iff, hpath]
  by_cases hrel : components rel = []
  · have hlast : front.getLast? ≠ some (.name name.toList) := by
      rcases hfront with rfl | rfl
      · exact fun h => hdirectory (fileName?_eq_some_iff.2 h)
      · exact fun h => Bool.false_ne_true (isAnchor_of_mem_anchor (List.mem_of_getLast? h))
    simp [hrel, hlast]
  · rw [List.getLast?_append_of_ne_nil _ hrel]

end TerraLint.Path
