import TerraLint.Format.Assignment
import TerraLint.Proofs.Format.Filler

/-!
# Assignments read and written

An assignment is read from a key, blanks, the sign and a value between blanks. Written anew, with
its key padded to any width, it reads as the same assignment, and a lexer sees the same in it.

* `parse?_eq_some`: what a line that assigns looks like.
* `parse?_render`: what was written reads as it was.
* `line_render`: what is open and how brackets balance stays the same.
-/

namespace TerraLint.Format

open Text

namespace Assignment

/-! ## Keys -/

theorem quotedRest_eq_some {cs taken rest : List Char} (h : quotedRest cs = some (taken, rest)) :
    cs = taken ++ rest ∧ taken.getLast? = some '"' ∧
      ∀ other, quotedRest (taken ++ other) = some (taken, other) := by
  fun_induction quotedRest cs generalizing taken rest with
  | case1 cs =>
    obtain ⟨rfl, rfl⟩ : ['"'] = taken ∧ cs = rest := by simpa using h
    exact ⟨rfl, rfl, fun _ => rfl⟩
  | case2 => cases h
  | case3 c cs hc ih =>
    obtain ⟨⟨t, r⟩, ht, heq⟩ := Option.map_eq_some_iff.1 h
    obtain ⟨rfl, rfl⟩ : '\\' :: c :: t = taken ∧ r = rest := by simpa using heq
    obtain ⟨hcs, hlast, hother⟩ := ih ht
    refine ⟨by rw [hcs]; rfl, ?_, fun other => ?_⟩
    · simpa [List.getLast?_cons, Option.getD_eq_iff] using Or.inl hlast
    · simp [quotedRest, hc, hother]
  | case4 => cases h
  | case5 c cs hne hno hc ih =>
    obtain ⟨⟨t, r⟩, ht, heq⟩ := Option.map_eq_some_iff.1 h
    obtain ⟨rfl, rfl⟩ : c :: t = taken ∧ r = rest := by simpa using heq
    obtain ⟨hcs, hlast, hother⟩ := ih ht
    refine ⟨by rw [hcs]; rfl, ?_, fun other => ?_⟩
    · simpa [List.getLast?_cons, Option.getD_eq_iff] using Or.inl hlast
    · rw [List.cons_append, quotedRest]
      · simp [hc, hother]
      all_goals simp_all
  | case6 => cases h

theorem not_isBlank_of_isWordRest {c : Char} (h : Scan.isWordRest c = true) :
    isBlank c = false := by
  by_contra hb
  rw [isWordRest_of_isBlank (by simpa using hb)] at h
  cases h

/-- A key is read in full whatever filler follows it, and has no blank at its ends. -/
theorem key?_eq_some {cs key rest : List Char} (h : key? cs = some (key, rest)) :
    cs = key ++ rest ∧ trimStart key = key ∧ trimEnd key = key ∧ key ≠ [] ∧
      ∀ other, startsToken other = true → key? (key ++ other) = some (key, other) := by
  unfold key? at h
  split at h
  · rename_i cs
    obtain ⟨⟨t, r⟩, ht, heq⟩ := Option.map_eq_some_iff.1 h
    obtain ⟨rfl, rfl⟩ : '"' :: t = key ∧ r = rest := by simpa using heq
    obtain ⟨hcs, hlast, hother⟩ := quotedRest_eq_some ht
    obtain ⟨u, rfl⟩ := List.getLast?_eq_some_iff.1 hlast
    refine ⟨by rw [hcs]; rfl, trimStart_cons (by decide) _, ?_, by simp, fun other _ => ?_⟩
    · exact trimEnd_concat (by decide) ('"' :: u)
    · rw [List.cons_append]
      simp only [key?, hother]
      rfl
  · rename_i c cs hne
    split at h
    · rename_i hc
      obtain ⟨rfl, rfl⟩ : c :: cs.takeWhile Scan.isWordRest = key ∧
          cs.dropWhile Scan.isWordRest = rest := by simpa using h
      have hword : ∀ d ∈ c :: cs.takeWhile Scan.isWordRest, Scan.isWordRest d = true := by
        intro d hd
        rcases List.mem_cons.1 hd with rfl | hd
        · exact isWordRest_of_isWordStart hc
        · exact List.mem_takeWhile_imp hd
      refine ⟨by simp, trimStart_cons (not_isBlank_of_isWordRest (hword c List.mem_cons_self)) _,
        ?_, by simp, fun other hother => ?_⟩
      · rw [trimEnd_eq_rdropWhile, List.rdropWhile_eq_self_iff]
        intro hl
        simpa using not_isBlank_of_isWordRest (hword _ (List.getLast_mem hl))
      · have htake := takeWhile_isWordRest_append hother (cs.takeWhile Scan.isWordRest)
        have hidem : (cs.takeWhile Scan.isWordRest).takeWhile Scan.isWordRest =
            cs.takeWhile Scan.isWordRest :=
          List.takeWhile_eq_self_iff.2 fun d hd => List.mem_takeWhile_imp hd
        have hdrop := List.takeWhile_append_dropWhile (p := Scan.isWordRest)
          (l := cs.takeWhile Scan.isWordRest ++ other)
        rw [htake, hidem, List.append_cancel_left_eq] at hdrop
        rw [List.cons_append, key?]
        · simp [hc, htake, hidem, hdrop]
        · exact hne
    · cases h
  · cases h

/-- A key ends with a character of a word or with a quote. -/
theorem getLast_of_key? {cs key rest : List Char} (h : key? cs = some (key, rest)) :
    ∃ c, key.getLast? = some c ∧ (Scan.isWordRest c = true ∨ c = '"') := by
  unfold key? at h
  split at h
  · obtain ⟨⟨taken, r⟩, htaken, heq⟩ := Option.map_eq_some_iff.1 h
    obtain ⟨rfl, -⟩ := Prod.mk.inj heq
    obtain ⟨-, hlast, -⟩ := quotedRest_eq_some htaken
    exact ⟨'"', by rw [List.getLast?_cons, hlast]; rfl, .inr rfl⟩
  · rename_i c cs hne
    obtain ⟨hc, heq⟩ := Option.ite_none_right_eq_some.1 h
    obtain ⟨rfl, -⟩ := Prod.mk.inj (Option.some.inj heq)
    refine ⟨_, List.getLast?_eq_some_getLast (List.cons_ne_nil _ _), .inl ?_⟩
    rcases List.mem_cons.1 (List.getLast_mem (List.cons_ne_nil c (cs.takeWhile Scan.isWordRest))) with
      hlast | hlast
    · rw [hlast]
      exact isWordRest_of_isWordStart hc
    · exact List.mem_takeWhile_imp hlast
  · cases h

/-! ## Reading -/

/-- The rest of a line after its key assigns: blanks, the sign, and a value that does not make
another sign of it. -/
theorem parse?_eq_some {content : List Char} {a : Assignment} (h : parse? content = some a) :
    ∃ b value, key? content = some (a.key, b ++ '=' :: value) ∧ allBlank b = true ∧
      a.value = trim value ∧ value.head? ≠ some '=' ∧ value.head? ≠ some '>' := by
  obtain ⟨⟨key, rest⟩, hkey, h⟩ := Option.bind_eq_some_iff.1 h
  obtain ⟨b, hb, hrest⟩ := exists_trimStart rest
  dsimp only at h
  split at h
  · cases h
  · cases h
  · rename_i value hequals harrow hvalue
    obtain rfl := Option.some.inj h
    refine ⟨b, value, by rw [hkey, ← hvalue, ← hrest], hb, rfl, fun hhead => ?_, fun hhead => ?_⟩
    · obtain ⟨more, rfl⟩ := List.head?_eq_some_iff.1 hhead
      exact hequals more rfl
    · obtain ⟨more, rfl⟩ := List.head?_eq_some_iff.1 hhead
      exact harrow more rfl
  · cases h

/-- A trimmed line that assigns is its key, blanks, the sign, blanks and its value. The sign is not
the start of another one. -/
theorem eq_of_parse? {content : List Char} {a : Assignment} (h : parse? content = some a)
    (ht : trimEnd content = content) :
    ∃ b₁ b₂, allBlank b₁ = true ∧ allBlank b₂ = true ∧
      content = a.key ++ (b₁ ++ '=' :: b₂ ++ a.value) ∧
      (b₂ ++ a.value).head? ≠ some '=' ∧ (b₂ ++ a.value).head? ≠ some '>' := by
  obtain ⟨b, value, hkey, hb, hvalue, hhead⟩ := parse?_eq_some h
  obtain ⟨hcontent, -⟩ := key?_eq_some hkey
  obtain ⟨b₂, hb₂, hb₂'⟩ := exists_trimStart value
  -- The value ends where the line does, so nothing was trimmed off its end.
  have hval : trimEnd value = value := by
    refine trimEnd_of_append (a := a.key ++ b ++ ['=']) ?_
    rw [List.append_assoc, List.append_assoc, List.singleton_append, ← hcontent, ht]
  have hafter : b₂ ++ a.value = value := by
    rw [hvalue, trim_eq, ← trimStart_trimEnd_comm, hval, ← hb₂']
  refine ⟨b, b₂, hb, hb₂, ?_, by rwa [hafter]⟩
  rw [List.append_assoc, List.cons_append, hafter]
  exact hcontent

/-! ## Writing -/

/-- What stands between the key and the value: a space at least, the sign, and a space before a
value that is not empty. -/
theorem render_eq (a : Assignment) (width : Nat) :
    a.render width = a.key ++ (List.replicate (width - a.key.length + 1) ' ' ++
      '=' :: (if a.value = [] then [] else [' ']) ++ a.value) := by
  unfold render
  rw [List.replicate_succ']
  by_cases hv : a.value = []
  · simp [hv]
  · simp [hv]

section

variable {content : List Char} {a : Assignment}

theorem trim_value (h : parse? content = some a) : trim a.value = a.value := by
  obtain ⟨b, value, -, -, hvalue, -⟩ := parse?_eq_some h
  rw [hvalue, trim_trim]

/-- Written anew, an assignment reads as it was. -/
theorem parse?_render (h : parse? content = some a) (width : Nat) :
    parse? (a.render width) = some a := by
  obtain ⟨b, value, hkey, -, -⟩ := parse?_eq_some h
  obtain ⟨-, -, -, -, hother⟩ := key?_eq_some hkey
  have hspaces := allBlank_spaces (width - a.key.length + 1)
  have hstart : startsToken (List.replicate (width - a.key.length + 1) ' ' ++
      '=' :: (if a.value = [] then [] else [' ']) ++ a.value) = true := by
    rw [List.replicate_succ]
    simp [startsToken, joins_of_isFiller (show isFiller ' ' = true by decide)]
  unfold parse?
  rw [render_eq, hother _ hstart]
  simp only [Option.bind_eq_bind, Option.bind_some]
  rw [List.append_assoc, trimStart_blank_append hspaces, List.cons_append,
    trimStart_cons (by decide)]
  by_cases hv : a.value = []
  · obtain ⟨key, v⟩ := a
    obtain rfl : v = [] := hv
    simp [trim_eq]
  · have htrim : trim (' ' :: a.value) = a.value := by
      rw [← List.singleton_append, trim_blank_append (by decide), trim_value h]
    simp [hv, htrim]

/-- Neither what is open nor the balance of brackets depends on the blanks around the sign. -/
theorem line_render {s : Scan} (hs : s.Valid) (h : parse? content = some a)
    (ht : trimEnd content = content) (width : Nat) :
    s.line (a.render width) = s.line content := by
  obtain ⟨b₁, b₂, hb₁, hb₂, hcontent, -⟩ := eq_of_parse? h ht
  have hfill : ∀ {u v : List Char}, allBlank u = true → allBlank v = true →
      ∀ c ∈ u ++ '=' :: v, isFiller c = true := by
    intro u v hu hv c hc
    rcases List.mem_append.1 hc with hc | hc
    · exact isFiller_of_isBlank (allBlank_iff.1 hu c hc)
    · rcases List.mem_cons.1 hc with rfl | hc
      · decide
      · exact isFiller_of_isBlank (allBlank_iff.1 hv c hc)
  have hgap : allBlank (if a.value = [] then [] else [' ']) = true := by
    split <;> decide
  conv_rhs => rw [hcontent]
  rw [render_eq]
  exact Lexer.rest_append_filler (l := ⟨s, false⟩) hs (hfill (allBlank_spaces _) hgap)
    (hfill hb₁ hb₂) (Or.inl ⟨by simp, by simp⟩) a.key

/-- An assignment is written without a blank at its ends. -/
theorem trim_render (h : parse? content = some a) (width : Nat) :
    trim (a.render width) = a.render width := by
  obtain ⟨b, value, hkey, -, -⟩ := parse?_eq_some h
  obtain ⟨-, hstart, -, hne, -⟩ := key?_eq_some hkey
  have hs : trimStart (a.render width) = a.render width := by
    rw [render_eq, trimStart_append (by rwa [hstart]), hstart]
  have he : trimEnd (a.render width) = a.render width := by
    rw [render_eq]
    by_cases hv : a.value = []
    · have := trimEnd_concat (c := '=') (by decide)
        (a.key ++ List.replicate (width - a.key.length + 1) ' ')
      simpa [hv] using this
    · have hv' : trimEnd a.value = a.value := by
        conv_rhs => rw [← trim_value h, ← trimEnd_trim, trim_value h]
      rw [← List.append_assoc, trimEnd_append (by rwa [hv']), hv']
  rw [trim_eq, hs, he]

/-- Writing adds no characters but spaces. -/
theorem mem_render (h : parse? content = some a) (ht : trimEnd content = content) {width : Nat}
    {c : Char} (hc : c ∈ a.render width) : c ∈ content ∨ c = ' ' := by
  obtain ⟨b₁, b₂, -, -, hcontent, -⟩ := eq_of_parse? h ht
  rw [render_eq] at hc
  rw [hcontent]
  simp only [List.mem_append, List.mem_cons] at hc ⊢
  rcases hc with hc | (hc | hc | hc) | hc
  · exact Or.inl (Or.inl hc)
  · exact Or.inr (List.eq_of_mem_replicate hc)
  · exact Or.inl (Or.inr (Or.inl (Or.inr (Or.inl hc))))
  · split at hc
    · simp at hc
    · exact Or.inr (by simpa using hc)
  · exact Or.inl (Or.inr (Or.inr hc))

theorem squeeze_render (h : parse? content = some a) (ht : trimEnd content = content)
    (width : Nat) : squeeze (a.render width) = squeeze content := by
  obtain ⟨b₁, b₂, hb₁, hb₂, hcontent, -⟩ := eq_of_parse? h ht
  have hgap : squeeze (if a.value = [] then [] else [' ']) = [] := by
    split <;> decide
  have hsign : ∀ cs, squeeze ('=' :: cs) = '=' :: squeeze cs := fun cs => by
    simp [squeeze, show isBlank '=' = false by decide]
  rw [render_eq, hcontent]
  simp only [squeeze_append, hsign, squeeze_eq_nil_iff.2 (allBlank_spaces _),
    squeeze_eq_nil_iff.2 hb₁, squeeze_eq_nil_iff.2 hb₂, hgap]

end

end Assignment

end TerraLint.Format
