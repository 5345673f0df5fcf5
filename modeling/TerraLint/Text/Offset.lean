/-!
# Byte offsets into a text

Offsets count the bytes of the UTF-8 form of a text. An offset is a boundary when a character
starts or the text ends there.

* `floorBoundary`: the greatest boundary not above an offset.
* `dropBytes?`, `takeBytes?`: the text after and before a boundary, and nothing at any other offset.
* `sliceBytes`: the text between two boundaries (`sliceBytes_eq_some_iff`).
-/

namespace TerraLint.Text

/-- The number of bytes of the UTF-8 form. -/
def byteLength : List Char → Nat
  | [] => 0
  | c :: cs => c.utf8Size + byteLength cs

/-- The greatest boundary not above `n`. -/
def floorBoundary : Nat → List Char → Nat
  | _, [] => 0
  | n, c :: cs => if c.utf8Size ≤ n then c.utf8Size + floorBoundary (n - c.utf8Size) cs else 0

/-- The text after a boundary; nothing when the offset is no boundary. -/
def dropBytes? : Nat → List Char → Option (List Char)
  | 0, cs => some cs
  | _ + 1, [] => none
  | n + 1, c :: cs => if c.utf8Size ≤ n + 1 then dropBytes? (n + 1 - c.utf8Size) cs else none

/-- The text before a boundary; nothing when the offset is no boundary. -/
def takeBytes? : Nat → List Char → Option (List Char)
  | 0, _ => some []
  | _ + 1, [] => none
  | n + 1, c :: cs =>
    if c.utf8Size ≤ n + 1 then (takeBytes? (n + 1 - c.utf8Size) cs).map (c :: ·) else none

/-- The text between two boundaries; nothing when one of them is no boundary or they are
reversed. -/
def sliceBytes (start stop : Nat) (cs : List Char) : Option (List Char) :=
  if start ≤ stop then (dropBytes? start cs).bind (takeBytes? (stop - start)) else none

@[simp] theorem byteLength_nil : byteLength [] = 0 := rfl

@[simp] theorem byteLength_cons (c : Char) (cs : List Char) :
    byteLength (c :: cs) = c.utf8Size + byteLength cs := rfl

@[simp] theorem byteLength_append (a b : List Char) :
    byteLength (a ++ b) = byteLength a + byteLength b := by
  induction a with
  | nil => simp
  | cons c a ih => simp [ih, Nat.add_assoc]

/-- A text is split at a boundary into what stands before it and what stands after it. -/
theorem dropBytes?_eq_some_iff {n : Nat} {cs after : List Char} :
    dropBytes? n cs = some after ↔ ∃ before, cs = before ++ after ∧ byteLength before = n := by
  constructor
  · intro h
    induction cs generalizing n with
    | nil =>
      cases n with
      | zero => exact ⟨[], by simpa [dropBytes?] using h, rfl⟩
      | succ n => simp [dropBytes?] at h
    | cons c cs ih =>
      cases n with
      | zero => exact ⟨[], by simpa [dropBytes?] using h, rfl⟩
      | succ n =>
        simp only [dropBytes?] at h
        split at h
        · obtain ⟨before, rfl, hb⟩ := ih h
          exact ⟨c :: before, rfl, by simp only [byteLength_cons, hb]; omega⟩
        · cases h
  · rintro ⟨before, rfl, rfl⟩
    induction before with
    | nil => cases after <;> rfl
    | cons c before ih =>
      have hc := c.utf8Size_pos
      obtain ⟨k, hk⟩ : ∃ k, c.utf8Size + byteLength before = k + 1 :=
        ⟨_, (Nat.succ_pred_eq_of_pos (by omega)).symm⟩
      rw [List.cons_append, byteLength_cons, hk, dropBytes?, if_pos (by omega)]
      rw [show k + 1 - c.utf8Size = byteLength before by omega]
      exact ih

/-- The text before a boundary is the prefix with that many bytes. -/
theorem takeBytes?_eq_some_iff {n : Nat} {cs before : List Char} :
    takeBytes? n cs = some before ↔ ∃ after, cs = before ++ after ∧ byteLength before = n := by
  constructor
  · intro h
    induction cs generalizing n before with
    | nil =>
      cases n with
      | zero => simp only [takeBytes?, Option.some.injEq] at h; subst h; exact ⟨[], rfl, rfl⟩
      | succ n => simp [takeBytes?] at h
    | cons c cs ih =>
      cases n with
      | zero => simp only [takeBytes?, Option.some.injEq] at h; subst h; exact ⟨c :: cs, rfl, rfl⟩
      | succ n =>
        simp only [takeBytes?] at h
        split at h
        · obtain ⟨b, hb, rfl⟩ := Option.map_eq_some_iff.1 h
          obtain ⟨after, rfl, hn⟩ := ih hb
          exact ⟨after, rfl, by simp only [byteLength_cons, hn]; omega⟩
        · cases h
  · rintro ⟨after, rfl, rfl⟩
    induction before with
    | nil => cases after <;> rfl
    | cons c before ih =>
      have hc := c.utf8Size_pos
      obtain ⟨k, hk⟩ : ∃ k, c.utf8Size + byteLength before = k + 1 :=
        ⟨_, (Nat.succ_pred_eq_of_pos (by omega)).symm⟩
      rw [List.cons_append, byteLength_cons, hk, takeBytes?, if_pos (by omega)]
      rw [show k + 1 - c.utf8Size = byteLength before by omega, ih]
      rfl

/-- A slice is the part of a text between two offsets. -/
theorem sliceBytes_eq_some_iff {start stop : Nat} {cs slice : List Char} :
    sliceBytes start stop cs = some slice ↔
      ∃ before after, cs = before ++ slice ++ after ∧ byteLength before = start ∧
        byteLength before + byteLength slice = stop := by
  constructor
  · intro h
    unfold sliceBytes at h
    split at h
    · obtain ⟨rest, hrest, hslice⟩ := Option.bind_eq_some_iff.1 h
      obtain ⟨before, rfl, hb⟩ := dropBytes?_eq_some_iff.1 hrest
      obtain ⟨after, rfl, hs⟩ := takeBytes?_eq_some_iff.1 hslice
      exact ⟨before, after, by simp, hb, by omega⟩
    · cases h
  · rintro ⟨before, after, rfl, rfl, rfl⟩
    unfold sliceBytes
    rw [if_pos (Nat.le_add_right _ _), Nat.add_sub_cancel_left]
    rw [dropBytes?_eq_some_iff.2 ⟨before, List.append_assoc .., rfl⟩]
    exact takeBytes?_eq_some_iff.2 ⟨after, rfl, rfl⟩

end TerraLint.Text
