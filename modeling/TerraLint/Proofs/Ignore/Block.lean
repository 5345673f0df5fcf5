import Mathlib.Data.List.Forall2
import TerraLint.Ignore

/-!
# Blocks of an ignore configuration

A block is read off its attributes: what it lists as patterns, and what it lists as rules to include
or to exclude. Both the blocks that can be read and those that cannot are described by these lists
alone.

* `fault?`: what is wrong, if anything is.
* `strings`, `listed`: the strings of a list that is written out, and those of an attribute.
* `stringList_eq`: reading a list of strings succeeds just when it is one.
* `exists_of_ofBlock`: what a block that can be read is made of.
* `IgnoreFilter.addBlocks_eq`, `IgnoreFilter.parse_eq_of_no_attribute`: the blocks of a
  configuration, those that can be read and those that cannot.
-/

namespace TerraLint

open Hcl

/-! ## Results that may be faults -/

section

variable {α β : Type}

/-- What is wrong, if anything is. -/
def fault? : Except ConfigFault α → Option ConfigFault
  | .ok _ => none
  | .error fault => some fault

theorem fault?_eq_none_iff {x : Except ConfigFault α} : fault? x = none ↔ ∃ v, x = .ok v := by
  cases x <;> simp [fault?]

theorem bind_eq_ok_iff {x : Except ConfigFault α} {f : α → Except ConfigFault β} {w : β} :
    (x >>= f) = .ok w ↔ ∃ v, x = .ok v ∧ f v = .ok w := by
  cases x <;> simp [bind, Except.bind]

theorem fault?_mapM (f : α → Except ConfigFault β) (xs : List α) :
    fault? (xs.mapM f) = xs.findSome? fun x => fault? (f x) := by
  induction xs with
  | nil => rfl
  | cons x xs ih =>
    rw [List.mapM_cons, List.findSome?_cons]
    cases hx : f x with
    | error fault => rfl
    | ok v =>
      rw [← ih]
      cases xs.mapM f <;> rfl

theorem forall₂_of_mapM {f : α → Except ConfigFault β} {xs : List α} {ys : List β}
    (h : xs.mapM f = .ok ys) : List.Forall₂ (fun x y => f x = .ok y) xs ys := by
  induction xs generalizing ys with
  | nil =>
    obtain rfl : [] = ys := Except.ok.inj h
    exact .nil
  | cons x xs ih =>
    rw [List.mapM_cons] at h
    obtain ⟨y, hy, h⟩ := bind_eq_ok_iff.1 h
    obtain ⟨zs, hzs, h⟩ := bind_eq_ok_iff.1 h
    obtain rfl : y :: zs = ys := Except.ok.inj h
    exact .cons hy (ih hzs)

end

namespace IgnoreBlock

/-! ## Lists that are written out -/

/-- The text of a string. -/
def string? (e : Expr) : Option String :=
  match e.form with
  | .string text => some text
  | _ => none

/-- Whether an expression is a list of strings that is written out. -/
def isStringList (e : Expr) : Bool :=
  match e.form with
  | .array items _ => items.all fun item => (string? item).isSome
  | _ => false

/-- The strings of a list that is written out. -/
def strings (e : Expr) : List String :=
  match e.form with
  | .array items _ => items.filterMap string?
  | _ => []

/-- Whether a block has an attribute. -/
def declares (b : Block) (key : String) : Bool := (b.attribute? key).isSome

/-- The strings that an attribute of a block lists. -/
def listed (b : Block) (key : String) : List String :=
  match b.attribute? key with
  | some a => strings a.value
  | none => []

theorem mapM_elim {α β : Type} {f : α → Except ConfigFault β} {g : α → Option β}
    {fault : ConfigFault} (hf : ∀ x, f x = (g x).elim (.error fault) .ok) (xs : List α) :
    xs.mapM f = if xs.all fun x => (g x).isSome then .ok (xs.filterMap g) else .error fault := by
  induction xs with
  | nil => rfl
  | cons x xs ih =>
    rw [List.mapM_cons, ih, hf, List.all_cons, List.filterMap_cons]
    cases g x with
    | none => rfl
    | some v => cases xs.all fun x => (g x).isSome <;> rfl

theorem stringList_eq (e : Expr) : stringList e =
    if isStringList e then .ok (strings e) else .error .notStringList := by
  unfold stringList isStringList strings
  cases e.form with
  | array items closing =>
    apply mapM_elim
    intro item
    unfold string?
    cases item.form <;> rfl
  | _ => rfl

theorem strings_of_stringList {e : Expr} {texts : List String} (h : stringList e = .ok texts) :
    texts = strings e := by
  rw [stringList_eq] at h
  split at h
  · exact (Except.ok.inj h).symm
  · cases h

theorem listed_eq {b : Block} {key : String} {a : Attribute} (h : b.attribute? key = some a) :
    listed b key = strings a.value := by
  unfold listed
  rw [h]

theorem listed_eq_nil {b : Block} {key : String} (h : b.attribute? key = none) :
    listed b key = [] := by
  unfold listed
  rw [h]

/-! ## One block -/

theorem ofName?_eq_ignore_iff {name : String} :
    IgnoreKind.ofName? name = some .ignore ↔ name = "ignore" := by
  unfold IgnoreKind.ofName?
  split <;> simp_all

theorem ofName?_eq_retain_iff {name : String} :
    IgnoreKind.ofName? name = some .retain ↔ name = "retain" := by
  unfold IgnoreKind.ofName?
  split <;> simp_all

theorem compile_eq_ok_iff {source : String} {r : Regex} :
    compile source = .ok r ↔ Regex.parse? source.toList = some r := by
  unfold compile
  cases Regex.parse? source.toList <;> simp

/-- What a block that can be read is made of. -/
theorem exists_of_ofBlock {known : List String} {b : Block} {said : IgnoreBlock}
    (h : ofBlock known b = .ok said) :
    ∃ kind compiled, IgnoreKind.ofName? b.kind = some kind ∧
      compileAll kind (listed b "patterns") = .ok compiled ∧
      selectRules known b = .ok said.rules ∧
      said.ignores = (compiled.filter fun p => !p.1).map (·.2) ∧
      said.retains = (compiled.filter fun p => p.1).map (·.2) := by
  unfold ofBlock at h
  split at h
  · cases h
  · cases h
  · rename_i kind patterns hkind hpatterns
    obtain ⟨texts, htexts, h⟩ := bind_eq_ok_iff.1 h
    obtain ⟨compiled, hcompiled, h⟩ := bind_eq_ok_iff.1 h
    obtain ⟨rules, hrules, h⟩ := bind_eq_ok_iff.1 h
    obtain rfl := Except.ok.inj h
    rw [strings_of_stringList htexts, ← listed_eq hpatterns] at hcompiled
    exact ⟨kind, compiled, hkind, hcompiled, hrules, rfl, rfl⟩

end IgnoreBlock

/-! ## All blocks -/

namespace IgnoreFilter

open IgnoreBlock

/-- The blocks that can be read are added one after the other, and each of the others is an
error. -/
theorem addBlocks_eq (known : List String) (path : String) (filter : IgnoreFilter)
    (errors : ErrorList) (blocks : List Block) :
    addBlocks known path filter errors blocks =
      ((blocks.filterMap fun b => (ofBlock known b).toOption).foldl add filter,
        ⟨errors.errors ++
          (blocks.filterMap fun b => fault? (ofBlock known b)).map (.ignoreConfig path)⟩) := by
  induction blocks generalizing filter errors with
  | nil => simp [addBlocks]
  | cons b blocks ih =>
    unfold addBlocks
    cases hb : ofBlock known b with
    | ok said => simp [ih, hb, fault?, Except.toOption]
    | error fault => simp [ih, hb, fault?, Except.toOption, ErrorList.push]

variable {known : List String} {path : String} {text : List Char} {body : Body}

theorem parse_eq_error_of_attribute {a : Attribute} {rest : List Attribute}
    (hbody : parseBody text = some body) (hattributes : body.attributes = a :: rest) :
    parse known path text = .error (.ignoreConfig path (.strayAttribute a.key)) := by
  unfold parse
  rw [hbody]
  dsimp only
  rw [hattributes]

theorem parse_eq_of_no_attribute (hbody : parseBody text = some body)
    (hattributes : body.attributes = []) :
    parse known path text =
      (ErrorList.collapse ⟨(body.blocks.filterMap fun b => fault? (ofBlock known b)).map
        (.ignoreConfig path)⟩).map fun _ =>
          (body.blocks.filterMap fun b => (ofBlock known b).toOption).foldl add .empty := by
  unfold parse
  rw [hbody]
  dsimp only
  rw [hattributes, addBlocks_eq]
  rfl

end IgnoreFilter

end TerraLint
