import TerraLint.Hcl.Query
import TerraLint.Proofs.Hcl.Advance

/-!
# Reading the structures of a body

What the readers of bodies do in one call, given what the calls inside it do. A body is read structure
by structure, so these are the steps of every run.

* `ItemsStep`, `ItemStep`, `BlockBodyStep`: one call of each reader, with `items_succ_iff`,
  `item_succ_iff` and `blockBody_succ_iff`.
* `LabelsStep`, `QuotedStep`: the same for labels.
* `items_item`: one structure on lines of its own is read, and the rest is left.
* `items_close`: a closing brace ends a body.
* `item_block`: a block with its header.
* `formed_of_parseBody`: attributes and blocks that were read have names, and no key is assigned twice.
-/

namespace TerraLint.Hcl

open Text Cursor

/-- The keys of the attributes among some structures. -/
def itemKeys (items : List Item) : List String := (Body.attributes items).map Attribute.key

@[simp] theorem itemKeys_nil : itemKeys [] = [] := rfl

@[simp] theorem itemKeys_append (a b : List Item) : itemKeys (a ++ b) = itemKeys a ++ itemKeys b := by
  simp [itemKeys, Body.attributes]

theorem endsBlanks_of_isNameStart {c : Char} (h : isNameStart c = true) : endsBlanks c = true := by
  by_contra hne
  simp only [endsBlanks, Bool.not_eq_true', Bool.not_eq_false, Bool.or_eq_true, beq_iff_eq] at hne
  rcases hne with ((((rfl | rfl) | rfl) | rfl) | rfl) | rfl
  all_goals
    revert h
    decide

theorem endOfLine_lineFeed (rest : List Char) (byte : Nat) :
    endOfLine ⟨'\n' :: rest, byte⟩ = some ⟨rest, byte + 1⟩ := rfl

/-- Exactly the keys that were not assigned yet are not repeated. -/
theorem not_repeated_iff {a : Attribute} {read : List Item} :
    (read.any fun
      | .attr b => a.key == b.key
      | .block _ => false) = false ↔ a.key ∉ itemKeys read := by
  rw [List.any_eq_false]
  constructor
  · intro h hmem
    obtain ⟨b, hb, hkey⟩ := List.mem_map.1 hmem
    obtain ⟨item, hitem, hattr⟩ := List.mem_filterMap.1 hb
    cases item with
    | block d => cases hattr
    | attr d =>
      obtain rfl : d = b := Option.some.inj hattr
      exact h _ hitem (beq_iff_eq.2 hkey.symm)
  · intro h item hitem heq
    cases item with
    | block b => cases heq
    | attr b =>
      refine h (List.mem_map.2 ⟨b, ?_, (beq_iff_eq.1 heq).symm⟩)
      exact List.mem_filterMap.2 ⟨.attr b, hitem, rfl⟩

/-! ## One call of a reader -/

/-- No structure that was read already has the key of this one, if it has one. -/
def Fresh (read : List Item) (it : Item) : Prop := ∀ key ∈ itemKeys [it], key ∉ itemKeys read

/-- A call of the reader of structures: it stops at a closing brace or at the end of the text, or it
reads a structure and the end of its line, and then the others. -/
inductive ItemsStep (n : Nat) (read : List Item) (c : Cursor) : List Item → Cursor → Prop
  | stop {d : Cursor} (hskip : c.skipLines = some d)
    (hstop : d.rest = [] ∨ d.rest.head? = some '}') : ItemsStep n read c read d
  | more {c₁ c₂ c₃ d : Cursor} {it : Item} {all : List Item} (hskip : c.skipLines = some c₁)
    (hitem : item n c₁ = some (it, c₂)) (hfresh : Fresh read it) (hend : c₂.endOfLine = some c₃)
    (hmore : items n (read ++ [it]) c₃ = some (all, d)) : ItemsStep n read c all d

/-- A call of the reader of a structure: an attribute when a sign stands behind the name, else a
block. -/
inductive ItemStep (n : Nat) (c : Cursor) : Item → Cursor → Prop
  | attr {c₁ c₂ c₃ c₄ d : Cursor} {key : String} {value : Expr} (hname : c.name = some (key, c₁))
    (h₂ : c₁.skipInline = some c₂) (hsign : c₂.expect ['='] = some c₃)
    (h₄ : c₃.skipInline = some c₄) (hvalue : expr n .inline c₄ = .ok (value, d)) :
    ItemStep n c (.attr ⟨key, ⟨c.byte, c₁.byte⟩, value, ⟨c.byte, d.byte⟩⟩) d
  | block {c₁ c₂ c₃ d : Cursor} {kind : String} {ls : List String} {body : List Item}
    (hname : c.name = some (kind, c₁)) (h₂ : c₁.skipInline = some c₂)
    (hne : c₂.rest.head? ≠ some '=') (hlabels : c₂.labels n [] = some (ls, c₃))
    (hbody : blockBody n c₃ = some (body, d)) :
    ItemStep n c (.block ⟨kind, ls, body, ⟨c.byte, d.byte⟩⟩) d

/-- A call of the reader of a block's body: nothing between the braces, structures on lines of their
own, or one attribute in the line of the braces. -/
inductive BlockBodyStep (n : Nat) (c : Cursor) : List Item → Cursor → Prop
  | empty {c₁ c₂ d : Cursor} (hopen : c.expect ['{'] = some c₁) (h₂ : c₁.skipInline = some c₂)
    (hclose : c₂.expect ['}'] = some d) : BlockBodyStep n c [] d
  | lines {c₁ c₂ c₃ c₄ d : Cursor} {body : List Item} (hopen : c.expect ['{'] = some c₁)
    (h₂ : c₁.skipInline = some c₂) (hbreak : c₂.lineBreak = some c₃)
    (hitems : items n [] c₃ = some (body, c₄)) (hclose : c₄.expect ['}'] = some d) :
    BlockBodyStep n c body d
  | inline {c₁ c₂ c₃ c₄ d : Cursor} {a : Attribute} (hopen : c.expect ['{'] = some c₁)
    (h₂ : c₁.skipInline = some c₂) (hitem : ItemStep n c₂ (.attr a) c₃)
    (h₄ : c₃.skipInline = some c₄) (hclose : c₄.expect ['}'] = some d) : BlockBodyStep n c [.attr a] d

/-- A call of the reader of a quoted label: nothing, or a run of text, between two quotes. -/
inductive QuotedStep (c : Cursor) : String → Cursor → Prop
  | empty {c₁ d : Cursor} (hopen : c.expect ['"'] = some c₁) (hclose : c₁.expect ['"'] = some d) :
    QuotedStep c "" d
  | run {c₁ c₂ d : Cursor} {label : String} (hopen : c.expect ['"'] = some c₁)
    (hrun : quotedRun [] c₁.byte c₁.rest = some (label, c₂)) (hclose : c₂.expect ['"'] = some d) :
    QuotedStep c label d

/-- A call of the reader of labels: it stops at the opening brace, or it reads a label with the blanks
behind it, and then the others. -/
inductive LabelsStep (n : Nat) (read : List String) (c : Cursor) : List String → Cursor → Prop
  | stop (hbrace : c.rest.head? = some '{') : LabelsStep n read c read c
  | more {c₁ c₂ d : Cursor} {label : String} {all : List String}
    (hlabel : c.quotedLabel = some (label, c₁) ∨ c.name = some (label, c₁))
    (hskip : c₁.skipInline = some c₂) (hmore : c₂.labels n (read ++ [label]) = some (all, d)) :
    LabelsStep n read c all d

section Calls

variable {n : Nat} {c d next : Cursor} {read all body : List Item} {it : Item}

theorem head_of_expect {x : Char} {w : List Char} (h : c.expect (x :: w) = some d) :
    c.rest.head? = some x := by
  obtain ⟨hstarts, -⟩ := Option.ite_none_right_eq_some.1 h
  obtain ⟨rest, hrest⟩ := List.isPrefixOf_iff_prefix.1 hstarts
  rw [← hrest]
  rfl

theorem exists_start_of_name {name : String} (h : c.name = some (name, next)) :
    ∃ ch rest, c.rest = ch :: rest ∧ isNameStart ch = true := by
  obtain ⟨⟨⟨ch, rest, hcs, hstart⟩, -⟩, hrest, -⟩ := isName_of_name h
  exact ⟨ch, rest ++ next.rest, by rw [hrest, hcs]; rfl, hstart⟩

theorem lineBreak_of_isNameStart {ch : Char} {rest : List Char} (hrest : c.rest = ch :: rest)
    (hch : isNameStart ch = true) : c.lineBreak = none := by
  unfold lineBreak
  rw [hrest]
  split
  all_goals first
    | rfl
    | (rename_i heq
       rw [(List.cons.inj heq).1] at hch
       exact absurd hch (by decide))

theorem quotedLabel_iff {label : String} :
    c.quotedLabel = some (label, d) ↔ QuotedStep c label d := by
  constructor
  · intro h
    obtain ⟨c₁, hopen, h⟩ := Option.bind_eq_some_iff.1 h
    split at h
    · rename_i rest hrest
      obtain ⟨rfl, rfl⟩ := Prod.mk.inj (Option.some.inj h)
      exact .empty hopen (expect_eq_some.2 ⟨hrest, rfl⟩)
    · obtain ⟨⟨text, c₂⟩, hrun, h⟩ := Option.bind_eq_some_iff.1 h
      obtain ⟨c₃, hclose, h⟩ := Option.bind_eq_some_iff.1 h
      obtain ⟨rfl, rfl⟩ := Prod.mk.inj (Option.some.inj h)
      exact .run hopen hrun hclose
  · intro h
    unfold quotedLabel
    cases h with
    | @empty c₁ _ hopen hclose =>
      obtain ⟨hrest, hbyte⟩ := expect_eq_some.1 hclose
      obtain ⟨ds, byte⟩ := d
      obtain rfl : byte = c₁.byte + 1 := hbyte
      obtain hrest : c₁.rest = '"' :: ds := hrest
      rw [hopen, Option.bind_eq_bind, Option.bind_some, hrest]
      rfl
    | run hopen hrun hclose =>
      rw [hopen, Option.bind_eq_bind, Option.bind_some]
      split
      · -- A run does not start with a quote.
        rename_i hquote
        rw [hquote, quotedRun] at hrun
        cases hrun
      · simp only [hrun, hclose, Option.bind_eq_bind, Option.bind_some]
        rfl

theorem head_of_quotedLabel {label : String} (h : c.quotedLabel = some (label, d)) :
    c.rest.head? = some '"' := by
  cases quotedLabel_iff.1 h with
  | empty hopen | run hopen => exact head_of_expect hopen

theorem labels_succ_iff {read ls : List String} :
    c.labels (n + 1) read = some (ls, d) ↔ LabelsStep n read c ls d := by
  constructor
  · intro h
    rw [Cursor.labels] at h
    split at h
    · rename_i hbrace
      obtain ⟨rfl, rfl⟩ := Prod.mk.inj (Option.some.inj h)
      exact .stop (by rw [hbrace]; rfl)
    · obtain ⟨⟨label, c₁⟩, hlabel, h⟩ := Option.bind_eq_some_iff.1 h
      obtain ⟨c₂, hskip, h⟩ := Option.bind_eq_some_iff.1 h
      exact .more (.inl hlabel) hskip h
    · obtain ⟨⟨label, c₁⟩, hlabel, h⟩ := Option.bind_eq_some_iff.1 h
      obtain ⟨c₂, hskip, h⟩ := Option.bind_eq_some_iff.1 h
      exact .more (.inr hlabel) hskip h
  · intro h
    rw [Cursor.labels]
    cases h with
    | stop hbrace =>
      obtain ⟨rest, hrest⟩ := List.head?_eq_some_iff.1 hbrace
      simp only [hrest]
    | more hlabel hskip hmore =>
      rcases hlabel with hlabel | hlabel
      · obtain ⟨rest, hrest⟩ := List.head?_eq_some_iff.1 (head_of_quotedLabel hlabel)
        simp only [hrest, hlabel, hskip, Option.bind_eq_bind, Option.bind_some]
        exact hmore
      · obtain ⟨ch, rest, hrest, hch⟩ := exists_start_of_name hlabel
        split
        · rename_i hbrace
          rw [hbrace] at hrest
          rw [← (List.cons.inj hrest).1] at hch
          exact absurd hch (by decide)
        · rename_i hquote
          rw [hquote] at hrest
          rw [← (List.cons.inj hrest).1] at hch
          exact absurd hch (by decide)
        · simp only [hlabel, hskip, Option.bind_eq_bind, Option.bind_some]
          exact hmore

theorem attributeValue_eq_some {key : String} {span : Span} {a : Attribute} :
    attributeValue n key span c = some (a, d) ↔ ∃ c₁ c₂ value, c.expect ['='] = some c₁ ∧
      c₁.skipInline = some c₂ ∧ expr n .inline c₂ = .ok (value, d) ∧
      a = ⟨key, span, value, ⟨span.start, d.byte⟩⟩ := by
  have hread : ∀ {x : Reading (Expr × Cursor)} {r}, x.toOption = some r ↔ x = .ok r := by
    intro x r
    cases x <;> simp [Except.toOption]
  simp only [attributeValue, Option.bind_eq_bind, Option.bind_eq_some_iff, hread, Prod.exists,
    Option.pure_def, Option.some.injEq, Prod.mk.injEq]
  constructor
  · rintro ⟨c₁, h₁, c₂, h₂, value, c₃, hvalue, rfl, rfl⟩
    exact ⟨c₁, c₂, value, h₁, h₂, hvalue, rfl⟩
  · rintro ⟨c₁, c₂, value, h₁, h₂, hvalue, rfl⟩
    exact ⟨c₁, h₁, c₂, h₂, value, d, hvalue, rfl, rfl⟩

theorem item_succ_iff : item (n + 1) c = some (it, d) ↔ ItemStep n c it d := by
  constructor
  · intro h
    rw [item] at h
    obtain ⟨⟨name, c₁⟩, hname, h⟩ := Option.bind_eq_some_iff.1 h
    obtain ⟨c₂, h₂, h⟩ := Option.bind_eq_some_iff.1 h
    split at h
    · obtain ⟨⟨a, c₃⟩, hattr, h⟩ := Option.bind_eq_some_iff.1 h
      obtain ⟨rfl, rfl⟩ := Prod.mk.inj (Option.some.inj h)
      obtain ⟨c₃, c₄, value, hsign, h₄, hvalue, rfl⟩ := attributeValue_eq_some.1 hattr
      exact .attr hname h₂ hsign h₄ hvalue
    · rename_i hne
      obtain ⟨⟨labels, c₃⟩, hlabels, h⟩ := Option.bind_eq_some_iff.1 h
      obtain ⟨⟨body, c₄⟩, hbody, h⟩ := Option.bind_eq_some_iff.1 h
      obtain ⟨rfl, rfl⟩ := Prod.mk.inj (Option.some.inj h)
      refine .block hname h₂ (fun hhead => ?_) hlabels hbody
      obtain ⟨rest, hrest⟩ := List.head?_eq_some_iff.1 hhead
      exact hne rest hrest
  · intro h
    rw [item]
    cases h with
    | @attr c₁ c₂ c₃ c₄ _ key value hname h₂ hsign h₄ hvalue =>
      obtain ⟨rest, hrest⟩ := List.head?_eq_some_iff.1 (head_of_expect hsign)
      have hattr : attributeValue n key ⟨c.byte, c₁.byte⟩ c₂ =
          some (⟨key, ⟨c.byte, c₁.byte⟩, value, ⟨c.byte, d.byte⟩⟩, d) :=
        attributeValue_eq_some.2 ⟨c₃, c₄, value, hsign, h₄, hvalue, rfl⟩
      simp only [Option.bind_eq_bind, hname, Option.bind_some, h₂, hrest, hattr]
      rfl
    | block hname h₂ hne hlabels hbody =>
      simp only [Option.bind_eq_bind, hname, Option.bind_some, h₂]
      split
      · rename_i hrest
        rw [hrest] at hne
        exact absurd rfl hne
      · simp only [hlabels, hbody, Option.bind_some]
        rfl

theorem isNameStart_of_item (h : item n c = some (it, d)) :
    ∃ ch rest, c.rest = ch :: rest ∧ isNameStart ch = true := by
  cases n with
  | zero => simp [item] at h
  | succ n =>
    cases item_succ_iff.1 h with
    | attr hname => exact exists_start_of_name hname
    | block hname => exact exists_start_of_name hname

/-- The test for a repeated key. -/
theorem fresh_iff : (match it with
    | .attr a => read.any fun
      | .attr b => a.key == b.key
      | .block _ => false
    | .block _ => false) = false ↔ Fresh read it := by
  cases it with
  | block b => exact iff_of_true rfl fun _ hkey => by cases hkey
  | attr a =>
    have hkeys : itemKeys [.attr a] = [a.key] := rfl
    rw [Fresh, hkeys, List.forall_mem_singleton]
    exact not_repeated_iff

theorem items_succ_iff : items (n + 1) read c = some (all, d) ↔ ItemsStep n read c all d := by
  constructor
  · intro h
    rw [items] at h
    obtain ⟨c₁, hskip, h⟩ := Option.bind_eq_some_iff.1 h
    split at h
    · rename_i hnil
      obtain ⟨rfl, rfl⟩ := Prod.mk.inj (Option.some.inj h)
      exact .stop hskip (.inl hnil)
    · rename_i hbrace
      obtain ⟨rfl, rfl⟩ := Prod.mk.inj (Option.some.inj h)
      exact .stop hskip (.inr (by rw [hbrace]; rfl))
    · obtain ⟨⟨it, c₂⟩, hitem, h⟩ := Option.bind_eq_some_iff.1 h
      obtain ⟨hfresh, h⟩ := Option.ite_none_left_eq_some.1 h
      obtain ⟨c₃, hend, h⟩ := Option.bind_eq_some_iff.1 h
      exact .more hskip hitem (fresh_iff.1 (Bool.eq_false_iff.2 hfresh)) hend h
  · intro h
    rw [items]
    cases h with
    | stop hskip hstop =>
      simp only [hskip, Option.bind_eq_bind, Option.bind_some]
      rcases hstop with hnil | hbrace
      · rw [hnil]
        rfl
      · obtain ⟨rest, hrest⟩ := List.head?_eq_some_iff.1 hbrace
        rw [hrest]
        rfl
    | @more c₁ c₂ c₃ _ it _ hskip hitem hfresh hend hmore =>
      obtain ⟨ch, rest, hrest, hch⟩ := isNameStart_of_item hitem
      simp only [hskip, Option.bind_eq_bind, Option.bind_some]
      split
      · rename_i hnil
        rw [hnil] at hrest
        cases hrest
      · rename_i hbrace
        rw [hbrace] at hrest
        rw [← (List.cons.inj hrest).1] at hch
        exact absurd hch (by decide)
      · simp only [hitem, Option.bind_some, hend, hmore]
        exact if_neg (Bool.eq_false_iff.1 (fresh_iff.2 hfresh))

theorem blockBody_succ_iff : blockBody (n + 1) c = some (body, d) ↔ BlockBodyStep n c body d := by
  constructor
  · intro h
    rw [blockBody] at h
    obtain ⟨c₁, hopen, h⟩ := Option.bind_eq_some_iff.1 h
    obtain ⟨c₂, h₂, h⟩ := Option.bind_eq_some_iff.1 h
    split at h
    · rename_i rest hrest
      obtain ⟨rfl, rfl⟩ := Prod.mk.inj (Option.some.inj h)
      refine .empty hopen h₂ ?_
      obtain ⟨cs, byte⟩ := c₂
      obtain rfl : cs = '}' :: rest := hrest
      rfl
    · split at h
      · rename_i c₃ hbreak
        obtain ⟨⟨body, c₄⟩, hitems, h⟩ := Option.bind_eq_some_iff.1 h
        obtain ⟨c₅, hclose, h⟩ := Option.bind_eq_some_iff.1 h
        obtain ⟨rfl, rfl⟩ := Prod.mk.inj (Option.some.inj h)
        exact .lines hopen h₂ hbreak hitems hclose
      · obtain ⟨⟨name, next⟩, hname, h⟩ := Option.bind_eq_some_iff.1 h
        obtain ⟨c₃, h₃, h⟩ := Option.bind_eq_some_iff.1 h
        obtain ⟨⟨a, c₄⟩, hattr, h⟩ := Option.bind_eq_some_iff.1 h
        obtain ⟨c₅, h₅, h⟩ := Option.bind_eq_some_iff.1 h
        obtain ⟨c₆, hclose, h⟩ := Option.bind_eq_some_iff.1 h
        obtain ⟨rfl, rfl⟩ := Prod.mk.inj (Option.some.inj h)
        obtain ⟨e₁, e₂, value, hsign, h₄, hvalue, rfl⟩ := attributeValue_eq_some.1 hattr
        exact .inline hopen h₂ (.attr hname h₃ hsign h₄ hvalue) h₅ hclose
  · intro h
    rw [blockBody]
    cases h with
    | empty hopen h₂ hclose =>
      obtain ⟨rest, hrest⟩ := List.head?_eq_some_iff.1 (head_of_expect hclose)
      simp only [Option.bind_eq_bind, hopen, Option.bind_some, h₂, hrest]
      rw [Cursor.expect, hrest] at hclose
      exact congrArg _ (congrArg _ (Option.some.inj hclose))
    | @lines c₁ c₂ c₃ c₄ _ _ hopen h₂ hbreak hitems hclose =>
      simp only [Option.bind_eq_bind, hopen, Option.bind_some, h₂]
      split
      · rename_i hrest
        rw [Cursor.lineBreak, hrest] at hbreak
        cases hbreak
      · simp only [hbreak, hitems, hclose, Option.bind_some]
        rfl
    | @inline c₁ c₂ c₃ c₄ _ a hopen h₂ hitem h₄ hclose =>
      cases hitem with
      | @attr e₁ e₂ e₃ e₄ _ key value hname h₃ hsign h₅ hvalue =>
        obtain ⟨ch, rest, hrest, hch⟩ := exists_start_of_name hname
        have hattr : attributeValue n key ⟨c₂.byte, e₁.byte⟩ e₂ =
            some (⟨key, ⟨c₂.byte, e₁.byte⟩, value, ⟨c₂.byte, c₃.byte⟩⟩, c₃) :=
          attributeValue_eq_some.2 ⟨e₃, e₄, value, hsign, h₅, hvalue, rfl⟩
        have hbreak : c₂.lineBreak = none := lineBreak_of_isNameStart hrest hch
        simp only [Option.bind_eq_bind, hopen, Option.bind_some, h₂]
        split
        · rename_i hbrace
          rw [hbrace] at hrest
          rw [← (List.cons.inj hrest).1] at hch
          exact absurd hch (by decide)
        · simp only [hbreak, hname, h₃, hattr, h₄, hclose, Option.bind_some]
          rfl

end Calls

/-! ## Structures that are read -/

/-- A structure is read, and then what follows its line. -/
theorem items_structure {n byte stop : Nat} {read : List Item} {ws rest text : List Char} {it : Item}
    {next : Cursor} (hws : ∀ c ∈ ws, isGap true c = true)
    (hstart : ∃ d more, text = d :: more ∧ isNameStart d = true)
    (hitem : item n ⟨text ++ rest, byte + byteLength ws⟩ = some (it, ⟨rest, stop⟩))
    (hnext : endOfLine ⟨rest, stop⟩ = some next) (hfresh : (itemKeys read ++ itemKeys [it]).Nodup) :
    items (n + 1) read ⟨ws ++ (text ++ rest), byte⟩ = items n (read ++ [it]) next := by
  obtain ⟨d, more, rfl, hd⟩ := hstart
  have hskip : skipLines ⟨ws ++ (d :: more ++ rest), byte⟩ =
      some ⟨d :: more ++ rest, byte + byteLength ws⟩ :=
    skip_append hws (endsBlanks_of_isNameStart hd) _ byte
  have hfresh : Fresh read it := fun key hkey hmem =>
    (List.nodup_append.1 hfresh).2.2 key hmem key hkey rfl
  refine Option.ext fun ⟨all, d⟩ => ?_
  rw [items_succ_iff]
  constructor
  · intro hstep
    cases hstep with
    | stop hskip' hstop =>
      obtain rfl := Option.some.inj (hskip.symm.trans hskip')
      rcases hstop with hnil | hbrace
      · cases hnil
      · obtain rfl : d = '}' := Option.some.inj hbrace
        exact absurd hd (by decide)
    | more hskip' hitem' _ hend hmore =>
      obtain rfl := Option.some.inj (hskip.symm.trans hskip')
      obtain ⟨rfl, rfl⟩ := Prod.mk.inj (Option.some.inj (hitem.symm.trans hitem'))
      obtain rfl := Option.some.inj (hnext.symm.trans hend)
      exact hmore
  · exact fun hmore => .more hskip hitem hfresh hnext hmore

theorem items_item {n byte stop : Nat} {read : List Item} {ws rest text : List Char} {it : Item}
    (hws : ∀ c ∈ ws, isGap true c = true) (hstart : ∃ d more, text = d :: more ∧ isNameStart d = true)
    (hitem : item n ⟨text ++ '\n' :: rest, byte + byteLength ws⟩ = some (it, ⟨'\n' :: rest, stop⟩))
    (hfresh : (itemKeys read ++ itemKeys [it]).Nodup) :
    items (n + 1) read ⟨ws ++ (text ++ '\n' :: rest), byte⟩ =
      items n (read ++ [it]) ⟨rest, stop + 1⟩ :=
  items_structure hws hstart hitem (endOfLine_lineFeed rest stop) hfresh

theorem items_skip {n byte : Nat} {read : List Item} {ws : List Char}
    (hws : ∀ c ∈ ws, isGap true c = true) (rest : List Char) :
    items n read ⟨ws ++ rest, byte⟩ = items n read ⟨rest, byte + byteLength ws⟩ := by
  cases n with
  | zero => simp [items]
  | succ n =>
    have hskip : skipLines ⟨ws ++ rest, byte⟩ = skipLines ⟨rest, byte + byteLength ws⟩ :=
      blanks_append hws rest byte
    unfold items
    rw [hskip]

theorem items_close {n byte : Nat} {read : List Item} {ws : List Char}
    (hws : ∀ c ∈ ws, isGap true c = true) (rest : List Char) :
    items (n + 1) read ⟨ws ++ '}' :: rest, byte⟩ =
      some (read, ⟨'}' :: rest, byte + byteLength ws⟩) := by
  have hskip : skipLines ⟨ws ++ '}' :: rest, byte⟩ = some ⟨'}' :: rest, byte + byteLength ws⟩ :=
    skip_append hws (by decide) rest byte
  unfold items
  rw [hskip]
  rfl

theorem items_end (n stop : Nat) (read : List Item) :
    items (n + 1) read ⟨[], stop⟩ = some (read, ⟨[], stop⟩) := by
  unfold items
  rfl

/-- A structure that ends the text is the last one. -/
theorem items_last {n byte stop : Nat} {ws text : List Char} {it : Item}
    (hws : ∀ c ∈ ws, isGap true c = true) (hstart : ∃ d more, text = d :: more ∧ isNameStart d = true)
    (hitem : item (n + 1) ⟨text, byte + byteLength ws⟩ = some (it, ⟨[], stop⟩)) :
    items (n + 2) [] ⟨ws ++ text, byte⟩ = some ([it], ⟨[], stop⟩) := by
  have hend : endOfLine ⟨[], stop⟩ = some ⟨[], stop⟩ := rfl
  have hfresh : (itemKeys [] ++ itemKeys [it]).Nodup := by
    cases it with
    | block b => exact List.nodup_nil
    | attr a => simp [itemKeys, Body.attributes, Item.attr?]
  have hrun := items_structure hws hstart (by rw [List.append_nil]; exact hitem) hend hfresh
  rw [List.append_nil] at hrun
  rw [hrun]
  exact items_end n stop [it]

theorem blockBody_empty (n byte : Nat) (rest : List Char) :
    blockBody (n + 1) ⟨'{' :: '}' :: rest, byte⟩ = some ([], ⟨rest, byte + 2⟩) := by
  unfold blockBody
  rfl

theorem blockBody_lines {n byte stop : Nat} {inner rest : List Char} {body : List Item}
    (h : items n [] ⟨inner, byte + 2⟩ = some (body, ⟨'}' :: rest, stop⟩)) :
    blockBody (n + 1) ⟨'{' :: '\n' :: inner, byte⟩ = some (body, ⟨rest, stop + 1⟩) := by
  have hopen : expect ['{'] ⟨'{' :: '\n' :: inner, byte⟩ = some ⟨'\n' :: inner, byte + 1⟩ := rfl
  have hskip : skipInline ⟨'\n' :: inner, byte + 1⟩ = some ⟨'\n' :: inner, byte + 1⟩ := rfl
  have hbreak : lineBreak ⟨'\n' :: inner, byte + 1⟩ = some ⟨inner, byte + 2⟩ := rfl
  have hclose : expect ['}'] ⟨'}' :: rest, stop⟩ = some ⟨rest, stop + 1⟩ := rfl
  unfold blockBody
  simp only [hopen, hskip, hbreak, h, hclose, Option.bind_eq_bind, Option.bind_some]
  rfl

/-- A block is read with its type and labels when its body is. -/
theorem item_block {n byte : Nat} {kind : String} {ls : List String} {rest : List Char}
    {body : List Item} {next : Cursor} (hname : IsName kind.toList)
    (hlabels : ∀ label ∈ ls, Verbatim label.toList) (hn : ls.length < n)
    (hbody : blockBody n ⟨'{' :: rest, byte + byteLength (kind.toList ++ ' ' :: labelsText ls)⟩ =
      some (body, next)) :
    item (n + 1) ⟨kind.toList ++ ' ' :: (labelsText ls ++ '{' :: rest), byte⟩ =
      some (.block ⟨kind, ls, body, ⟨byte, next.byte⟩⟩, next) := by
  obtain ⟨d, more, hmore, hd, hsign⟩ : ∃ d more, labelsText ls ++ '{' :: rest = d :: more ∧
      endsBlanks d = true ∧ d ≠ '=' := by
    cases ls with
    | nil => exact ⟨'{', rest, rfl, by decide, by decide⟩
    | cons l ls => exact ⟨'"', _, rfl, by decide, by decide⟩
  have hname' := @name_append kind hname (' ' :: (labelsText ls ++ '{' :: rest)) rfl byte
  have hskip : skipInline ⟨' ' :: (labelsText ls ++ '{' :: rest), byte + byteLength kind.toList⟩ =
      some ⟨labelsText ls ++ '{' :: rest, byte + byteLength kind.toList + byteLength [' ']⟩ := by
    rw [hmore]
    exact skip_append (show ∀ c ∈ [' '], isGap false c = true by simp [isGap]) hd more _
  have hread := labels_append hlabels hn [] rest
    (byte + byteLength kind.toList + byteLength [' '])
  have hbyte : byte + byteLength kind.toList + byteLength [' '] + byteLength (labelsText ls) =
      byte + byteLength (kind.toList ++ ' ' :: labelsText ls) := by
    rw [byteLength_append, byteLength_cons, byteLength_cons, byteLength_nil]
    omega
  rw [hbyte, List.nil_append] at hread
  refine item_succ_iff.2 (.block hname' hskip ?_ hread hbody)
  rw [hmore]
  exact fun hhead => hsign (Option.some.inj hhead)

/-! ## What was read -/

/-- Attributes have names as keys, and blocks have names as types and assign no key twice, at any
depth. -/
inductive Formed : Item → Prop
  | attr {a : Attribute} (hname : IsName a.key.toList) : Formed (.attr a)
  | block {b : Block} (hname : IsName b.kind.toList) (hkeys : (itemKeys b.body).Nodup)
    (hbody : ∀ it ∈ b.body, Formed it) : Formed (.block b)

/-- Structures of which no two assign one key. -/
structure FormedBody (body : List Item) : Prop where
  keys : (itemKeys body).Nodup
  formed : ∀ it ∈ body, Formed it

/-- What the readers with a bound give is formed. -/
structure Forms (n : Nat) : Prop where
  items : ∀ {read c all d}, items n read c = some (all, d) → FormedBody read → FormedBody all
  item : ∀ {c it d}, item n c = some (it, d) → Formed it
  blockBody : ∀ {c body d}, blockBody n c = some (body, d) → FormedBody body

theorem formedBody_nil : FormedBody [] := ⟨.nil, by simp⟩

theorem FormedBody.append {read : List Item} {it : Item} (h : FormedBody read) (hfresh : Fresh read it)
    (hit : Formed it) : FormedBody (read ++ [it]) := by
  refine ⟨?_, fun it' hit' => ?_⟩
  · rw [itemKeys_append]
    refine List.nodup_append.2 ⟨h.keys, ?_, fun key hmem key' hkey' heq => ?_⟩
    · cases it with
      | block b => exact .nil
      | attr a => exact List.pairwise_singleton _ _
    · exact hfresh key' hkey' (heq ▸ hmem)
  · rcases List.mem_append.1 hit' with hit' | hit'
    · exact h.formed it' hit'
    · exact List.mem_singleton.1 hit' ▸ hit

namespace Forms

variable {n : Nat} (ih : Forms n)

include ih

theorem items_succ {read all : List Item} {c d : Cursor}
    (h : Hcl.items (n + 1) read c = some (all, d)) (hread : FormedBody read) : FormedBody all := by
  cases items_succ_iff.1 h with
  | stop => exact hread
  | more _ hitem hfresh _ hmore => exact ih.items hmore (hread.append hfresh (ih.item hitem))

theorem item_step {c d : Cursor} {it : Item} (h : ItemStep n c it d) : Formed it := by
  cases h with
  | attr hname => exact .attr (isName_of_name hname).1
  | block hname _ _ _ hbody =>
    obtain ⟨hkeys, hformed⟩ := ih.blockBody hbody
    exact .block (isName_of_name hname).1 hkeys hformed

theorem item_succ {c d : Cursor} {it : Item} (h : Hcl.item (n + 1) c = some (it, d)) :
    Formed it := ih.item_step (item_succ_iff.1 h)

theorem blockBody_succ {c d : Cursor} {body : List Item}
    (h : Hcl.blockBody (n + 1) c = some (body, d)) : FormedBody body := by
  cases blockBody_succ_iff.1 h with
  | empty => exact formedBody_nil
  | lines _ _ _ hitems => exact ih.items hitems formedBody_nil
  | inline _ _ hitem =>
    exact formedBody_nil.append (fun _ _ hmem => by cases hmem) (ih.item_step hitem)

end Forms

theorem forms (n : Nat) : Forms n := by
  induction n with
  | zero =>
    constructor
    all_goals simp [items, item, blockBody]
  | succ n ih => exact ⟨ih.items_succ, ih.item_succ, ih.blockBody_succ⟩

theorem formed_of_parseBody {text : List Char} {body : Body} (h : parseBody text = some body) :
    FormedBody body := by
  unfold parseBody at h
  obtain ⟨⟨all, d⟩, hitems, h⟩ := Option.bind_eq_some_iff.1 h
  dsimp only at h
  split at h
  · obtain rfl := Option.some.inj h
    exact (forms _).items hitems formedBody_nil
  · cases h

end TerraLint.Hcl
