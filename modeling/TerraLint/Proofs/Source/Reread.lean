import TerraLint.Proofs.Hcl.Body
import TerraLint.Proofs.Hcl.Locality
import TerraLint.Proofs.Source.Placed
import TerraLint.Source.Evaluation

/-!
# Attributes read once more

The value of an attribute is computed from its own text, which is read for that once more, without
what stands around it. It reads as the same attribute again, counted from the start of its own text,
unless a heredoc in it may close at its first line and a template sequence stands behind: where such
a heredoc ends depends on all the text that follows.

* `Hcl.item_window`: an attribute is read from the text between its two cursors.
* `SourceFile.attribute_rereads`: so its value is computed from what was read first.
-/

namespace TerraLint

open Text Hcl Cursor

namespace Hcl

open Offset

instance : Offset Attribute :=
  ⟨fun k a => ⟨a.key, shift k a.keySpan, shift k a.value, shift k a.span⟩⟩

variable {k n : Nat} {t w : List Char} {c d : Cursor}

/-- What is read from an offset further on is read from the first one. -/
theorem exists_of_shift_eq_some {α : Type} [Offset α] {x : Option α} {r : α}
    (h : shift k x = some r) : ∃ r₀, x = some r₀ ∧ shift k r₀ = r :=
  Option.map_eq_some_iff.1 h

theorem exists_of_shift_eq_ok {α : Type} [Offset α] {x : Reading α} {r : α}
    (h : shift k x = .ok r) : ∃ r₀, x = .ok r₀ ∧ shift k r₀ = r := by
  cases x with
  | error e => cases h
  | ok r₀ => exact ⟨r₀, rfl, Except.ok.inj h⟩

/-- An expression that ends where `t` starts is read without it, with any bound that is enough. -/
theorem expr_window {N : Nat} {m : Mode} {e : Expr} (hs : Unambiguous c.rest) (hd : d.rest = [])
    (hn : 4 * c.rest.length + 3 ≤ n) (hN : 4 * c.rest.length + 3 ≤ N)
    (h : expr n m (c.ahead t) = .ok (e, d.ahead t)) : expr N m c = .ok (e, d) := by
  rw [expr_of_enough hn hN, (locality t n).expr hs (.inl hd) h]

/-- A text that is one structure is read as a body of that structure. -/
theorem parseBody_of_item {it : Item} (h : item (4 * w.length + 7) (ofText w) = some (it, d))
    (hd : d.rest = []) : parseBody w = some [it] := by
  obtain ⟨cs, stop⟩ := d
  obtain rfl : cs = [] := hd
  have hstart : ∃ ch rest, w = ch :: rest ∧ isNameStart ch = true := isNameStart_of_item h
  have hgap : ∀ ch ∈ ([] : List Char), isGap true ch = true := fun _ hmem => by cases hmem
  have hitems : items (depthBound w) [] (ofText w) = some ([it], ⟨[], stop⟩) :=
    items_last hgap hstart h
  rw [parseBody, hitems]
  rfl

/-- The value of an attribute stands behind its key and its sign. -/
theorem reaches_value {name : String} {next c₁ c₂ c₃ : Cursor} (hname : c.name = some (name, next))
    (h₁ : next.skipInline = some c₁) (hsign : c₁.expect ['='] = some c₂)
    (h₃ : c₂.skipInline = some c₃) : Reaches c c₃ ∧ c₃.rest.length + 2 ≤ c.rest.length := by
  have hkey := closes_name hname
  have hequals := closes_bracket hsign (by decide)
  refine ⟨(hkey.reaches.trans (reaches_skip h₁)).trans (hequals.reaches.trans (reaches_skip h₃)), ?_⟩
  have hlt := hkey.length_lt
  have hlt' := hequals.length_lt
  have hle₁ := (reaches_skip h₁).length_le
  have hle₃ := (reaches_skip h₃).length_le
  omega

/-- The text of an attribute is read as one attribute, the same counted from its own start. -/
theorem item_window {a : Attribute} (hs : Unambiguous w) (hn : 4 * (w ++ t).length ≤ n)
    (h : item n ⟨w ++ t, k⟩ = some (.attr a, d)) (hd : d.rest = t) :
    ∃ a₀ d₀, item (4 * w.length + 7) (ofText w) = some (.attr a₀, d₀) ∧ d₀.rest = [] ∧
      shift k a₀ = a := by
  obtain ⟨n, rfl⟩ : ∃ n', n = n' + 1 := by
    cases n with
    | zero => cases h
    | succ n => exact ⟨n, rfl⟩
  obtain @⟨next, c₁, c₂, c₃, _, name, value, hname, h₁, hsign, h₃, hvalue⟩ := item_succ_iff.1 h
  -- All cursors stand before `t`.
  obtain ⟨d, hnil, rfl⟩ : ∃ d' : Cursor, d'.rest = [] ∧ d = d'.ahead t := by
    obtain ⟨ds, byte⟩ := d
    obtain rfl : ds = t := hd
    exact ⟨⟨[], byte⟩, rfl, rfl⟩
  obtain ⟨c₃, rfl⟩ := exists_ahead (closes_expr hvalue).reaches
  obtain ⟨c₂, rfl⟩ := exists_ahead (reaches_skip h₃)
  obtain ⟨c₁, rfl⟩ := exists_ahead (reaches_expect hsign)
  obtain ⟨next, rfl⟩ := exists_ahead (reaches_skip h₁)
  have hname' : (shift k (ofText w)).name = some (name, next) := name_of_ahead hname
  rw [name_shift] at hname'
  obtain ⟨⟨name, next⟩, hname₀, hr⟩ := exists_of_shift_eq_some hname'
  obtain ⟨rfl, rfl⟩ := Prod.mk.inj hr
  obtain ⟨c₁, h₁₀, rfl⟩ := exists_of_shift_eq_some
    ((skip_shift false next).symm.trans (skip_of_ahead h₁))
  obtain ⟨c₂, hsign₀, rfl⟩ := exists_of_shift_eq_some
    ((expect_shift ['='] c₁).symm.trans (expect_of_ahead hsign))
  obtain ⟨c₃, h₃₀, rfl⟩ := exists_of_shift_eq_some
    ((skip_shift false c₂).symm.trans (skip_of_ahead h₃))
  obtain ⟨hreach, hlt⟩ := reaches_value hname₀ h₁₀ hsign₀ h₃₀
  dsimp only [ofText] at hlt
  have hvalue' : expr (4 * w.length + 6) .inline (shift k c₃) = .ok (value, d) := by
    refine expr_window (n := n) ?_ hnil ?_ ?_ hvalue
    · exact hs.after (c := ofText w) (d := c₃) hreach
    · rw [List.length_append] at hn
      dsimp only [Offset.shift]
      omega
    · dsimp only [Offset.shift]
      omega
  rw [expr_shift] at hvalue'
  obtain ⟨⟨value, d⟩, hvalue₀, hr⟩ := exists_of_shift_eq_ok hvalue'
  obtain ⟨rfl, rfl⟩ := Prod.mk.inj hr
  exact ⟨⟨name, ⟨0, next.byte⟩, value, ⟨0, d.byte⟩⟩, d,
    item_succ_iff.2 (.attr hname₀ h₁₀ hsign₀ h₃₀ hvalue₀), hnil, rfl⟩

end Hcl

namespace SourceFile

/-- The own text of an attribute is read as one attribute. -/
theorem exists_item_textOf {name : String} {text : List Char} {body : Body} {a : Attribute}
    (h : parseBody text = some body) (ha : Inside (.attr a) body)
    (hs : Unambiguous ((parse name text).textOf a.span)) :
    ∃ a₀ d₀, item (4 * ((parse name text).textOf a.span).length + 7)
        (ofText ((parse name text).textOf a.span)) = some (.attr a₀, d₀) ∧ d₀.rest = [] ∧
      Offset.shift a.span.start a₀ = a := by
  obtain ⟨n, ⟨cs, byte⟩, d, hc, hn, hitem⟩ := readBehind_of_parseBody h ha
  have hstands := (places n).item hitem
  have hspan : a.span = ⟨byte, d.byte⟩ := hstands.span
  obtain ⟨-, hrest⟩ := @textOf_stands name text _ d hc _ hstands
  obtain rfl : cs = (parse name text).textOf a.span ++ d.rest := hrest
  obtain ⟨a₀, d₀, hread, hd₀, hshift⟩ := item_window hs hn hitem rfl
  exact ⟨a₀, d₀, hread, hd₀, by rw [hspan]; exact hshift⟩

/-- The text of an attribute is read as that attribute and nothing else, counted from its own start,
and the value of the attribute is that of what was read. -/
theorem attribute_rereads {name : String} {text : List Char} {body : Body} {a : Attribute}
    (h : parseBody text = some body) (ha : Inside (.attr a) body)
    (hs : Unambiguous ((parse name text).textOf a.span)) :
    ∃ a₀, parseBody ((parse name text).textOf a.span) = some [.attr a₀] ∧ a₀.key = a.key ∧
      Offset.shift a.span.start a₀.value = a.value ∧
        (parse name text).value? a = eval ((parse name text).textOf a.span)
          (depthBound ((parse name text).textOf a.span)) [] a₀.value := by
  obtain ⟨a₀, d₀, hread, hd₀, hshift⟩ := exists_item_textOf h ha hs
  have hparse := parseBody_of_item hread hd₀
  have hkey := congrArg Attribute.key hshift
  have hvalue := congrArg Attribute.value hshift
  refine ⟨a₀, hparse, hkey, hvalue, ?_⟩
  rw [value?, evaluateText, hparse]
  rfl

/-- A block in one line whose attribute ends with a heredoc in a list over several lines. -/
def oneLine : List Char := "b \x7b k = [1, # one\n<<F\nx$\x7b1\x7d\nF\n] \x7d\n".toList

/-- The attribute is read without the braces around it. -/
theorem attribute_rereads_inline : ∃ body a a₀, parseBody oneLine = some body ∧
    Inside (.attr a) body ∧ (parse "main.tf" oneLine).textOf a.span =
      "k = [1, # one\n<<F\nx$\x7b1\x7d\nF\n]".toList ∧
    parseBody ((parse "main.tf" oneLine).textOf a.span) = some [.attr a₀] ∧ a₀.key = "k" ∧
      Offset.shift 4 a₀.value = a.value := by
  have hread : ((parseBody oneLine).bind fun body => body.allAttributes.head?.map fun a =>
      (a.key, a.span.start, (parse "main.tf" oneLine).textOf a.span,
        decide (Unambiguous ((parse "main.tf" oneLine).textOf a.span)))) =
      some ("k", 4, "k = [1, # one\n<<F\nx$\x7b1\x7d\nF\n]".toList, true) := by
    decide +kernel
  obtain ⟨body, hbody, hread⟩ := Option.bind_eq_some_iff.1 hread
  obtain ⟨a, ha, hread⟩ := Option.map_eq_some_iff.1 hread
  simp only [Prod.mk.injEq, decide_eq_true_eq] at hread
  obtain ⟨hkey, hstart, htext, hs⟩ := hread
  have hinside := inside_of_mem_body (List.mem_of_mem_head? ha)
  obtain ⟨a₀, hparse, hkey₀, hvalue, -⟩ := attribute_rereads hbody hinside hs
  exact ⟨body, a, a₀, hbody, hinside, htext, hparse, hkey₀.trans hkey, hstart ▸ hvalue⟩

/-- A heredoc that its first line closes, with an interpolation in a comment behind it. -/
def briefHeredoc : List Char :=
  "a = [<<E\nE\n/* $\x7b<<X\nX\n\x7d\nE # */\n]\nb = <<Y\nX\x7d\nY\n".toList

/-- Where it stands it is empty, in the text of its attribute the interpolation is part of it. -/
example : ((parseBody briefHeredoc).bind fun body => body.attributes.head?.map fun a =>
    let own := parseBody ((parse "main.tf" briefHeredoc).textOf a.span)
    (a :: (own.getD []).attributes).map fun a =>
      (a.value.children.flatMap Expr.children).length) = some [0, 1] := by
  decide +kernel

end SourceFile

end TerraLint
