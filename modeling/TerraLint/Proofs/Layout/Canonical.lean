import TerraLint.Proofs.Layout.Fixpoint
import TerraLint.Proofs.Layout.Reading

/-!
# The canonical text of a block is canonical

The canonical text of a block holds one block, which is in order at every depth and whose canonical
text is the text itself. This needs each attribute to read as itself in its new layout: a line of a
heredoc that is taken for its end is laid out as code, and may then end the heredoc too early.

* `readable_canon`: a block of a file whose attributes are steady has a canonical form to be read.
* `exists_canonical`: the text of such a form holds one block, written as the form says.
* `Tree.root_render_canonical`: the canonical text of a block.
-/

namespace TerraLint.Layout

open Text Format Hcl

/-! ## The canonical form of a block that was read -/

section Members

variable {file : SourceFile} {cl : Classifier} {isRoot : Bool}

theorem Member.mem_inSlot {ms : List Member} {slot : Slot} {c : Canon} (h : c ∈ inSlot ms slot) :
    ∃ m ∈ ms, m.canon = c := by
  obtain ⟨m, hm, rfl⟩ := List.mem_map.1 h
  exact ⟨m, (List.mem_filter.1 (mem_ordered.1 hm)).1, rfl⟩

/-- Slot by slot, every member comes once. -/
theorem Member.flatMap_inSlot_perm (ms : List Member) :
    ((Slot.all true).flatMap (inSlot ms)).Perm (ms.map (·.canon)) := by
  have hordered : ∀ slot, (ordered slot.kind (ms.filter fun m => m.slot == slot)).Perm
      (ms.filter fun m => m.slot == slot) := fun slot =>
    (sortBy_perm _).trans (sortBy_perm _)
  have hslots := flatMap_slots_perm (slots_nodup true) fun m (_ : m ∈ ms) => slot_mem_all m.slot
  have hflat : ((Slot.all true).flatMap fun slot =>
      ordered slot.kind (ms.filter fun m => m.slot == slot)).Perm ms :=
    (List.Perm.flatMap_left _ fun slot _ => hordered slot).trans hslots
  have hmap := hflat.map (·.canon)
  rw [List.map_flatMap] at hmap
  exact hmap

theorem attrKeys_blockMembers (items : List Item) :
    attrKeys ((blockMembers file cl isRoot items).map (·.canon)) = [] := by
  induction items with
  | nil => rw [blockMembers, List.map_nil]; rfl
  | cons item items ih =>
    cases item with
    | attr a => rw [blockMembers, ih]
    | block b =>
      obtain ⟨kind, labels, body, span⟩ := b
      rw [blockMembers, List.map_cons, canon]
      exact ih

/-- The keys in a canonical form are those of the block. -/
theorem attrKeys_members_perm (body : Body) :
    (attrKeys (((Body.attributesByOffset body).map (attributeMember file cl isRoot) ++
      blockMembers file cl isRoot body).map (·.canon))).Perm (itemKeys body) := by
  have hattributes : attrKeys (((Body.attributesByOffset body).map
      (attributeMember file cl isRoot)).map (·.canon)) =
        (Body.attributesByOffset body).map Attribute.key := by
    rw [List.map_map, attrKeys, List.filterMap_map, ← List.filterMap_eq_map]
    rfl
  rw [List.map_append, attrKeys_append, hattributes, attrKeys_blockMembers, List.append_nil]
  exact (sortBy_perm _).map _

mutual

/-- The canonical form of a block can be read if each of its attributes can. -/
theorem readable_canon (isRoot : Bool) : (b : Block) → Formed (.block b) →
    (∀ d, Inside (.block d) [.block b] → ∀ label ∈ d.labels, Unescaped label) →
    (∀ a, Inside (.attr a) b.body → Readable (.attr a.key (file.textOf a.span))) →
    Readable (canon file cl isRoot b)
  | ⟨kind, labels, body, span⟩, hb, hlabels, hattrs => by
    cases hb with
    | block hname hkeys hbody =>
      rw [canon]
      refine .block ⟨hname, hlabels _ (.here List.mem_cons_self)⟩ ?_ fun slot c hc => ?_
      · have hperm := (Member.flatMap_inSlot_perm _).filterMap _ |>.trans
          (@attrKeys_members_perm file cl isRoot body)
        exact hperm.nodup_iff.2 hkeys
      · obtain ⟨m, hm, rfl⟩ := Member.mem_inSlot hc
        rcases List.mem_append.1 hm with hm | hm
        · obtain ⟨a, ha, rfl⟩ := List.mem_map.1 hm
          exact hattrs a (.here (mem_of_mem_attributes (mem_sortBy.1 ha)))
        · exact readable_blockMembers isRoot body hbody
            (fun d hd => hlabels d (.nested List.mem_cons_self hd)) hattrs m hm

theorem readable_blockMembers (isRoot : Bool) : (items : List Item) → (∀ it ∈ items, Formed it) →
    (∀ d, Inside (.block d) items → ∀ label ∈ d.labels, Unescaped label) →
    (∀ a, Inside (.attr a) items → Readable (.attr a.key (file.textOf a.span))) →
    ∀ m ∈ blockMembers file cl isRoot items, Readable m.canon
  | [], _, _, _ => by simp [blockMembers]
  | .attr _ :: items, hitems, hlabels, hattrs => by
    rw [blockMembers]
    exact readable_blockMembers isRoot items (fun it hit => hitems it (List.mem_cons_of_mem _ hit))
      (fun d hd => hlabels d (hd.cons _)) (fun a ha => hattrs a (ha.cons _))
  | .block b :: items, hitems, hlabels, hattrs => by
    intro m hm
    rw [blockMembers] at hm
    rcases List.mem_cons.1 hm with rfl | hm
    · refine readable_canon false b (hitems _ List.mem_cons_self) (fun d hd => hlabels d ?_)
        fun a ha => hattrs a (.nested List.mem_cons_self ha)
      cases hd with
      | here hmem => exact .here (List.mem_singleton.1 hmem ▸ List.mem_cons_self)
      | nested hmem hd =>
        obtain rfl : _ = b := Item.block.inj (List.mem_singleton.1 hmem)
        exact .nested List.mem_cons_self hd
    · exact readable_blockMembers isRoot items
        (fun it hit => hitems it (List.mem_cons_of_mem _ hit)) (fun d hd => hlabels d (hd.cons _))
        (fun a ha => hattrs a (ha.cons _)) m hm

end

end Members

/-! ## Canonical forms and what is read off their text -/

namespace Canon.Holds

variable {P P' : String → List Char → Prop} {Q Q' : String → List String → Prop}

theorem imp (hP : ∀ key text, P key text → P' key text)
    (hQ : ∀ kind labels, Q kind labels → Q' kind labels) {c : Canon} (h : c.Holds P Q) :
    c.Holds P' Q' := by
  induction c using Canon.induct with
  | attr key text =>
    cases h with
    | attr h => exact .attr (hP _ _ h)
  | block kind labels slots ih =>
    cases h with
    | block h hslots => exact .block (hQ _ _ h) fun slot c hc => ih slot c hc (hslots slot c hc)

end Canon.Holds

namespace Readable

theorem holds {c : Canon} (h : Readable c) : c.Holds (fun _ text => Upright text) Headed := by
  induction c using Canon.induct with
  | attr key text =>
    cases h with
    | attr hu _ => exact .attr hu
  | block kind labels slots ih =>
    cases h with
    | block hh _ hslots => exact .block hh fun slot c hc => ih slot c hc (hslots slot c hc)

theorem printable {c : Canon} (h : Readable c) : c.Printable :=
  h.holds.imp (fun _ _ hu => hu.toSolid) fun _ _ hh => hh.lineFeed

end Readable

namespace Reprinted

theorem printable {c : Canon} {p : Piece} (h : Reprinted c p)
    (hc : c.Holds (fun _ text => Upright text) Headed) : p.2.Printable := by
  induction c using Canon.induct generalizing p with
  | attr key text =>
    cases h with
    | attr hkept =>
      cases hc with
      | attr hu =>
        obtain ⟨gs, g, hfs, hg⟩ := exists_last_of_kept hu.toSolid hkept
        rw [hfs]
        exact .attr (solid_unlines_concat gs hg)
  | block kind labels slots ih =>
    cases h with
    | block _ _ hpieces =>
      cases hc with
      | block hh hslots =>
        refine .block hh.lineFeed fun slot d hd => ?_
        obtain ⟨p, hp, rfl⟩ := List.mem_map.1 hd
        obtain ⟨c, hmem, hcp⟩ := exists_of_mem_forall₂ (hpieces slot).flip hp
        exact ih slot c hmem hcp (hslots slot c hmem)

theorem exists_block {kind : String} {labels : List String} {slots : Slot → List Canon} {p : Piece}
    (h : Reprinted (.block kind labels slots) p) : ∃ slots', p.2 = .block kind labels slots' := by
  cases h with
  | block _ _ _ => exact ⟨_, rfl⟩

/-- What is read off the lines has the name that was written there. -/
theorem names {c : Canon} {p : Piece} (h : Reprinted c p) :
    p.2.name = c.name ∧ p.2.sortKey = c.sortKey ∧ ∀ cl isRoot, p.2.slot cl isRoot = c.slot cl isRoot := by
  cases h with
  | attr _ => exact ⟨rfl, rfl, fun _ _ => rfl⟩
  | block _ _ _ => exact ⟨rfl, rfl, fun _ _ => rfl⟩

theorem precedes {c d : Canon} {p q : Piece} (hc : Reprinted c p) (hd : Reprinted d q)
    (cl : Classifier) (kind : SectionKind) : p.2.precedes cl kind q.2 = c.precedes cl kind d := by
  obtain ⟨hname, hkey, -⟩ := hc.names
  obtain ⟨hname', hkey', -⟩ := hd.names
  cases kind <;> simp only [Canon.precedes, hname, hkey, hname', hkey']

/-- What is read off the lines is as sorted as what was written. -/
theorem sorted {cl : Classifier} {isRoot : Bool} {c : Canon} {p : Piece} (h : Reprinted c p)
    (hc : c.Sorted cl isRoot) : p.2.Sorted cl isRoot := by
  induction c using Canon.induct generalizing isRoot p with
  | attr key text =>
    cases h with
    | attr _ => exact .attr
  | block kind labels slots ih =>
    cases h with
    | @block _ _ _ pieces _ _ _ _ hpieces =>
      cases hc with
      | block hslot horder hsorted =>
        have hmem : ∀ {slot d}, d ∈ (pieces slot).map (·.2) →
            ∃ c ∈ slots slot, ∃ p, Reprinted c p ∧ p.2 = d := by
          intro slot d hd
          obtain ⟨p, hp, rfl⟩ := List.mem_map.1 hd
          obtain ⟨c, hc, hcp⟩ := exists_of_mem_forall₂ (hpieces slot).flip hp
          exact ⟨c, hc, p, hcp, rfl⟩
        refine .block (fun slot d hd => ?_) (fun slot => ?_) fun slot d hd => ?_
        · obtain ⟨c, hc, p, hcp, rfl⟩ := hmem hd
          rw [hcp.names.2.2]
          exact hslot slot c hc
        · have hpairs := hpieces slot
          have horder := horder slot
          rw [List.pairwise_map]
          generalize slots slot = cs at hpairs horder
          generalize pieces slot = ps at hpairs
          induction hpairs with
          | nil => exact .nil
          | cons hcp hps ihps =>
            obtain ⟨hfirst, horder⟩ := List.pairwise_cons.1 horder
            refine List.pairwise_cons.2 ⟨fun q hq => ?_, ihps horder⟩
            obtain ⟨d, hd, hdq⟩ := exists_of_mem_forall₂ hps.flip hq
            rw [hcp.precedes hdq]
            exact hfirst d hd
        · obtain ⟨c, hc, p, hcp, rfl⟩ := hmem hd
          exact ih slot c hc hcp (hsorted slot c hc)

end Reprinted

/-! ## The text of a canonical form -/

section Text

variable {kind : String} {labels : List String} {slots : Slot → List Canon}

/-- The text of a block in canonical form is its lines. -/
theorem render_eq_unlines (h : (Canon.block kind labels slots).Printable) :
    (Canon.block kind labels slots).render = unlines (Canon.block kind labels slots).laid := by
  rw [← ((Canon.block kind labels slots).lines_render h).2, Canon.render, blockText, lines_format]
  exact format_eq _

theorem kept_laid (h : (Canon.block kind labels slots).Printable) :
    List.Forall₂ Kept (Canon.block kind labels slots).flat (Canon.block kind labels slots).laid := by
  have htidy : ∀ f ∈ (Canon.block kind labels slots).laid, Tidy f := by
    intro f hf
    refine ⟨?_, ?_⟩
    · rw [Canon.laid, Canon.linesWith] at hf
      exact trimEnd_of_mem_layLines hf
    · rw [← ((Canon.block kind labels slots).lines_render h).2] at hf
      exact not_mem_of_mem_lines hf
  have heased := eased_laid (.block kind labels slots)
  exact ((List.forall₂_and_left _ _).2 ⟨htidy, heased.flip⟩).flip.imp fun _ _ h => ⟨h.2, h.1⟩

/-- The text of a canonical form holds one block, and that is written as the form says. -/
theorem exists_canonical (name : String) (hc : Readable (.block kind labels slots)) :
    ∃ b c', parseBody (Canon.block kind labels slots).render = some [.block b] ∧
      Reprinted (.block kind labels slots) ((Canon.block kind labels slots).laid, c') ∧
        Writes (.parse name (Canon.block kind labels slots).render) c' (.block b) := by
  obtain ⟨c', hrep⟩ := exists_reprinted (hc.holds.imp (fun _ _ hu => hu.toSolid) fun _ _ h => h)
    (kept_laid hc.printable)
  obtain ⟨indent, hpiece⟩ := exists_pieceText hrep hc
  obtain ⟨T, hT⟩ : ∃ T, T = (Canon.block kind labels slots).render := ⟨_, rfl⟩
  have htext : T = indent ++ dedented (Canon.block kind labels slots).laid := by
    rw [hT, render_eq_unlines hc.printable]
    exact hpiece.unlines_eq
  have hread : Reads name T (.block kind labels slots) := reads_of_readable hc
  obtain ⟨it, hitem, -, hwrites⟩ := hread _ hrep indent [] (depthBound T - 1)
    (by rw [List.append_nil]; exact htext) (by rintro ⟨key, text, h⟩; cases h) (by
      have hlength := congrArg List.length htext
      rw [List.length_append] at hlength
      rw [depthBound, List.append_nil]
      dsimp only
      omega)
  rw [List.append_nil] at hitem
  have hbody : parseBody T = some [it] := by
    have hstart := hpiece.start
    dsimp only at hstart
    have hbound : depthBound T = 4 * T.length + 6 + 2 := rfl
    have hrun := @items_last (4 * T.length + 6) 0 _ indent _ it (isGap_of_spaced hpiece.spaced)
      hstart (by rw [Nat.zero_add]; exact hitem)
    rw [← htext] at hrun
    rw [parseBody, hbound, Cursor.ofText, hrun]
    rfl
  obtain ⟨slots', rfl⟩ : ∃ slots', c' = .block kind labels slots' := hrep.exists_block
  rw [← hT]
  cases it with
  | attr a => cases hwrites
  | block b => exact ⟨b, _, hbody, hrep, hwrites⟩

end Text

/-! ## The canonical text of a block -/

/-- A text that holds exactly one block, in order at every depth, and that is the canonical text of
this block. -/
def IsCanonical (cl : Classifier) (T : List Char) : Prop :=
  ∃ b, parseBody T = some [.block b] ∧ ∀ name,
    (Tree.root (.parse name T) cl b).isOrdered = true ∧
    (Tree.root (.parse name T) cl b).misplaced = [] ∧
    (Tree.root (.parse name T) cl b).render = T

theorem isCanonical_render {cl : Classifier} {kind : String} {labels : List String}
    {slots : Slot → List Canon} (hc : Readable (.block kind labels slots))
    (hsorted : (Canon.block kind labels slots).Sorted cl true) :
    IsCanonical cl (Canon.block kind labels slots).render := by
  obtain ⟨b, -, hparse, -, -⟩ := exists_canonical "" hc
  refine ⟨b, hparse, fun name => ?_⟩
  obtain ⟨b', c', hparse', hrep, hwrites⟩ := exists_canonical name hc
  obtain rfl : b' = b := by
    rw [hparse] at hparse'
    exact (Item.block.inj (List.cons.inj (Option.some.inj hparse')).1).symm
  have hsorted' : c'.Sorted cl true := hrep.sorted hsorted
  have hcanon := canon_of_writes hsorted' hwrites
  have hlaid : c'.laid = (Canon.block kind labels slots).laid := hrep.laid_eq hc.holds
  have hprint : c'.Printable := hrep.printable hc.holds
  refine ⟨ordered_of_writes hsorted' hwrites _, misplaced_of_writes hsorted' hwrites _, ?_⟩
  obtain ⟨slots', rfl⟩ : ∃ slots', c' = .block kind labels slots' := hrep.exists_block
  rw [Tree.root, render_build, hcanon, render_eq_unlines hprint, hlaid,
    ← render_eq_unlines hc.printable]

/-- The canonical form of a block of a file can be read if the attributes of the block can. -/
theorem readable_of_parseBody {text : List Char} {body : Body} (h : parseBody text = some body)
    {b : Block} (hb : b ∈ body.blocks) (name : String) (cl : Classifier)
    (hlabels : ∀ d, Inside (.block d) [.block b] → ∀ label ∈ d.labels, Unescaped label)
    (hsteady : ∀ a, Inside (.attr a) b.body →
      Steady a.key ((SourceFile.parse name text).textOf a.span)) :
    Readable (canon (.parse name text) cl true b) := by
  have hitem := mem_of_mem_blocks hb
  refine readable_canon true b ((formed_of_parseBody h).formed _ hitem) hlabels fun a ha => ?_
  have hinside : Inside (.attr a) body := .nested hitem ha
  have hupright := SourceFile.upright_textOf h name hinside
  exact .attr hupright (hsteady a ha)

theorem isCanonical_root {file : SourceFile} {cl : Classifier} {b : Block}
    (h : Readable (canon file cl true b)) : IsCanonical cl (Tree.root file cl b).render := by
  have hsorted := @canon_sorted file cl true b
  rw [Tree.root, render_build]
  obtain ⟨kind, labels, body, span⟩ := b
  rw [canon] at h hsorted ⊢
  exact isCanonical_render h hsorted

/-- The canonical text of a block holds exactly one block. This is in order, as are all blocks in it,
and its canonical text is the text that it was read from. -/
theorem Tree.root_render_canonical {text : List Char} {body : Body} (h : parseBody text = some body)
    {b : Block} (hb : b ∈ body.blocks) (name : String) (cl : Classifier)
    (hlabels : ∀ d, Inside (.block d) [.block b] → ∀ label ∈ d.labels, Unescaped label)
    (hsteady : ∀ a, Inside (.attr a) b.body →
      Steady a.key ((SourceFile.parse name text).textOf a.span)) :
    IsCanonical cl (Tree.root (.parse name text) cl b).render :=
  isCanonical_root (readable_of_parseBody h hb name cl hlabels hsteady)

/-! ## Attributes in one line -/

/-- A value that is read as it stands before any line end. -/
def ReadsInline (v : List Char) : Prop :=
  ∀ rest byte n, 2 ≤ n → ∃ e,
    expr n .inline ⟨v ++ '\n' :: rest, byte⟩ = .ok (e, ⟨'\n' :: rest, byte + byteLength v⟩)

/-- An attribute in one line is steady if its value is read as it stands. -/
theorem steady_of_line {key : String} {text v : List Char} (hname : Cursor.IsName key.toList)
    (hline : lines text = [text]) (htrim : trim text = text) (hplain : Plain text)
    (hparse : Assignment.parse? text = some ⟨key.toList, v⟩)
    (hstart : ∃ d more, v = d :: more ∧ Cursor.endsBlanks d = true) (hvalue : ReadsInline v) :
    Steady key text := by
  intro fs hkept rest hrest byte n hn
  rw [hline] at hkept
  obtain ⟨f, rfl, heased, htidy⟩ := exists_singleton_of_forall₂ hkept
  have htrimf : trim f = trimStart f := by
    rw [trim_eq, ← trimStart_trimEnd_comm, htidy.trimEnd]
  have hparse' : Assignment.parse? (trimStart f) = some ⟨key.toList, v⟩ := by
    rw [← htrimf, parse?_congr heased.core, htrim, hparse]
  obtain ⟨b₁, b₂, hb₁, hb₂, hf, -⟩ := Assignment.eq_of_parse? hparse' htidy.trimStart.trimEnd
  have hgap : ∀ b, allBlank b = true → (∀ c ∈ b, c ∈ trimStart f) →
      ∀ c ∈ b, Cursor.isGap false c = true := by
    intro b hb hsub c hc
    have hspace := heased.plain hplain c ((List.dropWhile_suffix _).subset (hsub c hc))
      (allBlank_iff.1 hb c hc)
    simp only [isSpacing, Bool.or_eq_true, beq_iff_eq] at hspace
    rcases hspace with rfl | rfl <;> rfl
  have hg₁ := hgap b₁ hb₁ (by rw [hf]; simp +contextual)
  have hg₂ := hgap b₂ hb₂ (by rw [hf]; simp +contextual)
  have hded : dedented [f] = key.toList ++ (b₁ ++ '=' :: (b₂ ++ v)) := by
    rw [dedented, unlines_singleton, hf]
    simp
  obtain ⟨d, more, rfl, hd⟩ := hstart
  have hends : Cursor.endsName (b₁ ++ '=' :: (b₂ ++ (d :: more ++ '\n' :: rest))) = true := by
    cases b₁ with
    | nil => rfl
    | cons c cs =>
      have hc := hg₁ c List.mem_cons_self
      simp only [Cursor.isGap, Bool.false_and, Bool.or_false, Bool.or_eq_true, beq_iff_eq] at hc
      rcases hc with rfl | rfl <;> rfl
  have hlen : 4 * (key.toList.length + (b₁.length + (1 + (b₂.length + (1 + more.length))))) + 4 ≤ n := by
    rw [hded] at hn
    simp only [List.length_append, List.length_cons] at hn
    omega
  obtain ⟨n, rfl⟩ : ∃ k, n = k + 1 := ⟨n - 1, by omega⟩
  have hkey := @Cursor.name_append key hname _ hends byte
  have hskip₁ : Cursor.skipInline _ = _ := Cursor.skip_append hg₁ (show Cursor.endsBlanks '=' = true from by decide)
    (b₂ ++ (d :: more ++ '\n' :: rest)) (byte + byteLength key.toList)
  have hsign := Cursor.expect_append ['='] (b₂ ++ (d :: more ++ '\n' :: rest))
    (byte + byteLength key.toList + byteLength b₁)
  have hskip₂ : Cursor.skipInline _ = _ := Cursor.skip_append hg₂ hd (more ++ '\n' :: rest)
    (byte + byteLength key.toList + byteLength b₁ + byteLength ['='])
  obtain ⟨e, hexpr⟩ := hvalue rest (byte + byteLength key.toList + byteLength b₁ +
    byteLength ['='] + byteLength b₂) n (by omega)
  have hitem := item_succ_iff.2 (.attr hkey hskip₁ hsign hskip₂ hexpr)
  have hbyte : byteLength (dedented [f]) = byteLength key.toList + byteLength b₁ +
      byteLength ['='] + byteLength b₂ + byteLength (d :: more) := by
    rw [hded]
    simp only [byteLength_append, byteLength_cons, byteLength_nil]
    omega
  have htext : dedented [f] ++ '\n' :: rest =
      key.toList ++ (b₁ ++ '=' :: (b₂ ++ (d :: more ++ '\n' :: rest))) := by
    rw [hded]
    simp
  have hstop : byte + byteLength key.toList + byteLength b₁ + byteLength ['='] + byteLength b₂ +
      byteLength (d :: more) = byte + byteLength (dedented [f]) := by omega
  rw [hstop] at hitem
  rw [htext]
  exact ⟨_, hitem, rfl, rfl⟩

theorem readsInline_one : ReadsInline ['1'] := by
  intro rest byte n hn
  obtain ⟨n, rfl⟩ : ∃ k, n = k + 2 := ⟨n - 2, by omega⟩
  refine ⟨.node (some ⟨byte, byte + 1⟩) (.number (.unsigned 1)), ?_⟩
  unfold expr term operations
  rfl

/-- A block with two attributes that stand the wrong way round. -/
def unsorted : List Char := "r \"t\" \x7b\n  b = 1\n  a = 1\n\x7d\n".toList

theorem steady_one {key : String} (hkey : key = "a" ∨ key = "b") :
    Steady key (key.toList ++ [' ', '=', ' ', '1']) := by
  have hname : Cursor.IsName key.toList := by
    rcases hkey with rfl | rfl
    · exact ⟨⟨'a', [], rfl, rfl⟩, List.forall_mem_singleton.2 rfl⟩
    · exact ⟨⟨'b', [], rfl, rfl⟩, List.forall_mem_singleton.2 rfl⟩
  have hplain : (((key.toList ++ [' ', '=', ' ', '1']).all fun c =>
      !isBlank c || isSpacing c) = true) := by
    rcases hkey with rfl | rfl <;> rfl
  rcases hkey with rfl | rfl <;>
  · refine steady_of_line (v := ['1']) hname rfl rfl (fun c hc hblank => ?_) rfl
      ⟨'1', [], rfl, rfl⟩ readsInline_one
    simpa [hblank] using List.all_eq_true.1 hplain c hc

/-- Such a block has a canonical text that is canonical. -/
theorem Tree.root_render_canonical_unsorted : ∃ body b, parseBody unsorted = some body ∧
    b ∈ body.blocks ∧
      IsCanonical .terraform (Tree.root (.parse "main.tf" unsorted) .terraform b).render := by
  have hread : ((parseBody unsorted).bind fun body => body.blocks.head?.map fun b =>
      b.labels == ["t"] && b.body.all fun it => it.attr?.any fun a => ["a", "b"].contains a.key &&
        (SourceFile.parse "main.tf" unsorted).textOf a.span ==
          a.key.toList ++ [' ', '=', ' ', '1']) = some true := by
    decide +kernel
  obtain ⟨body, hbody, hread⟩ := Option.bind_eq_some_iff.1 hread
  obtain ⟨b, hb, hread⟩ := Option.map_eq_some_iff.1 hread
  simp only [Bool.and_eq_true, List.all_eq_true, beq_iff_eq] at hread
  obtain ⟨hlabels, hitems⟩ := hread
  have hnone : ∀ d, .block d ∉ b.body := by
    intro d hmem
    have hitem := hitems _ hmem
    simp [Item.attr?] at hitem
  have hmem : b ∈ body.blocks := List.mem_of_mem_head? hb
  refine ⟨body, b, hbody, hmem, Tree.root_render_canonical hbody hmem "main.tf" .terraform ?_ ?_⟩
  · intro d hd
    obtain rfl : d = b := by
      cases hd with
      | here hd => exact Item.block.inj (List.mem_singleton.1 hd)
      | nested hd' hd =>
        obtain rfl := Item.block.inj (List.mem_singleton.1 hd')
        cases hd with
        | here hd => exact absurd hd (hnone _)
        | nested hd _ => exact absurd hd (hnone _)
    rw [hlabels]
    decide
  · intro a ha
    cases ha with
    | here ha =>
      have hitem := hitems _ ha
      obtain ⟨hkey, htext⟩ : (a.key = "a" ∨ a.key = "b") ∧
          (SourceFile.parse "main.tf" unsorted).textOf a.span =
            a.key.toList ++ [' ', '=', ' ', '1'] := by
        simpa [Item.attr?] using hitem
      rw [htext]
      exact steady_one hkey
    | nested ha _ => exact absurd ha (hnone _)

end TerraLint.Layout
