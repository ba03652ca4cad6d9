import AccessLint.Proofs.Document.Select
import AccessLint.Proofs.Html.Markup
import AccessLint.Proofs.Html.Origin
import AccessLint.Proofs.Source.Locate
import AccessLint.Text.Keyed

namespace AccessLint

/-!
# Where the elements of a document are located

`Document.offsetOf?` finds an element by its name and its place among the elements of the name, or
by its markup. The tag that the element was made of may be another one.

* `Document.CarriesAt` — the start tag at a byte of the source has exactly the attributes of an
  element;
* `Document.origin?` — the byte of the tag that an element was made of;
* `Document.InStep` — the elements of a name come from its tags, and the tree has not moved them;
* `Document.offsetOf_parse` — when and how far an element is located at its own tag;
* `Document.offsetOf_fosterParented` — a source whose elements are located at each other's tags.
-/

open Html (Element NodeId Tree)

/-! ### Markup of an element -/

/-- The markup of an element starts with its start tag (`Element.startTag`), whatever is in the
    element. -/
theorem Html.Tree.markup_eq_startTag {t : Tree} {i : NodeId} {e : Element}
    (he : t.element? i = some e) : ∃ rest, t.markup i = e.startTag ++ rest := by
  have hcontent := element?_eq_some.mp he
  have hmarkup : t.markup i = if e.isHtmlIn voidNames then e.startTag
      else e.startTag ++ t.markupOf t.nodes.size (e.isHtmlIn rawTextNames) (t.node i).children ++
        e.endTag := by
    unfold markup
    rw [markupOf, List.flatMap_cons, List.flatMap_nil, List.append_nil]
    simp only [hcontent]
  rw [hmarkup]
  split
  · exact ⟨[], (List.append_nil _).symm⟩
  · exact ⟨_, List.append_assoc _ _ _⟩

namespace Document

/-- The start tag at a byte of the source has exactly the attributes of an element. -/
def CarriesAt (d : Document) (offset : Nat) (e : Element) : Prop :=
  ∃ tag ∈ Html.startTagAt? d.source offset, e.Carries tag

instance (d : Document) (offset : Nat) (e : Element) : Decidable (d.CarriesAt offset e) :=
  inferInstanceAs (Decidable (∃ tag ∈ Html.startTagAt? d.source offset, e.Carries tag))

/-- The byte of the tag that an element was made of, if it was made of one. -/
def origin? (d : Document) (e : ElementAt) : Option Nat := (Html.origins d.source).lookup e.id

/-- The elements of a name, in tree order. -/
def named (d : Document) (name : Text) : List ElementAt := d.matching fun e => e.name == name

/-- The elements of a name in the tree, with their places. -/
def namedInTree (d : Document) (name : Text) : List (NodeId × Element) :=
  d.tree.elements.filter fun x => x.2.name == name

/-- What is located of the elements of a name. -/
def locatedNamed (d : Document) (name : Text) : List ((NodeId × Element) × Nat) :=
  Source.locateNamed d.source (Source.scan d.source) (fun x => d.tree.markup x.1) name
    (d.namedInTree name)

/-- The offsets of the start tags of a name. -/
def tagsNamed (d : Document) (name : Text) : List Nat :=
  Source.offsetsOf (Source.scan d.source) name

/-- The elements of a name were made of scanned tags, and stand in the tree in the order of their
    creation. -/
structure InStep (d : Document) (name : Text) : Prop where
  scanned : ∀ x ∈ d.named name, ∃ i ∈ d.tagsNamed name, d.origin? x = some i
  created : (d.named name).Pairwise fun x y => x.id < y.id

variable {d : Document} {e : ElementAt} {o : Nat}

/-! ### Origins -/

/-- The tag that `Document.origin?` gives is one of `Html.origins`. -/
theorem mem_origins (h : d.origin? e = some o) : (e.id, o) ∈ Html.origins d.source := by
  unfold origin? at h
  exact Keyed.mem_of_lookup h

/-- The order of the creation is that of the tags, so `InStep` may ask for either. -/
theorem inStep_iff (d : Document) (name : Text) :
    d.InStep name ↔ (∀ x ∈ d.named name, ∃ i ∈ d.tagsNamed name, d.origin? x = some i) ∧
      (d.named name).Pairwise fun x y => ∀ i ∈ d.origin? x, ∀ j ∈ d.origin? y, i < j := by
  constructor
  · intro h
    refine ⟨h.scanned, h.created.imp fun {x y} hlt i hi j hj => ?_⟩
    exact (Html.lt_iff_of_origins (mem_origins hi) (mem_origins hj)).mp hlt
  · rintro ⟨hscanned, hordered⟩
    refine ⟨hscanned, hordered.imp_of_mem fun {x y} hx hy hlt => ?_⟩
    obtain ⟨i, -, hi⟩ := hscanned x hx
    obtain ⟨j, -, hj⟩ := hscanned y hy
    exact (Html.lt_iff_of_origins (mem_origins hi) (mem_origins hj)).mpr (hlt i hi j hj)

/-! ### Offsets -/

/-- A node has an offset if it is an element that is located among those of its name:
    `Document.offsets` put together from `locatedNamed`. -/
theorem mem_offsets {i : NodeId} :
    (i, o) ∈ d.offsets ↔ ∃ a, ((i, a), o) ∈ d.locatedNamed a.name := by
  obtain ⟨names, hnames, hoffsets⟩ := d.located
  rw [hoffsets]
  unfold locateElements
  rw [List.mem_map]
  constructor
  · rintro ⟨⟨⟨j, a⟩, o'⟩, hmem, heq⟩
    obtain ⟨rfl, rfl⟩ := Prod.mk.inj heq
    exact ⟨a, (Source.mem_locateAll hnames).mp hmem⟩
  · rintro ⟨a, hmem⟩
    exact ⟨((i, a), o), (Source.mem_locateAll hnames).mpr hmem, rfl⟩

/-- `Document.offsetOf?` looks an element up in `Document.offsets`. -/
theorem mem_offsets_of_offsetOf? (h : d.offsetOf? e = some o) : (e.id, o) ∈ d.offsets := by
  unfold offsetOf? at h
  exact Keyed.mem_of_lookup h

theorem offsetOf?_ne_none (h : (e.id, o) ∈ d.offsets) : d.offsetOf? e ≠ none := by
  intro hnone
  have hother := List.lookup_eq_none_iff.mp hnone (e.id, o) h
  simp at hother

theorem mem_named {name : Text} : e ∈ d.named name ↔ e ∈ d.elements ∧ e.elem.name = name := by
  unfold named matching
  rw [List.mem_filter, beq_iff_eq]

/-- The elements of a name with their places in the tree: `named` and `namedInTree` list them in the
    same order. -/
theorem named_eq (d : Document) (name : Text) :
    d.named name = (d.namedInTree name).map fun x => ⟨x.1, x.2⟩ := by
  unfold named matching elements
  rw [List.filter_map]
  rfl

/-- The places of a document have one element each (`Tree.element?`), since a place is a number of a
    node. -/
theorem elem_unique (he : e ∈ d.elements) {a : Element} (ha : (e.id, a) ∈ d.tree.elements) :
    a = e.elem := by
  unfold elements at he
  obtain ⟨⟨i, b⟩, hb, rfl⟩ := List.mem_map.mp he
  have helem := (Tree.mem_elementsAmong.mp hb).2
  rw [(Tree.mem_elementsAmong.mp ha).2] at helem
  exact Option.some.inj helem

/-- No element has two ordinals among those of its name: `elements` lists it once. -/
theorem ordinal_unique (h : d.tree.Linked) {name : Text} {k k' : Nat}
    (hk : (d.named name)[k]? = some e) (hk' : (d.named name)[k']? = some e) : k = k' := by
  have hnodup : (d.named name).Nodup := nodup_matching h _
  have hlt := (List.getElem?_eq_some_iff.mp hk).1
  exact (List.getElem?_inj hlt hnodup).mp (hk.trans hk'.symm)

/-- What `Document.offsets` has for an element is found among the elements of its name, and under no
    other name. -/
theorem mem_offsets_iff (he : e ∈ d.elements) :
    (e.id, o) ∈ d.offsets ↔ ((e.id, e.elem), o) ∈ d.locatedNamed e.elem.name := by
  rw [mem_offsets]
  constructor
  · rintro ⟨a, hmem⟩
    have ha := List.mem_of_mem_filter (Source.mem_of_mem_locateNamed hmem)
    rw [elem_unique he ha] at hmem
    exact hmem
  · intro hmem
    exact ⟨e.elem, hmem⟩

/-! ### As many tags as elements -/

/-- With as many tags as elements, an element is located at the tag of its ordinal
    (`Source.locateNamed_paired`). -/
theorem mem_offsets_paired (he : e ∈ d.elements)
    (hlength : (d.tagsNamed e.elem.name).length = (d.named e.elem.name).length) :
    (e.id, o) ∈ d.offsets ↔ ∃ k : Nat, (d.named e.elem.name)[k]? = some e ∧
      (d.tagsNamed e.elem.name)[k]? = some o := by
  rw [named_eq, List.length_map] at hlength
  rw [mem_offsets_iff he, locatedNamed, Source.locateNamed_paired hlength, named_eq]
  refine exists_congr fun k => and_congr_left fun _ => ?_
  rw [List.getElem?_map, Option.map_eq_some_iff]
  constructor
  · intro hk
    exact ⟨(e.id, e.elem), hk, rfl⟩
  · rintro ⟨⟨i, a⟩, hk, rfl⟩
    exact hk

/-- So `Document.offsetOf?` gives the tag of the ordinal, and gives nothing else. -/
theorem offsetOf?_paired (h : d.tree.Linked) (he : e ∈ d.elements)
    (hlength : (d.tagsNamed e.elem.name).length = (d.named e.elem.name).length) :
    d.offsetOf? e = some o ↔ ∃ k : Nat, (d.named e.elem.name)[k]? = some e ∧
      (d.tagsNamed e.elem.name)[k]? = some o := by
  constructor
  · intro ho
    exact (mem_offsets_paired he hlength).mp (mem_offsets_of_offsetOf? ho)
  · rintro ⟨k, hk, hko⟩
    have hmem := (mem_offsets_paired he hlength).mpr ⟨k, hk, hko⟩
    obtain ⟨o', ho'⟩ := Option.ne_none_iff_exists'.mp (offsetOf?_ne_none hmem)
    obtain ⟨k', hk', hko'⟩ :=
      (mem_offsets_paired he hlength).mp (mem_offsets_of_offsetOf? ho')
    rw [ordinal_unique h hk hk', hko'] at hko
    rw [ho', hko]

/-- The elements of a name are located at their own tags exactly if they are in step with the tags:
    `Source.map_own_eq_iff` for the elements and tags of a document. -/
theorem inStep_named_iff (h : d.tree.Linked) {name : Text}
    (hlength : (d.tagsNamed name).length = (d.named name).length) :
    d.InStep name ↔ ∀ x ∈ d.named name, ∃ i, d.offsetOf? x = some i ∧ d.origin? x = some i := by
  have hpaired : ∀ x ∈ d.named name, ∀ i, d.offsetOf? x = some i ↔
      ∃ k : Nat, (d.named name)[k]? = some x ∧ (d.tagsNamed name)[k]? = some i := by
    intro x hx i
    obtain ⟨hmem, rfl⟩ := mem_named.mp hx
    exact offsetOf?_paired h hmem hlength
  have hsorted : (d.tagsNamed name).Pairwise (· < ·) := Source.offsetsOf_sorted d.source name
  rw [inStep_iff, ← Source.map_own_eq_iff hsorted hlength]
  constructor
  · intro heq x hx
    -- at the ordinal of the element, the own tag is the one it is paired with
    obtain ⟨k, hk⟩ := List.mem_iff_getElem?.mp hx
    have hat : some (d.origin? x) = (d.tagsNamed name)[k]?.map some := by
      rw [← List.getElem?_map, ← Option.map_some, ← hk, ← List.getElem?_map]
      exact congrArg (·[k]?) heq
    obtain ⟨i, hki, hown⟩ := Option.map_eq_some_iff.mp hat.symm
    exact ⟨i, (hpaired x hx i).mpr ⟨k, hk, hki⟩, hown.symm⟩
  · intro hlocated
    refine List.ext_getElem (by rw [List.length_map, List.length_map, hlength]) ?_
    -- at every ordinal, the element there is located at the tag there
    intro k hk hk'
    rw [List.getElem_map, List.getElem_map]
    rw [List.length_map] at hk hk'
    obtain ⟨i, ho, hown⟩ := hlocated _ (List.getElem_mem hk)
    obtain ⟨k', hkx, hki⟩ := (hpaired _ (List.getElem_mem hk) i).mp ho
    rw [hown, ← hki, ← ordinal_unique h (List.getElem?_eq_getElem hk) hkx]
    exact List.getElem?_eq_getElem hk'

/-! ### Parsed documents -/

section Parse

variable {source : Text} {e : ElementAt} {o : Nat}

/-- An element of a parsed document is an element of the parsed tree (`Html.parse`), so all that is
    known of its making applies. -/
theorem element?_of_mem (he : e ∈ (parse source).elements) :
    (Html.parse source).element? e.id = some e.elem :=
  ((mem_elements (Html.parse_linked source)).mp he).2

/-- An element finds its attributes at the tag that it was made of, by `Html.origins_carries`. -/
theorem carriesAt_origin (he : e ∈ (parse source).elements) (hpage : e.elem.isPage = false)
    (horigin : (parse source).origin? e = some o) : (parse source).CarriesAt o e.elem := by
  have hmem : (e.id, o) ∈ Html.origins source := mem_origins horigin
  obtain ⟨a, tag, ha, htag, hcarries⟩ := Html.origins_carries hmem
  rw [element?_of_mem he] at ha
  rw [← Option.some.inj ha] at hcarries
  exact ⟨tag, htag, hcarries hpage⟩

/-- With more or fewer tags than elements, the markup of an element is read where it is found; what
    is read there are the attributes that are written (`Element.writtenAttrs`). -/
theorem startTagAt?_searched (he : e ∈ (parse source).elements) (hpage : e.elem.isPage = false)
    (hlength : ((parse source).tagsNamed e.elem.name).length ≠
      ((parse source).named e.elem.name).length)
    (ho : (parse source).offsetOf? e = some o) :
    ∃ tag, Html.startTagAt? source o = some tag ∧ tag.attrs = e.elem.writtenAttrs := by
  rw [named_eq, List.length_map] at hlength
  have hmem := (mem_offsets_iff he).mp (mem_offsets_of_offsetOf? ho)
  obtain ⟨before, after, hsource, hoffset⟩ := Source.locateNamed_searched hlength hmem
  obtain ⟨rest, hrest⟩ := Html.Tree.markup_eq_startTag (element?_of_mem he)
  have hmakes := Html.makes_of_parse (element?_of_mem he) hpage
  obtain ⟨t, -, -, htag⟩ := Html.startTagAt?_append hmakes before (rest ++ after)
  -- the markup begins with the start tag, whatever is inside the element
  have hsplit : source = before ++ (e.elem.startTag ++ (rest ++ after)) := by
    rw [← List.append_assoc e.elem.startTag, ← hrest]
    exact hsource
  rw [← hsplit, ← hoffset] at htag
  exact ⟨_, htag, rfl⟩

/-- **Located elements.** Let an element other than those of the page be located at a byte
    (`Document.offsetOf?`). If the source has as many tags of its name as the tree has elements of
    the name, the element is at the tag of its ordinal. All elements of the name are then at the
    tags that they were made of exactly if they were made of these tags and stand in the tree in the
    order of their creation (`InStep`); and an element at the tag that it was made of finds exactly
    its attributes there. Otherwise the tag at the byte has the attributes of the element, but for
    the carriage returns in their values; so it has exactly these attributes if and only if no value
    has any. -/
theorem offsetOf_parse (he : e ∈ (parse source).elements) (hpage : e.elem.isPage = false)
    (ho : (parse source).offsetOf? e = some o) :
    ((parse source).origin? e = some o → (parse source).CarriesAt o e.elem) ∧
      (((parse source).tagsNamed e.elem.name).length =
          ((parse source).named e.elem.name).length →
        (∃ k : Nat, ((parse source).named e.elem.name)[k]? = some e ∧
          ((parse source).tagsNamed e.elem.name)[k]? = some o) ∧
        ((parse source).InStep e.elem.name ↔
          ∀ x ∈ (parse source).named e.elem.name,
            ∃ i, (parse source).offsetOf? x = some i ∧ (parse source).origin? x = some i)) ∧
      (((parse source).tagsNamed e.elem.name).length ≠
          ((parse source).named e.elem.name).length →
        (∃ tag, Html.startTagAt? source o = some tag ∧ tag.attrs = e.elem.writtenAttrs) ∧
        ((parse source).CarriesAt o e.elem ↔ ∀ a ∈ e.elem.attrs, '\r' ∉ a.value)) := by
  have h : (parse source).tree.Linked := Html.parse_linked source
  refine ⟨carriesAt_origin he hpage, ?_, ?_⟩
  · intro hlength
    exact ⟨(offsetOf?_paired h he hlength).mp ho, inStep_named_iff h hlength⟩
  · intro hlength
    obtain ⟨tag, htag, hattrs⟩ := startTagAt?_searched he hpage hlength ho
    refine ⟨⟨tag, htag, hattrs⟩, ?_⟩
    rw [← Element.perm_writtenAttrs_iff, ← hattrs]
    constructor
    · -- only one tag is read at a byte
      rintro ⟨tag', htag', hcarries⟩
      rw [Option.some.inj (htag.symm.trans htag')]
      exact hcarries
    · intro hcarries
      exact ⟨tag, htag, hcarries⟩

end Parse

/-- Of two paragraphs one has no tag; the other is found by its markup, at byte 9. -/
theorem offsetOf_parse_paragraph :
    ∃ e ∈ (parse "<div></p><p class=\"a\">b</p></div>").elements, e.elem.isPage = false ∧
      (parse "<div></p><p class=\"a\">b</p></div>").offsetOf? e = some 9 ∧
      (parse "<div></p><p class=\"a\">b</p></div>").CarriesAt 9 e.elem := by
  have he : (⟨6, ⟨.html, "p", [⟨.none, "class", "a"⟩]⟩⟩ : ElementAt) ∈
      (parse "<div></p><p class=\"a\">b</p></div>").elements := by decide +kernel
  have hpage : (⟨.html, "p", [⟨.none, "class", "a"⟩]⟩ : Element).isPage = false := by decide
  have ho : (parse "<div></p><p class=\"a\">b</p></div>").offsetOf?
      ⟨6, ⟨.html, "p", [⟨.none, "class", "a"⟩]⟩⟩ = some 9 := by decide +kernel
  have hsearched := (offsetOf_parse he hpage ho).2.2 (by decide +kernel)
  exact ⟨_, he, hpage, ho, hsearched.2.mpr (by decide)⟩

/-- A span after a cell's, but put before its table: both are located, each at the other's tag. So
    the attributes at its offset are not those of the element (`CarriesAt`). -/
theorem offsetOf_fosterParented :
    ∃ e ∈ (parse "<table><tr><td><span id=x></span></td></tr><span id=y></span></table>").elements,
      e.elem.isPage = false ∧
        (parse "<table><tr><td><span id=x></span></td></tr><span id=y></span></table>").offsetOf? e
          = some 15 ∧
        ¬ (parse "<table><tr><td><span id=x></span></td></tr><span id=y></span></table>").CarriesAt
          15 e.elem := by
  decide +kernel

end Document

end AccessLint
