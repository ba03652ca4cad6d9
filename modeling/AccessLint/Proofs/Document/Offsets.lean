import AccessLint.Proofs.Document.Locate
import AccessLint.Proofs.Source.Position
import Mathlib.Data.List.Pairwise

namespace AccessLint

/-!
# Offsets of the elements of a name

Whatever the tree is, an element that has an offset has it at a tag of its name, and the elements
of one name stand in the source as they stand in the tree.

* `Document.WellNamed` — a tree whose elements have names that can be written;
* `Document.wellNamed_parse` — parsed trees are such trees;
* `Document.offsetOf_wellNamed` — the offsets of the elements of a name are found at its tags and
  ascend.
-/

open Html (Attr Element NodeId Tree Stock)

/-! ### Names that can be written -/

/-- What ends a name for the scan (`Source.endsName`) ends it for the parser too
    (`Html.tagBreaks`). -/
theorem Source.mem_tagBreaks_of_endsName {c : Char} (h : Source.endsName c = true) :
    c ∈ Html.tagBreaks := by
  unfold Source.endsName Text.isAsciiSpace at h
  unfold Html.tagBreaks
  simp only [Bool.or_eq_true, beq_iff_eq] at h
  simp only [List.mem_cons]
  tauto

namespace Html

/-- The name of an element that is made of a legible tag (`Tag.Legible`) starts with a letter, in
    any of its spellings. -/
theorem Stock.Makes.isAlpha_head {e : Element} (h : Stock.legible.Makes e) :
    e.name.head?.any Char.isAlpha = true := by
  obtain ⟨t, ht, -, hname⟩ := h.carries
  apply isAlpha_head_of_lower
  rw [hname]
  exact ht.start

/-- It has no character that ends the name of a tag (`Source.endsName`), since a legible tag has
    none. -/
theorem Stock.Makes.endsName_eq_false {e : Element} (h : Stock.legible.Makes e) {c : Char}
    (hc : c ∈ e.name) : Source.endsName c = false := by
  obtain ⟨t, ht, -, hname⟩ := h.carries
  by_contra hends
  have hbreak : c ∈ tagBreaks := Source.mem_tagBreaks_of_endsName (by simpa using hends)
  -- a character that is no letter is in the name exactly if it is in its lower case
  have hlower : c ∈ Text.lower e.name := (Text.mem_lower (isAlpha_tagBreaks hbreak)).mpr hc
  rw [hname] at hlower
  exact ht.chars c hbreak hlower

/-- The markup of an element with such a name begins as a tag of this name (`Source.OpensWith`):
    behind the name stands a space or a `>`. -/
theorem Tree.opensWith_markup {t : Tree} {i : NodeId} {e : Element} (he : t.element? i = some e)
    (hname : ∀ c ∈ e.name, Source.endsName c = false) :
    Source.OpensWith (t.markup i) e.name := by
  obtain ⟨rest, hrest⟩ := markup_eq_startTag he
  refine ⟨e.attrs.flatMap Attr.markup ++ '>' :: rest, ?_, hname, ?_⟩
  · rw [hrest]
    simp [Element.startTag]
  · cases e.attrs with
    | nil => rfl
    | cons a attrs => simp [Attr.markup, Source.endsName, Text.isAsciiSpace]

end Html

namespace Document

/-- A tree: each place is in it once, and the names of its elements are not empty and have no
    character that ends the name of a tag. -/
structure WellNamed (d : Document) : Prop where
  distinct : (d.elements.map ElementAt.id).Nodup
  nonempty : ∀ e ∈ d.elements, e.elem.name ≠ []
  unbroken : ∀ e ∈ d.elements, ∀ c ∈ e.elem.name, Source.endsName c = false

/-- Parsed trees are well named (`WellNamed`), also at the elements of the page, which are made
    without a tag at times. -/
theorem wellNamed_parse (source : Text) : (parse source).WellNamed := by
  -- the elements of the page may have got their attributes from several tags, but not their names
  have hpage : ∀ e : Element, e.isPage = true →
      e.name ≠ [] ∧ ∀ c ∈ e.name, Source.endsName c = false := by
    intro e he
    have hname : e.name ∈ (["html", "body"] : List Text) := by
      unfold Element.isPage Element.isHtmlIn at he
      rw [Bool.and_eq_true] at he
      exact List.contains_iff_mem.mp he.2
    have hall : ∀ name ∈ (["html", "body"] : List Text),
        name ≠ [] ∧ (name.all fun c => !Source.endsName c) = true := by decide
    obtain ⟨hne, hunbroken⟩ := hall e.name hname
    exact ⟨hne, fun c hc => by simpa using List.all_eq_true.mp hunbroken c hc⟩
  have hmade : ∀ e ∈ (parse source).elements,
      e.elem.name ≠ [] ∧ ∀ c ∈ e.elem.name, Source.endsName c = false := by
    intro e he
    by_cases hp : e.elem.isPage = true
    · exact hpage e.elem hp
    · have hmakes := Html.makes_of_parse (element?_of_mem he) (by simpa using hp)
      refine ⟨?_, fun c hc => hmakes.endsName_eq_false hc⟩
      intro hnil
      have hstart := hmakes.isAlpha_head
      rw [hnil] at hstart
      simp at hstart
  exact ⟨nodup_elements (Html.parse_linked source), fun e he => (hmade e he).1,
    fun e he => (hmade e he).2⟩

/-! ### Elements of one name -/

variable {d : Document}

/-- An element with an offset is one of those that are located under its name (`locatedNamed`). -/
theorem mem_locatedNamed {e : ElementAt} {o : Nat} (he : e ∈ d.elements)
    (ho : d.offsetOf? e = some o) : ((e.id, e.elem), o) ∈ d.locatedNamed e.elem.name :=
  (mem_offsets_iff he).mp (mem_offsets_of_offsetOf? ho)

theorem WellNamed.nodup_namedInTree (h : d.WellNamed) (name : Text) :
    (d.namedInTree name).Nodup := by
  have hids : (d.tree.elements.map Prod.fst).Nodup := by
    have hdistinct := h.distinct
    unfold elements at hdistinct
    rw [List.map_map] at hdistinct
    exact hdistinct
  exact (List.Nodup.of_map _ hids).filter _

/-- The markup of every element of a well-named tree begins as a tag of its name
    (`Source.OpensWith`), since nothing in the name ends it. -/
theorem WellNamed.opensWith (h : d.WellNamed) {name : Text} {x : NodeId × Element}
    (hx : x ∈ d.namedInTree name) : Source.OpensWith (d.tree.markup x.1) name := by
  obtain ⟨hmem, hname⟩ := List.mem_filter.mp hx
  have helem : d.tree.element? x.1 = some x.2 := (Tree.mem_elementsAmong.mp hmem).2
  have hplace : (⟨x.1, x.2⟩ : ElementAt) ∈ d.elements := List.mem_map.mpr ⟨x, hmem, rfl⟩
  have hopens := Tree.opensWith_markup helem (h.unbroken _ hplace)
  rw [beq_iff_eq.mp hname] at hopens
  exact hopens

/-- The offsets of the elements of a name ascend in tree order, in both ways in which
    `Source.locateNamed` finds them. -/
theorem WellNamed.pairwise_offsetOf? (h : d.WellNamed) (name : Text) :
    (d.named name).Pairwise fun x y => ∀ o ∈ d.offsetOf? x, ∀ o' ∈ d.offsetOf? y, o < o' := by
  have hne : ∀ x ∈ d.namedInTree name, d.tree.markup x.1 ≠ [] := by
    intro x hx hnil
    obtain ⟨rest, hrest, -⟩ := h.opensWith hx
    rw [hnil] at hrest
    cases hrest
  have hsublist : ((d.locatedNamed name).map Prod.fst).Sublist (d.namedInTree name) :=
    Source.locateNamed_sublist _
  -- the elements that were located are some of the elements, in their order, at growing offsets
  have hordered := Source.pairwise_of_sorted (h.nodup_namedInTree name) hsublist
    (Source.locateNamed_sorted hne)
  have hlocated : ∀ x ∈ d.named name, ∀ o ∈ d.offsetOf? x,
      ((x.id, x.elem), o) ∈ d.locatedNamed name := by
    intro x hx o ho
    obtain ⟨hmem, rfl⟩ := mem_named.mp hx
    exact mem_locatedNamed hmem ho
  have hplaced : (d.named name).Pairwise fun x y => ∀ o o',
      ((x.id, x.elem), o) ∈ d.locatedNamed name →
        ((y.id, y.elem), o') ∈ d.locatedNamed name → o < o' := by
    rw [named_eq]
    exact List.pairwise_map.mpr hordered
  refine hplaced.imp_of_mem ?_
  intro x y hx hy hlt o ho o' ho'
  exact hlt o o' (hlocated x hx o ho) (hlocated y hy o' ho')

/-- **Elements are located at tags of their name, in order.** Parsed trees are well named
    (`WellNamed`). And in every well-named tree an element that has an offset has it where a tag of
    its name begins (`Source.TagStartsAt`); the offsets of the elements of one name ascend in tree
    order; and no two of them are equal. -/
theorem offsetOf_wellNamed :
    (∀ source, (parse source).WellNamed) ∧ ∀ d : Document, d.WellNamed →
      (∀ e ∈ d.elements, ∀ o ∈ d.offsetOf? e, Source.TagStartsAt d.source o e.elem.name) ∧
      (∀ name, (d.named name).Pairwise fun x y =>
        ∀ o ∈ d.offsetOf? x, ∀ o' ∈ d.offsetOf? y, o < o') ∧
      ∀ name, ∀ x ∈ d.named name, ∀ y ∈ d.named name, x ≠ y →
        ∀ o ∈ d.offsetOf? x, ∀ o' ∈ d.offsetOf? y, o ≠ o' := by
  refine ⟨wellNamed_parse, ?_⟩
  intro d h
  refine ⟨?_, h.pairwise_offsetOf?, ?_⟩
  · intro e he o ho
    exact Source.locateNamed_tagStartsAt (fun x hx => h.opensWith hx) (mem_locatedNamed he ho)
  · intro name
    -- being different does not depend on the order
    have hdifferent : (d.named name).Pairwise fun x y =>
        ∀ o ∈ d.offsetOf? x, ∀ o' ∈ d.offsetOf? y, o ≠ o' :=
      (h.pairwise_offsetOf? name).imp fun hlt o ho o' ho' => Nat.ne_of_lt (hlt o ho o' ho')
    have hsymm : Std.Symm fun x y =>
        ∀ o ∈ d.offsetOf? x, ∀ o' ∈ d.offsetOf? y, o ≠ o' :=
      ⟨fun x y hne o ho o' ho' => (hne o' ho' o ho).symm⟩
    intro x hx y hy hxy
    exact hdifferent.forall hx hy hxy

/-- Two equal paragraphs after one without a tag: three elements and two tags, so the markup is
    searched for, and the first paragraph that can be found is found first. -/
theorem offsetOf_wellNamed_paragraphs :
    (parse "<div></p><p>b</p><p>b</p></div>").WellNamed ∧
      (parse "<div></p><p>b</p><p>b</p></div>").offsetOf? ⟨6, ⟨.html, "p", []⟩⟩ = some 9 ∧
      (parse "<div></p><p>b</p><p>b</p></div>").offsetOf? ⟨8, ⟨.html, "p", []⟩⟩ = some 17 ∧
      Source.TagStartsAt "<div></p><p>b</p><p>b</p></div>" 9 "p" ∧
      Source.TagStartsAt "<div></p><p>b</p><p>b</p></div>" 17 "p" ∧ 9 ≠ 17 := by
  have hnamed : (parse "<div></p><p>b</p><p>b</p></div>").WellNamed := wellNamed_parse _
  obtain ⟨hin, hin', hfirst, hsecond⟩ :
      (⟨6, ⟨.html, "p", []⟩⟩ : ElementAt) ∈
        (parse "<div></p><p>b</p><p>b</p></div>").named "p" ∧
      (⟨8, ⟨.html, "p", []⟩⟩ : ElementAt) ∈
        (parse "<div></p><p>b</p><p>b</p></div>").named "p" ∧
      (parse "<div></p><p>b</p><p>b</p></div>").offsetOf? ⟨6, ⟨.html, "p", []⟩⟩ = some 9 ∧
      (parse "<div></p><p>b</p><p>b</p></div>").offsetOf? ⟨8, ⟨.html, "p", []⟩⟩ = some 17 := by
    decide +kernel
  obtain ⟨hstarts, -, hdifferent⟩ := offsetOf_wellNamed.2 _ hnamed
  exact ⟨hnamed, hfirst, hsecond, hstarts _ (mem_named.mp hin).1 _ hfirst,
    hstarts _ (mem_named.mp hin').1 _ hsecond,
    hdifferent "p" _ hin _ hin' (by decide) _ hfirst _ hsecond⟩

end Document

end AccessLint
