import AccessLint.Proofs.Document.Offsets
import AccessLint.Proofs.Source.Leftmost

namespace AccessLint.Document

/-!
# The leftmost places of elements

If there are more or fewer tags of a name than elements of it, the elements are searched for by
their markup. Whenever there are places for the markup of all of them, from left to right, they are
located at the leftmost ones.

* `Document.markupOf` — the markup of an element;
* `Document.head?_markup` — it starts with a `<`, one byte long, so no place is searched twice;
* `Document.WellNamed.leftmost` — the leftmost places, in every tree;
* `Document.offsetOf_leftmost` — the same for the tree of a source.
-/

open Html (Element NodeId Tree)

/-- The markup of an element. -/
def markupOf (d : Document) (e : ElementAt) : Text := d.tree.markup e.id

variable {d : Document} {name : Text} {os : List Nat}

/-- All markup begins with a `<`, which `Source.searchFrom` needs to go on behind one byte. -/
theorem head?_markup {t : Tree} {x : NodeId × Element} (hx : x ∈ t.elements) :
    (t.markup x.1).head? = some '<' := by
  obtain ⟨rest, hrest⟩ := Tree.markup_eq_startTag (Tree.mem_elementsAmong.mp hx).2
  rw [hrest]
  rfl

/-- The places of the elements of a name (`Document.named`) are those of the same elements in the
    tree (`Document.namedInTree`). -/
theorem placing_named_iff : Source.Placing d.source d.markupOf (d.named name) os ↔
    Source.Placing d.source (fun x => d.tree.markup x.1) (d.namedInTree name) os := by
  have hoccurs : List.Forall₂ (fun e o => Text.OccursAt (d.markupOf e) d.source o) (d.named name) os ↔
      List.Forall₂ (fun x o => Text.OccursAt (d.tree.markup x.1) d.source o)
        (d.namedInTree name) os := by
    rw [named_eq, List.forall₂_map_left_iff]
    rfl
  exact ⟨fun h => ⟨h.ascending, hoccurs.mp h.occurs⟩, fun h => ⟨h.ascending, hoccurs.mpr h.occurs⟩⟩

/-- An element that is located has no other offset: `WellNamed` has each place once. -/
theorem WellNamed.offsetOf?_eq_some (h : d.WellNamed) {x : NodeId × Element} {o : Nat}
    (hx : (x, o) ∈ d.locatedNamed name) : d.offsetOf? ⟨x.1, x.2⟩ = some o := by
  have hmem : x ∈ d.namedInTree name := Source.mem_of_mem_locateNamed hx
  obtain ⟨hin, hname⟩ := List.mem_filter.mp hmem
  have hplace : (⟨x.1, x.2⟩ : ElementAt) ∈ d.elements := List.mem_map.mpr ⟨x, hin, rfl⟩
  obtain rfl := beq_iff_eq.mp hname
  have hoffset : (x.1, o) ∈ d.offsets := (mem_offsets_iff hplace).mpr hx
  obtain ⟨o', ho'⟩ :=
    Option.ne_none_iff_exists'.mp (offsetOf?_ne_none (e := ⟨x.1, x.2⟩) hoffset)
  -- no element is located twice
  have hnodup : ((d.locatedNamed x.2.name).map Prod.fst).Nodup :=
    (Source.locateNamed_sublist _).nodup (h.nodup_namedInTree _)
  have hsame := List.inj_on_of_nodup_map hnodup hx (mem_locatedNamed hplace ho') rfl
  rw [ho', (Prod.mk.inj hsame).2]

/-- **The leftmost places, in every tree** that is well named: `Source.locateNamed_leftmost` in
    terms of `Document.offsetOf?`. -/
theorem WellNamed.leftmost (h : d.WellNamed)
    (hlength : (d.tagsNamed name).length ≠ (d.named name).length)
    (hplacing : ∃ os, Source.Placing d.source d.markupOf (d.named name) os) :
    ∃ located, (d.named name).map d.offsetOf? = located.map some ∧
      Source.Placing d.source d.markupOf (d.named name) located ∧
      ∀ os, Source.Placing d.source d.markupOf (d.named name) os →
        List.Forall₂ (· ≤ ·) located os := by
  have hmarkup : ∀ x ∈ d.namedInTree name, (d.tree.markup x.1).head? = some '<' := fun x hx =>
    head?_markup (List.mem_filter.mp hx).1
  rw [named_eq, List.length_map] at hlength
  have hleftmost := fun os (hos : Source.Placing d.source d.markupOf (d.named name) os) =>
    Source.locateNamed_leftmost hmarkup hlength (placing_named_iff.mp hos)
  obtain ⟨os, hos⟩ := hplacing
  -- one placing is enough to know that the search locates all elements
  obtain ⟨hall, hfound, -⟩ := hleftmost os hos
  refine ⟨(d.locatedNamed name).map Prod.snd, ?_, placing_named_iff.mpr hfound, ?_⟩
  · calc (d.named name).map d.offsetOf?
        = (d.namedInTree name).map fun x => d.offsetOf? ⟨x.1, x.2⟩ := by
          rw [named_eq, List.map_map]
          rfl
      _ = (d.locatedNamed name).map fun p => d.offsetOf? ⟨p.1.1, p.1.2⟩ := by
          conv => lhs; rw [← hall, List.map_map]
          rfl
      _ = (d.locatedNamed name).map fun p => some p.2 :=
          List.map_congr_left fun p hp => h.offsetOf?_eq_some hp
      _ = ((d.locatedNamed name).map Prod.snd).map some := by
          rw [List.map_map]
          rfl
  · intro os' hos'
    exact (hleftmost os' hos').2.2

/-- **The leftmost places.** Let a source have more or fewer tags of a name than its tree has
    elements of the name. If there are bytes, from left to right, where the markup of these elements
    stands (`Source.Placing`), then every one of the elements is located, at a byte where its own
    markup stands, and in no such choice of bytes it stands further to the left. -/
theorem offsetOf_leftmost (source name : Text)
    (hlength : ((parse source).tagsNamed name).length ≠ ((parse source).named name).length)
    (hplacing : ∃ os, Source.Placing source (parse source).markupOf ((parse source).named name) os) :
    ∃ located, ((parse source).named name).map (parse source).offsetOf? = located.map some ∧
      Source.Placing source (parse source).markupOf ((parse source).named name) located ∧
      ∀ os, Source.Placing source (parse source).markupOf ((parse source).named name) os →
        List.Forall₂ (· ≤ ·) located os :=
  (wellNamed_parse source).leftmost hlength hplacing

/-- Two bold elements, one in the other, after a value that looks like a third tag: there are three
    tags, so the markup is searched for. -/
theorem offsetOf_leftmost_nested :
    let source : Text := "<i title='<b>'></i><b>x<b>y</b></b>"
    let d := parse source
    (d.tagsNamed "b").length ≠ (d.named "b").length ∧
      Source.Placing source d.markupOf (d.named "b") [19, 23] ∧
      (d.named "b").map d.offsetOf? = [some 19, some 23] ∧
      ∀ os, Source.Placing source d.markupOf (d.named "b") os →
        List.Forall₂ (· ≤ ·) [19, 23] os := by
  intro source d
  have hlength : (d.tagsNamed "b").length ≠ (d.named "b").length := by decide +kernel
  have hplacing : Source.Placing source d.markupOf (d.named "b") [19, 23] :=
    ⟨by decide, by decide +kernel⟩
  have hlocated : (d.named "b").map d.offsetOf? = [19, 23].map some := by decide +kernel
  obtain ⟨located, hmap, -, hleft⟩ := offsetOf_leftmost source "b" hlength ⟨_, hplacing⟩
  have hsame : located = [19, 23] :=
    List.map_injective_iff.mpr (fun _ _ => Option.some.inj) (hmap.symm.trans hlocated)
  exact ⟨hlength, hplacing, hlocated, fun os hos => hsame ▸ hleft os hos⟩

end AccessLint.Document
