import AccessLint.Proofs.Document.Leftmost
import AccessLint.Proofs.Source.Slices

namespace AccessLint

/-!
# Documents by slices

* `locateElementsAt?` — the elements of a tree, located by slices;
* `slices_inRange` — all slices by which a source is scanned and elements are located are there.
-/

open Html (NodeId Tree)
open Source (Round round? Scans)
open Text (encode isBoundary slice?)

/-- The offsets of the elements of a tree in a source with some start tags, by slices. There are
    none if a slice is taken that the source does not have. -/
def locateElementsAt? (source : Text) (tags : List Source.StartTag) (tree : Tree)
    (names : List Text) : Option (List (NodeId × Nat)) :=
  (Source.locateAllAt? source tags (fun e => e.2.name) (fun e => tree.markup e.1) tree.elements
    names).map (·.map fun (e, offset) => (e.1, offset))

/-- **All slices are in the source,** and begin and end between two of its characters. A round of
    the scan can be made from every byte between two characters: either no `<` is left, or the
    cursor is set further on, no further than to the end and between two characters again. So the
    scan comes to its end, in one way only, and finds the start tags. And the elements of every tree
    can be located in the source, in every order of their names. -/
theorem slices_inRange (source : Text) :
    (∀ cursor, isBoundary (encode source) cursor = true →
      (round? source cursor = some .ended ∧
        ∃ rest, slice? source cursor (encode source).length = some rest ∧ '<' ∉ rest) ∨
      ∃ next tag, round? source cursor = some (.goesOn next tag) ∧ cursor < next ∧
        next ≤ (encode source).length ∧ isBoundary (encode source) next = true) ∧
      (∀ tags, Scans source 0 tags ↔ tags = Source.scan source) ∧
      ∀ tree names, locateElementsAt? source (Source.scan source) tree names =
        some (locateElements source tree names) := by
  refine ⟨fun cursor h => ?_, fun tags => Source.scans_iff, fun tree names => ?_⟩
  · rw [Text.length_encode]
    rcases Source.round?_cases h with hended | ⟨next, tag, hround, hlt, hnext⟩
    · exact Or.inl hended
    · exact Or.inr ⟨next, tag, hround, hlt, Text.le_of_isBoundary hnext, hnext⟩
  · have hmarkup : ∀ e ∈ tree.elements, (tree.markup e.1).head? = some '<' :=
      fun e he => Document.head?_markup he
    unfold locateElementsAt? locateElements
    rw [Source.locateAllAt?_eq hmarkup]
    rfl

/-- A name with two bytes for its last character, and a text element that is not closed: the rounds
    (`Source.Scans`) end at the end of the source, not behind it. -/
theorem slices_inRange_cutOff :
    let source : Text := "é<aé><xmp>é<!--"
    isBoundary (encode source) 7 = true ∧ isBoundary (encode source) 5 = false ∧
      round? source 7 = some (.goesOn 18 (some ⟨"xmp", 7⟩)) ∧ 7 < 18 ∧
      isBoundary (encode source) 18 = true ∧ Scans source 0 [⟨"aé", 2⟩, ⟨"xmp", 7⟩] := by
  intro source
  obtain ⟨hrounds, hscans, -⟩ := slices_inRange source
  have hboundary : isBoundary (encode source) 7 = true := by decide
  have hround : round? source 7 = some (.goesOn 18 (some ⟨"xmp", 7⟩)) := by decide +kernel
  refine ⟨hboundary, by decide, hround, ?_⟩
  rcases hrounds 7 hboundary with ⟨hended, -⟩ | ⟨next, tag, hnext, hlt, -, hinside⟩
  · rw [hround] at hended
    cases hended
  · rw [hround] at hnext
    cases hnext
    exact ⟨hlt, hinside, (hscans _).mpr (by decide)⟩

end AccessLint
