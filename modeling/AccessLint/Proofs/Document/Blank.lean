import AccessLint.Proofs.Document.Select
import AccessLint.Proofs.Text.Pieces

namespace AccessLint

/-!
# Blank elements

An element is blank if each of its texts is, at whatever depth they stand. It makes no difference to
put its texts together first and to trim the whole: trimming leaves nothing of a text only if the
text has nothing but blanks in it, and then the same holds of each of its parts.

* `Text.trim_eq_nil_iff` — of which texts trimming leaves nothing;
* `Document.mem_texts` — the texts of an element;
* `Document.hasBlankText_eq` — the ways to tell a blank element agree.
-/

namespace Text

/-- A text is blank if what `trimStart` leaves of it is: only blanks are taken off. -/
theorem isBlank_trimStart (t : Text) : isBlank (trimStart t) = isBlank t := by
  have hsplit : t.takeWhile isBlankChar ++ trimStart t = t := List.takeWhile_append_dropWhile
  have hstart : isBlank (t.takeWhile isBlankChar) = true := List.all_takeWhile
  calc isBlank (trimStart t)
      = (isBlank (t.takeWhile isBlankChar) && isBlank (trimStart t)) := by
        rw [hstart, Bool.true_and]
    _ = isBlank (t.takeWhile isBlankChar ++ trimStart t) := List.all_append.symm
    _ = isBlank t := by rw [hsplit]

/-- **Trimming leaves nothing** exactly of blank texts, so `trim` and `isBlank` are two forms of one
    test. -/
theorem trim_eq_nil_iff {t : Text} : trim t = [] ↔ isBlank t = true := by
  -- to trim the end is to trim the start of the reversed text
  show (trimStart (trimStart t).reverse).reverse = [] ↔ _
  rw [List.reverse_eq_nil_iff, ← isBlank_iff_trimStart, isBlank, List.all_reverse, ← isBlank,
    isBlank_trimStart]

/-- The same as an equation of Boolean values, in the form in which the test on elements has it:
    `trim` leaves the empty text. -/
theorem isEmpty_trim (t : Text) : (trim t).isEmpty = isBlank t := by
  rw [Bool.eq_iff_iff, List.isEmpty_iff, trim_eq_nil_iff]

theorem isBlank_flatten (ts : List Text) : isBlank ts.flatten = ts.all isBlank :=
  List.all_flatten

end Text

namespace Document

variable {d : Document} {e : ElementAt}

/-- The texts of an element are those of the nodes that are some steps below it, be they in
    elements, or in the contents of templates: `Document.texts` goes through all descendants. -/
theorem mem_texts (h : d.tree.Linked) {s : Text} : s ∈ d.texts e ↔
    ∃ i, (∃ n, d.tree.up (n + 1) i = some e.id) ∧ (d.tree.node i).content = .text s := by
  unfold texts Html.Tree.texts
  rw [List.mem_filterMap]
  refine exists_congr fun i => ?_
  rw [h.mem_descendants, Html.Tree.mem_ancestors]
  refine and_congr_right fun _ => ?_
  split
  · next s' hs => rw [hs, Option.some.injEq, Html.Content.text.injEq]
  · next hs =>
    refine iff_of_false (fun hnone => ?_) (hs s)
    cases hnone

/-- **Blank elements.** Each text of an element is blank (`Document.hasBlankText`) exactly if all of
    them together (`Document.textOf`) are, and exactly if trimming leaves nothing of each of them,
    or of all of them together. In a tree whose links agree, as in that of every page, these are the
    texts at any depth below the element. -/
theorem hasBlankText_eq (d : Document) (e : ElementAt) :
    d.hasBlankText e = Text.isBlank (d.textOf e) ∧
      d.hasBlankText e = ((d.texts e).all fun s => (Text.trim s).isEmpty) ∧
      Text.isBlank (d.textOf e) = (Text.trim (d.textOf e)).isEmpty ∧
      (d.tree.Linked → (d.hasBlankText e = true ↔
        ∀ i s, (∃ n, d.tree.up (n + 1) i = some e.id) → (d.tree.node i).content = .text s →
          (Text.trim s).isEmpty = true)) := by
  have heach : (fun s : Text => (Text.trim s).isEmpty) = Text.isBlank := funext Text.isEmpty_trim
  refine ⟨(Text.isBlank_flatten _).symm, ?_, (Text.isEmpty_trim _).symm, fun h => ?_⟩
  · rw [heach]
    rfl
  · unfold hasBlankText
    rw [List.all_eq_true]
    constructor
    · intro hall i s hbelow hs
      rw [Text.isEmpty_trim]
      exact hall s ((mem_texts h).mpr ⟨i, hbelow, hs⟩)
    · intro hall s hs
      obtain ⟨i, hbelow, hs⟩ := (mem_texts h).mp hs
      rw [← Text.isEmpty_trim]
      exact hall i s hbelow hs

/-- A template in a paragraph: the text in the template is one of the paragraph's, so
    `Document.hasBlankText` does not hold of the paragraph. -/
theorem hasBlankText_eq_template :
    let d := parse "<p>\n<template> </template>"
    let paragraph : ElementAt := ⟨4, ⟨.html, "p", []⟩⟩
    d.tree.Linked ∧ paragraph ∈ d.elements ∧ d.tree.up 3 8 = some paragraph.id ∧
      (d.tree.node 8).content = .text " " ∧ d.textOf paragraph = ("\n " : Text) ∧
      d.hasBlankText paragraph = true ∧ Text.isBlank (d.textOf paragraph) = true ∧
      (Text.trim (d.textOf paragraph)).isEmpty = true ∧ (Text.trim " ").isEmpty = true := by
  intro d paragraph
  obtain ⟨hmem, hup, htext, hblank⟩ :
      paragraph ∈ d.elements ∧ d.tree.up 3 8 = some paragraph.id ∧
        d.textOf paragraph = ("\n " : Text) ∧ d.hasBlankText paragraph = true := by
    decide +kernel
  have hcontent : (d.tree.node 8).content = .text " " := by rfl
  have hlinked : d.tree.Linked := Html.parse_linked _
  obtain ⟨heq, -, htrim, hbelow⟩ := hasBlankText_eq d paragraph
  rw [hblank] at heq
  refine ⟨hlinked, hmem, hup, hcontent, htext, hblank, heq.symm, htrim.symm.trans heq.symm, ?_⟩
  exact (hbelow hlinked).mp hblank 8 " " ⟨2, hup⟩ hcontent

end Document

end AccessLint
