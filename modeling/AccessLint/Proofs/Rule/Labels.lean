import AccessLint.Proofs.Html.Identifier
import AccessLint.Proofs.Rule.Names

namespace AccessLint

/-!
# Labels and the inputs that they name

A label names an input by its identifier. `labelsWithoutFor` starts from the label and asks whether
the document has the identifier; `unlabeledInputs` starts from the input and asks whether some label
has it as a target. So neither of them has anything to say of a label and an input that belong
together.

* `Document.hasId_iff` — the identifiers of a document are those of its elements;
* `Rule.forFindings`, `Rule.toggleFindings` — what the two rules find at one element;
* `Rule.forFindings_eq_nil_iff` — a label with a target is well only if the document has it;
* `Rule.toggleFindings_eq_nil_iff` — an input is well if a label names it or is around it;
* `Rule.labels_associated` — what this means for a label and an input with one identifier.
-/

open Html (Element)

/-- An identifier is one of the document (`Document.hasId`) if one of its elements has it. -/
theorem Document.hasId_iff {d : Document} {x : Text} :
    d.hasId x = true ↔ ∃ i ∈ d.elements, i.elem.id? = some x := by
  simp [hasId]

namespace Rule

variable {d : Document}

/-! ### From the label -/

/-- What `labelsWithoutFor` finds at a label. -/
def forFindings (d : Document) (label : Text) (e : ElementAt) : List Finding :=
  ((labelFault? d e).map fun (kind, message) => d.report label e kind message).toList

/-- `labelsWithoutFor` goes from label to label, so what it finds at one does not depend on the
    others. -/
theorem labelsWithoutFor_check_eq (label : Text) (c : Config) :
    labelsWithoutFor.check d label c =
      (d.select fun e => e.name == "label").flatMap (forFindings d label) := by
  dsimp only [labelsWithoutFor]
  rw [List.filterMap_eq_flatMap_toList]
  rfl

/-- A label with a target is reported (`forFindings`) unless an element of the document has the
    target as its identifier, in any vocabulary. -/
theorem forFindings_eq_nil_iff (label : Text) {e : ElementAt} {x : Text}
    (hfor : e.elem.attr? "for" = some x) (hx : x ≠ []) :
    forFindings d label e = [] ↔ ∃ i ∈ d.elements, i.elem.id? = some x := by
  have htarget : e.elem.nonEmptyAttr? "for" = some x := by
    rw [Element.nonEmptyAttr?_of_some hfor, if_neg hx]
  rw [← Document.hasId_iff]
  unfold forFindings labelFault?
  rw [htarget]
  dsimp only
  split
  · next h => exact iff_of_true rfl h
  · next h => exact iff_of_false (List.cons_ne_nil _ _) h

/-! ### From the input -/

/-- What `unlabeledInputs` finds at a checkbox or a radio button. -/
def toggleFindings (d : Document) (label : Text) (i : ElementAt) : List Finding :=
  if !isLabeled d (labelTargets d) i then
    [d.report label i .inputUnlabeled
      ("<input type=\"" ++ (i.elem.attr? "type").getD [] ++ "\"> is not associated with a label")]
  else []

/-- `unlabeledInputs` goes from input to input, with the targets of all labels. -/
theorem unlabeledInputs_check_eq (label : Text) (c : Config) :
    unlabeledInputs.check d label c = (d.select isToggle).flatMap (toggleFindings d label) := by
  dsimp only [unlabeledInputs]
  rw [map_filter_eq_flatMap]
  rfl

theorem mem_labelTargets {x : Text} :
    x ∈ labelTargets d ↔
      ∃ e ∈ d.select fun e => e.name == "label", e.elem.attr? "for" = some x :=
  List.mem_filterMap

/-- A checkbox or radio button is reported unless its identifier is the target of a label or it is
    inside of one (`isLabeled`). -/
theorem toggleFindings_eq_nil_iff (label : Text) {i : ElementAt} :
    toggleFindings d label i = [] ↔
      (∃ e ∈ d.select fun e => e.name == "label", ∃ x, x ≠ [] ∧
        e.elem.attr? "for" = some x ∧ i.elem.attr? "id" = some x) ∨
      d.hasAncestor i ["label"] = true := by
  have hnil : toggleFindings d label i = [] ↔ isLabeled d (labelTargets d) i = true := by
    unfold toggleFindings
    cases isLabeled d (labelTargets d) i <;> simp
  have hnamed : (i.elem.nonEmptyAttr? "id").any (labelTargets d).contains = true ↔
      ∃ e ∈ d.select fun e => e.name == "label", ∃ x, x ≠ [] ∧
        e.elem.attr? "for" = some x ∧ i.elem.attr? "id" = some x := by
    -- an empty `id` is left out, and so is an empty `for` among the targets
    rw [Option.any_eq_true]
    constructor
    · rintro ⟨x, hid, htarget⟩
      obtain ⟨hid, hx⟩ := Option.filter_eq_some_iff.mp hid
      obtain ⟨e, he, hfor⟩ := mem_labelTargets.mp (List.contains_iff_mem.mp htarget)
      exact ⟨e, he, x, by simpa using hx, hfor, hid⟩
    · rintro ⟨e, he, x, hx, hfor, hid⟩
      refine ⟨x, ?_, List.contains_iff_mem.mpr (mem_labelTargets.mpr ⟨e, he, hfor⟩)⟩
      rw [Element.nonEmptyAttr?_of_some hid, if_neg hx]
  rw [hnil, ← hnamed]
  unfold isLabeled
  rw [Bool.or_eq_true]

/-! ### Both -/

/-- An input is not an element of the page itself, so what is known of its identifier applies
    (`Html.id?_of_parse`). -/
theorem isPage_of_isToggle {e : Element} (h : isToggle e = true) : e.isPage = false := by
  have hname : e.name = "input" := by
    unfold isToggle at h
    exact beq_iff_eq.mp (Bool.and_eq_true_iff.mp h).1
  unfold Element.isPage Element.isHtmlIn
  rw [hname, show (["html", "body"] : List Text).contains "input" = false by decide, Bool.and_false]

/-- **Labels and inputs that belong together.** Both rules, `labelsWithoutFor` and
    `unlabeledInputs`, go from element to element. A label with a target is reported exactly if no
    element of the document has the target as its identifier, and a checkbox or radio button exactly
    if no label has its identifier as a target and none is around it. So none of the two is reported
    if the input is in the document and its identifier is the target of the label, wherever the two
    are and whatever else has that identifier or that target. -/
theorem labels_associated (source label : Text) (c : Config) :
    (labelsWithoutFor.check (Document.parse source) label c =
        ((Document.parse source).select fun e => e.name == "label").flatMap
          (forFindings (Document.parse source) label)) ∧
      (unlabeledInputs.check (Document.parse source) label c =
        ((Document.parse source).select isToggle).flatMap
          (toggleFindings (Document.parse source) label)) ∧
      (∀ e x, e.elem.attr? "for" = some x → x ≠ [] →
        (forFindings (Document.parse source) label e = [] ↔
          ∃ i ∈ (Document.parse source).elements, i.elem.id? = some x)) ∧
      (∀ i, toggleFindings (Document.parse source) label i = [] ↔
        (∃ e ∈ (Document.parse source).select fun e => e.name == "label", ∃ x, x ≠ [] ∧
          e.elem.attr? "for" = some x ∧ i.elem.attr? "id" = some x) ∨
        (Document.parse source).hasAncestor i ["label"] = true) ∧
      ∀ e ∈ (Document.parse source).select fun e => e.name == "label",
        ∀ i ∈ (Document.parse source).elements, isToggle i.elem = true →
          ∀ x, x ≠ [] → e.elem.attr? "for" = some x → i.elem.attr? "id" = some x →
            forFindings (Document.parse source) label e = [] ∧
              toggleFindings (Document.parse source) label i = [] := by
  refine ⟨labelsWithoutFor_check_eq label c, unlabeledInputs_check_eq label c,
    fun e x hfor hx => forFindings_eq_nil_iff label hfor hx,
    fun i => toggleFindings_eq_nil_iff label, ?_⟩
  intro e he i hi htoggle x hx hfor hid
  constructor
  · -- the attribute of the input is its identifier
    have helem := ((Document.mem_elements (Html.parse_linked source)).mp hi).2
    have hid' : i.elem.id? = some x := by
      rw [Html.id?_of_parse helem (isPage_of_isToggle htoggle), hid]
    exact (forFindings_eq_nil_iff label hfor hx).mpr ⟨i, hi, hid'⟩
  · exact (toggleFindings_eq_nil_iff label).mpr (Or.inl ⟨e, he, x, hx, hfor, hid⟩)

/-- An input before its label, with another element of the same identifier and another label whose
    target is missing. -/
theorem labels_associated_repeated :
    let source : Text := "<input type=\"RADIO\" id=\"x\"><p id=\"x\"></p><label for=\"x\">a</label>" ++
      "<label for=\"y\"></label>"
    ∃ e ∈ (Document.parse source).select fun e => e.name == "label",
      ∃ i ∈ (Document.parse source).elements, isToggle i.elem = true ∧
        e.elem.attr? "for" = some "x" ∧ i.elem.attr? "id" = some "x" ∧
        forFindings (Document.parse source) "p" e = [] ∧
        toggleFindings (Document.parse source) "p" i = [] := by
  intro source
  have he : (⟨6, ⟨.html, "label", [⟨.none, "for", "x"⟩]⟩⟩ : ElementAt) ∈
      (Document.parse source).select fun e => e.name == "label" := by
    decide +kernel
  have hi : (⟨4, ⟨.html, "input", [⟨.none, "id", "x"⟩, ⟨.none, "type", "RADIO"⟩]⟩⟩ : ElementAt) ∈
      (Document.parse source).elements := by
    decide +kernel
  have htoggle : isToggle ⟨.html, "input", [⟨.none, "id", "x"⟩, ⟨.none, "type", "RADIO"⟩]⟩ = true := by
    decide
  have hfor : (⟨.html, "label", [⟨.none, "for", "x"⟩]⟩ : Element).attr? "for" = some "x" := by decide
  have hid : (⟨.html, "input", [⟨.none, "id", "x"⟩, ⟨.none, "type", "RADIO"⟩]⟩ : Element).attr? "id" =
      some "x" := by decide
  obtain ⟨-, -, -, -, hassociated⟩ := labels_associated source "p" .default
  exact ⟨_, he, _, hi, htoggle, hfor, hid,
    hassociated _ he _ hi htoggle "x" (List.cons_ne_nil _ _) hfor hid⟩

end Rule

end AccessLint
