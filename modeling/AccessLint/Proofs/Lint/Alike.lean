import AccessLint.Catalogue
import AccessLint.Proofs.Document.Order

namespace AccessLint

/-!
# Documents that look alike

A rule sees the tree of a document and the lines of its elements, and nothing else of how the
elements were located.

* `Document.Alike` — documents with the same tree and the same lines;
* `check_alike` — in such documents every rule of the catalogue finds the same;
* `Document.findings` — the findings of rules in a document;
* `evaluate_inOrder` — they do not depend on the order in which the elements are located.
-/

namespace Document

/-- Documents with the same tree, in which every element is on the same line. -/
structure Alike (d d' : Document) : Prop where
  tree : d.tree = d'.tree
  lineOf : d.lineOf = d'.lineOf

namespace Alike

variable {d d' : Document}

/-! ### What a rule asks a document for -/

theorem report (h : d.Alike d') : d.report = d'.report := by
  funext label e kind message
  unfold Document.report
  rw [h.lineOf]

theorem select (h : d.Alike d') : d.select = d'.select := by
  unfold Document.select
  rw [h.tree]

theorem elements (h : d.Alike d') : d.elements = d'.elements := by
  unfold Document.elements
  rw [h.tree]

theorem selectWithin (h : d.Alike d') : d.selectWithin = d'.selectWithin := by
  unfold Document.selectWithin
  rw [h.tree]

theorem hasId (h : d.Alike d') : d.hasId = d'.hasId := by
  unfold Document.hasId
  rw [h.elements]

theorem texts (h : d.Alike d') : d.texts = d'.texts := by
  unfold Document.texts
  rw [h.tree]

theorem textOf (h : d.Alike d') : d.textOf = d'.textOf := by
  unfold Document.textOf
  rw [h.texts]

theorem hasBlankText (h : d.Alike d') : d.hasBlankText = d'.hasBlankText := by
  unfold Document.hasBlankText
  rw [h.texts]

theorem hasAncestor (h : d.Alike d') : d.hasAncestor = d'.hasAncestor := by
  unfold Document.hasAncestor
  rw [h.tree]

/-! ### What a rule makes of it -/

theorem altFaults (h : d.Alike d') : Rule.altFaults d = Rule.altFaults d' := by
  unfold Rule.altFaults
  rw [h.hasAncestor]

theorem labelFaults (h : d.Alike d') : Rule.labelFaults d = Rule.labelFaults d' := by
  unfold Rule.labelFaults
  rw [h.hasId]

theorem isNameless (h : d.Alike d') : Rule.isNameless d = Rule.isNameless d' := by
  unfold Rule.isNameless
  rw [h.hasBlankText]

theorem labelFault? (h : d.Alike d') : Rule.labelFault? d = Rule.labelFault? d' := by
  unfold Rule.labelFault?
  rw [h.hasId, h.selectWithin]

theorem labelTargets (h : d.Alike d') : Rule.labelTargets d = Rule.labelTargets d' := by
  unfold Rule.labelTargets
  rw [h.select]

theorem isLabeled (h : d.Alike d') : Rule.isLabeled d = Rule.isLabeled d' := by
  unfold Rule.isLabeled
  rw [h.hasAncestor]

theorem announcesNewTab (h : d.Alike d') : Rule.announcesNewTab d = Rule.announcesNewTab d' := by
  unfold Rule.announcesNewTab
  rw [h.selectWithin, h.textOf]

end Alike

end Document

open Document

/-- **In documents that look alike** every rule of the catalogue finds the same: a rule sees a
    document only through the functions above. -/
theorem check_alike {d d' : Document} (h : d.Alike d') {r : Rule} (hr : r ∈ catalogue) :
    r.check d = r.check d' := by
  simp only [catalogue, List.mem_cons, List.not_mem_nil, or_false] at hr
  rcases hr with rfl | rfl | rfl | rfl | rfl | rfl | rfl | rfl | rfl | rfl | rfl | rfl | rfl | rfl
  · dsimp only [Rule.altText]
    rw [h.lineOf, h.select, h.altFaults, h.report]
  · dsimp only [Rule.ariaLabels]
    rw [h.select, h.labelFaults, h.report]
  · dsimp only [Rule.missingAria]
    rw [h.select, h.isNameless, h.report]
  · dsimp only [Rule.contrast]
    rw [h.elements, h.report]
  · dsimp only [Rule.ariaRoles]
    rw [h.select, h.report]
  · dsimp only [Rule.landmarkRoles]
    rw [h.select]
  · dsimp only [Rule.labelsWithoutFor]
    rw [h.select, h.labelFault?, h.report]
  · dsimp only [Rule.unlabeledInputs]
    rw [h.labelTargets, h.select, h.isLabeled, h.report]
  · dsimp only [Rule.emptyLinks]
    rw [h.select, h.hasBlankText, h.report]
  · dsimp only [Rule.iframeTitles]
    rw [h.select, h.report]
  · dsimp only [Rule.multipleH1]
    rw [h.select, h.report]
  · dsimp only [Rule.headingOrder]
    rw [h.select, h.report]
  · dsimp only [Rule.headingEmpty]
    rw [h.select, h.hasBlankText, h.report]
  · dsimp only [Rule.newTabLinks]
    rw [h.select, h.announcesNewTab, h.report]

/-! ### Whole runs -/

/-- The findings of rules in a document. -/
def Document.findings (d : Document) (rules : List Rule) (label : Text) (c : Config)
    (mode : LintMode) : List Finding :=
  (rules.filter fun r => mode.allows r.scope && r.isEnabled c).flatMap fun r => r.check d label c

/-- `evaluate` parses a text and collects the findings in the document. -/
theorem evaluate_eq_findings (rules : List Rule) (text label : Text) (c : Config)
    (mode : LintMode) :
    evaluate rules text label c mode = (parse text).findings rules label c mode := rfl

/-- In documents that look alike any rules of the catalogue find the same (`Document.findings`), in
    the same order. -/
theorem findings_alike {d d' : Document} (h : d.Alike d') {rules : List Rule}
    (hrules : rules ⊆ catalogue) (label : Text) (c : Config) (mode : LintMode) :
    d.findings rules label c mode = d'.findings rules label c mode := by
  refine List.flatMap_congr fun r hr => ?_
  rw [check_alike h (hrules (List.mem_of_mem_filter hr))]

/-- **Names in any order.** The elements of a tree are located in a source one name after the other.
    Whatever the order in which `locateElements` goes through the names, every place of the tree has
    the same offset, if any; every element is on the same line; and rules of the catalogue have the
    same findings in the source. -/
theorem evaluate_inOrder (source : Text) :
    (∀ tree names, names.Perm (elementNames tree) → ∀ i,
      (locateElements source tree names).lookup i =
        (locateElements source tree (elementNames tree)).lookup i) ∧
    (∀ tree names (h : names.Perm (elementNames tree)) e,
      (inOrder source tree names h).lineOf e = (ofTree source tree).lineOf e) ∧
    ∀ names (h : names.Perm (elementNames (Html.parse source))) rules, rules ⊆ catalogue →
      ∀ label c mode, (inOrder source (Html.parse source) names h).findings rules label c mode =
        evaluate rules source label c mode := by
  refine ⟨fun tree names h => lookup_locateElements_perm h, fun tree names h => lineOf_inOrder h, ?_⟩
  intro names h rules hrules label c mode
  have halike : (inOrder source (Html.parse source) names h).Alike (parse source) :=
    ⟨rfl, funext (lineOf_inOrder h)⟩
  rw [evaluate_eq_findings, findings_alike halike hrules]

/-- Two names that differ in the case of a letter only, and so share their tags, the last one first:
    the offsets are the same. -/
theorem evaluate_inOrder_reversed :
    let source : Text := "<svg><foreignObject></foreignObject></svg><foreignobject></foreignobject>"
    let tree := Html.parse source
    (elementNames tree).reverse.Perm (elementNames tree) ∧
      (locateElements source tree (elementNames tree).reverse).lookup 5 = some 5 ∧
      (locateElements source tree (elementNames tree).reverse).lookup 6 = some 42 ∧
      ∀ h, (inOrder source tree (elementNames tree).reverse h).findings catalogue "p" .default
        .single = evaluate catalogue source "p" .default .single := by
  intro source tree
  have h : (elementNames tree).reverse.Perm (elementNames tree) := List.reverse_perm _
  obtain ⟨hsame, -, hfindings⟩ := evaluate_inOrder source
  obtain ⟨hfirst, hsecond⟩ :
      (locateElements source tree (elementNames tree)).lookup 5 = some 5 ∧
      (locateElements source tree (elementNames tree)).lookup 6 = some 42 := by decide +kernel
  refine ⟨h, ?_, ?_, fun h => hfindings _ h catalogue (List.Subset.refl _) "p" .default .single⟩
  · rw [hsame tree _ h, hfirst]
  · rw [hsame tree _ h, hsecond]

end AccessLint
