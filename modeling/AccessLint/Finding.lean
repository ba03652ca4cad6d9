import AccessLint.Text.Basic

namespace AccessLint

/-!
# Findings

* `Kind` — what a finding reports, with its name in reports;
* `Finding` — an issue at a line of a document;
* `Finding.of` — a finding whose line is at least one.
-/

/-- What a finding reports. -/
inductive Kind where
  | missingAlt
  | altDecorativeIncorrect
  | altFunctionalEmpty
  | altEmpty
  | altTooLong
  | redundantTitle
  | ariaInvalid
  | missingAria
  | contrast
  | ariaRoleInvalid
  | missingLandmark
  | labelForMissing
  | labelMissingFor
  | multipleH1
  | emptyLink
  | inputUnlabeled
  | iframeTitleMissing
  | headingEmpty
  | headingOrder
  | linkNewTabWarning
deriving DecidableEq

namespace Kind

/-- All kinds, in the order in which they are listed. -/
def all : List Kind := [
  missingAlt, altDecorativeIncorrect, altFunctionalEmpty, altEmpty, altTooLong, redundantTitle,
  ariaInvalid, missingAria, contrast, ariaRoleInvalid, missingLandmark, labelForMissing,
  labelMissingFor, multipleH1, emptyLink, inputUnlabeled, iframeTitleMissing, headingEmpty,
  headingOrder, linkNewTabWarning]

/-- The name of a kind in reports and exports. -/
def name : Kind → Text
  | missingAlt => "missing-alt"
  | altDecorativeIncorrect => "alt-decorative-incorrect"
  | altFunctionalEmpty => "alt-functional-empty"
  | altEmpty => "alt-empty"
  | altTooLong => "alt-too-long"
  | redundantTitle => "redundant-title"
  | ariaInvalid => "aria-invalid"
  | missingAria => "missing-aria"
  | contrast => "contrast"
  | ariaRoleInvalid => "aria-role-invalid"
  | missingLandmark => "missing-landmark"
  | labelForMissing => "label-for-missing"
  | labelMissingFor => "label-missing-for"
  | multipleH1 => "multiple-h1"
  | emptyLink => "empty-link"
  | inputUnlabeled => "input-unlabeled"
  | iframeTitleMissing => "iframe-title-missing"
  | headingEmpty => "heading-empty"
  | headingOrder => "heading-order"
  | linkNewTabWarning => "link-new-tab-warning"

/-- The kind of a name. -/
def ofName? (t : Text) : Option Kind := all.find? fun k => k.name == t

/-- Every kind is found under its own name. -/
theorem ofName?_name (k : Kind) : ofName? k.name = some k := by
  cases k <;> decide

end Kind

/-- An issue at a line of a document. The document is named by its path or address. -/
structure Finding where
  file : Text
  line : Nat
  kind : Kind
  message : Text
deriving DecidableEq

/-- A finding whose line is raised to one if it is zero. -/
def Finding.of (file : Text) (line : Nat) (kind : Kind) (message : Text) : Finding :=
  ⟨file, max line 1, kind, message⟩

end AccessLint
