import AccessLint.Rule.Basic

namespace AccessLint.Rule

/-!
# Labels of form controls

* `labelsWithoutFor` — a label belongs to a control, which it names or wraps;
* `unlabeledInputs` — checkboxes and radio buttons have a label.
-/

/-- The form controls that a label may wrap. -/
def isControl (e : Html.Element) : Bool :=
  (["input", "select", "textarea"] : List Text).contains e.name

/-- What is wrong with a label. -/
def labelFault? (d : Document) (e : ElementAt) : Option (Kind × Text) :=
  match e.elem.nonEmptyAttr? "for" with
  | some target =>
    if d.hasId target then none
    else some (.labelForMissing,
      "<label for=\"" ++ target ++ "\"> does not match any element with that ID")
  | none =>
    if (d.selectWithin e isControl).isEmpty then
      some (.labelMissingFor,
        "<label> is not associated with any form control (missing 'for' or nested input)")
    else none

/-- A label belongs to a control. -/
def labelsWithoutFor : Rule where
  name := "labels-without-for"
  configKey := "label-missing-for"
  kinds := [.labelForMissing, .labelMissingFor]
  scope := .everywhere
  check d label _ :=
    (d.select fun e => e.name == "label").filterMap fun e =>
      (labelFault? d e).map fun (kind, message) => d.report label e kind message

/-- Checkboxes and radio buttons. -/
def isToggle (e : Html.Element) : Bool :=
  e.name == "input" && (e.attrIs "type" "checkbox" || e.attrIs "type" "radio")

/-- The identifiers that labels name. -/
def labelTargets (d : Document) : List Text :=
  (d.select fun e => e.name == "label").filterMap fun e => e.elem.attr? "for"

/-- Whether an input has a label that names it or is around it. -/
def isLabeled (d : Document) (targets : List Text) (e : ElementAt) : Bool :=
  (e.elem.nonEmptyAttr? "id").any targets.contains || d.hasAncestor e ["label"]

/-- Checkboxes and radio buttons have a label. -/
def unlabeledInputs : Rule where
  name := "unlabeled-inputs"
  configKey := "input-unlabeled"
  kinds := [.inputUnlabeled]
  scope := .everywhere
  check d label _ :=
    let targets := labelTargets d
    ((d.select isToggle).filter fun e => !isLabeled d targets e).map fun e =>
      d.report label e .inputUnlabeled
        ("<input type=\"" ++ (e.elem.attr? "type").getD [] ++
          "\"> is not associated with a label")

end AccessLint.Rule
