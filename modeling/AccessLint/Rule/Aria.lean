import AccessLint.Rule.Basic

namespace AccessLint.Rule

/-!
# Accessible names and roles

* `ariaLabels` — labels must not be blank, and references to labels must lead somewhere;
* `missingAria` — controls and sections need an accessible name;
* `ariaRoles` — roles must come from a list;
* `landmarkRoles` — a page needs a landmark.
-/

/-! ### Labels -/

/-- What is wrong with the labels of an element. -/
def labelFaults (d : Document) (e : ElementAt) : List Text :=
  let blank : List Text := match e.elem.attr? "aria-label" with
    | some v => if Text.isBlank v then ["aria-label is empty"] else []
    | none => []
  let dangling : List Text := match e.elem.nonEmptyAttr? "aria-labelledby" with
    | some ids =>
      if (Text.words Text.isBlankChar ids).any fun id => !d.hasId id then
        ["aria-labelledby references a non-existent ID: " ++ ids]
      else []
    | none => []
  blank ++ dangling

/-- Labels must not be blank, and references to labels must lead to an element. -/
def ariaLabels : Rule where
  name := "aria-labels"
  configKey := "aria-invalid"
  kinds := [.ariaInvalid]
  scope := .everywhere
  check d label _ :=
    let labelled := d.select fun e =>
      (e.attr? "aria-label").isSome || (e.attr? "aria-labelledby").isSome
    labelled.flatMap fun e => (labelFaults d e).map (d.report label e .ariaInvalid)

/-! ### Missing names -/

/-- The elements that need an accessible name. -/
def needsName (e : Html.Element) : Bool :=
  (["button", "svg", "form", "section", "nav", "aside", "main", "dialog"] : List Text).contains
      e.name ||
    (e.name == "a" && (e.attr? "href").isSome) ||
    (e.name == "input" && e.attrIs "type" "text")

/-- Whether an element has no accessible name. -/
def isNameless (d : Document) (e : ElementAt) : Bool :=
  (e.elem.nonEmptyAttr? "aria-label").isNone &&
    (e.elem.nonEmptyAttr? "aria-labelledby").isNone && d.hasBlankText e

/-- Controls and sections need an accessible name. -/
def missingAria : Rule where
  name := "missing-aria"
  configKey := "missing-aria"
  kinds := [.missingAria]
  scope := .everywhere
  check d label _ :=
    ((d.select needsName).filter (isNameless d)).map fun e =>
      d.report label e .missingAria
        ("<" ++ e.elem.name ++ "> element should have an aria-label or visible text")

/-! ### Roles -/

/-- The roles that an element may have. -/
def allowedRoles : List Text := [
  "button", "checkbox", "dialog", "link", "listbox", "menu", "navigation", "progressbar", "radio",
  "slider", "tab", "img"]

/-- Roles must come from the list. -/
def ariaRoles : Rule where
  name := "aria-roles"
  configKey := "aria-role-invalid"
  kinds := [.ariaRoleInvalid]
  scope := .everywhere
  check d label _ :=
    (d.select fun e => (e.attr? "role").isSome).filterMap fun e =>
      match e.elem.attr? "role" with
      | some role =>
        if allowedRoles.contains role then none
        else some (d.report label e .ariaRoleInvalid
          ("Unrecognized or inappropriate ARIA role: \"" ++ role ++ "\""))
      | none => none

/-- The landmarks of a page. -/
def isLandmark (e : Html.Element) : Bool :=
  (["main", "nav", "header", "footer", "aside"] : List Text).contains e.name

/-- A page needs a landmark. A part of a page seldom has one, so the rule is for whole pages. -/
def landmarkRoles : Rule where
  name := "landmark-roles"
  configKey := "missing-landmark"
  kinds := [.missingLandmark]
  scope := .wholePages
  check d label _ :=
    if (d.select isLandmark).isEmpty then
      [Finding.of label 1 .missingLandmark
        "No landmark elements (main, nav, header, footer, aside) found"]
    else []

end AccessLint.Rule
