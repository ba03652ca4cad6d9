import AccessLint.Rule.Basic

namespace AccessLint.Rule

/-!
# Headings

* `multipleH1` — a page has one main heading;
* `headingOrder` — levels are not skipped going down;
* `headingEmpty` — headings have text.
-/

/-- A page has one main heading. -/
def multipleH1 : Rule where
  name := "multiple-h1"
  configKey := "multiple-h1"
  kinds := [.multipleH1]
  scope := .everywhere
  check d label _ :=
    let headings := d.select fun e => e.name == "h1"
    if headings.length < 2 then []
    else headings.map fun e =>
      d.report label e .multipleH1
        ("Multiple <h1> tags found (" ++ Text.ofNat headings.length ++ " total)")

/-- The level of a heading, by its name. -/
def headingLevel? : Text → Option Nat
  | ['h', digit] => if '1' ≤ digit ∧ digit ≤ '6' then some (digit.toNat - 48) else none
  | _ => none

/-- The headings whose level is more than one below the level before them, with the two levels.
    The level before the first heading is `previous`. -/
def skippedLevels {α : Type} (previous : Option Nat) : List (α × Nat) → List (α × Nat × Nat)
  | [] => []
  | (e, level) :: es =>
    let here := match previous with
      | some p => if p + 1 < level then [(e, level, p)] else []
      | none => []
    here ++ skippedLevels (some level) es

/-- Levels are not skipped going down. -/
def headingOrder : Rule where
  name := "heading-order"
  configKey := "heading-order"
  kinds := [.headingOrder]
  scope := .everywhere
  check d label _ :=
    let headings := (d.select isHeading).filterMap fun e =>
      (headingLevel? e.elem.name).map fun level => (e, level)
    (skippedLevels none headings).map fun (e, level, previous) =>
      d.report label e .headingOrder
        ("<h" ++ Text.ofNat level ++ "> follows <h" ++ Text.ofNat previous ++ ">")

/-- Headings have text. -/
def headingEmpty : Rule where
  name := "heading-empty"
  configKey := "heading-empty"
  kinds := [.headingEmpty]
  scope := .everywhere
  check d label _ :=
    ((d.select isHeading).filter d.hasBlankText).map fun e =>
      d.report label e .headingEmpty
        ("<" ++ e.elem.name ++ "> element is empty or contains only whitespace")

end AccessLint.Rule
