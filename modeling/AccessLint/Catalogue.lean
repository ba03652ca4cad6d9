import AccessLint.Rule.AltText
import AccessLint.Rule.Aria
import AccessLint.Rule.Contrast
import AccessLint.Rule.Heading
import AccessLint.Rule.Label
import AccessLint.Rule.Link

namespace AccessLint

/-!
# The catalogue of rules

* `catalogue` — all rules, in the order of their findings;
* `LintMode.allows` — whether a rule runs on a whole page or on one of many files;
* `evaluate` — the findings of rules in a text;
* `lint` — the findings of the catalogue.
-/

/-- All rules, in the order of their findings. -/
def catalogue : List Rule := [
  Rule.altText, Rule.ariaLabels, Rule.missingAria, Rule.contrast, Rule.ariaRoles,
  Rule.landmarkRoles, Rule.labelsWithoutFor, Rule.unlabeledInputs, Rule.emptyLinks,
  Rule.iframeTitles, Rule.multipleH1, Rule.headingOrder, Rule.headingEmpty, Rule.newTabLinks]

/-- How a text was obtained: as one whole page, or as one of many files. -/
inductive LintMode where
  | single
  | batch
deriving DecidableEq

/-- Whether a rule runs in a mode. -/
def LintMode.allows : LintMode → Scope → Bool
  | _, .everywhere => true
  | .single, .wholePages => true
  | .batch, .wholePages => false

/-- The findings of rules in a text: those of each rule that is allowed and on, rule after rule. -/
def evaluate (rules : List Rule) (text label : Text) (c : Config) (mode : LintMode) :
    List Finding :=
  let d := Document.parse text
  (rules.filter fun r => mode.allows r.scope && r.isEnabled c).flatMap fun r => r.check d label c

/-- The findings of the catalogue in a text. -/
def lint (text label : Text) (c : Config) (mode : LintMode) : List Finding :=
  evaluate catalogue text label c mode

end AccessLint
