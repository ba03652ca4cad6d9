import AccessLint.Config
import AccessLint.Document
import AccessLint.Finding

namespace AccessLint

/-!
# Rules

* `Scope` — whether a rule makes sense for a part of a page;
* `Rule` — a check with its names and the kinds of its findings;
* `Rule.isEnabled` — whether a configuration leaves a rule on;
* `Document.report` — a finding at an element.
-/

/-- Where a rule runs: everywhere, or on whole pages only. -/
inductive Scope where
  | everywhere
  | wholePages
deriving DecidableEq

/-- A check of documents. The findings name the document by a label. -/
structure Rule where
  name : Text
  configKey : Text
  kinds : List Kind
  scope : Scope
  check : Document → (label : Text) → Config → List Finding

/-- A rule is off if its configuration key or its name is. -/
def Rule.isEnabled (r : Rule) (c : Config) : Bool := c.isEnabled r.configKey && c.isEnabled r.name

/-- A finding at an element. -/
def Document.report (d : Document) (label : Text) (e : ElementAt) (kind : Kind) (message : Text) :
    Finding :=
  Finding.of label (d.lineOf e) kind message

/-- The headings of a page. -/
def isHeading (e : Html.Element) : Bool :=
  (["h1", "h2", "h3", "h4", "h5", "h6"] : List Text).contains e.name

end AccessLint
