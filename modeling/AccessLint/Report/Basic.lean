import AccessLint.Finding.Json
import AccessLint.Json.Write
import AccessLint.Report.Style

namespace AccessLint.Report

/-!
# Reports

Findings are printed twice, in full and as a table, and they can be exported to a file.

* `groups` — all findings by kind, in the order in which the kinds first appear;
* `detailed` — every finding on a line of its own, under a heading for its kind; messages are printed
  as they are;
* `summary` — a table of the kinds with the number of their findings;
* `exported` — the text of a file that holds all findings as a JSON array over several lines.
-/

/-! ### Findings by kind -/

/-- A kind and its findings, which keep their order. -/
structure Group where
  kind : Kind
  findings : List Finding
deriving DecidableEq

/-- Adds a finding to the group of its kind, or as a new group at the end. -/
def addToGroup (f : Finding) : List Group → List Group
  | [] => [⟨f.kind, [f]⟩]
  | g :: gs =>
    if g.kind = f.kind then ⟨g.kind, g.findings ++ [f]⟩ :: gs else g :: addToGroup f gs

/-- The findings by kind. -/
def groups (fs : List Finding) : List Group := fs.foldl (fun gs f => addToGroup f gs) []

/-! ### The detailed report -/

/-- The heading of a kind. -/
def heading : Kind → Text × Style
  | .headingOrder => ("📐 Heading Order", .strong .yellow)
  | .headingEmpty => ("❗ Empty Headings", .strong .red)
  | .missingAlt => ("🖼️  Missing ALT", .strong .cyan)
  | .altEmpty => ("⬜  ALT Empty", .strong .white)
  | .altTooLong => ("↔️  ALT Too Long", .strong .red)
  | .altDecorativeIncorrect => ("🌈  ALT Decorative", .strong .brightBlack)
  | .altFunctionalEmpty => ("🔗  ALT Functional", .strong .brightBlue)
  | .ariaInvalid => ("♿  ARIA Issues", .strong .magenta)
  | .missingAria => ("👀  Missing ARIA", .strong .blue)
  | .ariaRoleInvalid => ("🧩  ARIA Role Issues", .strong .blue)
  | .missingLandmark => ("🏛️  Landmark Elements", .strong .brightYellow)
  | .contrast => ("🎨  Contrast Issues", .strong .red)
  | .labelForMissing => ("🔗  Broken Label Association", .strong .red)
  | .labelMissingFor => ("🏷️  Unassociated Label", .strong .yellow)
  | .redundantTitle => ("📛  Redundant Title Text", .strong .brightBlack)
  | .multipleH1 => ("🧱  Multiple H1s", .strong .yellow)
  | .inputUnlabeled => ("🔘  Unlabeled Checkboxes/Radios", .strong .magenta)
  | .emptyLink => ("📭  Empty or Useless Link", .strong .red)
  | .iframeTitleMissing => ("🖼️  Missing <iframe> Title", .strong .blue)
  | .linkNewTabWarning => ("🧭  New Tab Warning", .strong .yellow)

/-- The line of a finding. -/
def findingLine (color : Bool) (f : Finding) : Text :=
  ("  " : Text) ++ paint color (.plain .brightBlack) "-" ++ " " ++
    paint color (.plain .green) f.file ++ ":" ++
    paint color (.plain .yellow) (Text.ofNat f.line) ++ " – " ++ f.message ++ "\n"

/-- The heading of a group and the lines of its findings. -/
def groupLines (color : Bool) (g : Group) : Text :=
  ("\n" : Text) ++ paint color (heading g.kind).2 (heading g.kind).1 ++ "\n" ++
    g.findings.flatMap (findingLine color)

/-- The detailed report of some findings. -/
def detailed (color : Bool) (fs : List Finding) : Text :=
  ("\n" : Text) ++ paint color (.plain .red) "🚨 Accessibility Issues Found:" ++ "\n\n" ++
    (groups fs).flatMap (groupLines color)

/-! ### The summary -/

/-- A row of the table; the columns are 30 and 10 characters wide. -/
def summaryRow (left right : Text) : Text :=
  Text.padEnd ' ' 30 left ++ " | " ++ Text.padEnd ' ' 10 right ++ "\n"

/-- A line across the table. -/
def summaryRule : Text := Text.padEnd '-' 30 [] ++ "-+-" ++ Text.padEnd '-' 10 [] ++ "\n"

/-- The row of a group. -/
def groupRow (g : Group) : Text := summaryRow g.kind.name (Text.ofNat g.findings.length)

/-- The table of some findings. -/
def summary (color : Bool) (fs : List Finding) : Text :=
  ("\n" : Text) ++ paint color .boldOnly "📊 Accessibility Checksum Summary:" ++ "\n" ++
    summaryRow "Issue Type" "Count" ++ summaryRule ++ (groups fs).flatMap groupRow ++
    summaryRule ++ summaryRow "Total" (Text.ofNat fs.length)

/-! ### The export -/

/-- The JSON text of some findings. -/
def exported (fs : List Finding) : Text := Json.pretty (.arr (fs.map Finding.toJson))

end AccessLint.Report
