import AccessLint.Rule.Basic
import AccessLint.Text.Lowercase

namespace AccessLint.Rule

/-!
# Text alternatives of images

An image needs an `alt` text that fits what it is for. Of the images on one line only the first is
looked at.

* `altFaults` — what is wrong with one image;
* `altText` — the rule.
-/

/-- The configuration key of the comparison of `alt` and `title`. -/
def redundantTitleKey : Text := "redundant-title"

/-- The greatest length of an `alt` text. -/
def maxAltLength : Nat := 30

/-- Whether an image is marked as a decoration. -/
def isDecorative (e : Html.Element) : Bool :=
  e.attr? "role" == some "presentation".toList || e.attr? "role" == some "none".toList

/-- Whether a title only repeats the `alt` text. -/
def repeatsAlt (alt title : Text) : Bool :=
  !alt.isEmpty && !title.isEmpty &&
    Text.toLowercase (Text.trim alt) == Text.toLowercase (Text.trim title)

/-- What is wrong with an `alt` text by itself, and with a title beside it. -/
def altTextFaults (checksTitle : Bool) (alt : Text) (title : Option Text) : List (Kind × Text) :=
  let empty := if !alt.isEmpty && Text.isBlank alt then
    [(Kind.altEmpty, ("alt attribute exists but is empty; ensure this is intentional " ++
      "(e.g., decorative image)" : String).toList)] else []
  let long := if maxAltLength < alt.length then
    [(Kind.altTooLong, ("alt attribute exceeds 30 characters (" : Text) ++
      Text.ofNat alt.length ++ " characters)")] else []
  let redundant := if checksTitle && (title.map (repeatsAlt alt)).getD false then
    [(Kind.redundantTitle,
      ("<img> has a 'title' attribute that duplicates its 'alt' text: \"" : Text) ++ alt ++ "\"")]
    else []
  empty ++ long ++ redundant

/-- What is wrong with an image. -/
def altFaults (d : Document) (checksTitle : Bool) (img : ElementAt) : List (Kind × Text) :=
  match img.elem.attr? "alt" with
  | none => [(.missingAlt, "<img> tag is missing an alt attribute")]
  | some alt =>
    if isDecorative img.elem && !alt.isEmpty then
      [(.altDecorativeIncorrect,
        "Decorative image should have empty alt=\"\" or role=\"presentation\"")]
    else if Text.isBlank alt && d.hasAncestor img ["a", "button"] then
      [(.altFunctionalEmpty,
        "Functional image inside <a> or <button> needs descriptive alt text")]
    else altTextFaults checksTitle alt (img.elem.attr? "title")

/-- The first element of each line, of elements of which those on the lines `seen` do not count. -/
def firstOfLine (line : ElementAt → Nat) (seen : List Nat) : List ElementAt → List ElementAt
  | [] => []
  | e :: es =>
    if seen.contains (line e) then firstOfLine line seen es
    else e :: firstOfLine line (line e :: seen) es

/-- Images need a fitting text alternative. -/
def altText : Rule where
  name := "alt-attributes"
  configKey := "alt-attributes"
  kinds := [.missingAlt, .altDecorativeIncorrect, .altFunctionalEmpty, .altEmpty, .altTooLong,
    .redundantTitle]
  scope := .everywhere
  check d label c :=
    let images := firstOfLine d.lineOf [] (d.select fun e => e.name == "img")
    images.flatMap fun img =>
      (altFaults d (c.isEnabled redundantTitleKey) img).map fun (kind, message) =>
        d.report label img kind message

end AccessLint.Rule
