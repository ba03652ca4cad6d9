import AccessLint.Rule.Basic
import AccessLint.Text.Lowercase
import AccessLint.Text.Pattern

namespace AccessLint.Rule

/-!
# Links and frames

* `emptyLinks` — a link has a destination or a text;
* `iframeTitles` — an embedded frame has a title;
* `newTabLinks` — a link that opens a new tab says so.
-/

/-- Whether a link leads nowhere. -/
def hasNoTarget (e : Html.Element) : Bool :=
  match e.attr? "href" with
  | none => true
  | some v => v == [] || v == ['#']

/-- A link has a destination or a text. -/
def emptyLinks : Rule where
  name := "empty-links"
  configKey := "empty-link"
  kinds := [.emptyLink]
  scope := .everywhere
  check d label _ :=
    ((d.select fun e => e.name == "a").filter fun e =>
      hasNoTarget e.elem && d.hasBlankText e).map fun e =>
        d.report label e .emptyLink "<a> tag is empty or has no href/text"

/-- Whether an element has no title to speak of. -/
def isUntitled (e : Html.Element) : Bool :=
  match e.attr? "title" with
  | none => true
  | some v => Text.isBlank v

/-- An embedded frame has a title. -/
def iframeTitles : Rule where
  name := "iframe-titles"
  configKey := "iframe-title-missing"
  kinds := [.iframeTitleMissing]
  scope := .everywhere
  check d label _ :=
    (d.select fun e => e.name == "iframe" && isUntitled e).map fun e =>
      d.report label e .iframeTitleMissing
        "<iframe> is missing a non-empty 'title' attribute to describe its content"

/-! ### New tabs -/

/-- What a link opens. -/
def noticeTarget : Text.Pattern :=
  .either (.phrase "tab") (.either (.phrase "window")
    (.either (.phrase "tab or window") (.phrase "window or tab")))

/-- A notice of a new tab. -/
def notice : Text.Pattern :=
  .followed (.followed (.phrase "open") (.optional (.phrase "s")))
    (.followed
      (.optional (.followed (.phrase " ")
        (.either (.phrase "in") (.either (.phrase "a") (.phrase "in a")))))
      (.followed (.phrase " new ") noticeTarget))

/-- Whether a text is a notice of a new tab and nothing more. -/
def describesNewTab (t : Text) : Bool := notice.accepts (Text.toLowercase t)

/-- The elements that only a screen reader shows. -/
def isScreenReaderNote (e : Html.Element) : Bool :=
  e.hasClass "sr-only" || e.hasClass "visually-hidden"

/-- Whether a link gives notice of a new tab, in its label or in a note inside it. -/
def announcesNewTab (d : Document) (e : ElementAt) : Bool :=
  (e.elem.attr? "aria-label").any describesNewTab ||
    (d.selectWithin e isScreenReaderNote).any fun note => describesNewTab (d.textOf note)

/-- A link that opens a new tab says so. -/
def newTabLinks : Rule where
  name := "link-new-tab-warning"
  configKey := "link-new-tab-warning"
  kinds := [.linkNewTabWarning]
  scope := .everywhere
  check d label _ :=
    ((d.select fun e => e.name == "a" && e.attrIs "target" "_blank").filter fun e =>
      !announcesNewTab d e).map fun e =>
        d.report label e .linkNewTabWarning ("<a> with target=\"_blank\" should inform users it " ++
          "opens in a new tab (e.g., via aria-label or screen reader note)" : String).toList

end AccessLint.Rule
