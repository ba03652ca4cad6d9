import AccessLint.Html.Builder.Foreign
import AccessLint.Html.Builder.Head

namespace AccessLint.Html.Builder

/-!
# The body

* `startInBody` — a start tag of the body, case by case;
* `endInBody` — an end tag of the body;
* `inBody` — the mode of the body, which other modes fall back on.
-/

/-! ### Start tags -/

/-- Blocks: they end the paragraph that they would stand in. -/
def blockTags : List Text := [
  "address", "article", "aside", "blockquote", "center", "details", "dialog", "dir", "div", "dl",
  "fieldset", "figcaption", "figure", "footer", "header", "hgroup", "main", "menu", "nav", "ol",
  "p", "search", "section", "summary", "ul"]

/-- Headings. -/
def headingTags : List Text := ["h1", "h2", "h3", "h4", "h5", "h6"]

/-- Formatting elements other than links and unbreakable text. -/
def formattingTags : List Text := [
  "b", "big", "code", "em", "font", "i", "s", "small", "strike", "strong", "tt", "u"]

/-- Start tags that make no sense in the body by themselves. -/
def misplacedTags : List Text := [
  "caption", "col", "colgroup", "frame", "head", "tbody", "td", "tfoot", "th", "thead", "tr"]

/-- Notes that the page can no longer become one of frames. -/
def keepsBody (b : Builder) : Builder := { b with framesetOk := false }

/-- Lets the next line feed be skipped. -/
def skipNewline (b : Builder) : Builder := { b with skipsNewline := true }

/-- A second start tag of the body adds to the attributes of the first. -/
def mergeBody (b : Builder) (t : Tag) : Builder :=
  match b.body? with
  | some id =>
    if b.hasOpen "template" then b
    else { b.keepsBody with tree := b.tree.addMissingAttrs id (elementOf t).attrs }
  | none => b

/-- A set of frames in the place of a body that holds nothing yet. -/
def replaceBody (b : Builder) (t : Tag) : Builder :=
  if !b.framesetOk then b
  else match b.body? with
    | none => b
    | some id =>
      let b := { b with tree := b.tree.detach id, stack := (b.stack.getLast?).toList }
      (b.insertElement t).switchTo .inFrameset

/-- The innermost item of a list that a new one ends, unless an element in between hides it. -/
def itemToEnd? (names : List Text) : List Open → Option Text
  | [] => none
  | o :: os =>
    if o.elem.isHtmlIn names then some o.elem.name
    else if isSpecial o.elem && !o.elem.isHtmlIn ["address", "div", "p"] then none
    else itemToEnd? names os

/-- An item of a list, which ends the one before it. -/
def startItem (b : Builder) (t : Tag) : Builder :=
  let b := b.keepsBody
  let names : List Text := if t.isIn ["li"] then ["li"] else ["dd", "dt"]
  let b := match itemToEnd? names b.stack with
    | some name => (b.closeImpliedBut name).popThrough name
    | none => b
  b.endParagraph.insertElement t

/-- A form, unless one is open. -/
def startForm (b : Builder) (t : Tag) : Builder :=
  let inTemplate := b.hasOpen "template"
  if b.form.isSome && !inTemplate then b
  else
    let b := b.endParagraph
    let form := if inTemplate then b.form else some b.nextId
    { b.insertElement t with form := form }

/-- A button, which ends the one that it would stand in. -/
def startButton (b : Builder) (t : Tag) : Builder :=
  let b :=
    if b.hasInScope isScopeBoundary "button" then
      (b.closeImplied impliedEnds).popThrough "button"
    else b
  (b.reopenFormatting.insertElement t).keepsBody

/-- A link, which ends the one that it would stand in. -/
def startLink (b : Builder) (t : Tag) : Builder :=
  let b := match (untilMarker b.formatting).find? fun (_, u) => u.name == "a" with
    | some (id, _) => ((b.endFormatting "a").forget id).close id
    | none => b
  b.reopenFormatting.insertFormatting t

/-- Unbreakable text, which ends the one that it would stand in. -/
def startUnbreakable (b : Builder) (t : Tag) : Builder :=
  let b := b.reopenFormatting
  let b :=
    if b.hasInScope isScopeBoundary "nobr" then (b.endFormatting "nobr").reopenFormatting else b
  b.insertFormatting t

/-- Whether an input is hidden. -/
def isHiddenInput (t : Tag) : Bool :=
  t.attrs.any fun a => a.1 == "type" && Text.eqIgnoringCase a.2 "hidden"

/-- An element without content in running text. -/
def startVoid (b : Builder) (t : Tag) : Builder :=
  let b := b.reopenFormatting.insertVoid t
  if t.isIn ["input"] && isHiddenInput t then b else b.keepsBody

/-- A selection list. -/
def startSelect (b : Builder) (t : Tag) : Builder :=
  let b := (b.reopenFormatting.insertElement t).keepsBody
  match b.mode with
  | .inTable | .inCaption | .inTableBody | .inRow | .inCell => b.switchTo .inSelectInTable
  | _ => b.switchTo .inSelect

/-- A table. On a page of an old type it may stand in a paragraph. -/
def startTable (b : Builder) (t : Tag) : Builder :=
  let b := if b.outdated then b else b.endParagraph
  ((b.insertElement t).keepsBody).switchTo .inTable

/-- A start tag of the body. -/
def startInBody (b : Builder) (t : Tag) : Builder :=
  if t.isIn ["html"] then b.mergeRoot t
  else if t.isIn headTags then b.startInHead t
  else if t.isIn ["body"] then b.mergeBody t
  else if t.isIn ["frameset"] then b.replaceBody t
  else if t.isIn blockTags then b.endParagraph.insertElement t
  else if t.isIn headingTags then
    let b := b.endParagraph
    (if b.currentIsIn headingTags then b.pop else b).insertElement t
  else if t.isIn ["pre", "listing"] then (b.endParagraph.insertElement t).skipNewline.keepsBody
  else if t.isIn ["form"] then b.startForm t
  else if t.isIn ["li", "dd", "dt"] then b.startItem t
  else if t.isIn ["plaintext"] then { b.endParagraph.insertElement t with textMode := .plain }
  else if t.isIn ["button"] then b.startButton t
  else if t.isIn ["a"] then b.startLink t
  else if t.isIn formattingTags then b.reopenFormatting.insertFormatting t
  else if t.isIn ["nobr"] then b.startUnbreakable t
  else if t.isIn ["applet", "marquee", "object"] then
    (b.reopenFormatting.insertElement t).mark.keepsBody
  else if t.isIn ["table"] then b.startTable t
  else if t.isIn ["area", "br", "embed", "img", "keygen", "wbr", "input"] then b.startVoid t
  else if t.isIn ["param", "source", "track"] then b.insertVoid t
  else if t.isIn ["hr"] then (b.endParagraph.insertVoid t).keepsBody
  else if t.isIn ["image"] then b.startVoid { t with name := "img" }
  else if t.isIn ["textarea"] then (b.skipNewline.keepsBody).enterText t (.escapable t.name)
  else if t.isIn ["xmp"] then
    (b.endParagraph.reopenFormatting.keepsBody).enterText t (.raw t.name)
  else if t.isIn ["iframe"] then b.keepsBody.enterText t (.raw t.name)
  else if t.isIn ["noembed", "noscript"] then b.enterText t (.raw t.name)
  else if t.isIn ["select"] then b.startSelect t
  else if t.isIn ["optgroup", "option"] then
    (if b.currentIs "option" then b.pop else b).reopenFormatting.insertElement t
  else if t.isIn ["rb", "rtc"] then
    (if b.hasInScope isScopeBoundary "ruby" then b.closeImplied impliedEnds else b).insertElement t
  else if t.isIn ["rp", "rt"] then
    (if b.hasInScope isScopeBoundary "ruby" then b.closeImpliedBut "rtc" else b).insertElement t
  else if t.isIn ["math"] then b.insertForeign .mathml t.name t
  else if t.isIn ["svg"] then b.insertForeign .svg t.name t
  else if t.isIn misplacedTags then b
  else b.reopenFormatting.insertElement t

/-! ### End tags -/

/-- The elements whose end tags close them with all that is left open inside. -/
def closingTags : List Text := [
  "address", "article", "aside", "blockquote", "button", "center", "details", "dialog", "dir",
  "div", "dl", "fieldset", "figcaption", "figure", "footer", "header", "hgroup", "listing", "main",
  "menu", "nav", "ol", "pre", "search", "section", "summary", "ul"]

/-- Closes an element with all that is left open inside, if it is open. -/
def endScoped (b : Builder) (boundary : Element → Bool) (name : Text) : Builder :=
  if b.hasInScope boundary name then (b.closeImplied impliedEnds).popThrough name else b

/-- The end tag of a form. -/
def endForm (b : Builder) : Builder :=
  if b.hasOpen "template" then b.endScoped isScopeBoundary "form"
  else match b.form with
    | none => b
    | some id =>
      let b := { b with form := none }
      if inScope isScopeBoundary (fun o => o.id == id) b.stack then
        (b.closeImplied impliedEnds).close id
      else b

/-- The end tag of an item of a list. -/
def endItem (b : Builder) (name : Text) : Builder :=
  let boundary := if name = "li" then isListBoundary else isScopeBoundary
  if b.hasInScope boundary name then (b.closeImpliedBut name).popThrough name else b

/-- The end tag of a heading, which closes a heading of any level. -/
def endHeading (b : Builder) : Builder :=
  if b.hasAnyInScope isScopeBoundary headingTags then
    (b.closeImplied impliedEnds).popThroughAny headingTags
  else b

/-- An end tag of the body that needs not be looked at once more. -/
def endInBody (b : Builder) (t : Tag) : Builder :=
  if t.isIn ["template"] then b.endTemplate
  else if t.isIn ["body"] then
    if b.hasInScope isScopeBoundary "body" then b.switchTo .afterBody else b
  else if t.isIn closingTags then b.endScoped isScopeBoundary t.name
  else if t.isIn ["form"] then b.endForm
  else if t.isIn ["p"] then
    (if b.hasInScope isButtonBoundary "p" then b else b.insertImplied "p").closeParagraph
  else if t.isIn ["li", "dd", "dt"] then b.endItem t.name
  else if t.isIn headingTags then b.endHeading
  else if t.isIn formattingTags || t.isIn ["a", "nobr"] then b.endFormatting t.name
  else if t.isIn ["applet", "marquee", "object"] then
    if b.hasInScope isScopeBoundary t.name then
      ((b.closeImplied impliedEnds).popThrough t.name).clearToMarker
    else b
  else if t.isIn ["br"] then b.startVoid (Tag.plain "br")
  else b.endOther t.name

/-! ### The mode -/

/-- Text of the body. -/
def textInBody (b : Builder) (t : Text) : Builder :=
  let b := b.reopenFormatting
  (if isSpace t then b else b.keepsBody).insertText t

/-- The body of a page. -/
def inBody (b : Builder) : Token → Step
  | .text t => .done (b.textInBody t)
  | .comment t => .done (b.insertComment t)
  | .startTag t => .done (b.startInBody t)
  | .endTag t =>
    if t.isIn ["html"] then
      if b.hasInScope isScopeBoundary "body" then b.againIn .afterBody else .done b
    else .done (b.endInBody t)
  | .eof => if b.templateModes.isEmpty then .done b else b.endOfTemplates
  | .doctype _ | .null => .done b

/-- The part of a page after its body. -/
def inAfterBody (b : Builder) : Token → Step
  | .text t => if isSpace t then .done (b.textInBody t) else b.againIn .inBody
  | .comment t => .done (b.addComment b.rootElement t)
  | .startTag t => if t.isIn ["html"] then .done (b.mergeRoot t) else b.againIn .inBody
  | .endTag t =>
    if t.isIn ["html"] then .done (b.switchTo .afterAfterBody) else b.againIn .inBody
  | .eof => .done b
  | .doctype _ => .done b
  | .null => b.againIn .inBody

/-- The part of a page after its end. -/
def inAfterAfterBody (b : Builder) : Token → Step
  | .text t => if isSpace t then .done (b.textInBody t) else b.againIn .inBody
  | .comment t => .done (b.addComment Tree.root t)
  | .startTag t => if t.isIn ["html"] then .done (b.mergeRoot t) else b.againIn .inBody
  | .eof => .done b
  | .doctype _ => .done b
  | .endTag _ | .null => b.againIn .inBody

/-- The part of a page of frames after its end. -/
def inAfterAfterFrameset (b : Builder) : Token → Step
  | .text t => .done (if isSpace t then b.textInBody t else b)
  | .comment t => .done (b.addComment Tree.root t)
  | .startTag t =>
    if t.isIn ["html"] then .done (b.mergeRoot t)
    else if t.isIn ["noframes"] then .done (b.startInHead t)
    else .done b
  | .doctype _ | .endTag _ | .null | .eof => .done b

end AccessLint.Html.Builder
