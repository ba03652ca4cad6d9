import AccessLint.Html.Builder.Formatting
import AccessLint.Text.Blank

namespace AccessLint.Html.Builder

/-!
# Before the body

* `inInitial`, `inBeforeHtml`, `inBeforeHead`, `inHead`, `inAfterHead` — the modes up to the body;
* `inFrameset`, `inAfterFrameset` — the modes of a page without a body;
* `startTemplate`, `endTemplate`, `endOfTemplates` — templates, which may stand anywhere.
-/

/-- Whether a text, known to be all space or to begin with something else, is space. -/
def isSpace (t : Text) : Bool := t.all Text.isAsciiSpace

/-- Adds the attributes of a repeated start tag of the page to its root element. -/
def mergeRoot (b : Builder) (t : Tag) : Builder :=
  match b.page? with
  | some id =>
    if b.hasOpen "template" then b
    else { b with tree := b.tree.addMissingAttrs id (elementOf t).attrs }
  | none => b

/-! ### Templates -/

/-- Whether a template declares a shadow root of the element that it stands in. -/
def declaresShadow (t : Tag) : Bool :=
  t.attrs.any fun (name, value) =>
    name == "shadowrootmode" && (value == ("open" : Text) || value == ("close" : Text))

/-- The start tag of a template. A shadow root is no part of the tree: there is no element, and what
    follows is added where the template stands. -/
def startTemplate (b : Builder) (t : Tag) : Builder :=
  let b := (if declaresShadow t then b else b.insertElement t).mark
  { b with framesetOk := false, mode := .inTemplate, templateModes := .inTemplate :: b.templateModes }

/-- Leaves the innermost template after its element was closed. -/
def leaveTemplate (b : Builder) : Builder :=
  let b := b.clearToMarker
  { b with templateModes := b.templateModes.drop 1 }.resetMode

/-- The end tag of a template. -/
def endTemplate (b : Builder) : Builder :=
  if b.hasOpen "template" then
    ((b.closeImplied thoroughImpliedEnds).popThrough "template").leaveTemplate
  else b

/-- The end of the source where templates may be open. -/
def endOfTemplates (b : Builder) : Step :=
  if b.hasOpen "template" then .again (b.popThrough "template").leaveTemplate
  else .done b

/-! ### The head -/

/-- The start tags that are treated everywhere as in the head. -/
def headTags : List Text := [
  "base", "basefont", "bgsound", "link", "meta", "noframes", "script", "style", "template", "title"]

/-- A start tag of the head. -/
def startInHead (b : Builder) (t : Tag) : Builder :=
  if t.isIn ["base", "basefont", "bgsound", "link", "meta"] then b.insertVoid t
  else if t.isIn ["title"] then b.enterText t (.escapable t.name)
  else if t.isIn ["noframes", "style", "noscript"] then b.enterText t (.raw t.name)
  else if t.isIn ["script"] then b.enterText t .script
  else if t.isIn ["template"] then b.startTemplate t
  else b

/-- Closes the head. -/
def leaveHead (b : Builder) : Step := b.pop.againIn .afterHead

/-- The head of a page. -/
def inHead (b : Builder) : Token → Step
  | .text t => if isSpace t then .done (b.insertText t) else b.leaveHead
  | .comment t => .done (b.insertComment t)
  | .doctype _ => .done b
  | .startTag t =>
    if t.isIn ["html"] then .done (b.mergeRoot t)
    else if t.isIn headTags || t.isIn ["noscript"] then .done (b.startInHead t)
    else if t.isIn ["head"] then .done b
    else b.leaveHead
  | .endTag t =>
    if t.isIn ["head"] then .done (b.pop.switchTo .afterHead)
    else if t.isIn ["body", "html", "br"] then b.leaveHead
    else if t.isIn ["template"] then .done b.endTemplate
    else .done b
  | .null | .eof => b.leaveHead

/-! ### Around the head -/

/-- The start of a page, where its document type may stand. -/
def inInitial (b : Builder) : Token → Step
  | .text t =>
    if isSpace t then .done b else { b with outdated := true }.againIn .beforeHtml
  | .comment t => .done (b.addComment Tree.root t)
  | _ => { b with outdated := true }.againIn .beforeHtml

/-- The part of a page before its root element. -/
def inBeforeHtml (b : Builder) : Token → Step
  | .text t => if isSpace t then .done b else (b.insertImplied "html").againIn .beforeHead
  | .comment t => .done (b.addComment Tree.root t)
  | .startTag t =>
    if t.isIn ["html"] then .done ((b.insertElement t).switchTo .beforeHead)
    else (b.insertImplied "html").againIn .beforeHead
  | .endTag t =>
    if t.isIn ["head", "body", "html", "br"] then (b.insertImplied "html").againIn .beforeHead
    else .done b
  | .doctype _ => .done b
  | .null | .eof => (b.insertImplied "html").againIn .beforeHead

/-- Opens the head. -/
def openHead (b : Builder) (t : Tag) : Builder :=
  { b.insertElement t with head := some b.nextId, mode := .inHead }

/-- The part of a page before its head. -/
def inBeforeHead (b : Builder) : Token → Step
  | .text t => if isSpace t then .done b else .again (b.openHead (Tag.plain "head"))
  | .comment t => .done (b.insertComment t)
  | .startTag t =>
    if t.isIn ["html"] then .done (b.mergeRoot t)
    else if t.isIn ["head"] then .done (b.openHead t)
    else .again (b.openHead (Tag.plain "head"))
  | .endTag t =>
    if t.isIn ["head", "body", "html", "br"] then .again (b.openHead (Tag.plain "head"))
    else .done b
  | .doctype _ => .done b
  | .null | .eof => .again (b.openHead (Tag.plain "head"))

/-- Opens the body that a page has without its start tag. -/
def impliedBody (b : Builder) : Step := (b.insertImplied "body").againIn .inBody

/-- A start tag of the head after its end: it still goes into the head. -/
def startBackInHead (b : Builder) (t : Tag) : Builder :=
  match b.head with
  | none => b
  | some id =>
    let head := (b.tree.element? id).getD ⟨.html, "head", []⟩
    ({ b with stack := ⟨id, head⟩ :: b.stack }.startInHead t).close id

/-- The part of a page between head and body. -/
def inAfterHead (b : Builder) : Token → Step
  | .text t => if isSpace t then .done (b.insertText t) else b.impliedBody
  | .comment t => .done (b.insertComment t)
  | .doctype _ => .done b
  | .startTag t =>
    if t.isIn ["html"] then .done (b.mergeRoot t)
    else if t.isIn ["body"] then
      .done { b.insertElement t with framesetOk := false, mode := .inBody }
    else if t.isIn ["frameset"] then .done ((b.insertElement t).switchTo .inFrameset)
    else if t.isIn headTags then .done (b.startBackInHead t)
    else if t.isIn ["head"] then .done b
    else b.impliedBody
  | .endTag t =>
    if t.isIn ["template"] then .done b.endTemplate
    else if t.isIn ["body", "html", "br"] then b.impliedBody
    else .done b
  | .null | .eof => b.impliedBody

/-! ### Pages of frames -/

/-- The inside of a set of frames. -/
def inFrameset (b : Builder) : Token → Step
  | .text t => .done (if isSpace t then b.insertText t else b)
  | .comment t => .done (b.insertComment t)
  | .startTag t =>
    if t.isIn ["html"] then .done (b.mergeRoot t)
    else if t.isIn ["frameset"] then .done (b.insertElement t)
    else if t.isIn ["frame"] then .done (b.insertVoid t)
    else if t.isIn ["noframes"] then .done (b.startInHead t)
    else .done b
  | .endTag t =>
    if t.isIn ["frameset"] && b.stack.length != 1 then
      let b := b.pop
      .done (if b.currentIs "frameset" then b else b.switchTo .afterFrameset)
    else .done b
  | .doctype _ | .null | .eof => .done b

/-- The part of a page after its frames. -/
def inAfterFrameset (b : Builder) : Token → Step
  | .text t => .done (if isSpace t then b.insertText t else b)
  | .comment t => .done (b.insertComment t)
  | .startTag t =>
    if t.isIn ["html"] then .done (b.mergeRoot t)
    else if t.isIn ["noframes"] then .done (b.startInHead t)
    else .done b
  | .endTag t => .done (if t.isIn ["html"] then b.switchTo .afterAfterFrameset else b)
  | .doctype _ | .null | .eof => .done b

end AccessLint.Html.Builder
