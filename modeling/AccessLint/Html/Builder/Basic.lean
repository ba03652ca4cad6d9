import AccessLint.Html.Token
import AccessLint.Html.Tree

namespace AccessLint.Html

/-!
# Building a tree from tokens

A `Builder` is the tree built so far together with all that decides where the next token goes.

* `Mode` — the part of a page that the builder expects to be in;
* `Builder` — the tree, the open elements, the formatting elements to be reopened, and some flags;
* `Step` — the builder after a token, and whether the token has to be looked at once more;
* `Builder.insertElement`, `Builder.insertText`, `Builder.insertComment` — adding to the tree at the
  place where the next node belongs.
-/

/-- The part of a page that the builder expects to be in. -/
inductive Mode where
  | initial
  | beforeHtml
  | beforeHead
  | inHead
  | afterHead
  | inBody
  | inText
  | inTable
  | inTableText
  | inCaption
  | inColumnGroup
  | inTableBody
  | inRow
  | inCell
  | inSelect
  | inSelectInTable
  | inTemplate
  | afterBody
  | inFrameset
  | afterFrameset
  | afterAfterBody
  | afterAfterFrameset
deriving DecidableEq

/-- An open element. -/
structure Open where
  id : NodeId
  elem : Element

/-- A formatting element that is reopened where it was closed too early, or a marker that hides the
    earlier ones. -/
inductive Formatting where
  | marker
  | element (id : NodeId) (tag : Tag)

/-- The tree built so far and the state of the construction. The innermost open element, the last
    formatting element and the innermost template mode come first. -/
structure Builder where
  tree : Tree
  mode : Mode
  returnMode : Mode
  templateModes : List Mode
  textMode : TextMode
  stack : List Open
  formatting : List Formatting
  head : Option NodeId
  form : Option NodeId
  framesetOk : Bool
  fostering : Bool
  outdated : Bool
  skipsNewline : Bool
  pendingText : List Text

/-- A builder before the first token. -/
def Builder.start : Builder where
  tree := Tree.empty
  mode := .initial
  returnMode := .initial
  templateModes := []
  textMode := .markup
  stack := []
  formatting := []
  head := none
  form := none
  framesetOk := true
  fostering := false
  outdated := false
  skipsNewline := false
  pendingText := []

/-- The builder after a token. -/
inductive Step where
  | done (b : Builder)
  | again (b : Builder)

/-- The builder of a step. -/
def Step.builder : Step → Builder
  | done b => b
  | again b => b

/-- Whether the name of a tag is one of some names. -/
def Tag.isIn (t : Tag) (names : List Text) : Bool := names.contains t.name

namespace Builder

/-- Turns to another mode. -/
def switchTo (b : Builder) (m : Mode) : Builder := { b with mode := m }

/-- Turns to another mode and looks at the token once more. -/
def againIn (b : Builder) (m : Mode) : Step := .again (b.switchTo m)

/-! ### Open elements -/

/-- The innermost open element. -/
def current? (b : Builder) : Option Open := b.stack.head?

/-- Whether the innermost open element is the named one. -/
def currentIs (b : Builder) (name : Text) : Bool := b.current?.any fun o => o.elem.isHtml name

/-- Whether the innermost open element is one of the named ones. -/
def currentIsIn (b : Builder) (names : List Text) : Bool :=
  b.current?.any fun o => o.elem.isHtmlIn names

/-- Closes the innermost open element. -/
def pop (b : Builder) : Builder := { b with stack := b.stack.drop 1 }

/-- The open elements outside the innermost one that satisfies `p`. -/
def outside (p : Open → Bool) : List Open → List Open
  | [] => []
  | o :: os => if p o then os else outside p os

/-- Closes the open elements up to and with the innermost named one. -/
def popThrough (b : Builder) (name : Text) : Builder :=
  { b with stack := outside (fun o => o.elem.isHtml name) b.stack }

/-- Closes the open elements up to and with the innermost one of the named ones. -/
def popThroughAny (b : Builder) (names : List Text) : Builder :=
  { b with stack := outside (fun o => o.elem.isHtmlIn names) b.stack }

/-- Closes the open elements up to the innermost one of the named ones, which stays open. -/
def popTo (b : Builder) (names : List Text) : Builder :=
  { b with stack := b.stack.dropWhile fun o => !o.elem.isHtmlIn names }

/-- Removes an element from the open ones, wherever it is. -/
def close (b : Builder) (id : NodeId) : Builder :=
  { b with stack := b.stack.filter fun o => o.id != id }

/-- Whether an element of that name is open. -/
def hasOpen (b : Builder) (name : Text) : Bool := b.stack.any fun o => o.elem.isHtml name

/-- The elements in whose content the end tags of a page's other elements do not close them. -/
def isScopeBoundary (e : Element) : Bool :=
  e.isHtmlIn ["applet", "caption", "html", "table", "td", "th", "marquee", "object", "template"] ||
    (e.space == .mathml &&
      (["mi", "mo", "mn", "ms", "mtext"] : List Text).contains e.name) ||
    (e.space == .svg && (["foreignObject", "desc", "title"] : List Text).contains e.name)

/-- Boundaries for paragraphs. -/
def isButtonBoundary (e : Element) : Bool := isScopeBoundary e || e.isHtml "button"

/-- Boundaries for list items. -/
def isListBoundary (e : Element) : Bool := isScopeBoundary e || e.isHtmlIn ["ol", "ul"]

/-- Boundaries for the parts of a table. -/
def isTableBoundary (e : Element) : Bool := e.isHtmlIn ["html", "table", "template"]

/-- Boundaries for a selection list: all but its own parts. -/
def isSelectBoundary (e : Element) : Bool := !e.isHtmlIn ["optgroup", "option"]

/-- Whether an element that satisfies `p` is open inside the innermost boundary. -/
def inScope (boundary : Element → Bool) (p : Open → Bool) : List Open → Bool
  | [] => false
  | o :: os => p o || (!boundary o.elem && inScope boundary p os)

/-- Whether an element of that name is open inside the innermost boundary. -/
def hasInScope (b : Builder) (boundary : Element → Bool) (name : Text) : Bool :=
  inScope boundary (fun o => o.elem.isHtml name) b.stack

/-- Whether one of the named elements is open inside the innermost boundary. -/
def hasAnyInScope (b : Builder) (boundary : Element → Bool) (names : List Text) : Bool :=
  inScope boundary (fun o => o.elem.isHtmlIn names) b.stack

/-- The elements whose end tags may be left out. -/
def impliedEnds : List Text :=
  ["dd", "dt", "li", "option", "optgroup", "p", "rb", "rp", "rt", "rtc"]

/-- The elements whose end tags may be left out inside a template. -/
def thoroughImpliedEnds : List Text :=
  impliedEnds ++
    (["caption", "colgroup", "tbody", "td", "tfoot", "th", "thead", "tr"] : List Text)

/-- Closes the innermost open elements as long as their end tags may be left out. -/
def closeImplied (b : Builder) (names : List Text) : Builder :=
  { b with stack := b.stack.dropWhile fun o => o.elem.isHtmlIn names }

/-- Closes the innermost open elements as long as their end tags may be left out, but not one of
    that name. -/
def closeImpliedBut (b : Builder) (name : Text) : Builder :=
  b.closeImplied (impliedEnds.filter (· != name))

/-- Closes the innermost paragraph. -/
def closeParagraph (b : Builder) : Builder := (b.closeImpliedBut "p").popThrough "p"

/-- Closes the paragraph that a block would stand in. -/
def endParagraph (b : Builder) : Builder :=
  if b.hasInScope isButtonBoundary "p" then b.closeParagraph else b

/-! ### Insertion -/

/-- Where a node goes: to the end of another one, or before a table, with the element around the
    table for a table that is not in the tree. -/
inductive Place where
  | lastOf (parent : NodeId)
  | beforeTable (table around : NodeId)

/-- The node that holds the content of an element: for a template the fragment below it. -/
def contentsOf (b : Builder) (o : Open) : NodeId :=
  if o.elem.isHtml "template" then
    let isFragment := fun i => match (b.tree.node i).content with
      | .fragment => true
      | _ => false
    ((b.tree.node o.id).children.find? isFragment).getD o.id
  else o.id

/-- Where misplaced content of a table goes: before the innermost table, or into a template inside
    it. -/
def fosterPlace (b : Builder) : List Open → Place
  | [] => .lastOf ((b.stack.getLast?.map Open.id).getD Tree.root)
  | o :: os =>
    if o.elem.isHtml "template" then .lastOf (b.contentsOf o)
    else if o.elem.isHtml "table" then
      .beforeTable o.id ((os.head?.map Open.id).getD Tree.root)
    else b.fosterPlace os

/-- Where a node that belongs into an element goes. -/
def placeIn (b : Builder) (o : Open) : Place :=
  if b.fostering && o.elem.isHtmlIn ["table", "tbody", "tfoot", "thead", "tr"] then
    b.fosterPlace b.stack
  else .lastOf (b.contentsOf o)

/-- Where the next node goes. -/
def place (b : Builder) : Place :=
  match b.current? with
  | some o => b.placeIn o
  | none => .lastOf Tree.root

/-- Puts a node into the tree. -/
def put (b : Builder) (place : Place) (id : NodeId) : Builder :=
  match place with
  | .lastOf parent => { b with tree := b.tree.append parent id }
  | .beforeTable table around =>
    if (b.tree.node table).parent.isSome then { b with tree := b.tree.insertBefore table id }
    else { b with tree := b.tree.append around id }

/-- Adds text to the tree. -/
def insertText (b : Builder) (t : Text) : Builder :=
  match b.place with
  | .lastOf parent => { b with tree := b.tree.appendText parent t }
  | .beforeTable table around =>
    if (b.tree.node table).parent.isSome then { b with tree := b.tree.insertTextBefore table t }
    else { b with tree := b.tree.appendText around t }

/-- Creates an element; a template gets the fragment for its contents. -/
def create (b : Builder) (e : Element) : Builder × NodeId :=
  let (tree, id) := b.tree.create (.element e)
  if e.isHtml "template" then
    let (tree, contents) := tree.create .fragment
    ({ b with tree := tree.append id contents }, id)
  else ({ b with tree := tree }, id)

/-- The element of a tag. -/
def elementOf (t : Tag) : Element :=
  ⟨.html, t.name, Attr.ordered (t.attrs.map fun (n, v) => ⟨.none, n, v⟩)⟩

/-- The place that the next created node will have. -/
def nextId (b : Builder) : NodeId := b.tree.nodes.size

/-- Creates an element where the next node goes, and opens it. -/
def openElement (b : Builder) (e : Element) : Builder :=
  let place := b.place
  let (b, id) := b.create e
  let b := b.put place id
  { b with stack := ⟨id, e⟩ :: b.stack }

/-- Creates the element of a tag where the next node goes, and opens it. -/
def insertElement (b : Builder) (t : Tag) : Builder := b.openElement (elementOf t)

/-- Creates an element that its tag implies, and opens it. -/
def insertImplied (b : Builder) (name : Text) : Builder := b.insertElement (Tag.plain name)

/-- Creates the element of a tag that holds no content. -/
def insertVoid (b : Builder) (t : Tag) : Builder := (b.insertElement t).pop

/-- Adds a comment at the end of a node. -/
def addComment (b : Builder) (parent : NodeId) (t : Text) : Builder :=
  let (tree, id) := b.tree.create (.comment t)
  { b with tree := tree.append parent id }

/-- Adds a comment where the next node goes. -/
def insertComment (b : Builder) (t : Text) : Builder :=
  let place := b.place
  let (tree, id) := b.tree.create (.comment t)
  { b with tree := tree }.put place id

/-- The outermost open element. -/
def rootElement (b : Builder) : NodeId := (b.stack.getLast?.map Open.id).getD Tree.root

/-- The root element of the page, the outermost of the open elements. -/
def page? (b : Builder) : Option NodeId :=
  match b.stack.getLast? with
  | some o => if o.elem.isHtml "html" then some o.id else none
  | none => none

/-- The body, if it is the second of the open elements. -/
def body? (b : Builder) : Option NodeId :=
  match b.stack.reverse with
  | _ :: o :: _ => if o.elem.isHtml "body" then some o.id else none
  | _ => none

/-! ### Modes -/

/-- Opens the element of a tag whose content is text. -/
def enterText (b : Builder) (t : Tag) (m : TextMode) : Builder :=
  let b := b.insertElement t
  { b with returnMode := b.mode, mode := .inText, textMode := m }

/-- The mode for a selection list among some open elements. -/
def selectMode : List Open → Mode
  | [] => .inSelect
  | o :: os =>
    if o.elem.isHtml "template" then .inSelect
    else if o.elem.isHtml "table" then .inSelectInTable
    else selectMode os

/-- The mode that the innermost telling element asks for, among some open elements. -/
def modeOf (b : Builder) : List Open → Mode
  | [] => .inBody
  | o :: os =>
    let last := os.isEmpty
    let e := o.elem
    if e.isHtml "select" then selectMode os
    else if e.isHtmlIn ["td", "th"] && !last then .inCell
    else if e.isHtml "tr" then .inRow
    else if e.isHtmlIn ["tbody", "thead", "tfoot"] then .inTableBody
    else if e.isHtml "caption" then .inCaption
    else if e.isHtml "colgroup" then .inColumnGroup
    else if e.isHtml "table" then .inTable
    else if e.isHtml "template" then b.templateModes.head?.getD .inBody
    else if e.isHtml "head" && !last then .inHead
    else if e.isHtml "body" then .inBody
    else if e.isHtml "frameset" then .inFrameset
    else if e.isHtml "html" then (if b.head.isNone then .beforeHead else .afterHead)
    else b.modeOf os

/-- Turns to the mode that the open elements ask for. -/
def resetMode (b : Builder) : Builder := b.switchTo (b.modeOf b.stack)

end Builder

end AccessLint.Html
