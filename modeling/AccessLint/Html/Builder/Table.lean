import AccessLint.Html.Builder.Body

namespace AccessLint.Html.Builder

/-!
# Tables, selection lists and templates

* `inTable`, `inTableText`, `inCaption`, `inColumnGroup`, `inTableBody`, `inRow`, `inCell` — the
  parts of a table; what does not belong there is put before the table;
* `inSelect`, `inSelectInTable` — selection lists;
* `inTemplate` — templates.
-/

/-- Handles a token as in the body, with what is inserted put before the table. -/
def fostered (b : Builder) (t : Token) : Step :=
  match inBody { b with fostering := true } t with
  | .done b => .done { b with fostering := false }
  | .again b => .again { b with fostering := false }

/-- Text in a table is held back until it is known whether it is all space. -/
def textInTable (b : Builder) (t : Token) : Step :=
  if b.currentIsIn ["table", "tbody", "tfoot", "thead", "tr"] then
    .again { b with returnMode := b.mode, mode := .inTableText }
  else b.fostered t

/-- A table outside its parts. -/
def inTable (b : Builder) (token : Token) : Step :=
  match token with
  | .text _ | .null => b.textInTable token
  | .comment t => .done (b.insertComment t)
  | .doctype _ => .done b
  | .eof => b.inBody .eof
  | .startTag t =>
    let cleared := b.popTo ["html", "table", "template"]
    if t.isIn ["caption"] then .done ((cleared.mark.insertElement t).switchTo .inCaption)
    else if t.isIn ["colgroup"] then .done ((cleared.insertElement t).switchTo .inColumnGroup)
    else if t.isIn ["col"] then (cleared.insertImplied "colgroup").againIn .inColumnGroup
    else if t.isIn ["tbody", "tfoot", "thead"] then
      .done ((cleared.insertElement t).switchTo .inTableBody)
    else if t.isIn ["td", "th", "tr"] then (cleared.insertImplied "tbody").againIn .inTableBody
    else if t.isIn ["table"] then
      if b.hasInScope isTableBoundary "table" then .again (b.popThrough "table").resetMode
      else .done b
    else if t.isIn ["style", "script", "template"] then .done (b.startInHead t)
    else if t.isIn ["input"] && isHiddenInput t then .done (b.insertVoid t)
    else if t.isIn ["form"] then
      if b.hasOpen "template" || b.form.isSome then .done b
      else .done { b.insertVoid t with form := some b.nextId }
    else b.fostered token
  | .endTag t =>
    if t.isIn ["table"] then
      if b.hasInScope isTableBoundary "table" then .done (b.popThrough "table").resetMode
      else .done b
    else if t.isIn ["body", "caption", "col", "colgroup", "html", "tbody", "td", "tfoot", "th",
        "thead", "tr"] then .done b
    else if t.isIn ["template"] then .done b.endTemplate
    else b.fostered token

/-- Adds the text that was held back: to the table if it is space, else before the table. -/
def releaseText (b : Builder) : Builder :=
  let texts := b.pendingText
  let b := { b with pendingText := [] }
  if texts.all isSpace then texts.foldl insertText b
  else
    let b := texts.foldl textInBody { b with fostering := true }
    { b with fostering := false }

/-- Text in a table. -/
def inTableText (b : Builder) : Token → Step
  | .text t => .done { b with pendingText := b.pendingText ++ [t] }
  | .null => .done b
  | _ => b.releaseText.againIn b.returnMode

/-- The caption of a table. -/
def inCaption (b : Builder) (token : Token) : Step :=
  let close := ((b.closeImplied impliedEnds).popThrough "caption").clearToMarker
  let isOpen := b.hasInScope isTableBoundary "caption"
  match token with
  | .startTag t =>
    if t.isIn ["caption", "col", "colgroup", "tbody", "td", "tfoot", "th", "thead", "tr"] then
      if isOpen then close.againIn .inTable else .done b
    else b.inBody token
  | .endTag t =>
    if t.isIn ["caption"] then .done (if isOpen then close.switchTo .inTable else b)
    else if t.isIn ["table"] then if isOpen then close.againIn .inTable else .done b
    else if t.isIn ["body", "col", "colgroup", "html", "tbody", "td", "tfoot", "th", "thead",
        "tr"] then .done b
    else b.inBody token
  | _ => b.inBody token

/-- Ends a group of columns. -/
def leaveColumnGroup (b : Builder) : Step :=
  if b.currentIs "colgroup" then b.pop.againIn .inTable else .done b

/-- A group of columns. -/
def inColumnGroup (b : Builder) : Token → Step
  | .text t => if isSpace t then .done (b.insertText t) else b.leaveColumnGroup
  | .comment t => .done (b.insertComment t)
  | .doctype _ => .done b
  | .eof => b.inBody .eof
  | .startTag t =>
    if t.isIn ["html"] then .done (b.mergeRoot t)
    else if t.isIn ["col"] then .done (b.insertVoid t)
    else if t.isIn ["template"] then .done (b.startInHead t)
    else b.leaveColumnGroup
  | .endTag t =>
    if t.isIn ["colgroup"] then
      .done (if b.currentIs "colgroup" then b.pop.switchTo .inTable else b)
    else if t.isIn ["col"] then .done b
    else if t.isIn ["template"] then .done b.endTemplate
    else b.leaveColumnGroup
  | .null => b.leaveColumnGroup

/-- Closes all that is open in a part of a table. -/
def clearToTableBody (b : Builder) : Builder :=
  b.popTo ["tbody", "tfoot", "thead", "template", "html"]

/-- A part of a table outside its rows. -/
def inTableBody (b : Builder) (token : Token) : Step :=
  let leave :=
    if b.hasAnyInScope isTableBoundary ["table", "tbody", "tfoot"] then
      b.clearToTableBody.pop.againIn .inTable
    else .done b
  match token with
  | .startTag t =>
    if t.isIn ["tr"] then .done ((b.clearToTableBody.insertElement t).switchTo .inRow)
    else if t.isIn ["th", "td"] then (b.clearToTableBody.insertImplied "tr").againIn .inRow
    else if t.isIn ["caption", "col", "colgroup", "tbody", "tfoot", "thead"] then leave
    else b.inTable token
  | .endTag t =>
    if t.isIn ["tbody", "tfoot", "thead"] then
      if b.hasInScope isTableBoundary t.name then .done (b.clearToTableBody.pop.switchTo .inTable)
      else .done b
    else if t.isIn ["table"] then leave
    else if t.isIn ["body", "caption", "col", "colgroup", "html", "td", "th", "tr"] then .done b
    else b.inTable token
  | _ => b.inTable token

/-- Closes a row and goes back to its part of the table. -/
def leaveRow (b : Builder) : Builder :=
  (b.popTo ["tr", "template", "html"]).pop.switchTo .inTableBody

/-- A row of a table outside its cells. -/
def inRow (b : Builder) (token : Token) : Step :=
  let isOpen := b.hasInScope isTableBoundary "tr"
  match token with
  | .startTag t =>
    if t.isIn ["th", "td"] then
      .done (((b.popTo ["tr", "template", "html"]).insertElement t).mark.switchTo .inCell)
    else if t.isIn ["caption", "col", "colgroup", "tbody", "tfoot", "thead", "tr"] then
      if isOpen then .again b.leaveRow else .done b
    else b.inTable token
  | .endTag t =>
    if t.isIn ["tr"] then .done (if isOpen then b.leaveRow else b)
    else if t.isIn ["table"] then if isOpen then .again b.leaveRow else .done b
    else if t.isIn ["tbody", "tfoot", "thead"] then
      if b.hasInScope isTableBoundary t.name && isOpen then .again b.leaveRow else .done b
    else if t.isIn ["body", "caption", "col", "colgroup", "html", "td", "th"] then .done b
    else b.inTable token
  | _ => b.inTable token

/-- Closes the open cell. -/
def closeCell (b : Builder) : Builder :=
  ((b.closeImplied impliedEnds).popThroughAny ["td", "th"]).clearToMarker

/-- A cell of a table. -/
def inCell (b : Builder) (token : Token) : Step :=
  match token with
  | .startTag t =>
    if t.isIn ["caption", "col", "colgroup", "tbody", "td", "tfoot", "th", "thead", "tr"] then
      if b.hasAnyInScope isTableBoundary ["td", "th"] then b.closeCell.againIn .inRow else .done b
    else b.inBody token
  | .endTag t =>
    if t.isIn ["td", "th"] then
      if b.hasInScope isTableBoundary t.name then
        .done ((((b.closeImplied impliedEnds).popThrough t.name).clearToMarker).switchTo .inRow)
      else .done b
    else if t.isIn ["body", "caption", "col", "colgroup", "html"] then .done b
    else if t.isIn ["table", "tbody", "tfoot", "thead", "tr"] then
      if b.hasInScope isTableBoundary t.name then b.closeCell.againIn .inRow else .done b
    else b.inBody token
  | _ => b.inBody token

/-! ### Selection lists -/

/-- Closes the innermost element if it is the named one. -/
def popIf (b : Builder) (name : Text) : Builder := if b.currentIs name then b.pop else b

/-- Closes the selection list. -/
def leaveSelect (b : Builder) : Builder := (b.popThrough "select").resetMode

/-- The end tag of a group of options, which also ends the option before it. -/
def endOptionGroup (b : Builder) : Builder :=
  let groupIsNext := (b.stack.drop 1).head?.any fun o => o.elem.isHtml "optgroup"
  (if groupIsNext then b.popIf "option" else b).popIf "optgroup"

/-- A selection list. -/
def inSelect (b : Builder) : Token → Step
  | .text t => .done (b.insertText t)
  | .comment t => .done (b.insertComment t)
  | .doctype _ | .null => .done b
  | .eof => b.inBody .eof
  | .startTag t =>
    if t.isIn ["html"] then .done (b.mergeRoot t)
    else if t.isIn ["option"] then .done ((b.popIf "option").insertElement t)
    else if t.isIn ["optgroup"] then
      .done (((b.popIf "option").popIf "optgroup").insertElement t)
    else if t.isIn ["hr"] then .done (((b.popIf "option").popIf "optgroup").insertVoid t)
    else if t.isIn ["select"] then
      .done (if b.hasInScope isSelectBoundary "select" then b.leaveSelect else b)
    else if t.isIn ["input", "keygen", "textarea"] then
      if b.hasInScope isSelectBoundary "select" then .again b.leaveSelect else .done b
    else if t.isIn ["script", "template"] then .done (b.startInHead t)
    else .done b
  | .endTag t =>
    if t.isIn ["optgroup"] then .done b.endOptionGroup
    else if t.isIn ["option"] then .done (b.popIf "option")
    else if t.isIn ["select"] then
      .done (if b.hasInScope isSelectBoundary "select" then b.leaveSelect else b)
    else if t.isIn ["template"] then .done b.endTemplate
    else .done b

/-- The parts of a table, which end a selection list in it. -/
def tableParts : List Text := ["caption", "table", "tbody", "tfoot", "thead", "tr", "td", "th"]

/-- A selection list in a table. -/
def inSelectInTable (b : Builder) (token : Token) : Step :=
  match token with
  | .startTag t => if t.isIn tableParts then .again b.leaveSelect else b.inSelect token
  | .endTag t =>
    if t.isIn tableParts then
      if b.hasInScope isTableBoundary t.name then .again b.leaveSelect else .done b
    else b.inSelect token
  | _ => b.inSelect token

/-! ### Templates -/

/-- Goes on in a template as in another mode. -/
def templateIn (b : Builder) (m : Mode) : Step :=
  .again { b with templateModes := m :: b.templateModes.drop 1, mode := m }

/-- A template before its first telling element. -/
def inTemplate (b : Builder) (token : Token) : Step :=
  match token with
  | .text _ | .comment _ => b.inBody token
  | .doctype _ | .null => .done b
  | .eof => b.endOfTemplates
  | .startTag t =>
    if t.isIn headTags then .done (b.startInHead t)
    else if t.isIn ["caption", "colgroup", "tbody", "tfoot", "thead"] then b.templateIn .inTable
    else if t.isIn ["col"] then b.templateIn .inColumnGroup
    else if t.isIn ["tr"] then b.templateIn .inTableBody
    else if t.isIn ["td", "th"] then b.templateIn .inRow
    else b.templateIn .inBody
  | .endTag t => .done (if t.isIn ["template"] then b.endTemplate else b)

end AccessLint.Html.Builder
