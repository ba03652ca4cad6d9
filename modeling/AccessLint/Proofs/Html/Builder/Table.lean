import AccessLint.Html.Builder.Table
import AccessLint.Proofs.Html.Builder.Body

namespace AccessLint.Html.Builder.Sound

/-!
# The modes of tables, selection lists and templates are sound

* `inTable`, `inTableText`, `inCaption`, `inColumnGroup`, `inTableBody`, `inRow`, `inCell` — the
  parts of a table;
* `inSelect`, `inSelectInTable` — selection lists;
* `inTemplate` — templates.
-/

variable {S : Stock} {base : Tree} {b : Builder}

/-! ### Tables -/

/-- What is fostered is handled as in the body (`inBody`), with the note that content goes before
    the table. -/
theorem fostered (h : Sound S base b) {t : Token} (ht : S.Allows t) :
    (b.fostered t).Sound S base := by
  -- the invariant does not mention where nodes are put, so the flag can be set and reset
  have hbody : (Builder.inBody { b with fostering := true } t).Sound S base :=
    inBody (b := { b with fostering := true }) h ht
  unfold Builder.fostered
  split
  · next heq =>
    rw [heq] at hbody
    exact hbody
  · next heq =>
    rw [heq] at hbody
    exact hbody

/-- Text in a table is held back, which is no change of the tree. -/
theorem textInTable (h : Sound S base b) {t : Token} (ht : S.Allows t) :
    (b.textInTable t).Sound S base :=
  stepIte h (h.fostered ht)

/-- **A token in a table** keeps a builder sound: parts are opened after what is open in them is
    closed, and what does not belong there is fostered. -/
theorem inTable (h : Sound S base b) {t : Token} (ht : S.Allows t) :
    (b.inTable t).Sound S base := by
  have hcleared : Sound S base (b.popTo ["html", "table", "template"]) := h.popTo _
  have hcolumns : Sound S base ((b.popTo ["html", "table", "template"]).insertImplied "colgroup") :=
    hcleared.insertImplied (by decide)
  have hrows : Sound S base ((b.popTo ["html", "table", "template"]).insertImplied "tbody") :=
    hcleared.insertImplied (by decide)
  have hclosed : Sound S base (b.popThrough "table").resetMode := (h.popThrough _).resetMode
  cases t with
  | text t => exact h.textInTable ht
  | null => exact h.textInTable ht
  | comment t => exact h.insertComment t
  | doctype d => exact h
  | eof => exact h.inBody ht
  | startTag t =>
    -- captions, column groups, columns, bodies and rows of the table come first, …
    refine stepIte (hcleared.mark.insertElement ht) ?_
    refine stepIte (hcleared.insertElement ht) ?_
    refine stepIte hcolumns ?_
    refine stepIte (hcleared.insertElement ht) ?_
    refine stepIte hrows ?_
    -- … then another table, which closes this one, and what a table may hold besides
    refine stepIte (stepIte hclosed h) ?_
    refine stepIte (h.startInHead ht) ?_
    refine stepIte (h.insertVoid ht) ?_
    exact stepIte (stepIte h (h.insertVoid ht)) (h.fostered ht)
  | endTag t =>
    refine stepIte (stepIte hclosed h) ?_
    refine stepIte h ?_
    exact stepIte h.endTemplate (h.fostered ht)

/-- Texts that are added one after the other, by induction on the list. -/
theorem foldl_insertText (h : Sound S base b) (ts : List Text) :
    Sound S base (ts.foldl Builder.insertText b) := by
  induction ts generalizing b with
  | nil => exact h
  | cons t ts ih => exact ih (h.insertText t)

theorem foldl_textInBody (h : Sound S base b) (ts : List Text) :
    Sound S base (ts.foldl Builder.textInBody b) := by
  induction ts generalizing b with
  | nil => exact h
  | cons t ts ih => exact ih (h.textInBody t)

/-- By `releaseText` the text that was held back is added in the table if it is all space, and
    before the table if not. -/
theorem releaseText (h : Sound S base b) : Sound S base b.releaseText := by
  -- blank text stays in the table, all other text goes before it
  have hcleared : Sound S base { b with pendingText := [] } := h
  have hfostering : Sound S base { b with pendingText := [], fostering := true } := h
  exact ite (hcleared.foldl_insertText _) (hfostering.foldl_textInBody _)

/-- Any token other than text first releases the text that was held back. -/
theorem inTableText (h : Sound S base b) (t : Token) : (b.inTableText t).Sound S base := by
  cases t with
  | text t => exact h
  | null => exact h
  | _ => exact h.releaseText

/-- A caption ends with its table or another part of it; all else in it is as in the body. -/
theorem inCaption (h : Sound S base b) {t : Token} (ht : S.Allows t) :
    (b.inCaption t).Sound S base := by
  have hclosed : Sound S base ((b.closeImplied impliedEnds).popThrough "caption").clearToMarker :=
    ((h.closeImplied _).popThrough _).clearToMarker
  cases t with
  | startTag t => exact stepIte (stepIte hclosed h) (h.inBody ht)
  | endTag t =>
    refine stepIte (ite hclosed h) ?_
    refine stepIte (stepIte hclosed h) ?_
    exact stepIte h (h.inBody ht)
  | _ => exact h.inBody ht

/-- A group of columns ends only where it is the innermost element. -/
theorem leaveColumnGroup (h : Sound S base b) : b.leaveColumnGroup.Sound S base :=
  stepIte h.pop h

/-- In a group of columns there are columns, templates and space; any other token ends the group. -/
theorem inColumnGroup (h : Sound S base b) {t : Token} (ht : S.Allows t) :
    (b.inColumnGroup t).Sound S base := by
  cases t with
  | text t => exact stepIte (h.insertText t) h.leaveColumnGroup
  | comment t => exact h.insertComment t
  | doctype d => exact h
  | eof => exact h.inBody ht
  | startTag t =>
    refine stepIte (h.mergeRoot t) ?_
    refine stepIte (h.insertVoid ht) ?_
    exact stepIte (h.startInHead ht) h.leaveColumnGroup
  | endTag t =>
    refine stepIte (ite h.pop h) ?_
    refine stepIte h ?_
    exact stepIte h.endTemplate h.leaveColumnGroup
  | null => exact h.leaveColumnGroup

theorem clearToTableBody (h : Sound S base b) : Sound S base b.clearToTableBody := h.popTo _

/-- Between the rows of a table a cell opens its row first, with the plain tag that every stock
    has. -/
theorem inTableBody (h : Sound S base b) {t : Token} (ht : S.Allows t) :
    (b.inTableBody t).Sound S base := by
  have hcleared := h.clearToTableBody
  have hrow : Sound S base (b.clearToTableBody.insertImplied "tr") :=
    hcleared.insertImplied (by decide)
  have hleft : Step.Sound S base
      (if b.hasAnyInScope isTableBoundary ["table", "tbody", "tfoot"] then
        b.clearToTableBody.pop.againIn .inTable else .done b) :=
    stepIte hcleared.pop h
  cases t with
  | startTag t =>
    refine stepIte (hcleared.insertElement ht) ?_
    refine stepIte hrow ?_
    exact stepIte hleft (h.inTable ht)
  | endTag t =>
    refine stepIte (stepIte hcleared.pop h) ?_
    refine stepIte hleft ?_
    exact stepIte h (h.inTable ht)
  | _ => exact h.inTable ht

theorem leaveRow (h : Sound S base b) : Sound S base b.leaveRow := (h.popTo _).pop

/-- In a row the cells are opened; other parts of the table end the row. -/
theorem inRow (h : Sound S base b) {t : Token} (ht : S.Allows t) :
    (b.inRow t).Sound S base := by
  cases t with
  | startTag t =>
    refine stepIte ((h.popTo _).insertElement ht).mark ?_
    exact stepIte (stepIte h.leaveRow h) (h.inTable ht)
  | endTag t =>
    refine stepIte (ite h.leaveRow h) ?_
    refine stepIte (stepIte h.leaveRow h) ?_
    refine stepIte (stepIte h.leaveRow h) ?_
    exact stepIte h (h.inTable ht)
  | _ => exact h.inTable ht

theorem closeCell (h : Sound S base b) : Sound S base b.closeCell :=
  ((h.closeImplied _).popThroughAny _).clearToMarker

/-- In a cell all is as in the body, until a part of the table or an end tag closes the cell. -/
theorem inCell (h : Sound S base b) {t : Token} (ht : S.Allows t) :
    (b.inCell t).Sound S base := by
  cases t with
  | startTag t => exact stepIte (stepIte h.closeCell h) (h.inBody ht)
  | endTag t =>
    refine stepIte (stepIte ((h.closeImplied _).popThrough _).clearToMarker h) ?_
    refine stepIte h ?_
    exact stepIte (stepIte h.closeCell h) (h.inBody ht)
  | _ => exact h.inBody ht

/-! ### Selection lists -/

theorem popIf (h : Sound S base b) (name : Text) : Sound S base (b.popIf name) := ite h.pop h

/-- A selection list is closed, and the open elements tell the mode. -/
theorem leaveSelect (h : Sound S base b) : Sound S base b.leaveSelect := h.popThrough _

theorem endOptionGroup (h : Sound S base b) : Sound S base b.endOptionGroup :=
  popIf (ite (h.popIf _) h) _

/-- In a selection list options, groups of them and rules are opened, each after the option before
    it is closed. Other start tags end the list, are those of the head, or are ignored. -/
theorem inSelect (h : Sound S base b) {t : Token} (ht : S.Allows t) :
    (b.inSelect t).Sound S base := by
  cases t with
  | text t => exact h.insertText t
  | comment t => exact h.insertComment t
  | doctype d => exact h
  | null => exact h
  | eof => exact h.inBody ht
  | startTag t =>
    -- the root, options and their groups, rules, and what ends the list
    refine stepIte (h.mergeRoot t) ?_
    refine stepIte ((h.popIf _).insertElement ht) ?_
    refine stepIte (((h.popIf _).popIf _).insertElement ht) ?_
    refine stepIte (((h.popIf _).popIf _).insertVoid ht) ?_
    refine stepIte (ite h.leaveSelect h) ?_
    refine stepIte (stepIte h.leaveSelect h) ?_
    exact stepIte (h.startInHead ht) h
  | endTag t =>
    refine stepIte h.endOptionGroup ?_
    refine stepIte (h.popIf _) ?_
    refine stepIte (ite h.leaveSelect h) ?_
    exact stepIte h.endTemplate h

/-- In a table a part of the table ends the selection list, and is looked at again. -/
theorem inSelectInTable (h : Sound S base b) {t : Token} (ht : S.Allows t) :
    (b.inSelectInTable t).Sound S base := by
  cases t with
  | startTag t => exact stepIte h.leaveSelect (h.inSelect ht)
  | endTag t => exact stepIte (stepIte h.leaveSelect h) (h.inSelect ht)
  | _ => exact h.inSelect ht

/-! ### Templates -/

/-- The first telling tag in a template chooses the mode that the template goes on in. -/
theorem inTemplate (h : Sound S base b) {t : Token} (ht : S.Allows t) :
    (b.inTemplate t).Sound S base := by
  have hturned : ∀ m, (b.templateIn m).Sound S base := fun _ => h
  cases t with
  | text t => exact h.inBody ht
  | comment t => exact h.inBody ht
  | doctype d => exact h
  | null => exact h
  | eof => exact h.endOfTemplates
  | startTag t =>
    refine stepIte (h.startInHead ht) ?_
    refine stepIte (hturned _) ?_
    refine stepIte (hturned _) ?_
    refine stepIte (hturned _) ?_
    exact stepIte (hturned _) (hturned _)
  | endTag t => exact ite h.endTemplate h

end AccessLint.Html.Builder.Sound
