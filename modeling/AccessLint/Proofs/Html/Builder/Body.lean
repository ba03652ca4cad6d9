import AccessLint.Html.Builder.Body
import AccessLint.Proofs.Html.Builder.Head

namespace AccessLint.Html.Builder.Sound

/-!
# The modes of the body are sound

* `startInBody` — a start tag of the body, case by case;
* `endInBody` — an end tag of the body;
* `inBody`, `inAfterBody`, `inAfterAfterBody`, `inAfterAfterFrameset` — the modes.
-/

variable {S : Stock} {base : Tree} {b : Builder}

/-- `keepsBody` notes that the page keeps its body, and changes neither the tree nor what is
    open. -/
theorem keepsBody (h : Sound S base b) : Sound S base b.keepsBody := h

theorem skipNewline (h : Sound S base b) : Sound S base b.skipNewline := h

/-! ### Start tags -/

/-- The body that `body?` gives is an open element, so it can get attributes. -/
theorem mem_of_body? {id : NodeId} (h : b.body? = some id) :
    ∃ o ∈ b.stack, o.elem.isHtml "body" = true ∧ o.id = id := by
  unfold body? at h
  split at h
  · next o _ hstack =>
    split at h
    · next hname =>
      refine ⟨o, ?_, hname, Option.some.inj h⟩
      -- it is the second of the open elements, counted from the page
      rw [← List.mem_reverse, hstack]
      exact List.mem_cons_of_mem _ List.mem_cons_self
    · exact absurd h (by simp)
  · exact absurd h (by simp)

/-- A second start tag of the body only adds attributes (`Tree.addMissingAttrs`) that the first one
    lacks. -/
theorem mergeBody (h : Sound S base b) (t : Tag) : Sound S base (b.mergeBody t) := by
  unfold Builder.mergeBody
  split
  · next id hid =>
    obtain ⟨o, ho, hname, rfl⟩ := mem_of_body? hid
    exact ite h (h.mergeAt ho hname (Or.inr rfl) _)
  · exact h

/-- With `replaceBody` the body is detached with all below it and a set of frames is opened in its
    place; the detached nodes stay elements of the tree. -/
theorem replaceBody (h : Sound S base b) {t : Tag} (ht : S.tags t) :
    Sound S base (b.replaceBody t) := by
  unfold Builder.replaceBody
  refine ite h ?_
  split
  · exact h
  · next id _ =>
    -- the old body is taken out of the tree, but stays a node
    have hcleared : Sound S base { b with
        tree := b.tree.detach id
        stack := (b.stack.getLast?).toList } := by
      refine (h.detach id).restack fun o ho => ?_
      exact List.mem_of_getLast? (Option.mem_toList.mp ho)
    exact hcleared.insertElement ht

/-- An item of a list ends the one before it (`itemToEnd?`) and the paragraph around it, and is
    opened then. -/
theorem startItem (h : Sound S base b) {t : Tag} (ht : S.tags t) :
    Sound S base (b.startItem t) := by
  unfold Builder.startItem
  dsimp only
  refine (endParagraph ?_).insertElement ht
  split
  · exact (h.keepsBody.closeImpliedBut _).popThrough _
  · exact h.keepsBody

/-- A form is opened and kept as the form of the page, unless there is one. In a template it is
    opened in any case, and not kept. -/
theorem startForm (h : Sound S base b) {t : Tag} (ht : S.tags t) :
    Sound S base (b.startForm t) :=
  ite h (h.endParagraph.insertElement ht)

/-- `startButton` closes the button in scope, since buttons do not nest. -/
theorem startButton (h : Sound S base b) {t : Tag} (ht : S.tags t) :
    Sound S base (b.startButton t) := by
  have hended : Sound S base (if b.hasInScope isScopeBoundary "button" then
      (b.closeImplied impliedEnds).popThrough "button" else b) :=
    ite ((h.closeImplied _).popThrough _) h
  exact hended.reopenFormatting.insertElement ht

/-- A link first ends the one in the list of formatting elements, with the rules for misnested
    elements (`endFormatting`), and is a formatting element itself. -/
theorem startLink (h : Sound S base b) {t : Tag} (ht : S.tags t) :
    Sound S base (b.startLink t) := by
  unfold Builder.startLink
  dsimp only
  refine (reopenFormatting ?_).insertFormatting ht
  split
  · exact ((h.endFormatting _).forget _).close _
  · exact h

/-- Unbreakable text ends the one in scope first, in the way of `startLink`. -/
theorem startUnbreakable (h : Sound S base b) {t : Tag} (ht : S.tags t) :
    Sound S base (b.startUnbreakable t) := by
  have hopen := h.reopenFormatting
  exact insertFormatting (ite (hopen.endFormatting _).reopenFormatting hopen) ht

/-- An element without content in running text reopens the formatting elements around it
    (`reopenFormatting`), since it counts as content. -/
theorem startVoid (h : Sound S base b) {t : Tag} (ht : S.tags t) :
    Sound S base (b.startVoid t) := by
  have hinserted := h.reopenFormatting.insertVoid ht
  exact ite hinserted hinserted.keepsBody

/-- A selection list is opened like any other element; the mode depends on the open elements. -/
theorem startSelect (h : Sound S base b) {t : Tag} (ht : S.tags t) :
    Sound S base (b.startSelect t) := by
  have hinserted := (h.reopenFormatting.insertElement ht).keepsBody
  unfold Builder.startSelect
  dsimp only
  split <;> exact hinserted.switchTo _

/-- A table ends the paragraph that it stands in, but not on a page of an old type. -/
theorem startTable (h : Sound S base b) {t : Tag} (ht : S.tags t) :
    Sound S base (b.startTable t) :=
  insertElement (ite h h.endParagraph) ht

/-- **A start tag in the body** keeps a builder sound, in each group of `startInBody`. The end of a
    group is closing something, opening the element or both. -/
theorem startInBody (h : Sound S base b) {t : Tag} (ht : S.tags t) :
    Sound S base (b.startInBody t) := by
  unfold Builder.startInBody
  -- the groups of start tags in their order, from the page itself to all other elements
  refine ite (h.mergeRoot t) ?_
  refine ite (h.startInHead ht) ?_
  refine ite (h.mergeBody t) ?_
  refine ite (h.replaceBody ht) ?_
  refine ite (h.endParagraph.insertElement ht) ?_
  refine ite (insertElement (ite h.endParagraph.pop h.endParagraph) ht) ?_
  refine ite (h.endParagraph.insertElement ht).skipNewline.keepsBody ?_
  refine ite (h.startForm ht) ?_
  refine ite (h.startItem ht) ?_
  refine ite (h.endParagraph.insertElement ht) ?_
  refine ite (h.startButton ht) ?_
  refine ite (h.startLink ht) ?_
  refine ite (h.reopenFormatting.insertFormatting ht) ?_
  refine ite (h.startUnbreakable ht) ?_
  refine ite (h.reopenFormatting.insertElement ht).mark.keepsBody ?_
  refine ite (h.startTable ht) ?_
  refine ite (h.startVoid ht) ?_
  refine ite (h.insertVoid ht) ?_
  refine ite (h.endParagraph.insertVoid ht).keepsBody ?_
  refine ite (h.startVoid (S.image t ht)) ?_
  refine ite (h.skipNewline.keepsBody.enterText ht _) ?_
  refine ite (h.endParagraph.reopenFormatting.keepsBody.enterText ht _) ?_
  refine ite (h.keepsBody.enterText ht _) ?_
  refine ite (h.enterText ht _) ?_
  refine ite (h.startSelect ht) ?_
  refine ite ((reopenFormatting (ite h.pop h)).insertElement ht) ?_
  refine ite (insertElement (ite (h.closeImplied _) h) ht) ?_
  refine ite (insertElement (ite (h.closeImpliedBut _) h) ht) ?_
  refine ite (h.insertForeign _ ht (Or.inl rfl)) ?_
  refine ite (h.insertForeign _ ht (Or.inl rfl)) ?_
  exact ite h (h.reopenFormatting.insertElement ht)

/-! ### End tags -/

/-- `endScoped` closes an element with what is left open inside, or nothing if the element is not in
    scope. -/
theorem endScoped (h : Sound S base b) (boundary : Element → Bool) (name : Text) :
    Sound S base (b.endScoped boundary name) :=
  ite ((h.closeImplied _).popThrough _) h

/-- The end tag of a form closes it as other blocks are closed in a template. Elsewhere the form is
    forgotten, and closed even out of turn. -/
theorem endForm (h : Sound S base b) : Sound S base b.endForm := by
  unfold Builder.endForm
  refine ite (h.endScoped _ _) ?_
  split
  · exact h
  · next id _ =>
    have hnone : Sound S base { b with form := none } := h
    exact ite ((hnone.closeImplied _).close id) hnone

theorem endItem (h : Sound S base b) (name : Text) : Sound S base (b.endItem name) :=
  ite ((h.closeImpliedBut _).popThrough _) h

/-- The end tag of a heading closes a heading of any level, with what is left open inside. -/
theorem endHeading (h : Sound S base b) : Sound S base b.endHeading :=
  ite ((h.closeImplied _).popThroughAny _) h

/-- The end tag `br` stands for a start tag: its element is one of `impliedNames`. -/
theorem startBreak (h : Sound S base b) : Sound S base (b.startVoid (Tag.plain "br")) :=
  h.startVoid (S.plain _ (by decide))

/-- An end tag in the body closes elements, or moves the blocks inside a formatting element out
    (`endFormatting`). Two of them, `p` and `br`, open an element that was not there. -/
theorem endInBody (h : Sound S base b) (t : Tag) : Sound S base (b.endInBody t) := by
  have hparagraph : Sound S base (b.insertImplied "p") := h.insertImplied (by decide)
  unfold Builder.endInBody
  -- the groups of end tags in their order; a stray one of a paragraph opens it first
  refine ite h.endTemplate ?_
  refine ite (ite h h) ?_
  refine ite (h.endScoped _ _) ?_
  refine ite h.endForm ?_
  refine ite (closeParagraph (ite h hparagraph)) ?_
  refine ite (h.endItem _) ?_
  refine ite h.endHeading ?_
  refine ite (h.endFormatting _) ?_
  refine ite (ite ((h.closeImplied _).popThrough _).clearToMarker h) ?_
  exact ite h.startBreak (h.endOther _)

/-! ### The modes -/

/-- Text reopens the formatting elements that were closed too early, and is added then. -/
theorem textInBody (h : Sound S base b) (t : Text) : Sound S base (b.textInBody t) := by
  have hopen := h.reopenFormatting
  exact insertText (ite hopen hopen.keepsBody) t

/-- **A token in the body** keeps a builder sound, whether its element is put in place or before a
    table. -/
theorem inBody (h : Sound S base b) {t : Token} (ht : S.Allows t) :
    (b.inBody t).Sound S base := by
  cases t with
  | text t => exact h.textInBody t
  | comment t => exact h.insertComment t
  | startTag t => exact h.startInBody ht
  | endTag t => exact stepIte (stepIte h h) (h.endInBody t)
  | eof => exact stepIte h h.endOfTemplates
  | doctype d => exact h
  | null => exact h

/-- After the body a comment goes to the end of the root element; what else is added is added as in
    the body. -/
theorem inAfterBody (h : Sound S base b) (t : Token) : (b.inAfterBody t).Sound S base := by
  cases t with
  | text t => exact stepIte (h.textInBody t) h
  | comment t => exact h.addComment h.rootElement_lt t
  | startTag t => exact stepIte (h.mergeRoot t) h
  | endTag t => exact stepIte h h
  | _ => exact h

/-- After the page a comment goes to the end of the document. -/
theorem inAfterAfterBody (h : Sound S base b) (t : Token) :
    (b.inAfterAfterBody t).Sound S base := by
  cases t with
  | text t => exact stepIte (h.textInBody t) h
  | comment t => exact h.addComment h.linked.root_lt t
  | startTag t => exact stepIte (h.mergeRoot t) h
  | _ => exact h

/-- After a page of frames only comments and the text for browsers without frames are still
    added. -/
theorem inAfterAfterFrameset (h : Sound S base b) {t : Token} (ht : S.Allows t) :
    (b.inAfterAfterFrameset t).Sound S base := by
  cases t with
  | text t => exact ite (h.textInBody t) h
  | comment t => exact h.addComment h.linked.root_lt t
  | startTag t => exact stepIte (h.mergeRoot t) (stepIte (h.startInHead ht) h)
  | _ => exact h

end AccessLint.Html.Builder.Sound
