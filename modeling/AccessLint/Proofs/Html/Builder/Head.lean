import AccessLint.Html.Builder.Head
import AccessLint.Proofs.Html.Builder.Formatting

namespace AccessLint.Html.Builder.Sound

/-!
# Foreign content and the modes around the body are sound

* `startForeign`, `leaveForeign` — drawings and formulas;
* `startTemplate`, `endTemplate`, `endOfTemplates` — templates;
* `inInitial`, `inBeforeHtml`, `inBeforeHead`, `inHead`, `inAfterHead` — the modes up to the body;
* `inFrameset`, `inAfterFrameset` — the modes of a page without a body.
-/

variable {S : Stock} {base : Tree} {b : Builder}

/-! ### Foreign content -/

/-- An element of a vocabulary has the name of its tag or the spelling of it in `svgNames`; these
    are the elements that `Stock.Makes.foreign` allows. -/
theorem insertForeign (h : Sound S base b) (space : Space) {name : Text} {t : Tag}
    (ht : S.tags t) (hname : name = t.name ∨ name = spelling svgNames t.name) :
    Sound S base (b.insertForeign space name t) := by
  have hopen := h.openElement (.foreign space name t ht hname)
  exact ite hopen.pop hopen

/-- A start tag in foreign content opens an element of the vocabulary of the current element, in the
    spelling of that vocabulary (`spelling`). -/
theorem startForeign (h : Sound S base b) {t : Tag} (ht : S.tags t) :
    Sound S base (b.startForeign t) := by
  unfold Builder.startForeign
  split
  · exact h
  · next o _ =>
    -- only the names of drawings have a spelling of their own
    refine h.insertForeign o.elem.space ht ?_
    split
    · exact Or.inr rfl
    · exact Or.inl rfl

theorem leaveForeign (h : Sound S base b) : Sound S base b.leaveForeign :=
  h.restack fun _ ho => (List.dropWhile_sublist _).mem ho

/-! ### Templates -/

/-- With `mergeRoot` a second start tag of the page adds the attributes that the first one lacks,
    unless a template is open. -/
theorem mergeRoot (h : Sound S base b) (t : Tag) : Sound S base (b.mergeRoot t) := by
  unfold Builder.mergeRoot page?
  split
  · next id hid =>
    -- the last open element gets the attributes, if it is the one of the page
    split at hid
    · next o ho =>
      split at hid
      · next hname =>
        rw [← Option.some.inj hid]
        exact ite h (h.mergeAt (List.mem_of_getLast? ho) hname (Or.inl rfl) _)
      · exact absurd hid (by simp)
    · exact absurd hid (by simp)
  · exact h

/-- A template is opened, unless it declares a shadow root, with a marker in the list of formatting
    elements. -/
theorem startTemplate (h : Sound S base b) {t : Tag} (ht : S.tags t) :
    Sound S base (b.startTemplate t) :=
  mark (ite h (h.insertElement ht))

theorem leaveTemplate (h : Sound S base b) : Sound S base b.leaveTemplate := h.clearToMarker

/-- The end tag of a template closes it, with its entries in the list (`clearToMarker`) and its
    mode. -/
theorem endTemplate (h : Sound S base b) : Sound S base b.endTemplate :=
  ite ((h.closeImplied _).popThrough _).leaveTemplate h

theorem endOfTemplates (h : Sound S base b) : b.endOfTemplates.Sound S base :=
  stepIte (h.popThrough _).leaveTemplate h

/-! ### The head -/

/-- The start tags of the head keep a builder sound: each one opens the element of the tag or is
    ignored. -/
theorem startInHead (h : Sound S base b) {t : Tag} (ht : S.tags t) :
    Sound S base (b.startInHead t) := by
  unfold Builder.startInHead
  refine ite (h.insertVoid ht) ?_
  refine ite (h.enterText ht _) ?_
  refine ite (h.enterText ht _) ?_
  refine ite (h.enterText ht _) ?_
  exact ite (h.startTemplate ht) h

theorem leaveHead (h : Sound S base b) : b.leaveHead.Sound S base := h.pop

/-- **A token in the head** keeps a builder sound. What is not of the head closes it and is looked
    at again. -/
theorem inHead (h : Sound S base b) {t : Token} (ht : S.Allows t) :
    (b.inHead t).Sound S base := by
  cases t with
  | text t => exact stepIte (h.insertText t) h.leaveHead
  | comment t => exact h.insertComment t
  | doctype d => exact h
  | startTag t =>
    refine stepIte (h.mergeRoot t) ?_
    refine stepIte (h.startInHead ht) ?_
    exact stepIte h h.leaveHead
  | endTag t =>
    refine stepIte h.pop ?_
    refine stepIte h.leaveHead ?_
    exact stepIte h.endTemplate h
  | null => exact h.leaveHead
  | eof => exact h.leaveHead

/-! ### Around the head -/

/-- Before the page only a comment makes a node; space is dropped, and any other token is looked at
    again. -/
theorem inInitial (h : Sound S base b) (t : Token) : (b.inInitial t).Sound S base := by
  cases t with
  | text t => exact stepIte h h
  | comment t => exact h.addComment h.linked.root_lt t
  | _ => exact h

/-- Before the page its element is opened, with its tag or without (`insertImplied`). -/
theorem inBeforeHtml (h : Sound S base b) {t : Token} (ht : S.Allows t) :
    (b.inBeforeHtml t).Sound S base := by
  have himplied : Sound S base (b.insertImplied "html") := h.insertImplied (by decide)
  cases t with
  | text t => exact stepIte h himplied
  | comment t => exact h.addComment h.linked.root_lt t
  | startTag t => exact stepIte (h.insertElement ht) himplied
  | endTag t => exact stepIte himplied h
  | doctype d => exact h
  | null => exact himplied
  | eof => exact himplied

theorem openHead (h : Sound S base b) {t : Tag} (ht : S.tags t) : Sound S base (b.openHead t) :=
  (h.insertElement ht).rehead (h.element?_openElement (.markup t ht))

/-- Before the head its element is opened, with its tag or without, and noted as the head
    (`openHead`). -/
theorem inBeforeHead (h : Sound S base b) {t : Token} (ht : S.Allows t) :
    (b.inBeforeHead t).Sound S base := by
  have himplied : Sound S base (b.openHead (Tag.plain "head")) :=
    h.openHead (S.plain _ (by decide))
  cases t with
  | text t => exact stepIte h himplied
  | comment t => exact h.insertComment t
  | startTag t => exact stepIte (h.mergeRoot t) (stepIte (h.openHead ht) himplied)
  | endTag t => exact stepIte himplied h
  | doctype d => exact h
  | null => exact himplied
  | eof => exact himplied

/-- A body without a tag is opened with the plain tag of its name, and the token is looked at
    again. -/
theorem impliedBody (h : Sound S base b) : b.impliedBody.Sound S base := by
  have hbody : Sound S base (b.insertImplied "body") := h.insertImplied (by decide)
  exact hbody

/-- The head is opened once more for one tag: it is an element of the tree, as `Facts` says of the
    head. -/
theorem startBackInHead (h : Sound S base b) {t : Tag} (ht : S.tags t) :
    Sound S base (b.startBackInHead t) := by
  unfold Builder.startBackInHead
  split
  · exact h
  · next id hid =>
    obtain ⟨e, he⟩ := h.isHead id hid
    -- the head is pushed for one tag and closed again, wherever it is then
    dsimp only
    rw [he]
    exact ((h.push ⟨e, he, .refl e⟩).startInHead ht).close id

/-- After the head the body is opened, with its tag or without, or a set of frames. -/
theorem inAfterHead (h : Sound S base b) {t : Token} (ht : S.Allows t) :
    (b.inAfterHead t).Sound S base := by
  cases t with
  | text t => exact stepIte (h.insertText t) h.impliedBody
  | comment t => exact h.insertComment t
  | doctype d => exact h
  | startTag t =>
    refine stepIte (h.mergeRoot t) ?_
    refine stepIte (h.insertElement ht) ?_
    refine stepIte (h.insertElement ht) ?_
    refine stepIte (h.startBackInHead ht) ?_
    exact stepIte h h.impliedBody
  | endTag t =>
    refine stepIte h.endTemplate ?_
    exact stepIte h.impliedBody h
  | null => exact h.impliedBody
  | eof => exact h.impliedBody

/-! ### Pages of frames -/

/-- In a set of frames its parts are opened and closed; any other text than space is left out. -/
theorem inFrameset (h : Sound S base b) {t : Token} (ht : S.Allows t) :
    (b.inFrameset t).Sound S base := by
  cases t with
  | text t => exact ite (h.insertText t) h
  | comment t => exact h.insertComment t
  | startTag t =>
    refine stepIte (h.mergeRoot t) ?_
    refine stepIte (h.insertElement ht) ?_
    refine stepIte (h.insertVoid ht) ?_
    exact stepIte (h.startInHead ht) h
  | endTag t => exact stepIte (ite h.pop h.pop) h
  | doctype d => exact h
  | null => exact h
  | eof => exact h

/-- After the frames nothing is opened but what is shown without frames. -/
theorem inAfterFrameset (h : Sound S base b) {t : Token} (ht : S.Allows t) :
    (b.inAfterFrameset t).Sound S base := by
  cases t with
  | text t => exact ite (h.insertText t) h
  | comment t => exact h.insertComment t
  | startTag t => exact stepIte (h.mergeRoot t) (stepIte (h.startInHead ht) h)
  | endTag t => exact ite h h
  | doctype d => exact h
  | null => exact h
  | eof => exact h

end AccessLint.Html.Builder.Sound
