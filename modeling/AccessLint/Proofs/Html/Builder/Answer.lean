import AccessLint.Html.Parse
import AccessLint.Proofs.Html.Builder.Basic

namespace AccessLint.Html

/-!
# What a start tag makes

The last look at a start tag creates the element of the tag after all others, or creates nothing.
Elements that the tag implies, and formatting elements that are reopened for it, come before.

* `Tag.Makes` — the elements that are made of a tag;
* `Answers` — either no node is new, or the newest element is made of the tag;
* `Builder.answers_startInBody` and others — the start tags, mode by mode;
* `Builder.answers_step` — the last look at a start tag answers it.
-/

/-- The elements that are made of a tag. -/
inductive Tag.Makes (t : Tag) : Element → Prop
  | markup : t.Makes (Builder.elementOf t)
  | image : t.Makes (Builder.elementOf { t with name := "img" })
  | foreign (space : Space) (name : Text) : t.Makes (Builder.foreignElement space name t)

/-- The newest element of a tree is made of a tag. -/
def Tree.NewestIs (tree : Tree) (t : Tag) : Prop :=
  ∃ i e, tree.element? i = some e ∧ t.Makes e ∧ ∀ j, i < j → tree.element? j = none

/-- What becomes of a builder at a start tag: no node is new, or the newest element is made of
    the tag. -/
def Answers (t : Tag) (b b' : Builder) : Prop :=
  b'.tree.nodes.size = b.tree.nodes.size ∨ b'.tree.NewestIs t

/-- The last look answers the tag. -/
def Step.Answers (t : Tag) (b : Builder) : Step → Prop
  | .done b' => Html.Answers t b b'
  | .again _ => True

namespace Builder

variable {t : Tag} {b b₁ b₂ : Builder}

/-! ### The newest element -/

/-- Beyond the nodes of a tree there is no element, so `Builder.nextId` is free. -/
theorem element?_of_size_le {tree : Tree} {i : NodeId} (h : tree.nodes.size ≤ i) :
    tree.element? i = none := by
  unfold Tree.element?
  rw [Tree.node_of_size_le h]
  rfl

/-- A node that is no element is not the newest element: `Tree.element?` is the same before and
    after it. -/
theorem element?_create_other (tree : Tree) {c : Content} (hc : ∀ e, c ≠ .element e) (i : NodeId) :
    (tree.create c).1.element? i = tree.element? i := by
  -- at the place of the new node there was no element before, and is none now
  by_cases hi : i = tree.nodes.size
  · have hnew : (tree.create c).1.element? i = none := by
      by_contra hne
      obtain ⟨e, he⟩ := Option.ne_none_iff_exists'.mp hne
      rw [Tree.element?_eq_some, Tree.node_create, if_pos hi] at he
      exact hc e he
    rw [hnew, element?_of_size_le (Nat.le_of_eq hi.symm)]
  · apply Tree.element?_congr
    rw [Tree.node_create, if_neg hi]

/-- After an element was opened, it is the newest one. For a template `Builder.create` makes a
    second node, the fragment for its contents, which is no element. -/
theorem element?_openElement (b : Builder) (e : Element) (i : NodeId) :
    (b.openElement e).tree.element? i = if i = b.nextId then some e else b.tree.element? i := by
  have hcreate : (b.tree.create (.element e)).1.element? i =
      if i = b.nextId then some e else b.tree.element? i := by
    by_cases hi : i = b.nextId
    · rw [if_pos hi, hi]
      exact Tree.element?_create_new _ _
    · rw [if_neg hi]
      apply Tree.element?_congr
      exact congrArg Node.content ((Tree.node_create _ _ i).trans (if_neg hi))
  have hput : (b.openElement e).tree.element? i = (b.create e).1.tree.element? i :=
    Tree.element?_congr (content_put _ _ _ _)
  rw [hput, ← hcreate]
  unfold create
  dsimp only
  -- the fragment of a template is created after its element, but is none
  split
  · exact (Tree.element?_congr (Tree.content_append _ _ _ _)).trans
      (element?_create_other _ (by simp) i)
  · rfl

/-- An element that is made of the tag answers it when it is opened, whatever was done before: `b₁`
    may be any builder. -/
theorem answers_openElement (b b₁ : Builder) {e : Element} (he : t.Makes e) :
    Answers t b (b₁.openElement e) := by
  -- whatever was created before for the tag has a smaller number
  refine Or.inr ⟨b₁.nextId, e, ?_, he, ?_⟩
  · rw [element?_openElement, if_pos rfl]
  · intro j hj
    rw [element?_openElement, if_neg (Nat.ne_of_gt hj)]
    exact element?_of_size_le (Nat.le_of_lt hj)

/-- `insertElement` opens the element of the tag itself. -/
theorem answers_insertElement (t : Tag) (b b₁ : Builder) : Answers t b (b₁.insertElement t) :=
  answers_openElement b b₁ .markup

/-- `insertVoid` closes the element again, but it is still the newest one. -/
theorem answers_insertVoid (t : Tag) (b b₁ : Builder) : Answers t b (b₁.insertVoid t) :=
  answers_insertElement t b b₁

theorem answers_enterText (t : Tag) (b b₁ : Builder) (m : TextMode) :
    Answers t b (b₁.enterText t m) :=
  answers_insertElement t b b₁

/-- `insertFormatting` may forget an older entry of its list, which is no change of the tree, and
    opens the element. -/
theorem answers_insertFormatting (t : Tag) (b b₁ : Builder) :
    Answers t b (b₁.insertFormatting t) :=
  answers_insertElement t b _

/-- `insertForeign` opens the element in its vocabulary, and closes it again if the tag closes
    itself. -/
theorem answers_insertForeign (t : Tag) (b b₁ : Builder) (space : Space) (name : Text) :
    Answers t b (b₁.insertForeign space name t) := by
  have hopen := answers_openElement b b₁ (.foreign (t := t) space name)
  unfold insertForeign
  dsimp only
  split
  · exact hopen
  · exact hopen

/-- A start tag that is ignored is answered (`Answers`): nothing is done, so no node is new. -/
theorem answers_refl (t : Tag) (b : Builder) : Answers t b b := Or.inl rfl

/-! ### Conditions -/

/-- `Answers` goes through a condition, so the groups of start tags in a mode are taken one by
    one. -/
theorem answers_ite {c : Prop} [Decidable c] (h₁ : Answers t b b₁) (h₂ : Answers t b b₂) :
    Answers t b (if c then b₁ else b₂) := by
  split
  · exact h₁
  · exact h₂

/-- `Step.Answers` goes through a condition in the same way. -/
theorem step_answers_ite {c : Prop} [Decidable c] {s₁ s₂ : Step} (h₁ : s₁.Answers t b)
    (h₂ : s₂.Answers t b) : (if c then s₁ else s₂).Answers t b := by
  split
  · exact h₁
  · exact h₂

/-! ### The head -/

/-- A second start tag of the page makes no element: `mergeRoot` only adds attributes to the
    first. -/
theorem answers_mergeRoot (t : Tag) (b : Builder) : Answers t b (b.mergeRoot t) := by
  apply Or.inl
  unfold mergeRoot
  split
  · split
    · rfl
    · exact Tree.size_modify _ _ _
  · rfl

theorem answers_startTemplate (t : Tag) (b : Builder) : Answers t b (b.startTemplate t) := by
  unfold startTemplate
  dsimp only
  split
  · exact answers_refl t b
  · exact answers_insertElement t b b

/-- The start tags of the head (`startInHead`): void elements, those that hold text, templates, and
    a second head, which is ignored. -/
theorem answers_startInHead (t : Tag) (b : Builder) : Answers t b (b.startInHead t) := by
  unfold startInHead
  refine answers_ite (answers_insertVoid t b b) ?_
  refine answers_ite (answers_enterText t b b _) ?_
  refine answers_ite (answers_enterText t b b _) ?_
  refine answers_ite (answers_enterText t b b _) ?_
  exact answers_ite (answers_startTemplate t b) (answers_refl t b)

/-- A tag of the head after the head is handled in the head, which is open again for that tag
    only. -/
theorem answers_startBackInHead (t : Tag) (b : Builder) : Answers t b (b.startBackInHead t) := by
  unfold startBackInHead
  split
  · exact answers_refl t b
  · next id _ =>
    exact answers_startInHead t { b with stack := ⟨id, _⟩ :: b.stack }

/-! ### The body -/

/-- A second start tag of the body makes no element: `mergeBody` only adds attributes to the
    first. -/
theorem answers_mergeBody (t : Tag) (b : Builder) : Answers t b (b.mergeBody t) := by
  apply Or.inl
  unfold mergeBody
  split
  · split
    · rfl
    · exact Tree.size_modify _ _ _
  · rfl

/-- With `replaceBody` a set of frames takes the place of the body or is ignored; the nodes of the
    body stay in the tree, detached. -/
theorem answers_replaceBody (t : Tag) (b : Builder) : Answers t b (b.replaceBody t) := by
  unfold replaceBody
  refine answers_ite (answers_refl t b) ?_
  split
  · exact answers_refl t b
  · next id _ =>
    exact answers_insertElement t b
      { b with tree := b.tree.detach id, stack := (b.stack.getLast?).toList }

theorem answers_startItem (t : Tag) (b : Builder) : Answers t b (b.startItem t) :=
  answers_insertElement t b _

theorem answers_startForm (t : Tag) (b : Builder) : Answers t b (b.startForm t) :=
  answers_ite (answers_refl t b) (answers_insertElement t b b.endParagraph)

theorem answers_startButton (t : Tag) (b : Builder) : Answers t b (b.startButton t) :=
  answers_insertElement t b _

theorem answers_startLink (t : Tag) (b : Builder) : Answers t b (b.startLink t) :=
  answers_insertFormatting t b _

theorem answers_startUnbreakable (t : Tag) (b : Builder) : Answers t b (b.startUnbreakable t) :=
  answers_insertFormatting t b _

theorem answers_startVoid (t : Tag) (b : Builder) : Answers t b (b.startVoid t) :=
  answers_ite (answers_insertVoid t b _) (answers_insertVoid t b b.reopenFormatting)

/-- The tag `image` is handled by `startVoid` under the name `img`: the one start tag whose element
    has another name (`Tag.Makes.image`). -/
theorem answers_startImage (t : Tag) (b : Builder) :
    Answers t b (b.startVoid { t with name := "img" }) := by
  have himage : t.Makes (elementOf { t with name := "img" }) := .image
  have hinsert := answers_openElement b b.reopenFormatting himage
  unfold startVoid
  dsimp only
  split
  · exact hinsert
  · exact hinsert

/-- A selection list is opened like any element; only the mode that follows depends on where it
    stands. -/
theorem answers_startSelect (t : Tag) (b : Builder) : Answers t b (b.startSelect t) := by
  have hinsert := answers_insertElement t b b.reopenFormatting
  unfold startSelect
  dsimp only
  split <;> exact hinsert

theorem answers_startTable (t : Tag) (b : Builder) : Answers t b (b.startTable t) :=
  answers_insertElement t b _

/-- **A start tag in the body is answered**, whatever group of `startInBody` it is in. -/
theorem answers_startInBody (t : Tag) (b : Builder) : Answers t b (b.startInBody t) := by
  have hinsert := answers_insertElement t b
  unfold startInBody
  -- the groups of start tags in their order; most of them close something and then open the element
  refine answers_ite (answers_mergeRoot t b) ?_
  refine answers_ite (answers_startInHead t b) ?_
  refine answers_ite (answers_mergeBody t b) ?_
  refine answers_ite (answers_replaceBody t b) ?_
  refine answers_ite (hinsert b.endParagraph) ?_
  refine answers_ite (hinsert _) ?_
  refine answers_ite (hinsert b.endParagraph) ?_
  refine answers_ite (answers_startForm t b) ?_
  refine answers_ite (answers_startItem t b) ?_
  refine answers_ite (hinsert b.endParagraph) ?_
  refine answers_ite (answers_startButton t b) ?_
  refine answers_ite (answers_startLink t b) ?_
  refine answers_ite (answers_insertFormatting t b b.reopenFormatting) ?_
  refine answers_ite (answers_startUnbreakable t b) ?_
  refine answers_ite (hinsert b.reopenFormatting) ?_
  refine answers_ite (answers_startTable t b) ?_
  refine answers_ite (answers_startVoid t b) ?_
  refine answers_ite (answers_insertVoid t b b) ?_
  refine answers_ite (answers_insertVoid t b b.endParagraph) ?_
  refine answers_ite (answers_startImage t b) ?_
  refine answers_ite (answers_enterText t b _ _) ?_
  refine answers_ite (answers_enterText t b _ _) ?_
  refine answers_ite (answers_enterText t b _ _) ?_
  refine answers_ite (answers_enterText t b _ _) ?_
  refine answers_ite (answers_startSelect t b) ?_
  refine answers_ite (hinsert _) ?_
  refine answers_ite (hinsert _) ?_
  refine answers_ite (hinsert _) ?_
  refine answers_ite (answers_insertForeign t b b _ _) ?_
  refine answers_ite (answers_insertForeign t b b _ _) ?_
  exact answers_ite (answers_refl t b) (hinsert b.reopenFormatting)

/-! ### The modes up to the body -/

/-- Turning to another mode is no last look: `againIn` leaves the answer to the next look at the
    tag. -/
theorem answers_againIn (t : Tag) (b b₁ : Builder) (m : Mode) : (b₁.againIn m).Answers t b := trivial

/-- The start tag of the page is answered by its element. Any other one is looked at again once
    `inBeforeHtml` has opened the page without it. -/
theorem answers_inBeforeHtml (t : Tag) (b : Builder) :
    (b.inBeforeHtml (.startTag t)).Answers t b :=
  step_answers_ite (answers_insertElement t b b) (answers_againIn t b _ _)

/-- `inBeforeHead` answers the start tag of the head by its element; any other one is looked at
    again in the head. -/
theorem answers_inBeforeHead (t : Tag) (b : Builder) :
    (b.inBeforeHead (.startTag t)).Answers t b := by
  refine step_answers_ite (answers_mergeRoot t b) ?_
  exact step_answers_ite (answers_insertElement t b b) trivial

/-- `inHead` answers the tags of the head, and leaves any other one to the mode after the head. -/
theorem answers_inHead (t : Tag) (b : Builder) : (b.inHead (.startTag t)).Answers t b := by
  refine step_answers_ite (answers_mergeRoot t b) ?_
  refine step_answers_ite (answers_startInHead t b) ?_
  exact step_answers_ite (answers_refl t b) (answers_againIn t b _ _)

/-- `inAfterHead` opens the body or the frames, goes back to the head for a tag that belongs there,
    and leaves any other one to the body. -/
theorem answers_inAfterHead (t : Tag) (b : Builder) :
    (b.inAfterHead (.startTag t)).Answers t b := by
  refine step_answers_ite (answers_mergeRoot t b) ?_
  refine step_answers_ite (answers_insertElement t b b) ?_
  refine step_answers_ite (answers_insertElement t b b) ?_
  refine step_answers_ite (answers_startBackInHead t b) ?_
  exact step_answers_ite (answers_refl t b) (answers_againIn t b _ _)

/-- In `inFrameset` only frames, further sets and the text for browsers without frames are answered
    by an element. -/
theorem answers_inFrameset (t : Tag) (b : Builder) :
    (b.inFrameset (.startTag t)).Answers t b := by
  refine step_answers_ite (answers_mergeRoot t b) ?_
  refine step_answers_ite (answers_insertElement t b b) ?_
  refine step_answers_ite (answers_insertVoid t b b) ?_
  exact step_answers_ite (answers_startInHead t b) (answers_refl t b)

/-- The two modes after the frames of a page (`inAfterFrameset`, `inAfterAfterFrameset`) make an
    element only for what is shown without frames. -/
theorem answers_inAfterFrameset (t : Tag) (b : Builder) :
    (b.inAfterFrameset (.startTag t)).Answers t b ∧
      (b.inAfterAfterFrameset (.startTag t)).Answers t b := by
  have hhead : (if t.isIn ["noframes"] then Step.done (b.startInHead t) else .done b).Answers t b :=
    step_answers_ite (answers_startInHead t b) (answers_refl t b)
  exact ⟨step_answers_ite (answers_mergeRoot t b) hhead,
    step_answers_ite (answers_mergeRoot t b) hhead⟩

/-- The two modes after the body of a page (`inAfterBody`, `inAfterAfterBody`) go back to the body,
    but for a second start tag of the page. -/
theorem answers_inAfterBody (t : Tag) (b : Builder) :
    (b.inAfterBody (.startTag t)).Answers t b ∧ (b.inAfterAfterBody (.startTag t)).Answers t b :=
  ⟨step_answers_ite (answers_mergeRoot t b) (answers_againIn t b _ _),
    step_answers_ite (answers_mergeRoot t b) (answers_againIn t b _ _)⟩

/-! ### Tables, selection lists and templates -/

/-- A tag that is `fostered` is handled as in the body (`inBody`); where its element is put makes no
    difference to the answer. -/
theorem answers_fostered (t : Tag) (b : Builder) : (b.fostered (.startTag t)).Answers t b :=
  answers_startInBody t { b with fostering := true }

/-- `inTable` opens the parts of a table, a nested table is looked at again, and what does not
    belong there is fostered. -/
theorem answers_inTable (t : Tag) (b : Builder) : (b.inTable (.startTag t)).Answers t b := by
  have hinsert := answers_insertElement t b
  -- a row or a column opens what must be around it and is looked at again
  refine step_answers_ite (hinsert (b.popTo ["html", "table", "template"]).mark) ?_
  refine step_answers_ite (hinsert (b.popTo ["html", "table", "template"])) ?_
  refine step_answers_ite (answers_againIn t b _ _) ?_
  refine step_answers_ite (hinsert (b.popTo ["html", "table", "template"])) ?_
  refine step_answers_ite (answers_againIn t b _ _) ?_
  refine step_answers_ite (step_answers_ite trivial (answers_refl t b)) ?_
  refine step_answers_ite (answers_startInHead t b) ?_
  refine step_answers_ite (answers_insertVoid t b b) ?_
  refine step_answers_ite ?_ (answers_fostered t b)
  exact step_answers_ite (answers_refl t b) (answers_insertVoid t b b)

theorem answers_inCaption (t : Tag) (b : Builder) : (b.inCaption (.startTag t)).Answers t b := by
  refine step_answers_ite ?_ (answers_startInBody t b)
  exact step_answers_ite (answers_againIn t b _ _) (answers_refl t b)

/-- In `inColumnGroup` only a column or a template is answered by an element; the group ends at any
    other tag, which is looked at again. -/
theorem answers_inColumnGroup (t : Tag) (b : Builder) :
    (b.inColumnGroup (.startTag t)).Answers t b := by
  refine step_answers_ite (answers_mergeRoot t b) ?_
  refine step_answers_ite (answers_insertVoid t b b) ?_
  refine step_answers_ite (answers_startInHead t b) ?_
  exact step_answers_ite (answers_againIn t b _ _) (answers_refl t b)

theorem answers_inTableBody (t : Tag) (b : Builder) :
    (b.inTableBody (.startTag t)).Answers t b := by
  refine step_answers_ite (answers_insertElement t b b.clearToTableBody) ?_
  refine step_answers_ite (answers_againIn t b _ _) ?_
  refine step_answers_ite ?_ (answers_inTable t b)
  exact step_answers_ite (answers_againIn t b _ _) (answers_refl t b)

theorem answers_inRow (t : Tag) (b : Builder) : (b.inRow (.startTag t)).Answers t b := by
  refine step_answers_ite (answers_insertElement t b (b.popTo ["tr", "template", "html"])) ?_
  refine step_answers_ite ?_ (answers_inTable t b)
  exact step_answers_ite trivial (answers_refl t b)

theorem answers_inCell (t : Tag) (b : Builder) : (b.inCell (.startTag t)).Answers t b := by
  refine step_answers_ite ?_ (answers_startInBody t b)
  exact step_answers_ite (answers_againIn t b _ _) (answers_refl t b)

/-- Closing a selection list makes no nodes: `leaveSelect` changes the open elements and the
    mode. -/
theorem answers_leaveSelect (t : Tag) (b : Builder) : Answers t b b.leaveSelect := Or.inl rfl

/-- In `inSelect` options, groups of them and rules are answered by an element; a nested list or an
    input ends the list. -/
theorem answers_inSelect (t : Tag) (b : Builder) : (b.inSelect (.startTag t)).Answers t b := by
  refine step_answers_ite (answers_mergeRoot t b) ?_
  refine step_answers_ite (answers_insertElement t b _) ?_
  refine step_answers_ite (answers_insertElement t b _) ?_
  refine step_answers_ite (answers_insertVoid t b _) ?_
  refine step_answers_ite (answers_ite (answers_leaveSelect t b) (answers_refl t b)) ?_
  refine step_answers_ite (step_answers_ite trivial (answers_refl t b)) ?_
  exact step_answers_ite (answers_startInHead t b) (answers_refl t b)

theorem answers_inSelectInTable (t : Tag) (b : Builder) :
    (b.inSelectInTable (.startTag t)).Answers t b :=
  step_answers_ite trivial (answers_inSelect t b)

/-- In `inTemplate` the first telling tag chooses the mode, so the tag is looked at again or handled
    in the head. -/
theorem answers_inTemplate (t : Tag) (b : Builder) : (b.inTemplate (.startTag t)).Answers t b := by
  refine step_answers_ite (answers_startInHead t b) ?_
  refine step_answers_ite trivial ?_
  refine step_answers_ite trivial ?_
  refine step_answers_ite trivial ?_
  exact step_answers_ite trivial trivial

/-! ### The last look -/

/-- A look in the current mode answers the tag, if it is the last one: one case for each `Mode`. -/
theorem answers_stepInMode (t : Tag) (b : Builder) :
    (b.stepInMode (.startTag t)).Answers t b := by
  unfold stepInMode
  split
  · exact answers_againIn t b _ _
  · exact answers_inBeforeHtml t b
  · exact answers_inBeforeHead t b
  · exact answers_inHead t b
  · exact answers_inAfterHead t b
  · exact answers_startInBody t b
  · exact answers_refl t b
  · exact answers_inTable t b
  · exact answers_againIn t b _ _
  · exact answers_inCaption t b
  · exact answers_inColumnGroup t b
  · exact answers_inTableBody t b
  · exact answers_inRow t b
  · exact answers_inCell t b
  · exact answers_inSelect t b
  · exact answers_inSelectInTable t b
  · exact answers_inTemplate t b
  · exact (answers_inAfterBody t b).1
  · exact answers_inFrameset t b
  · exact (answers_inAfterFrameset t b).1
  · exact (answers_inAfterBody t b).2
  · exact (answers_inAfterFrameset t b).2

/-- A start tag in foreign content is answered by `startForeign` with an element of the vocabulary
    around it. -/
theorem answers_startForeign (t : Tag) (b : Builder) : Answers t b (b.startForeign t) := by
  unfold startForeign
  split
  · exact answers_refl t b
  · exact answers_insertForeign t b b _ _

/-- **The last look at a start tag answers it** (`Builder.step`): no node is new, or the newest
    element is made of the tag. -/
theorem answers_step (t : Tag) (b : Builder) : (b.step (.startTag t)).Answers t b := by
  refine step_answers_ite ?_ (answers_stepInMode t b)
  exact step_answers_ite (answers_stepInMode t b.leaveForeign) (answers_startForeign t b)

end Builder

end AccessLint.Html
