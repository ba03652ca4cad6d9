import AccessLint.Proofs.Html.Builder.Sound

namespace AccessLint.Html.Builder

/-!
# Open elements and insertion are sound

* `Sound.pop` and others — closing open elements;
* `Sound.place_exists` — the next node goes to a place of the tree;
* `Sound.openElement`, `Sound.insertElement`, `Sound.insertText`, `Sound.insertComment` — putting
  something there.
-/

variable {S : Stock} {base : Tree} {b : Builder}

/-- The elements that `outside` leaves open were open before. -/
theorem mem_outside {p : Open → Bool} {o : Open} {os : List Open} (h : o ∈ outside p os) :
    o ∈ os := by
  induction os with
  | nil => exact h
  | cons a os ih =>
    unfold outside at h
    split at h
    · exact List.mem_cons_of_mem _ h
    · exact List.mem_cons_of_mem _ (ih h)

namespace Sound

/-! ### Open elements -/

theorem switchTo (h : Sound S base b) (m : Mode) : Sound S base (b.switchTo m) := h

theorem againIn (h : Sound S base b) (m : Mode) : (b.againIn m).Sound S base := h

/-- `resetMode` computes a mode from the open elements and changes nothing else. -/
theorem resetMode (h : Sound S base b) : Sound S base b.resetMode := h

theorem pop (h : Sound S base b) : Sound S base b.pop :=
  h.restack fun _ ho => List.mem_of_mem_drop ho

/-- `popThrough` keeps a part of the open elements, all of them elements of the tree. -/
theorem popThrough (h : Sound S base b) (name : Text) : Sound S base (b.popThrough name) :=
  h.restack fun _ ho => mem_outside ho

theorem popThroughAny (h : Sound S base b) (names : List Text) :
    Sound S base (b.popThroughAny names) :=
  h.restack fun _ ho => mem_outside ho

theorem popTo (h : Sound S base b) (names : List Text) : Sound S base (b.popTo names) :=
  h.restack fun _ ho => (List.dropWhile_sublist _).mem ho

theorem close (h : Sound S base b) (id : NodeId) : Sound S base (b.close id) :=
  h.restack fun _ ho => List.mem_of_mem_filter ho

/-- `closeImplied` drops the innermost elements whose end tags may be left out; what stays was open
    before. -/
theorem closeImplied (h : Sound S base b) (names : List Text) :
    Sound S base (b.closeImplied names) :=
  h.restack fun _ ho => (List.dropWhile_sublist _).mem ho

theorem closeImpliedBut (h : Sound S base b) (name : Text) :
    Sound S base (b.closeImpliedBut name) :=
  h.closeImplied _

/-- `closeParagraph` closes elements twice: those in it whose end tags are implied, then all up to
    it. -/
theorem closeParagraph (h : Sound S base b) : Sound S base b.closeParagraph :=
  (h.closeImpliedBut _).popThrough _

/-- Soundness goes through a condition on the builder, so each branch is shown by itself. -/
theorem ite {c : Prop} [Decidable c] {b' : Builder} (h : Sound S base b) (h' : Sound S base b') :
    Sound S base (if c then b else b') := by
  split
  · exact h
  · exact h'

theorem stepIte {c : Prop} [Decidable c] {s s' : Step} (h : s.Sound S base)
    (h' : s'.Sound S base) : (if c then s else s').Sound S base := by
  split
  · exact h
  · exact h'

/-- With `endParagraph` a paragraph is closed only if there is one in scope; nothing else is
    done. -/
theorem endParagraph (h : Sound S base b) : Sound S base b.endParagraph :=
  ite h.closeParagraph h

/-! ### The place of the next node -/

/-- The innermost open element (`current?`) is an element of the tree, as all open ones are. -/
theorem current_isIn (h : Sound S base b) {o : Open} (ho : b.current? = some o) : IsIn o b.tree :=
  h.isOpen o (List.mem_of_mem_head? ho)

/-- The node that holds the content of an open element exists: the element itself, or the fragment
    that `create` has put below a template. -/
theorem contentsOf_lt (h : Sound S base b) {o : Open} (ho : IsIn o b.tree) :
    b.contentsOf o < b.tree.nodes.size := by
  unfold contentsOf
  split
  · dsimp only
    -- the fragment of a template is one of its children
    generalize hfind : List.find? _ (b.tree.node o.id).children = found
    cases found with
    | none => exact ho.lt_size
    | some i =>
      have hchild := (h.linked.mem_children o.id i).mp (List.mem_of_find?_eq_some hfind)
      exact Tree.Linked.lt_of_parent hchild
  · exact ho.lt_size

/-- The number of an open element, if there is one, is that of a node; without open elements it is
    the document, which every tree has. -/
theorem getD_root_lt (h : Sound S base b) {o? : Option Open} (ho : ∀ o, o? = some o → IsIn o b.tree) :
    (o?.map Open.id).getD Tree.root < b.tree.nodes.size := by
  cases o? with
  | none => exact h.linked.root_lt
  | some o => exact (ho o rfl).lt_size

/-- The outermost open element (`rootElement`) exists, or the document stands for it. -/
theorem rootElement_lt (h : Sound S base b) : b.rootElement < b.tree.nodes.size :=
  h.getD_root_lt fun o ho => h.isOpen o (List.mem_of_getLast? ho)

end Sound

/-- Whether a node can be put at a place. -/
def Place.Exists (t : Tree) : Place → Prop
  | .lastOf parent => parent < t.nodes.size
  | .beforeTable _ around => around < t.nodes.size

/-- A place of a tree is one of any later tree (`Tree.Extends`), since nodes are never removed. -/
theorem Place.Exists.later {t t' : Tree} {p : Place} (h : p.Exists t) (ht : t.Extends t') :
    p.Exists t' := by
  cases p with
  | lastOf parent => exact Nat.lt_of_lt_of_le h ht.size
  | beforeTable table around => exact Nat.lt_of_lt_of_le h ht.size

namespace Sound

/-- Where `fosterPlace` puts misplaced content of a table is in the tree: before the table or in the
    element around it, in a template, or in the outermost open element. -/
theorem fosterPlace_exists (h : Sound S base b) {os : List Open} (hos : ∀ o ∈ os, IsIn o b.tree) :
    (b.fosterPlace os).Exists b.tree := by
  induction os with
  | nil => exact h.rootElement_lt
  | cons o os ih =>
    have hrest : ∀ o' ∈ os, IsIn o' b.tree := fun o' ho' => hos o' (List.mem_cons_of_mem _ ho')
    unfold fosterPlace
    -- a template, a table with an element around it, or neither
    split
    · exact h.contentsOf_lt (hos o List.mem_cons_self)
    · split
      · exact h.getD_root_lt fun o' ho' => hrest o' (List.mem_of_mem_head? ho')
      · exact ih hrest

/-- A node that belongs into an open element has a place there (`placeIn`), before a table if the
    element is part of one and content is fostered. -/
theorem placeIn_exists (h : Sound S base b) {o : Open} (ho : IsIn o b.tree) :
    (b.placeIn o).Exists b.tree := by
  unfold placeIn
  split
  · exact h.fosterPlace_exists h.isOpen
  · exact h.contentsOf_lt ho

/-- The next node goes to a place of the tree (`place`): in the innermost open element, or in the
    document. -/
theorem place_exists (h : Sound S base b) : b.place.Exists b.tree := by
  unfold place
  split
  · next ho => exact h.placeIn_exists (h.current_isIn ho)
  · exact h.linked.root_lt

/-- A node is put at a place that exists: `put` appends it or inserts it before another one, and
    both keep the links of the tree. -/
theorem put (h : Sound S base b) {p : Place} (hp : p.Exists b.tree) {id : NodeId}
    (hid : id < b.tree.nodes.size) (hroot : id ≠ Tree.root) : Sound S base (b.put p id) := by
  unfold Builder.put
  split
  · exact h.append hp hid hroot
  · -- the table may have been taken out of the tree in the meantime
    split
    · exact h.insertBefore _ hid hroot
    · exact h.append hp hid hroot

/-- `insertText` makes the text before it longer, or becomes a node of its own at the place of the
    next node. -/
theorem insertText (h : Sound S base b) (t : Text) : Sound S base (b.insertText t) := by
  have hp := h.place_exists
  unfold Builder.insertText
  split
  · next hplace =>
    rw [hplace] at hp
    exact h.appendText hp t
  · next hplace =>
    rw [hplace] at hp
    split
    · exact h.insertTextBefore _ t
    · exact h.appendText hp t

/-! ### New elements -/

/-- The place of the next node is a new one, so it is not the document and `put` may move it. -/
theorem nextId_ne_root (h : Sound S base b) : b.nextId ≠ Tree.root :=
  Nat.ne_of_gt h.linked.root_lt

/-- A new element is in the tree from then on, and `create` gives its number. A template has one
    node more, for its contents. -/
theorem create (h : Sound S base b) {e : Element} (he : S.Makes e) :
    Sound S base (b.create e).1 ∧ (b.create e).2 = b.nextId ∧
      (b.create e).1.tree.element? b.nextId = some e ∧ b.tree.Extends (b.create e).1.tree := by
  have hnew := h.createElement he
  have hmem : (b.tree.create (.element e)).1.element? b.nextId = some e :=
    Tree.element?_create_new b.tree e
  have hlater := Tree.extends_create b.tree (.element e)
  unfold Builder.create
  dsimp only
  split
  · -- a template gets a fragment below it
    have hlt := Tree.lt_size_of_element? hmem
    have hfragment := hnew.createOther (c := .fragment) (by simp)
    have hlater' := Tree.extends_create (b.tree.create (.element e)).1 .fragment
    have hcontents := Nat.lt_of_lt_of_eq (Nat.lt_succ_self _)
      (Tree.size_create (b.tree.create (.element e)).1 .fragment).symm
    have hmem' : ((b.tree.create (.element e)).1.create .fragment).1.element? b.nextId
        = some e := by
      rw [Tree.element?_eq_some] at hmem ⊢
      rw [Tree.node_create, if_neg (Nat.ne_of_lt hlt)]
      exact hmem
    refine ⟨?_, rfl, ?_, ?_⟩
    · exact hfragment.append (Tree.lt_size_of_element? hmem') hcontents
        (Nat.ne_of_gt hnew.linked.root_lt)
    · exact (Tree.element?_congr (Tree.content_append _ _ _ _)).trans hmem'
    · exact (hlater.trans hlater').trans
        (.of_same_contents (Tree.size_append _ _ _) (Tree.content_append _ _ _))
  · exact ⟨hnew, rfl, hmem, hlater⟩

end Sound

theorem content_put (b : Builder) (p : Place) (id i : NodeId) :
    ((b.put p id).tree.node i).content = (b.tree.node i).content := by
  unfold put
  split
  · exact Tree.content_append _ _ _ _
  · split
    · exact Tree.content_insertBefore _ _ _ _
    · exact Tree.content_append _ _ _ _

theorem size_put (b : Builder) (p : Place) (id : NodeId) :
    (b.put p id).tree.nodes.size = b.tree.nodes.size := by
  unfold put
  split
  · exact Tree.size_append _ _ _
  · split
    · exact Tree.size_insertBefore _ _ _
    · exact Tree.size_append _ _ _

namespace Sound

/-- **Insertion.** A new element is put where the next node goes, and opened
    (`Builder.openElement`). All elements come into the tree in this way, but for the copies of
    formatting elements. -/
theorem openElement (h : Sound S base b) {e : Element} (he : S.Makes e) :
    Sound S base (b.openElement e) := by
  obtain ⟨hnew, hid, hmem, hlater⟩ := h.create he
  unfold Builder.openElement
  dsimp only
  rw [hid]
  -- the place was chosen in the tree without the element, and is still there
  have hput := hnew.put (h.place_exists.later hlater) (Tree.lt_size_of_element? hmem)
    h.nextId_ne_root
  refine hput.push ⟨e, ?_, .refl e⟩
  exact (Tree.element?_congr (content_put _ _ _ _)).trans hmem

/-- The element that `openElement` makes has the number `nextId`, and stays so when it is put into
    its place. -/
theorem element?_openElement (h : Sound S base b) {e : Element} (he : S.Makes e) :
    (b.openElement e).tree.element? b.nextId = some e := by
  obtain ⟨-, hid, hmem, -⟩ := h.create he
  unfold Builder.openElement
  dsimp only
  rw [hid]
  exact (Tree.element?_congr (content_put _ _ _ _)).trans hmem

/-- The element of a tag (`elementOf`) is one that the stock makes if the tag is in it. -/
theorem insertElement (h : Sound S base b) {t : Tag} (ht : S.tags t) :
    Sound S base (b.insertElement t) :=
  h.openElement (.markup t ht)

/-- An element without a tag of the source is one of `impliedNames`, whose plain tags every stock
    has. -/
theorem insertImplied (h : Sound S base b) {name : Text} (hname : name ∈ impliedNames) :
    Sound S base (b.insertImplied name) :=
  h.insertElement (S.plain name hname)

/-- An element without content is opened and closed at once. -/
theorem insertVoid (h : Sound S base b) {t : Tag} (ht : S.tags t) :
    Sound S base (b.insertVoid t) :=
  (h.insertElement ht).pop

/-- A new node that is no element, a text or a comment, is put somewhere. -/
theorem putOther (h : Sound S base b) {c : Content} (hc : ∀ e, c ≠ .element e) {p : Place}
    (hp : p.Exists b.tree) :
    Sound S base (Builder.put { b with tree := (b.tree.create c).1 } p b.nextId) := by
  have hnew := h.createOther hc
  refine hnew.put (hp.later (Tree.extends_create _ c)) ?_ h.nextId_ne_root
  exact Nat.lt_of_lt_of_eq (Nat.lt_succ_self _) (Tree.size_create _ _).symm

theorem addComment (h : Sound S base b) {p : NodeId} (hp : p < b.tree.nodes.size) (t : Text) :
    Sound S base (b.addComment p t) :=
  h.putOther (c := .comment t) (p := .lastOf p) (by simp) hp

theorem insertComment (h : Sound S base b) (t : Text) : Sound S base (b.insertComment t) :=
  h.putOther (c := .comment t) (by simp) h.place_exists

theorem enterText (h : Sound S base b) {t : Tag} (ht : S.tags t) (m : TextMode) :
    Sound S base (b.enterText t m) :=
  h.insertElement ht

/-! ### The page and its body -/

/-- The element of the page or of its body gets the attributes of a second start tag.
    `Element.Becomes` allows this for these two elements alone. -/
theorem mergeAt (h : Sound S base b) {o : Open} (ho : o ∈ b.stack) {name : Text}
    (hname : o.elem.isHtml name = true) (hpage : name = "html" ∨ name = "body")
    (attrs : List Attr) : Sound S base { b with tree := b.tree.addMissingAttrs o.id attrs } := by
  refine h.addMissingAttrs (h.isOpen o ho) ?_ attrs
  obtain ⟨hspace, hname⟩ := Bool.and_eq_true_iff.mp hname
  refine Bool.and_eq_true_iff.mpr ⟨hspace, ?_⟩
  rw [beq_iff_eq.mp hname, List.contains_iff_mem]
  rcases hpage with rfl | rfl
  · exact List.mem_cons_self
  · exact List.mem_cons_of_mem _ List.mem_cons_self

end Sound

end AccessLint.Html.Builder
