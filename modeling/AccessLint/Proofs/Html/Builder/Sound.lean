import AccessLint.Html.Builder.Foreign
import AccessLint.Proofs.Html.Linked

namespace AccessLint.Html

/-!
# What holds of a builder all the time

A builder starts with an empty tree and changes it token by token. Some facts hold at every moment,
whatever the tokens are.

* `Stock` — the tags that elements may be made of, and the tokens that bring no others;
* `Tree.Extends` — a later tree: elements stay what they are, but for the attributes of the page;
* `Builder.Sound` — the links of the tree agree, the open elements and the head are elements of the
  tree, and all elements are made of tags of the stock;
* `Builder.Sound.openElement` — a new element is put where the next node goes.
-/

/-! ### Elements -/

/-- Whether an element stands for the whole page or its body. Only these get attributes later. -/
def Element.isPage (e : Element) : Bool := e.isHtmlIn ["html", "body"]

/-- What an element is later on. -/
structure Element.Becomes (e e' : Element) : Prop where
  space : e'.space = e.space
  name : e'.name = e.name
  same : e' = e ∨ e.isPage = true

namespace Element.Becomes

theorem refl (e : Element) : e.Becomes e := ⟨rfl, rfl, Or.inl rfl⟩

/-- The element of the page or of its body stays one, since `Element.Becomes` keeps the name and the
    namespace. -/
theorem isPage {e e' : Element} (h : e.Becomes e') : e'.isPage = e.isPage := by
  unfold Element.isPage isHtmlIn
  rw [h.space, h.name]

/-- What an element is later on, and what that is even later: attributes may be added at either
    time. -/
theorem trans {e e' e'' : Element} (h : e.Becomes e') (h' : e'.Becomes e'') : e.Becomes e'' := by
  refine ⟨h'.space.trans h.space, h'.name.trans h.name, ?_⟩
  rcases h'.same with heq | hpage
  · rw [heq]
    exact h.same
  · exact Or.inr (h.isPage ▸ hpage)

end Element.Becomes

/-- The elements that a builder opens without a tag of the source. -/
def impliedNames : List Text := ["html", "head", "body", "colgroup", "tbody", "tr", "p", "br"]

/-- The tags that elements may be made of: closed under what a builder makes up itself. -/
structure Stock where
  tags : Tag → Prop
  plain : ∀ name ∈ impliedNames, tags (Tag.plain name)
  image : ∀ t, tags t → tags { t with name := "img" }

/-- The elements that are made of the tags of a stock. -/
inductive Stock.Makes (S : Stock) : Element → Prop
  | markup (t : Tag) : S.tags t → S.Makes (Builder.elementOf t)
  | foreign (space : Space) (name : Text) (t : Tag) : S.tags t →
      name = t.name ∨ name = Builder.spelling Builder.svgNames t.name →
      S.Makes (Builder.foreignElement space name t)

/-- A token brings no start tag beyond the stock. -/
def Stock.Allows (S : Stock) : Token → Prop
  | .startTag t => S.tags t
  | _ => True

/-! ### Later trees -/

/-- A later tree has all elements that an earlier one has. -/
structure Tree.Extends (t t' : Tree) : Prop where
  size : t.nodes.size ≤ t'.nodes.size
  element : ∀ i e, t.element? i = some e → ∃ e', t'.element? i = some e' ∧ e.Becomes e'

namespace Tree.Extends

theorem refl (t : Tree) : t.Extends t := ⟨Nat.le_refl _, fun _ e he => ⟨e, he, .refl e⟩⟩

/-- A tree later than a later one: `Tree.Extends` is shown step by step. -/
theorem trans {t t' t'' : Tree} (h : t.Extends t') (h' : t'.Extends t'') : t.Extends t'' := by
  refine ⟨Nat.le_trans h.size h'.size, ?_⟩
  intro i e he
  obtain ⟨e', he', hbecomes⟩ := h.element i e he
  obtain ⟨e'', he'', hbecomes'⟩ := h'.element i e' he'
  exact ⟨e'', he'', hbecomes.trans hbecomes'⟩

/-- Changes of the links make a later tree (`Tree.Extends`): elements are contents, and those are as
    they were. -/
theorem of_same_contents {t t' : Tree} (hsize : t'.nodes.size = t.nodes.size)
    (hcontent : ∀ i, (t'.node i).content = (t.node i).content) : t.Extends t' :=
  ⟨Nat.le_of_eq hsize.symm, fun i e he =>
    ⟨e, (element?_congr (hcontent i)).trans he, .refl e⟩⟩

end Tree.Extends

/-- `Tree.create` makes a later tree, since the numbers of the others stay. -/
theorem Tree.extends_create (t : Tree) (c : Content) : t.Extends (t.create c).1 := by
  refine ⟨?_, fun i e he => ⟨e, ?_, .refl e⟩⟩
  · rw [size_create]
    exact Nat.le_succ _
  · have hold : (t.create c).1.node i = t.node i := by
      rw [node_create, if_neg (Nat.ne_of_lt (lt_size_of_element? he))]
    exact (element?_congr (congrArg Node.content hold)).trans he

/-- The elements of a tree with a new node: those from before, and the new one if it is an
    element. -/
theorem Tree.element?_create {t : Tree} {c : Content} {i : NodeId} {e : Element}
    (h : (t.create c).1.element? i = some e) :
    t.element? i = some e ∨ (i = t.nodes.size ∧ c = .element e) := by
  rw [element?_eq_some, node_create] at h
  split at h
  · next hi => exact Or.inr ⟨hi, h⟩
  · exact Or.inl (element?_eq_some.mpr h)

theorem Tree.element?_create_new (t : Tree) (e : Element) :
    (t.create (.element e)).1.element? t.nodes.size = some e := by
  rw [element?_eq_some, node_create, if_pos rfl]

/-- Adding to a text leaves the elements as they are: the node that `extendText?` changes holds
    text. -/
theorem Tree.element?_extendText? {t t' : Tree} {i : Option NodeId} {more : Text}
    (h : t.extendText? i more = some t') (j : NodeId) : t'.element? j = t.element? j := by
  obtain ⟨k, old, hold, rfl⟩ := extendText?_eq_some h
  unfold element?
  rw [node_modify]
  by_cases hk : k = j ∧ k < t.nodes.size
  · rw [if_pos hk, ← hk.1, hold]
  · rw [if_neg hk]

theorem Tree.size_extendText? {t t' : Tree} {i : Option NodeId} {more : Text}
    (h : t.extendText? i more = some t') : t'.nodes.size = t.nodes.size := by
  obtain ⟨k, old, -, rfl⟩ := extendText?_eq_some h
  exact size_modify _ _ _

/-- What `addMissingAttrs` makes of an element: the attributes in front stay, and those that it
    lacks are put behind. All other elements are as they were. -/
theorem Tree.element?_addMissingAttrs (t : Tree) (i : NodeId) (attrs : List Attr) (j : NodeId) :
    (t.addMissingAttrs i attrs).element? j = if i = j then
      (t.element? j).map fun e =>
        { e with attrs := attrs.foldl (fun kept a => a.insertMissing kept) e.attrs }
      else t.element? j := by
  unfold element? addMissingAttrs
  rw [node_modify]
  by_cases hij : i = j
  · rw [if_pos hij]
    by_cases hi : i < t.nodes.size
    · rw [if_pos ⟨hij, hi⟩]
      cases t.node j with
      | mk content parent children => cases content <;> rfl
    · rw [if_neg fun h => hi h.2, node_of_size_le (hij ▸ Nat.le_of_not_lt hi)]
      rfl
  · rw [if_neg fun h => hij h.1, if_neg hij]

namespace Builder

/-! ### The invariant -/

/-- Whether an open element is an element of a tree. -/
def IsIn (o : Open) (t : Tree) : Prop := ∃ e, t.element? o.id = some e ∧ o.elem.Becomes e

theorem IsIn.lt_size {o : Open} {t : Tree} (h : IsIn o t) : o.id < t.nodes.size := by
  obtain ⟨e, he, -⟩ := h
  exact Tree.lt_size_of_element? he

/-- An open element that `IsIn` a tree is in any later tree, up to the attributes that the page and
    its body may get. -/
theorem IsIn.later {o : Open} {t t' : Tree} (h : IsIn o t) (ht : t.Extends t') : IsIn o t' := by
  obtain ⟨e, he, hbecomes⟩ := h
  obtain ⟨e', he', hbecomes'⟩ := ht.element o.id e he
  exact ⟨e', he', hbecomes.trans hbecomes'⟩

/-- The facts about the parts of a builder. -/
structure Facts (S : Stock) (base tree : Tree) (stack : List Open) (formatting : List Formatting)
    (head : Option NodeId) : Prop where
  linked : tree.Linked
  later : base.Extends tree
  isOpen : ∀ o ∈ stack, IsIn o tree
  tags : ∀ id t, Formatting.element id t ∈ formatting → S.tags t
  isHead : ∀ i, head = some i → ∃ e, tree.element? i = some e
  made : ∀ i e, tree.element? i = some e → e.isPage = true ∨ S.Makes e

/-- **What holds all the time.** The tree is linked and later than the one at some moment before;
    the open elements and the head are in it; and its elements and the formatting elements to be
    reopened are of the stock. -/
def Sound (S : Stock) (base : Tree) (b : Builder) : Prop :=
  Facts S base b.tree b.stack b.formatting b.head

end Builder

/-- A step is sound if the builder after it is. -/
def Step.Sound (S : Stock) (base : Tree) (s : Step) : Prop := Builder.Sound S base s.builder

namespace Builder

variable {S : Stock} {base : Tree} {b : Builder}

namespace Sound

/-- `Builder.start` is sound: there is only the document. -/
theorem start (S : Stock) : Sound S Tree.empty Builder.start where
  linked := Tree.Linked.empty
  later := .refl _
  isOpen := fun o ho => absurd ho List.not_mem_nil
  tags := fun id t h => absurd h List.not_mem_nil
  isHead := fun i hi => absurd hi (by simp [Builder.start])
  made := fun i e he => by
    -- there is nothing but the document, which is no element
    have hempty : Tree.empty.element? i = some e := he
    have hi : i = Tree.root := Nat.lt_one_iff.mp (Tree.lt_size_of_element? hempty)
    exact absurd hi (Tree.Linked.empty.ne_root hempty)

/-- Every tree can serve as the `base` of a builder, so a step is shown from where it starts. -/
theorem rebase (h : Sound S base b) : Sound S b.tree b :=
  ⟨h.linked, .refl _, h.isOpen, h.tags, h.isHead, h.made⟩

/-! ### Changes of the lists -/

/-- Some of the open elements stay open. All that closes elements is a case of this: `pop`,
    `popThrough`, `close` and their like. -/
theorem restack (h : Sound S base b) {os : List Open} (hos : ∀ o ∈ os, o ∈ b.stack) :
    Sound S base { b with stack := os } :=
  ⟨h.linked, h.later, fun o ho => h.isOpen o (hos o ho), h.tags, h.isHead, h.made⟩

/-- An element of the tree is opened again, as the head for one tag after it. -/
theorem push (h : Sound S base b) {o : Open} (ho : IsIn o b.tree) :
    Sound S base { b with stack := o :: b.stack } := by
  refine ⟨h.linked, h.later, ?_, h.tags, h.isHead, h.made⟩
  intro o' ho'
  rcases List.mem_cons.mp ho' with rfl | ho'
  · exact ho
  · exact h.isOpen o' ho'

/-- The formatting elements to be reopened change; the tags of the new ones must be of the stock. -/
theorem reformat (h : Sound S base b) {fs : List Formatting}
    (hfs : ∀ id t, Formatting.element id t ∈ fs → S.tags t) :
    Sound S base { b with formatting := fs } :=
  ⟨h.linked, h.later, h.isOpen, hfs, h.isHead, h.made⟩

/-- Some of the formatting elements stay. All that forgets entries is a case of this, such as
    `clearToMarker`. -/
theorem forgetting (h : Sound S base b) {fs : List Formatting} (hfs : ∀ f ∈ fs, f ∈ b.formatting) :
    Sound S base { b with formatting := fs } :=
  h.reformat fun id t hmem => h.tags id t (hfs _ hmem)

/-- An element of the tree becomes the head, to which `startBackInHead` may go back. -/
theorem rehead (h : Sound S base b) {i : NodeId} {e : Element} (he : b.tree.element? i = some e) :
    Sound S base { b with head := some i } := by
  refine ⟨h.linked, h.later, h.isOpen, h.tags, ?_, h.made⟩
  intro j hj
  rw [← Option.some.inj hj]
  exact ⟨e, he⟩

/-! ### Changes of the tree -/

/-- **The tree becomes a later one** with links that agree and elements of the stock. All that
    changes the tree is a case of this, links (`relink`) and contents alike. -/
theorem retree (h : Sound S base b) {t : Tree} (hlinked : t.Linked) (hlater : b.tree.Extends t)
    (hmade : ∀ i e, t.element? i = some e →
      b.tree.element? i = some e ∨ e.isPage = true ∨ S.Makes e) :
    Sound S base { b with tree := t } where
  linked := hlinked
  later := h.later.trans hlater
  isOpen := fun o ho => (h.isOpen o ho).later hlater
  tags := h.tags
  isHead := fun i hi => by
    obtain ⟨e, he⟩ := h.isHead i hi
    obtain ⟨e', he', -⟩ := hlater.element i e he
    exact ⟨e', he'⟩
  made := fun i e he => (hmade i e he).elim (h.made i e) id

/-- Nodes are moved, and nothing is created: only `Tree.Linked` is to be shown. -/
theorem relink (h : Sound S base b) {t : Tree} (hlinked : t.Linked)
    (hsize : t.nodes.size = b.tree.nodes.size)
    (hcontent : ∀ i, (t.node i).content = (b.tree.node i).content) :
    Sound S base { b with tree := t } :=
  h.retree hlinked (.of_same_contents hsize hcontent) fun i _ he =>
    Or.inl ((Tree.element?_congr (hcontent i)).symm.trans he)

theorem detach (h : Sound S base b) (i : NodeId) :
    Sound S base { b with tree := b.tree.detach i } :=
  h.relink (h.linked.detach i) (Tree.size_detach _ _) (Tree.content_detach _ i)

theorem append (h : Sound S base b) {p c : NodeId} (hp : p < b.tree.nodes.size)
    (hc : c < b.tree.nodes.size) (hroot : c ≠ Tree.root) :
    Sound S base { b with tree := b.tree.append p c } :=
  h.relink (h.linked.append hp hc hroot) (Tree.size_append _ p c) (Tree.content_append _ p c)

theorem insertBefore (h : Sound S base b) (s : NodeId) {c : NodeId}
    (hc : c < b.tree.nodes.size) (hroot : c ≠ Tree.root) :
    Sound S base { b with tree := b.tree.insertBefore s c } :=
  h.relink (h.linked.insertBefore s hc hroot) (Tree.size_insertBefore _ s c)
    (Tree.content_insertBefore _ s c)

/-- All children of a node go to the end of another one's, which must be a different node. -/
theorem moveChildren (h : Sound S base b) {s p : NodeId} (hs : s < b.tree.nodes.size)
    (hp : p < b.tree.nodes.size) (hne : s ≠ p) :
    Sound S base { b with tree := b.tree.moveChildren s p } :=
  h.relink (h.linked.moveChildren hs hp hne) (Tree.size_moveChildren _ s p)
    (Tree.content_moveChildren _ s p)

/-- A node that is no element, a text, a comment or a fragment, is created. -/
theorem createOther (h : Sound S base b) {c : Content} (hc : ∀ e, c ≠ .element e) :
    Sound S base { b with tree := (b.tree.create c).1 } := by
  refine h.retree (h.linked.create c) (Tree.extends_create _ c) ?_
  intro i e he
  rcases Tree.element?_create he with hold | ⟨-, hnew⟩
  · exact Or.inl hold
  · exact absurd hnew (hc e)

/-- An element of the stock is created. It is in no place of the tree until `put`. -/
theorem createElement (h : Sound S base b) {e : Element} (he : S.Makes e) :
    Sound S base { b with tree := (b.tree.create (.element e)).1 } := by
  refine h.retree (h.linked.create _) (Tree.extends_create _ _) ?_
  intro i e' he'
  rcases Tree.element?_create he' with hold | ⟨-, hnew⟩
  · exact Or.inl hold
  · rw [← Content.element.inj hnew]
    exact Or.inr (Or.inr he)

theorem extendText? (h : Sound S base b) {i : Option NodeId} {more : Text} {t : Tree}
    (ht : b.tree.extendText? i more = some t) : Sound S base { b with tree := t } := by
  refine h.retree (h.linked.extendText? ht) ⟨?_, ?_⟩ ?_
  · exact Nat.le_of_eq (Tree.size_extendText? ht).symm
  · intro j e he
    exact ⟨e, (Tree.element?_extendText? ht j).trans he, .refl e⟩
  · intro j e he
    exact Or.inl ((Tree.element?_extendText? ht j).symm.trans he)

/-- Text at the end of a node makes its last text longer, or a new text node there. -/
theorem appendText (h : Sound S base b) {p : NodeId} (hp : p < b.tree.nodes.size) (more : Text) :
    Sound S base { b with tree := b.tree.appendText p more } := by
  unfold Tree.appendText
  split
  · next ht => exact h.extendText? ht
  · have hnew := h.createOther (c := .text more) (by simp)
    refine hnew.append ?_ ?_ (Nat.ne_of_gt h.linked.root_lt)
    · exact Nat.lt_of_lt_of_le hp (Tree.extends_create _ _).size
    · exact Nat.lt_of_lt_of_eq (Nat.lt_succ_self _) (Tree.size_create _ _).symm

/-- Text before a node makes the text in front of it longer, or a new text node there. -/
theorem insertTextBefore (h : Sound S base b) (s : NodeId) (more : Text) :
    Sound S base { b with tree := b.tree.insertTextBefore s more } := by
  unfold Tree.insertTextBefore
  split
  · next ht => exact h.extendText? ht
  · have hnew := h.createOther (c := .text more) (by simp)
    refine hnew.insertBefore s ?_ (Nat.ne_of_gt h.linked.root_lt)
    exact Nat.lt_of_lt_of_eq (Nat.lt_succ_self _) (Tree.size_create _ _).symm

/-- The element of the page or of its body gets further attributes; `Element.isPage` is what allows
    them to change. -/
theorem addMissingAttrs (h : Sound S base b) {o : Open} (ho : IsIn o b.tree)
    (hpage : o.elem.isPage = true) (attrs : List Attr) :
    Sound S base { b with tree := b.tree.addMissingAttrs o.id attrs } := by
  obtain ⟨e, he, hbecomes⟩ := ho
  have hpage' : e.isPage = true := hbecomes.isPage.trans hpage
  refine h.retree (h.linked.addMissingAttrs _ _) ⟨?_, ?_⟩ ?_
  · exact Nat.le_of_eq (Tree.size_modify _ _ _).symm
  · intro j e' he'
    rw [Tree.element?_addMissingAttrs]
    -- the open element has become another one, but is still one of the page
    by_cases hj : o.id = j
    · rw [if_pos hj, he']
      rw [← hj, he, Option.some.injEq] at he'
      exact ⟨_, rfl, rfl, rfl, Or.inr (he' ▸ hpage')⟩
    · rw [if_neg hj]
      exact ⟨e', he', .refl e'⟩
  · intro j e' he'
    rw [Tree.element?_addMissingAttrs] at he'
    by_cases hj : o.id = j
    · rw [if_pos hj, ← hj, he] at he'
      rw [← Option.some.inj he']
      exact Or.inr (Or.inl hpage')
    · rw [if_neg hj] at he'
      exact Or.inl he'

end Sound

end Builder

end AccessLint.Html
