import AccessLint.Html.Tree
import Mathlib.Data.List.Nodup

namespace AccessLint.Html.Tree

/-!
# Trees whose links agree

A node names its parent and its children. In a tree under construction the two always agree, however
nodes are created, moved and taken out.

* `Linked` — children and parents agree, no child is listed twice, and the document is at the top;
* `node_modify`, `node_create` — what a change does to each node;
* `Linked.detach`, `Linked.append`, `Linked.insertBefore`, `Linked.moveChildren` — the changes of
  the links keep them in agreement, provided that they are about nodes that exist;
* `Linked.of_same_links` — so do changes of the contents.
-/

/-- **Agreement of links.** A node is a child of another one exactly if that one is its parent. -/
structure Linked (t : Tree) : Prop where
  root_lt : root < t.nodes.size
  root_content : (t.node root).content = .document
  root_parent : (t.node root).parent = none
  mem_children : ∀ p c, c ∈ (t.node p).children ↔ (t.node c).parent = some p
  nodup : ∀ p, (t.node p).children.Nodup

/-! ### Single nodes -/

/-- There is nothing beyond the nodes created so far: `Tree.node` of such a number is a default
    without links. -/
theorem node_of_size_le {t : Tree} {i : NodeId} (h : t.nodes.size ≤ i) : t.node i = default := by
  unfold node
  rw [Array.getElem?_eq_none h]
  rfl

@[simp] theorem size_modify (t : Tree) (i : NodeId) (f : Node → Node) :
    (t.modify i f).nodes.size = t.nodes.size := Array.size_modify

/-- `Tree.modify` changes the node of that number, if there is one, and no other. All lemmas on the
    links below are cases of this. -/
theorem node_modify (t : Tree) (i : NodeId) (f : Node → Node) (j : NodeId) :
    (t.modify i f).node j = if i = j ∧ i < t.nodes.size then f (t.node j) else t.node j := by
  unfold node modify
  rw [Array.getElem?_modify]
  by_cases hij : i = j
  · subst hij
    -- a place where nothing was created yet is not changed
    by_cases hi : i < t.nodes.size
    · rw [if_pos rfl, if_pos ⟨rfl, hi⟩, Array.getElem?_eq_getElem hi]
      rfl
    · rw [if_pos rfl, if_neg fun h => hi h.2, Array.getElem?_eq_none (Nat.le_of_not_lt hi)]
      rfl
  · rw [if_neg hij, if_neg fun h => hij h.1]

@[simp] theorem content_setParent (t : Tree) (i : NodeId) (p : Option NodeId) (j : NodeId) :
    ((t.modify i fun n => { n with parent := p }).node j).content = (t.node j).content := by
  rw [node_modify]; split <;> rfl

@[simp] theorem children_setParent (t : Tree) (i : NodeId) (p : Option NodeId) (j : NodeId) :
    ((t.modify i fun n => { n with parent := p }).node j).children = (t.node j).children := by
  rw [node_modify]; split <;> rfl

@[simp] theorem content_setChildren (t : Tree) (i : NodeId) (g : Node → List NodeId) (j : NodeId) :
    ((t.modify i fun n => { n with children := g n }).node j).content = (t.node j).content := by
  rw [node_modify]; split <;> rfl

@[simp] theorem parent_setChildren (t : Tree) (i : NodeId) (g : Node → List NodeId) (j : NodeId) :
    ((t.modify i fun n => { n with children := g n }).node j).parent = (t.node j).parent := by
  rw [node_modify]; split <;> rfl

@[simp] theorem parent_setContent (t : Tree) (i : NodeId) (g : Node → Content) (j : NodeId) :
    ((t.modify i fun n => { n with content := g n }).node j).parent = (t.node j).parent := by
  rw [node_modify]; split <;> rfl

@[simp] theorem children_setContent (t : Tree) (i : NodeId) (g : Node → Content) (j : NodeId) :
    ((t.modify i fun n => { n with content := g n }).node j).children = (t.node j).children := by
  rw [node_modify]; split <;> rfl

theorem size_create (t : Tree) (c : Content) : (t.create c).1.nodes.size = t.nodes.size + 1 :=
  Array.size_push _

/-- The node that `Tree.create` makes comes after all others and has no links; the others are as
    they were. -/
theorem node_create (t : Tree) (c : Content) (j : NodeId) :
    (t.create c).1.node j = if j = t.nodes.size then ⟨c, none, []⟩ else t.node j := by
  unfold node create
  rw [Array.getElem?_push]
  split <;> rfl

/-- `Tree.element?` is a view of the content of a node, so what keeps the contents keeps the
    elements. -/
theorem element?_eq_some {t : Tree} {i : NodeId} {e : Element} :
    t.element? i = some e ↔ (t.node i).content = .element e := by
  unfold element?
  split
  · next e' h => rw [h, Option.some.injEq, Content.element.injEq]
  · next h => exact ⟨fun h' => absurd h' (by simp), fun h' => absurd h' (h e)⟩

/-- An element is one of the nodes: beyond them `Tree.node` is a default, which is none. -/
theorem lt_size_of_element? {t : Tree} {i : NodeId} {e : Element} (h : t.element? i = some e) :
    i < t.nodes.size := by
  by_contra hi
  rw [element?_eq_some, node_of_size_le (Nat.le_of_not_lt hi)] at h
  exact absurd h (by simp [default])

/-- Trees with the same content at a node have the same element there, whatever their links are. -/
theorem element?_congr {t t' : Tree} {i : NodeId}
    (h : (t'.node i).content = (t.node i).content) : t'.element? i = t.element? i := by
  unfold element?
  rw [h]

namespace Linked

variable {t : Tree}

/-- The document is no element, so an element may be moved. -/
theorem ne_root (h : t.Linked) {i : NodeId} {e : Element} (he : t.element? i = some e) :
    i ≠ root := by
  rintro rfl
  rw [element?_eq_some, h.root_content] at he
  exact absurd he (by simp)

/-- In a linked tree a parent exists: it has the node among its children, and nothing beyond the
    nodes has children. -/
theorem parent_lt (h : t.Linked) {p c : NodeId} (hp : (t.node c).parent = some p) :
    p < t.nodes.size := by
  -- a node that does not exist lists no children
  by_contra hlt
  have hmem := (h.mem_children p c).mpr hp
  rw [node_of_size_le (Nat.le_of_not_lt hlt)] at hmem
  exact absurd hmem List.not_mem_nil

/-- A node with a parent exists, since nothing beyond the nodes has links. -/
theorem lt_of_parent {p c : NodeId} (hp : (t.node c).parent = some p) : c < t.nodes.size := by
  by_contra hlt
  rw [node_of_size_le (Nat.le_of_not_lt hlt)] at hp
  exact absurd hp (by simp [default])

/-- `Tree.empty` is linked: there is the document alone. -/
theorem empty : Tree.empty.Linked := by
  -- the document looks like a node that does not exist
  have hnode : ∀ i, Tree.empty.node i = ⟨.document, none, []⟩ := by
    intro i
    cases i with
    | zero => rfl
    | succ n => exact node_of_size_le (Nat.le_add_left 1 n)
  refine ⟨Nat.zero_lt_one, ?_, ?_, ?_, ?_⟩
  · rw [hnode]
  · rw [hnode]
  · intro p c
    rw [hnode, hnode]
    exact ⟨fun hc => absurd hc List.not_mem_nil, fun hc => absurd hc (by simp)⟩
  · intro p
    rw [hnode]
    exact List.nodup_nil

/-- Changes of the contents, of nodes other than the document, keep the links. Adding text or
    attributes is such a change. -/
theorem of_same_links {t' : Tree} (h : t.Linked) (hsize : t.nodes.size = t'.nodes.size)
    (hroot : (t'.node root).content = (t.node root).content)
    (hparent : ∀ i, (t'.node i).parent = (t.node i).parent)
    (hchildren : ∀ i, (t'.node i).children = (t.node i).children) : t'.Linked where
  root_lt := hsize ▸ h.root_lt
  root_content := hroot.trans h.root_content
  root_parent := (hparent root).trans h.root_parent
  mem_children := fun p c => by rw [hchildren, hparent]; exact h.mem_children p c
  nodup := fun p => by rw [hchildren]; exact h.nodup p

/-- A node that `Tree.create` makes is linked to nothing, so the links agree as before. -/
theorem create (h : t.Linked) (c : Content) : (t.create c).1.Linked := by
  -- where the new node is, there was nothing before, and nothing has no links either
  have hlinks : ∀ i, ((t.create c).1.node i).parent = (t.node i).parent ∧
      ((t.create c).1.node i).children = (t.node i).children := by
    intro i
    rw [node_create]
    split
    · next hi =>
      rw [node_of_size_le (Nat.le_of_eq hi.symm)]
      exact ⟨rfl, rfl⟩
    · exact ⟨rfl, rfl⟩
  have hroot : (t.create c).1.node root = t.node root := by
    rw [node_create, if_neg (Nat.ne_of_lt h.root_lt)]
  refine ⟨?_, ?_, ?_, ?_, ?_⟩
  · rw [size_create]
    exact Nat.lt_succ_of_lt h.root_lt
  · rw [hroot]
    exact h.root_content
  · rw [(hlinks root).1]
    exact h.root_parent
  · intro p i
    rw [(hlinks p).2, (hlinks i).1]
    exact h.mem_children p i
  · intro p
    rw [(hlinks p).2]
    exact h.nodup p

end Linked

/-! ### Taking a node out -/

@[simp] theorem size_detach (t : Tree) (i : NodeId) : (t.detach i).nodes.size = t.nodes.size := by
  unfold detach
  split
  · rfl
  · rw [size_modify, size_modify]

theorem content_detach (t : Tree) (i j : NodeId) :
    ((t.detach i).node j).content = (t.node j).content := by
  unfold detach
  split
  · rfl
  · rw [content_setParent, content_setChildren]

/-- A node that `Tree.detach` takes out has no parent; all others keep theirs. -/
theorem parent_detach (t : Tree) (i j : NodeId) :
    ((t.detach i).node j).parent = if j = i then none else (t.node j).parent := by
  unfold detach
  split
  · next hnone =>
    split
    · next hji => rw [hji]; exact hnone
    · rfl
  · next p hp =>
    -- the node has a parent, so it exists, and its own link is taken back
    rw [node_modify, size_modify]
    by_cases hji : j = i
    · rw [if_pos ⟨hji.symm, Linked.lt_of_parent hp⟩, if_pos hji]
    · rw [if_neg fun h => hji h.1.symm, if_neg hji, parent_setChildren]

/-- A node that is taken out leaves the children of whatever node it was below. `Tree.detach` only
    looks at its parent, so the links must agree for this. -/
theorem Linked.children_detach {t : Tree} (h : t.Linked) (i j : NodeId) :
    ((t.detach i).node j).children = (t.node j).children.filter (· != i) := by
  -- a list of children without the node is left as it is
  have hkeep : (t.node i).parent ≠ some j →
      (t.node j).children.filter (· != i) = (t.node j).children := by
    intro hne
    refine List.filter_eq_self.mpr fun c hc => bne_iff_ne.mpr ?_
    rintro rfl
    exact hne ((h.mem_children j c).mp hc)
  unfold detach
  split
  · next hnone => exact (hkeep (by rw [hnone]; simp)).symm
  · next p hp =>
    rw [children_setParent, node_modify]
    by_cases hpj : p = j
    · rw [if_pos ⟨hpj, h.parent_lt hp⟩]
    · rw [if_neg fun h' => hpj h'.1, hkeep fun hpj' => hpj (Option.some.inj (hp.symm.trans hpj'))]

/-- Taking a node out keeps the links: its parent and its place among the children go together. -/
theorem Linked.detach {t : Tree} (h : t.Linked) (i : NodeId) : (t.detach i).Linked where
  root_lt := by rw [size_detach]; exact h.root_lt
  root_content := by rw [content_detach]; exact h.root_content
  root_parent := by
    rw [parent_detach]
    split
    · rfl
    · exact h.root_parent
  mem_children := fun p c => by
    rw [h.children_detach, parent_detach, List.mem_filter, bne_iff_ne, h.mem_children]
    by_cases hc : c = i
    · rw [if_pos hc]
      exact ⟨fun hp => absurd hc hp.2, fun hp => absurd hp (by simp)⟩
    · rw [if_neg hc]
      exact ⟨fun hp => hp.1, fun hp => ⟨hp, hc⟩⟩
  nodup := fun p => by rw [h.children_detach]; exact (h.nodup p).filter _

/-! ### Putting a node somewhere else -/

/-- **One node is moved.** If a tree differs from a linked one in that `child` is now below `p`, and
    nowhere else, it is linked too. Both `append` and `insertBefore` are cases of this. -/
theorem Linked.of_moved {t t' : Tree} (h : t.Linked) {p child : NodeId}
    (hsize : t'.nodes.size = t.nodes.size) (hchild : child ≠ root)
    (hroot : (t'.node root).content = (t.node root).content)
    (hparent : ∀ j, (t'.node j).parent = if j = child then some p else (t.node j).parent)
    (hchildren : ∀ j c, c ∈ (t'.node j).children ↔
      (c ∈ (t.node j).children ∧ c ≠ child) ∨ (c = child ∧ j = p))
    (hnodup : ∀ j, (t'.node j).children.Nodup) : t'.Linked where
  root_lt := hsize ▸ h.root_lt
  root_content := hroot.trans h.root_content
  root_parent := by rw [hparent, if_neg (Ne.symm hchild)]; exact h.root_parent
  mem_children := fun q c => by
    rw [hchildren, hparent, h.mem_children]
    -- the links of the moved node are the new ones, all others are the old ones
    by_cases hc : c = child
    · rw [if_pos hc, Option.some.injEq]
      exact ⟨fun hq => hq.elim (fun hq => absurd hc hq.2) fun hq => hq.2.symm,
        fun hq => Or.inr ⟨hc, hq.symm⟩⟩
    · rw [if_neg hc]
      exact ⟨fun hq => hq.elim (fun hq => hq.1) fun hq => absurd hq.1 hc, fun hq => Or.inl ⟨hq, hc⟩⟩
  nodup := hnodup

@[simp] theorem size_append (t : Tree) (p c : NodeId) :
    (t.append p c).nodes.size = t.nodes.size := by
  unfold append
  rw [size_modify, size_modify, size_detach]

theorem content_append (t : Tree) (p c j : NodeId) :
    ((t.append p c).node j).content = (t.node j).content := by
  unfold append
  rw [content_setParent, content_setChildren, content_detach]

/-- The node that `Tree.append` moves gets the new parent; all others keep theirs. -/
theorem parent_append (t : Tree) {p c : NodeId} (hc : c < t.nodes.size) (j : NodeId) :
    ((t.append p c).node j).parent = if j = c then some p else (t.node j).parent := by
  unfold append
  rw [node_modify, size_modify, size_detach]
  by_cases hjc : j = c
  · rw [if_pos ⟨hjc.symm, hc⟩, if_pos hjc]
  · rw [if_neg fun h => hjc h.1.symm, if_neg hjc, parent_setChildren,
      parent_detach, if_neg hjc]

/-- The node that is appended leaves its old place and comes last among the children of `p`. -/
theorem Linked.children_append {t : Tree} (h : t.Linked) {p : NodeId} (hp : p < t.nodes.size)
    (c j : NodeId) :
    ((t.append p c).node j).children =
      (t.node j).children.filter (· != c) ++ if j = p then [c] else [] := by
  unfold append
  rw [children_setParent, node_modify, size_detach]
  by_cases hjp : j = p
  · rw [if_pos ⟨hjp.symm, hp⟩, if_pos hjp]
    show (((t.detach c).node j).children ++ [c]) = _
    rw [h.children_detach]
  · rw [if_neg fun h' => hjp h'.1.symm, if_neg hjp, h.children_detach, List.append_nil]

/-- `Tree.append` keeps the links; the document itself must stay where it is. -/
theorem Linked.append {t : Tree} (h : t.Linked) {p c : NodeId} (hp : p < t.nodes.size)
    (hc : c < t.nodes.size) (hroot : c ≠ root) : (t.append p c).Linked := by
  refine h.of_moved (size_append t p c) hroot (content_append t p c root) (parent_append t hc) ?_ ?_
  · intro j i
    rw [h.children_append hp, List.mem_append, List.mem_filter, bne_iff_ne]
    refine or_congr_right ?_
    by_cases hjp : j = p
    · rw [if_pos hjp, List.mem_singleton]
      exact ⟨fun hi => ⟨hi, hjp⟩, fun hi => hi.1⟩
    · rw [if_neg hjp]
      exact ⟨fun hi => absurd hi List.not_mem_nil, fun hi => absurd hi.2 hjp⟩
  · intro j
    rw [h.children_append hp]
    by_cases hjp : j = p
    · rw [if_pos hjp]
      -- the node is taken out of the list before it is put at the end
      refine List.Nodup.append ((h.nodup j).filter _) (List.nodup_singleton c) ?_
      intro i hi hic
      rw [List.mem_singleton] at hic
      exact bne_iff_ne.mp (List.mem_filter.mp hi).2 hic
    · rw [if_neg hjp, List.append_nil]
      exact (h.nodup j).filter _

@[simp] theorem size_insertBefore (t : Tree) (s c : NodeId) :
    (t.insertBefore s c).nodes.size = t.nodes.size := by
  unfold insertBefore
  dsimp only
  split
  · exact size_detach t c
  · rw [size_modify, size_modify, size_detach]

theorem content_insertBefore (t : Tree) (s c j : NodeId) :
    ((t.insertBefore s c).node j).content = (t.node j).content := by
  unfold insertBefore
  dsimp only
  split
  · exact content_detach t c j
  · rw [content_setParent, content_setChildren, content_detach]

/-- Putting a new member just before a member of a list, once, as `Tree.insertBefore` does with
    children. -/
theorem mem_flatMap_place {s c i : NodeId} {l : List NodeId} (hs : s ∈ l) :
    (i ∈ l.flatMap fun j => if j = s then [c, s] else [j]) ↔ i ∈ l ∨ i = c := by
  rw [List.mem_flatMap]
  constructor
  · rintro ⟨j, hj, hi⟩
    by_cases hjs : j = s
    · rw [if_pos hjs, List.mem_cons, List.mem_singleton] at hi
      rcases hi with rfl | rfl
      · exact Or.inr rfl
      · exact Or.inl hs
    · rw [if_neg hjs, List.mem_singleton] at hi
      exact Or.inl (hi ▸ hj)
  · rintro (hi | rfl)
    · by_cases his : i = s
      · exact ⟨i, hi, by rw [if_pos his, his]; exact List.mem_cons_of_mem _ List.mem_cons_self⟩
      · exact ⟨i, hi, by rw [if_neg his]; exact List.mem_cons_self⟩
    · exact ⟨s, hs, by rw [if_pos rfl]; exact List.mem_cons_self⟩

/-- A member that is put in once leaves the list without repeats, if it was not in the list
    before. -/
theorem nodup_flatMap_place {s c : NodeId} {l : List NodeId} (hl : l.Nodup) (hc : c ∉ l) :
    (l.flatMap fun j => if j = s then [c, s] else [j]).Nodup := by
  induction l with
  | nil => exact List.nodup_nil
  | cons j l ih =>
    obtain ⟨hj, hl⟩ := List.nodup_cons.mp hl
    rw [List.mem_cons, not_or] at hc
    by_cases hjs : j = s
    · -- the rest holds `s` no more and is left as it is
      have hrest : l.flatMap (fun j => if j = s then [c, s] else [j]) = l := by
        have hsingle : ∀ i ∈ l, (if i = s then [c, s] else [i]) = [i] := by
          intro i hi
          exact if_neg fun his => hj (by rw [hjs, ← his]; exact hi)
        rw [List.flatMap_congr hsingle, List.flatMap_singleton']
      rw [List.flatMap_cons, if_pos hjs, hrest]
      refine List.nodup_cons.mpr ⟨?_, List.nodup_cons.mpr ⟨hjs ▸ hj, hl⟩⟩
      intro h
      rcases List.mem_cons.mp h with h | h
      · exact hc.1 (h.trans hjs.symm)
      · exact hc.2 h
    · rw [List.flatMap_cons, if_neg hjs]
      refine List.nodup_cons.mpr ⟨?_, ih hl hc.2⟩
      -- the rest has only members of the list and the new one, and `j` is neither
      intro h
      obtain ⟨i, hi, hji⟩ := List.mem_flatMap.mp h
      by_cases his : i = s
      · rw [if_pos his, List.mem_cons, List.mem_singleton] at hji
        rcases hji with hji | hji
        · exact hc.1 hji.symm
        · exact hjs hji
      · rw [if_neg his, List.mem_singleton] at hji
        exact hj (hji ▸ hi)

/-- A node that was taken out is no child of any node, so `insertBefore` cannot put it in twice. -/
theorem Linked.not_mem_children_detach {t : Tree} (h : t.Linked) (c j : NodeId) :
    c ∉ ((t.detach c).node j).children := by
  intro hmem
  rw [h.children_detach, List.mem_filter] at hmem
  exact bne_iff_ne.mp hmem.2 rfl

/-- A node that is put before `s` gets the parent of `s`; all others keep theirs. -/
theorem parent_insertBefore {t : Tree} {s c p : NodeId} (hc : c < t.nodes.size)
    (hp : ((t.detach c).node s).parent = some p) (j : NodeId) :
    ((t.insertBefore s c).node j).parent =
      if j = c then some p else ((t.detach c).node j).parent := by
  unfold insertBefore
  simp only [hp]
  rw [node_modify, size_modify, size_detach]
  by_cases hjc : j = c
  · rw [if_pos ⟨hjc.symm, hc⟩, if_pos hjc]
  · rw [if_neg fun h => hjc h.1.symm, if_neg hjc, parent_setChildren]

/-- Only the children of the new parent change: the node comes in just before `s`. -/
theorem Linked.children_insertBefore {t : Tree} (h : t.Linked) {s c p : NodeId}
    (hp : ((t.detach c).node s).parent = some p) (j : NodeId) :
    ((t.insertBefore s c).node j).children =
      if j = p then ((t.detach c).node j).children.flatMap fun i => if i = s then [c, s] else [i]
      else ((t.detach c).node j).children := by
  have hplt : p < (t.detach c).nodes.size := (h.detach c).parent_lt hp
  unfold Tree.insertBefore
  simp only [hp]
  rw [children_setParent, node_modify]
  by_cases hjp : j = p
  · rw [if_pos ⟨hjp.symm, hplt⟩, if_pos hjp]
  · rw [if_neg fun h' => hjp h'.1.symm, if_neg hjp]

/-- Moving a node to just before another one keeps the links. If `s` has no parent once the node is
    taken out, the node stays out. -/
theorem Linked.insertBefore {t : Tree} (h : t.Linked) (s : NodeId) {c : NodeId}
    (hc : c < t.nodes.size) (hroot : c ≠ root) : (t.insertBefore s c).Linked := by
  have hd := h.detach c
  have hnot := h.not_mem_children_detach c
  cases hp : ((t.detach c).node s).parent with
  | none =>
    -- there is nothing before a node without a parent: the other one is only taken out
    have hsame : t.insertBefore s c = t.detach c := by
      unfold Tree.insertBefore
      simp only [hp]
    rw [hsame]
    exact hd
  | some p =>
    have hs : s ∈ ((t.detach c).node p).children := (hd.mem_children p s).mpr hp
    have hsize : (t.insertBefore s c).nodes.size = (t.detach c).nodes.size := by
      rw [size_insertBefore, size_detach]
    have hcontent : ((t.insertBefore s c).node root).content =
        ((t.detach c).node root).content := by
      rw [content_insertBefore, content_detach]
    refine hd.of_moved hsize hroot hcontent (parent_insertBefore hc hp) ?_ ?_
    · intro j i
      rw [h.children_insertBefore hp]
      by_cases hjp : j = p
      · rw [if_pos hjp, hjp, mem_flatMap_place hs]
        constructor
        · rintro (hi | hi)
          · exact Or.inl ⟨hi, fun hic => hnot p (hic ▸ hi)⟩
          · exact Or.inr ⟨hi, rfl⟩
        · rintro (hi | hi)
          · exact Or.inl hi.1
          · exact Or.inr hi.1
      · rw [if_neg hjp]
        constructor
        · intro hi
          exact Or.inl ⟨hi, fun hic => hnot j (hic ▸ hi)⟩
        · rintro (hi | hi)
          · exact hi.1
          · exact absurd hi.2 hjp
    · intro j
      rw [h.children_insertBefore hp]
      split
      · exact nodup_flatMap_place (hd.nodup j) (hnot j)
      · exact hd.nodup j

/-! ### Moving all children -/

/-- Giving several nodes one parent, as `moveChildren` does, changes nothing but the parents, by
    induction on the nodes. -/
theorem foldl_setParent (target : NodeId) (l : List NodeId) (t : Tree) (j : NodeId) :
    let t' := l.foldl (fun t i => t.modify i fun n => { n with parent := some target }) t
    t'.nodes.size = t.nodes.size ∧ (t'.node j).content = (t.node j).content ∧
      (t'.node j).children = (t.node j).children ∧
      (t'.node j).parent = if j ∈ l ∧ j < t.nodes.size then some target else (t.node j).parent := by
  induction l generalizing t with
  | nil => exact ⟨rfl, rfl, rfl, by rw [if_neg fun h => absurd h.1 List.not_mem_nil]; rfl⟩
  | cons i l ih =>
    obtain ⟨hsize, hcontent, hchildren, hparent⟩ :=
      ih (t.modify i fun n => { n with parent := some target })
    rw [size_modify] at hsize hparent
    rw [content_setParent] at hcontent
    rw [children_setParent] at hchildren
    refine ⟨hsize, hcontent, hchildren, ?_⟩
    show (Node.parent _) = _
    rw [List.foldl_cons, hparent, node_modify]
    -- a node that occurs again later gets the same parent then
    by_cases hj : j ∈ l ∧ j < t.nodes.size
    · rw [if_pos hj, if_pos ⟨List.mem_cons_of_mem _ hj.1, hj.2⟩]
    · rw [if_neg hj]
      by_cases hij : i = j ∧ i < t.nodes.size
      · rw [if_pos hij, if_pos ⟨List.mem_cons.mpr (Or.inl hij.1.symm), hij.1 ▸ hij.2⟩]
      · rw [if_neg hij, if_neg]
        rintro ⟨hmem, hlt⟩
        rcases List.mem_cons.mp hmem with h | h
        · exact hij ⟨h.symm, h ▸ hlt⟩
        · exact hj ⟨h, hlt⟩

@[simp] theorem size_moveChildren (t : Tree) (s p : NodeId) :
    (t.moveChildren s p).nodes.size = t.nodes.size := by
  unfold moveChildren
  rw [(foldl_setParent p _ _ root).1, size_modify, size_modify]

theorem content_moveChildren (t : Tree) (s p j : NodeId) :
    ((t.moveChildren s p).node j).content = (t.node j).content := by
  unfold moveChildren
  rw [(foldl_setParent p _ _ j).2.1, content_setChildren, content_setChildren]

/-- The nodes that are moved are those below `s`, since the links agree. -/
theorem Linked.parent_moveChildren {t : Tree} (h : t.Linked) (s p j : NodeId) :
    ((t.moveChildren s p).node j).parent =
      if j ∈ (t.node s).children then some p else (t.node j).parent := by
  unfold moveChildren
  rw [(foldl_setParent p _ _ j).2.2.2, parent_setChildren, parent_setChildren, size_modify,
    size_modify]
  by_cases hj : j ∈ (t.node s).children
  · rw [if_pos ⟨hj, lt_of_parent ((h.mem_children s j).mp hj)⟩, if_pos hj]
  · rw [if_neg fun h' => hj h'.1, if_neg hj]

/-- Afterwards `s` has no children, and its former ones come last among those of `p`. -/
theorem children_moveChildren (t : Tree) {s p : NodeId} (hs : s < t.nodes.size)
    (hp : p < t.nodes.size) (hne : s ≠ p) (j : NodeId) :
    ((t.moveChildren s p).node j).children =
      if j = s then []
      else (t.node j).children ++ if j = p then (t.node s).children else [] := by
  unfold moveChildren
  rw [(foldl_setParent p _ _ j).2.2.1, node_modify, size_modify]
  -- the source is emptied before the target is filled, which matters since they differ
  by_cases hjs : j = s
  · rw [if_pos hjs, if_neg fun h => hne (hjs.symm.trans h.1.symm), node_modify,
      if_pos ⟨hjs.symm, hs⟩]
  · rw [if_neg hjs]
    have hsame : (t.modify s fun n => { n with children := [] }).node j = t.node j := by
      rw [node_modify, if_neg fun h => hjs h.1.symm]
    by_cases hjp : j = p
    · rw [if_pos ⟨hjp.symm, hp⟩, if_pos hjp, hsame]
    · rw [if_neg fun h => hjp h.1.symm, if_neg hjp, hsame, List.append_nil]

/-- `children_moveChildren` as a condition on one node, which is how `Linked` speaks of children. -/
theorem mem_children_moveChildren (t : Tree) {s p : NodeId} (hs : s < t.nodes.size)
    (hp : p < t.nodes.size) (hne : s ≠ p) {q c : NodeId} :
    c ∈ ((t.moveChildren s p).node q).children ↔
      q ≠ s ∧ (c ∈ (t.node q).children ∨ (q = p ∧ c ∈ (t.node s).children)) := by
  rw [children_moveChildren t hs hp hne]
  by_cases hqs : q = s
  · simp [hqs]
  · rw [if_neg hqs, List.mem_append]
    by_cases hqp : q = p
    · simp [hqp, Ne.symm hne]
    · simp [hqs, hqp]

/-- `Tree.moveChildren` keeps the links. Between different nodes only: a node cannot be emptied into
    itself. -/
theorem Linked.moveChildren {t : Tree} (h : t.Linked) {s p : NodeId} (hs : s < t.nodes.size)
    (hp : p < t.nodes.size) (hne : s ≠ p) : (t.moveChildren s p).Linked where
  root_lt := by
    rw [size_moveChildren]
    exact h.root_lt
  root_content := by
    rw [content_moveChildren]
    exact h.root_content
  root_parent := by
    rw [h.parent_moveChildren, if_neg, h.root_parent]
    intro hroot
    rw [h.mem_children, h.root_parent] at hroot
    exact absurd hroot (by simp)
  mem_children := fun q c => by
    rw [mem_children_moveChildren t hs hp hne, h.parent_moveChildren]
    by_cases hc : c ∈ (t.node s).children
    · -- a child that moves was nobody else's
      have hparent := (h.mem_children s c).mp hc
      rw [if_pos hc, Option.some.injEq, h.mem_children, hparent, Option.some.injEq]
      constructor
      · rintro ⟨hqs, hsq | ⟨hqp, -⟩⟩
        · exact absurd hsq.symm hqs
        · exact hqp.symm
      · rintro rfl
        exact ⟨Ne.symm hne, Or.inr ⟨rfl, hc⟩⟩
    · rw [if_neg hc, ← h.mem_children]
      constructor
      · rintro ⟨-, hq | ⟨-, hq⟩⟩
        · exact hq
        · exact absurd hq hc
      · intro hq
        refine ⟨?_, Or.inl hq⟩
        rintro rfl
        exact hc hq
  nodup := fun q => by
    rw [children_moveChildren t hs hp hne]
    split
    · exact List.nodup_nil
    · next hqs =>
      by_cases hqp : q = p
      · rw [if_pos hqp]
        refine List.Nodup.append (h.nodup q) (h.nodup s) ?_
        intro c hcq hcs
        rw [h.mem_children] at hcq hcs
        exact hqs (Option.some.inj (hcq.symm.trans hcs))
      · rw [if_neg hqp, List.append_nil]
        exact h.nodup q

/-! ### Texts and attributes -/

/-- What `extendText?` does to a tree: that node gets longer, and nothing else changes. -/
theorem extendText?_eq_some {t t' : Tree} {i : Option NodeId} {more : Text}
    (h : t.extendText? i more = some t') :
    ∃ j old, (t.node j).content = .text old ∧
      t' = t.modify j fun n => { n with content := .text (old ++ more) } := by
  unfold extendText? at h
  split at h
  · exact absurd h (by simp)
  · next j =>
    split at h
    · next old hold => exact ⟨j, old, hold, (Option.some.inj h).symm⟩
    · exact absurd h (by simp)

/-- A change of one node's content keeps the links; the document must stay the document. -/
theorem Linked.setContent {t : Tree} (h : t.Linked) (i : NodeId) (g : Node → Content)
    (hi : i = root → g (t.node i) = .document) :
    (t.modify i fun n => { n with content := g n }).Linked := by
  refine h.of_same_links (size_modify t i _).symm ?_ (parent_setContent t i g)
    (children_setContent t i g)
  rw [node_modify]
  split
  · next hir =>
    show g (t.node root) = _
    rw [← hir.1, hi hir.1, hir.1, h.root_content]
  · rfl

/-- Adding to a text keeps the links. -/
theorem Linked.extendText? {t t' : Tree} (h : t.Linked) {i : Option NodeId} {more : Text}
    (ht : t.extendText? i more = some t') : t'.Linked := by
  obtain ⟨j, old, hold, rfl⟩ := extendText?_eq_some ht
  refine h.setContent j _ fun hj => ?_
  rw [hj, h.root_content] at hold
  exact absurd hold (by simp)

/-- `Tree.appendText` keeps the links, whether a text gets longer or a new one is appended. -/
theorem Linked.appendText {t : Tree} (h : t.Linked) {p : NodeId} (hp : p < t.nodes.size)
    (more : Text) : (t.appendText p more).Linked := by
  unfold Tree.appendText
  split
  · next ht => exact h.extendText? ht
  · refine (h.create _).append ?_ ?_ (Nat.ne_of_gt h.root_lt)
    · rw [size_create]; exact Nat.lt_succ_of_lt hp
    · rw [size_create]; exact Nat.lt_succ_self _

/-- `Tree.insertTextBefore` keeps the links, in the same two ways. -/
theorem Linked.insertTextBefore {t : Tree} (h : t.Linked) (s : NodeId) (more : Text) :
    (t.insertTextBefore s more).Linked := by
  unfold Tree.insertTextBefore
  split
  · next ht => exact h.extendText? ht
  · refine (h.create _).insertBefore s ?_ (Nat.ne_of_gt h.root_lt)
    rw [size_create]; exact Nat.lt_succ_self _

/-- `addMissingAttrs` changes no links, and no content but an element's: the document is the
    document still. -/
theorem node_addMissingAttrs (t : Tree) (i : NodeId) (attrs : List Attr) (j : NodeId) :
    ((t.addMissingAttrs i attrs).node j).parent = (t.node j).parent ∧
      ((t.addMissingAttrs i attrs).node j).children = (t.node j).children ∧
      ((t.node j).content = .document → ((t.addMissingAttrs i attrs).node j).content = .document) := by
  unfold addMissingAttrs
  rw [node_modify]
  split
  · -- whatever the node holds, only an element is changed, into an element
    cases t.node j with
    | mk content parent children => cases content <;> simp
  · exact ⟨rfl, rfl, id⟩

/-- Adding attributes keeps the links, a case of `Linked.of_same_links`. -/
theorem Linked.addMissingAttrs {t : Tree} (h : t.Linked) (i : NodeId) (attrs : List Attr) :
    (t.addMissingAttrs i attrs).Linked := by
  have hnode := node_addMissingAttrs t i attrs
  refine h.of_same_links (size_modify _ _ _).symm ?_ (fun j => (hnode j).1) fun j => (hnode j).2.1
  exact ((hnode root).2.2 h.root_content).trans h.root_content.symm

end AccessLint.Html.Tree
