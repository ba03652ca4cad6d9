import AccessLint.Proofs.Html.Builder.Basic

namespace AccessLint.Html.Builder

/-!
# Formatting elements are sound

* `Sound.reopenFormatting`, `Sound.insertFormatting` — opening formatting elements, also again;
* `Copying.Sound` — what holds while the elements between a block and a formatting element are
  copied;
* `Sound.splitAround` — the block is moved out, its content into a new formatting element;
* `Sound.endFormatting` — the end tag of a formatting element.
-/

variable {S : Stock} {base : Tree} {b : Builder}

theorem mem_afterMarker {f : Formatting} {fs : List Formatting} (h : f ∈ afterMarker fs) :
    f ∈ fs := by
  induction fs with
  | nil => exact h
  | cons g fs ih =>
    cases g with
    | marker => exact List.mem_cons_of_mem _ h
    | element id t => exact List.mem_cons_of_mem _ (ih h)

/-- The entries that `untilMarker` gives are entries of the list, with their tags. -/
theorem mem_of_mem_untilMarker {id : NodeId} {t : Tag} {fs : List Formatting}
    (h : (id, t) ∈ untilMarker fs) : Formatting.element id t ∈ fs := by
  induction fs with
  | nil => exact absurd h List.not_mem_nil
  | cons g fs ih =>
    cases g with
    | marker => exact absurd h List.not_mem_nil
    | element id' t' =>
      rcases List.mem_cons.mp h with heq | h
      · obtain ⟨rfl, rfl⟩ := Prod.mk.inj heq
        exact List.mem_cons_self
      · exact List.mem_cons_of_mem _ (ih h)

/-- What an end tag of an ordinary element leaves open (`outsideOrdinary?`) was open before. -/
theorem mem_of_outsideOrdinary? {name : Text} {o : Open} {os rest : List Open}
    (h : outsideOrdinary? name os = some rest) (ho : o ∈ rest) : o ∈ os := by
  induction os with
  | nil => exact absurd h (by simp [outsideOrdinary?])
  | cons a os ih =>
    unfold outsideOrdinary? at h
    split at h
    · rw [Option.some.inj h]
      exact List.mem_cons_of_mem _ ho
    · split at h
      · exact absurd h (by simp)
      · exact List.mem_cons_of_mem _ (ih h)

/-! ### The list of formatting elements -/

/-- The list gets one more element: its tag must be of the stock, as those of the others are. -/
theorem tags_cons {new : NodeId} {tag : Tag} {fs : List Formatting} (htag : S.tags tag)
    (hfs : ∀ id t, Formatting.element id t ∈ fs → S.tags t) :
    ∀ id t, Formatting.element id t ∈ .element new tag :: fs → S.tags t := by
  intro id t hmem
  rcases List.mem_cons.mp hmem with heq | hmem
  · rw [(Formatting.element.inj heq).2]
    exact htag
  · exact hfs id t hmem

/-- An element of the list is replaced by a copy, which is made of a tag of the stock as well. -/
theorem tags_swapped (old new : NodeId) {tag : Tag} {fs : List Formatting} (htag : S.tags tag)
    (hfs : ∀ id t, Formatting.element id t ∈ fs → S.tags t) :
    ∀ id t, Formatting.element id t ∈
      fs.map (fun f => if isOf old f then .element new tag else f) → S.tags t := by
  intro id t hmem
  obtain ⟨f, hf, heq⟩ := List.mem_map.mp hmem
  split at heq
  · rw [← (Formatting.element.inj heq).2]
    exact htag
  · rw [heq] at hf
    exact hfs id t hf

namespace Sound

/-- A marker has no tag, so it may be added to the list at any time. -/
theorem mark (h : Sound S base b) : Sound S base b.mark := by
  refine h.reformat fun id t hmem => ?_
  rcases List.mem_cons.mp hmem with heq | hmem
  · exact absurd heq (by simp)
  · exact h.tags id t hmem

theorem clearToMarker (h : Sound S base b) : Sound S base b.clearToMarker :=
  h.forgetting fun _ hf => mem_afterMarker hf

theorem forget (h : Sound S base b) (id : NodeId) : Sound S base (b.forget id) :=
  h.forgetting fun _ hf => List.mem_of_mem_filter hf

/-- The tag of a formatting element that was found in the list is of the stock, since the whole list
    is. -/
theorem tags_of_find? (h : Sound S base b) {p : NodeId × Tag → Bool} {id : NodeId} {t : Tag}
    (hfind : (untilMarker b.formatting).find? p = some (id, t)) : S.tags t :=
  h.tags id t (mem_of_mem_untilMarker (List.mem_of_find?_eq_some hfind))

/-- By `reopen` formatting elements are opened again, one after the other, and go back to the list
    as new elements. The induction is on the tags to be reopened, with the builder kept general. -/
theorem reopen (h : Sound S base b) {ts : List Tag} {kept : List Formatting}
    (hts : ∀ t ∈ ts, S.tags t) (hkept : ∀ id t, Formatting.element id t ∈ kept → S.tags t) :
    Sound S base (b.reopen ts kept) := by
  induction ts generalizing b kept with
  | nil => exact h.reformat hkept
  | cons t ts ih =>
    have ht := hts t List.mem_cons_self
    have hrest : ∀ t' ∈ ts, S.tags t' := fun t' ht' => hts t' (List.mem_cons_of_mem _ ht')
    -- the reopened element is a new node, which takes the old one's place in the list
    exact ih (h.insertElement ht) hrest (tags_cons ht hkept)

/-- `reopenFormatting` takes the tags to reopen from the list of formatting elements, so they are of
    the stock. -/
theorem reopenFormatting (h : Sound S base b) : Sound S base b.reopenFormatting := by
  refine h.reopen ?_ fun id t hmem => h.tags id t (List.mem_of_mem_drop hmem)
  -- the tags are those of the entries up to the first one that needs no reopening
  intro t ht
  obtain ⟨f, hf, htag⟩ := List.mem_filterMap.mp (List.mem_reverse.mp ht)
  cases f with
  | marker => exact absurd htag (by simp [tagOf?])
  | element id t' =>
    rw [← Option.some.inj htag]
    exact h.tags id t' ((List.takeWhile_sublist _).mem hf)

/-- A formatting element is opened and kept in the list, from which the earliest of too many equal
    ones is forgotten. -/
theorem insertFormatting (h : Sound S base b) {t : Tag} (ht : S.tags t) :
    Sound S base (b.insertFormatting t) := by
  have hadd : ∀ {b' : Builder}, Sound S base b' → Sound S base { b'.insertElement t with
      formatting := .element b'.nextId t :: b'.formatting } := by
    intro b' h'
    exact (h'.insertElement ht).reformat (tags_cons ht h'.tags)
  unfold Builder.insertFormatting
  refine hadd ?_
  split
  · exact ite (h.forget _) h
  · exact h

/-- The end tag of an ordinary element closes it with what is open inside, unless a special element
    is in between. -/
theorem endOther (h : Sound S base b) (name : Text) : Sound S base (b.endOther name) := by
  unfold Builder.endOther
  split
  · exact h
  · next hos => exact h.restack fun o ho => mem_of_outsideOrdinary? hos ho

end Sound

/-! ### Copying the elements between -/

/-- What holds while elements are copied: the builder is sound, what was moved last is a node
    other than the document, and the copies are elements of the tree. -/
structure Copying.Sound (S : Stock) (base : Tree) (c : Copying) : Prop where
  builder : Builder.Sound S base c.builder
  last_lt : c.last < c.builder.tree.nodes.size
  last_ne_root : c.last ≠ Tree.root
  copies : ∀ o ∈ c.copies, IsIn o c.builder.tree

/-- A node, with all below it, is moved to the end of another one's children: `detach` and `append`
    keep the links. -/
theorem Sound.relocate (h : Sound S base b) {p c : NodeId} (hp : p < b.tree.nodes.size)
    (hc : c < b.tree.nodes.size) (hroot : c ≠ Tree.root) :
    Sound S base { b with tree := (b.tree.detach c).append p c } ∧
      b.tree.Extends ((b.tree.detach c).append p c) := by
  constructor
  · refine (h.detach c).append ?_ ?_ hroot
    · rw [Tree.size_detach]
      exact hp
    · rw [Tree.size_detach]
      exact hc
  · refine .of_same_contents ?_ fun i => ?_
    · rw [Tree.size_append, Tree.size_detach]
    · rw [Tree.content_append, Tree.content_detach]

/-- With `Copying.next` one element between block and formatting element is copied, and what was
    moved last goes into the copy. An element that is no formatting element, or too far from the
    block, is only closed. -/
theorem Copying.Sound.next {c : Copying} (h : c.Sound S base) (o : Open) (count : Nat) :
    (c.next o count).Sound S base := by
  unfold Copying.next
  dsimp only
  split
  · next id tag hfind =>
    split
    · exact ⟨h.builder.forget _, h.last_lt, h.last_ne_root, h.copies⟩
    · have htag := h.builder.tags id tag (List.mem_of_find?_eq_some hfind)
      obtain ⟨hnew, hid, hmem, hlater⟩ := h.builder.create (.markup tag htag)
      rw [hid]
      -- the copy stands in the list for the original, and gets what was moved last
      have hswapped := hnew.reformat (tags_swapped o.id c.builder.nextId htag hnew.tags)
      have hlt := Tree.lt_size_of_element? hmem
      have hlast := Nat.lt_of_lt_of_le h.last_lt hlater.size
      obtain ⟨hmoved, hlater'⟩ := hswapped.relocate hlt hlast h.last_ne_root
      refine ⟨hmoved, Nat.lt_of_lt_of_le hlt hlater'.size, h.builder.nextId_ne_root, ?_⟩
      intro o' ho'
      rcases List.mem_append.mp ho' with ho' | ho'
      · exact ((h.copies o' ho').later hlater).later hlater'
      · rw [List.mem_singleton.mp ho']
        have hin : IsIn ⟨c.builder.nextId, elementOf tag⟩
            (c.builder.create (elementOf tag)).1.tree := ⟨_, hmem, .refl _⟩
        exact hin.later hlater'
  · exact h

/-- All elements between are copied from the block outwards: `Copying.Sound.next` at each of
    them. -/
theorem Copying.Sound.run {c : Copying} (h : c.Sound S base) (count : Nat) (os : List Open) :
    (c.run count os).Sound S base := by
  induction os generalizing c count with
  | nil => exact h
  | cons o os ih => exact ih (h.next o count) (count + 1)

/-! ### Splitting -/

/-- The parts of the open elements around a formatting element are open elements: `Nesting.of?` only
    divides the list. -/
theorem Nesting.mem_of? {inside outer : List Open} {n : Nesting}
    (h : Nesting.of? inside outer = some n) :
    (∀ o ∈ n.inner, o ∈ inside) ∧ n.block ∈ inside ∧ n.outer = outer := by
  unfold Nesting.of? at h
  dsimp only at h
  split at h
  · exact absurd h (by simp)
  · next block inner heq =>
    rw [← Option.some.inj h]
    -- the block and what is inside it were a part of the open elements, in reverse
    have hmem : ∀ o ∈ block :: inner, o ∈ inside := by
      intro o ho
      rw [← heq] at ho
      exact List.mem_of_mem_take (List.mem_reverse.mp ho)
    refine ⟨?_, hmem block List.mem_cons_self, rfl⟩
    intro o ho
    exact hmem o (List.mem_cons_of_mem _ (List.mem_reverse.mp ho))

namespace Sound

/-- The new formatting element goes to the bookmark in the list, or in the place of the old one; its
    tag is of the stock. -/
theorem placeFormatting (h : Sound S base b) (bookmark : Bookmark) (old new : NodeId) {tag : Tag}
    (ht : S.tags tag) : Sound S base (b.placeFormatting bookmark old new tag) := by
  unfold Builder.placeFormatting
  cases bookmark with
  | replace => exact h.reformat (tags_swapped old new ht h.tags)
  | after i =>
    -- the new entry is inserted, then the old one is dropped
    refine forget (h.reformat fun id t hmem => ?_) old
    obtain ⟨f, hf, hmem⟩ := List.mem_flatMap.mp hmem
    have hcases : Formatting.element id t = .element new tag ∨ Formatting.element id t = f := by
      split at hmem
      · rcases List.mem_cons.mp hmem with heq | hmem
        · exact Or.inl heq
        · exact Or.inr (List.mem_singleton.mp hmem)
      · exact Or.inr (List.mem_singleton.mp hmem)
    rcases hcases with heq | heq
    · rw [(Formatting.element.inj heq).2]
      exact ht
    · rw [← heq] at hf
      exact h.tags id t hf

theorem onto {b' : Builder} (h : Sound S base b) (h' : Sound S b.tree b') : Sound S base b' :=
  ⟨h'.linked, h.later.trans h'.later, h'.isOpen, h'.tags, h'.isHead, h'.made⟩

/-- `Copying.placeLast` puts what was moved last below the common ancestor, the innermost element
    around the formatting element; if that is part of a table, it is fostered. -/
theorem placeLast {c : Copying} (h : c.Sound S base) {outer : List Open}
    (houter : ∀ o ∈ outer, IsIn o c.builder.tree) :
    Sound S base (c.placeLast outer) ∧ c.builder.tree.Extends (c.placeLast outer).tree := by
  have hdetached := h.builder.detach c.last
  have hsame : c.builder.tree.Extends (c.builder.tree.detach c.last) :=
    .of_same_contents (Tree.size_detach _ _) (Tree.content_detach _ _)
  unfold Copying.placeLast
  dsimp only
  split
  · next ancestor hancestor =>
    have hin := (houter ancestor (List.mem_of_mem_head? hancestor)).later hsame
    refine ⟨hdetached.put (hdetached.placeIn_exists hin) ?_ h.last_ne_root, ?_⟩
    · exact Nat.lt_of_lt_of_le h.last_lt hsame.size
    · exact hsame.trans (.of_same_contents (size_put _ _ _) (content_put _ _ _))
  · exact ⟨hdetached, hsame⟩

/-- A block is filled with a new formatting element, which is another node than the block: so
    `moveChildren` moves nothing into itself. -/
theorem fillBlock (h : Sound S base b) {block : NodeId} (hblock : block < b.tree.nodes.size)
    {tag : Tag} (ht : S.tags tag) :
    Sound S base (b.fillBlock block tag).1 ∧
      IsIn ⟨(b.fillBlock block tag).2, elementOf tag⟩ (b.fillBlock block tag).1.tree ∧
      b.tree.Extends (b.fillBlock block tag).1.tree := by
  obtain ⟨hnew, hid, hmem, hlater⟩ := h.create (.markup tag ht)
  unfold Builder.fillBlock
  dsimp only
  rw [hid]
  -- the new element is a later node than the block, so the children change their parent
  have hlt := Tree.lt_size_of_element? hmem
  have hblock' := Nat.lt_of_lt_of_le hblock hlater.size
  have hmoved := hnew.moveChildren hblock' hlt (Nat.ne_of_lt hblock)
  have hsize : ((b.create (elementOf tag)).1.tree.moveChildren block b.nextId).nodes.size =
      (b.create (elementOf tag)).1.tree.nodes.size := Tree.size_moveChildren _ _ _
  have hsame : (b.create (elementOf tag)).1.tree.Extends
      (((b.create (elementOf tag)).1.tree.moveChildren block b.nextId).append block b.nextId) := by
    refine .of_same_contents ?_ fun i => ?_
    · rw [Tree.size_append, hsize]
    · rw [Tree.content_append, Tree.content_moveChildren]
  refine ⟨?_, ?_, hlater.trans hsame⟩
  · exact hmoved.append (hsize ▸ hblock') (hsize ▸ hlt) h.nextId_ne_root
  · exact IsIn.later (t := (b.create (elementOf tag)).1.tree) ⟨_, hmem, .refl _⟩ hsame

/-- The place in the list of formatting elements is no matter of the tree, so what is known of the
    tree stays known. -/
theorem tree_placeFormatting (b : Builder) (bookmark : Bookmark) (old new : NodeId) (tag : Tag) :
    (b.placeFormatting bookmark old new tag).tree = b.tree := by
  cases bookmark <;> rfl

/-- **The block is moved out** by `splitAround`. All nodes that are moved exist, and the new
    formatting element is not the block. -/
theorem splitAround (h : Sound S base b) (fmt : Open) {tag : Tag} (ht : S.tags tag) {n : Nesting}
    (hinner : ∀ o ∈ n.inner, IsIn o b.tree) (hblock : IsIn n.block b.tree)
    (houter : ∀ o ∈ n.outer, IsIn o b.tree) : Sound S base (b.splitAround fmt tag n) := by
  refine h.onto ?_
  have hroot : n.block.id ≠ Tree.root := by
    obtain ⟨e, he, -⟩ := hblock
    exact h.linked.ne_root he
  -- what is copied starts with no copies, the block being moved first
  have hcopied : Copying.Sound S b.tree (Copying.run ⟨b, n.block.id, [], .replace⟩ 1 n.between) :=
    Copying.Sound.run ⟨h.rebase, hblock.lt_size, hroot, fun o ho => absurd ho List.not_mem_nil⟩ 1 _
  unfold Builder.splitAround
  dsimp only
  generalize Copying.run ⟨b, n.block.id, [], .replace⟩ 1 n.between = c at hcopied ⊢
  obtain ⟨hplaced, hlater⟩ :=
    placeLast hcopied fun o ho => (houter o ho).later hcopied.builder.later
  obtain ⟨hfilled, hnew, hlater'⟩ := hplaced.fillBlock (hblock.later hplaced.later).lt_size ht
  have hlist := hfilled.placeFormatting c.bookmark fmt.id
    ((c.placeLast n.outer).fillBlock n.block.id tag).2 ht
  refine ⟨hlist.linked, hlist.later, ?_, hlist.tags, hlist.isHead, hlist.made⟩
  intro o ho
  dsimp only
  rw [tree_placeFormatting]
  -- the open elements are old ones, the new formatting element, and the copies
  have hold : ∀ {o : Open}, IsIn o b.tree →
      IsIn o ((c.placeLast n.outer).fillBlock n.block.id tag).1.tree :=
    fun ho => (ho.later hplaced.later).later hlater'
  rcases List.mem_append.mp ho with ho | ho
  · rcases List.mem_append.mp ho with ho | ho
    · rcases List.mem_append.mp ho with ho | ho
      · exact hold (hinner o ho)
      · rcases List.mem_cons.mp ho with rfl | ho
        · exact hnew
        · rw [List.mem_singleton.mp ho]
          exact hold hblock
    · exact ((hcopied.copies o ho).later hlater).later hlater'
  · exact hold (houter o ho)

/-! ### End tags -/

/-- One round of an end tag (`endFormattingOnce`) keeps a builder sound: it closes elements, forgets
    an entry, or splits the element around a block. -/
theorem endFormattingOnce (h : Sound S base b) (name : Text) :
    Sound S base (b.endFormattingOnce name).1 := by
  unfold Builder.endFormattingOnce
  split
  · exact h.endOther name
  · next id tag hfind =>
    dsimp only
    split
    · -- the element is not open any more
      exact h.forget id
    · next fmt outer hdrop =>
      have houter : ∀ o ∈ outer, o ∈ b.stack := by
        intro o ho
        have hmem : o ∈ fmt :: outer := List.mem_cons_of_mem _ ho
        rw [← hdrop] at hmem
        exact List.mem_of_mem_drop hmem
      split
      · exact h
      · split
        · -- no block is inside the element, which is just closed
          exact (h.restack houter).forget id
        · next n hn =>
          obtain ⟨hinner, hblock, heq⟩ := Nesting.mem_of? hn
          have hinside : ∀ o ∈ b.stack.takeWhile fun o => o.id != id, IsIn o b.tree :=
            fun o ho => h.isOpen o ((List.takeWhile_sublist _).mem ho)
          refine h.splitAround fmt (h.tags_of_find? hfind) ?_ (hinside _ hblock) ?_
          · exact fun o ho => hinside o (hinner o ho)
          · rw [heq]
            exact fun o ho => h.isOpen o (houter o ho)

/-- So do any number of rounds, by induction on the number. -/
theorem endFormattingRounds (h : Sound S base b) (name : Text) (rounds : Nat) :
    Sound S base (b.endFormattingRounds name rounds) := by
  induction rounds generalizing b with
  | zero => exact h
  | succ rounds ih =>
    have hnext := h.endFormattingOnce name
    unfold Builder.endFormattingRounds
    split
    · next heq =>
      rw [heq] at hnext
      exact ih hnext
    · next heq =>
      rw [heq] at hnext
      exact hnext

/-- **The end tag of a formatting element** keeps a builder sound, however the elements are
    nested. -/
theorem endFormatting (h : Sound S base b) (name : Text) : Sound S base (b.endFormatting name) := by
  unfold Builder.endFormatting
  split
  · exact ite h.pop (h.endFormattingRounds name 8)
  · exact h

end Sound

end AccessLint.Html.Builder
