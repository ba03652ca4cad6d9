import AccessLint.Proofs.Html.Builder.Answer
import AccessLint.Proofs.Html.Carried

namespace AccessLint.Html

/-!
# Where elements come from

The tree does not remember which tags its elements were made of. The run of the builder shows it:
the last look at a start tag creates the element of the tag as the newest one.

* `startTagAt?` — the start tag written at a byte of a source, as it is read;
* `Builder.made?`, `Builder.makings` — the elements made of the start tags of a text, each with what
  remained to be read before its tag;
* `origins` — the elements of the tree of a source that were made of start tags, each with the byte
  of its tag;
* `origins_carries` — an element carries exactly the attributes written at its origin;
* `lt_iff_of_origins` — elements are created in the order of their tags.
-/

/-! ### Start tags in a source -/

/-- The start tag written at a byte of a source, as it is read. -/
def startTagAt? (source : Text) (offset : Nat) : Option Tag :=
  match Text.fromByte? offset source with
  | some ('<' :: r) =>
    if r.head?.any Char.isAlpha then (readTag? (normalizeLines r)).map Prod.fst else none
  | _ => none

/-- `startTagAt?` reads the tag from the byte on, with the line ends that reading replaces. -/
theorem startTagAt?_of_fromByte? {source r : Text} {offset : Nat}
    (h : Text.fromByte? offset source = some ('<' :: r)) (halpha : r.head?.any Char.isAlpha = true) :
    startTagAt? source offset = (readTag? (normalizeLines r)).map Prod.fst := by
  unfold startTagAt?
  rw [h]
  exact if_pos halpha

/-- A start tag of what is read is written in the source, at the byte that `offsetOf` gives for what
    remains before it. -/
theorem startTagAt?_offsetOf {source r rest : Text} {tag : Tag}
    (hsuffix : '<' :: r <:+ prepare source) (halpha : r.head?.any Char.isAlpha = true)
    (htag : readTag? r = some (tag, rest)) :
    startTagAt? source (offsetOf source ('<' :: r)) = some tag := by
  -- neither `<` nor a letter stands for a line end
  obtain ⟨r', hunread, hread⟩ :=
    eq_cons_of_normalizeLines (normalizeLines_unread hsuffix) (by decide)
  have halpha' : r'.head?.any Char.isAlpha = true := by
    -- the letter that was read is written there too
    cases r with
    | nil => simp at halpha
    | cons c r =>
      have hc : c.isAlpha = true := by simpa using halpha
      have hne : c ≠ '\n' := by
        rintro rfl
        exact absurd hc (by decide)
      obtain ⟨r'', hr', -⟩ := eq_cons_of_normalizeLines hread hne
      rw [hr']
      simpa using hc
  have hfrom := fromByte?_offsetOf source ('<' :: r)
  rw [hunread] at hfrom
  rw [startTagAt?_of_fromByte? hfrom halpha', hread, htag]
  rfl

/-! ### The element of a start tag -/

/-- The newest element of a tree. -/
def Tree.newestElement? (t : Tree) : Option NodeId :=
  ((List.range t.nodes.size).filter fun i => (t.element? i).isSome).getLast?

/-- `newestElement?` is the last element of all, in the order in which elements are created. -/
theorem Tree.le_newestElement? {t : Tree} {i j : NodeId} {e : Element}
    (hj : t.newestElement? = some j) (he : t.element? i = some e) : i ≤ j := by
  -- the nodes are listed in the order of their creation
  obtain ⟨before, hsplit⟩ := List.getLast?_eq_some_iff.mp hj
  have hsorted : ((List.range t.nodes.size).filter fun i => (t.element? i).isSome).Pairwise (· < ·) :=
    List.pairwise_lt_range.filter _
  have hmem : i ∈ (List.range t.nodes.size).filter fun i => (t.element? i).isSome := by
    rw [List.mem_filter, List.mem_range, he]
    exact ⟨lt_size_of_element? he, rfl⟩
  rw [hsplit] at hsorted hmem
  rcases List.mem_append.mp hmem with hi | hi
  · exact Nat.le_of_lt ((List.pairwise_append.mp hsorted).2.2 i hi j List.mem_cons_self)
  · exact Nat.le_of_eq (List.mem_singleton.mp hi)

theorem Tree.isSome_newestElement? {t : Tree} {j : NodeId} (hj : t.newestElement? = some j) :
    (t.element? j).isSome = true := by
  have hmem := List.mem_of_getLast? hj
  exact (List.mem_filter.mp hmem).2

namespace Builder

/-- The element that a start tag makes: the newest one, if the last look at the tag created it. -/
def made? (b : Builder) (t : Tag) : (fuel : Nat) → Option NodeId
  | 0 => none
  | fuel + 1 =>
    match b.step (.startTag t) with
    | .done b' => b'.tree.newestElement?.filter fun i => b.tree.nodes.size ≤ i
    | .again b' => b'.made? t fuel

/-- The element that the next tokens make, with what remained to be read before them. -/
def makingOf (b : Builder) (t : Text) : List Token → List (NodeId × Text)
  | [.startTag tag] =>
    let b := { b with skipsNewline := false }
    ((b.made? tag (2 * b.stack.length + 16)).map fun i => (i, t)).toList
  | _ => []

/-- The elements that the start tags of a text make, each with what remained to be read before its
    tag. -/
def makings (b : Builder) : (fuel : Nat) → Text → List (NodeId × Text)
  | 0, _ => []
  | fuel + 1, t =>
    match nextTokens? b.textMode b.inForeign t with
    | none => []
    | some (tokens, rest) => b.makingOf t tokens ++ (tokens.foldl accept b).makings fuel rest

/-- The element of a start tag is made of the tag: `Builder.step` answers the tag (`answers_step`),
    and `made?` tells which answer it was. -/
theorem made?_makes {b : Builder} {t : Tag} {fuel : Nat} {i : NodeId}
    (h : b.made? t fuel = some i) :
    ∃ e, (b.process (.startTag t) fuel).tree.element? i = some e ∧ t.Makes e := by
  induction fuel generalizing b with
  | zero => exact absurd h (by simp [made?])
  | succ fuel ih =>
    have hanswers := answers_step t b
    unfold made? at h
    unfold process
    cases hstep : b.step (.startTag t) with
    | again b' =>
      rw [hstep] at h
      exact ih h
    | done b' =>
      -- the newest element did not exist before the last look
      rw [hstep] at h hanswers
      obtain ⟨hnewest, hsize⟩ := Option.filter_eq_some_iff.mp h
      have hnew : b.tree.nodes.size ≤ i := of_decide_eq_true hsize
      obtain ⟨e, he⟩ := Option.isSome_iff_exists.mp (Tree.isSome_newestElement? hnewest)
      rcases hanswers with hsame | ⟨j, e', he', hmakes, hlast⟩
      · -- no node is new
        have hlt := Tree.lt_size_of_element? he
        rw [hsame] at hlt
        exact absurd hlt (Nat.not_lt.mpr hnew)
      · -- the element of the tag is the newest one, so it is the one that was found
        have hle := Tree.le_newestElement? hnewest he'
        have hij : j = i := by
          by_contra hne
          rw [hlast i (Nat.lt_of_le_of_ne hle hne)] at he
          exact absurd he (by simp)
        exact ⟨e', hij ▸ he', hmakes⟩

/-- What is said of an element and what remained to be read before its tag: there is a start tag,
    and the element was made of it. -/
structure Made (tree : Tree) (i : NodeId) (t : Text) : Prop where
  startTag : ∃ r tag rest e e', t = '<' :: r ∧ r.head?.any Char.isAlpha = true ∧
    readTag? r = some (tag, rest) ∧ tag.Makes e ∧ tree.element? i = some e' ∧ e.Becomes e'

/-- What is `Made` of a tag is in any later tree, with at most some attributes more. -/
theorem Made.later {tree tree' : Tree} {i : NodeId} {t : Text} (h : Made tree i t)
    (htree : tree.Extends tree') : Made tree' i t := by
  obtain ⟨r, tag, rest, e, e', ht, halpha, hread, hmakes, he', hbecomes⟩ := h.startTag
  obtain ⟨e'', he'', hbecomes'⟩ := htree.element i e' he'
  exact ⟨r, tag, rest, e, e'', ht, halpha, hread, hmakes, he'', hbecomes.trans hbecomes'⟩

/-- What the next tokens make is made of a start tag, and they are nothing else: `Reading` lets a
    start tag stand alone. -/
theorem eq_startTag_of_makingOf {b : Builder} {t t' : Text} {tokens : List Token} {i : NodeId}
    (h : (i, t') ∈ b.makingOf t tokens) : t' = t ∧ ∃ tag, tokens = [.startTag tag] ∧
      ({ b with skipsNewline := false } : Builder).made? tag (2 * b.stack.length + 16) = some i := by
  unfold makingOf at h
  split at h
  · next tag =>
    obtain ⟨j, hj, heq⟩ := Option.map_eq_some_iff.mp (Option.mem_toList.mp h)
    obtain ⟨rfl, rfl⟩ := Prod.mk.inj heq
    exact ⟨rfl, tag, rfl, hj⟩
  · exact absurd h List.not_mem_nil

/-- The element that the next tokens make is one that `Made` speaks of, with the text before the
    tag. -/
theorem made_of_makingOf {b : Builder} {t t' rest : Text} {tokens : List Token} {i : NodeId}
    (hreading : Reading t tokens rest) (h : (i, t') ∈ b.makingOf t tokens) :
    Made (tokens.foldl accept b).tree i t := by
  obtain ⟨-, tag, rfl, hmade⟩ := eq_startTag_of_makingOf h
  obtain ⟨-, r, hr, halpha, hread⟩ := hreading.startTag tag (List.mem_singleton.mpr rfl)
  obtain ⟨e, he, hmakes⟩ := made?_makes hmade
  exact ⟨r, tag, rest, e, e, hr, halpha, hread, hmakes, he, .refl e⟩

/-- **The elements of the start tags of a text** are made of them, and stay in the tree. The
    induction is on the fuel of `Builder.run`, token by token. -/
theorem made_of_makings {S : Stock} {base : Tree} {b : Builder} (h : Sound S base b)
    {kind : Text → Prop} (hcovers : S.Covers kind) {fuel : Nat} {t t' : Text} (ht : kind t)
    {i : NodeId} (hmem : (i, t') ∈ b.makings fuel t) :
    t' <:+ t ∧ Made (b.run fuel t).tree i t' := by
  induction fuel generalizing b t with
  | zero => exact absurd hmem List.not_mem_nil
  | succ fuel ih =>
    unfold makings at hmem
    unfold run
    cases hnext : nextTokens? b.textMode b.inForeign t with
    | none =>
      rw [hnext] at hmem
      exact absurd hmem List.not_mem_nil
    | some p =>
      obtain ⟨tokens, rest⟩ := p
      rw [hnext] at hmem
      have hreading := nextTokens?_reading hnext
      obtain ⟨htokens, hrest⟩ := hcovers _ _ t tokens rest ht hnext
      have haccepted := h.foldl_accept htokens
      rcases List.mem_append.mp hmem with hmem | hmem
      · -- made now, and kept by what follows
        obtain ⟨rfl, -⟩ := eq_startTag_of_makingOf hmem
        have hmade := made_of_makingOf hreading hmem
        have hrun := haccepted.rebase.run hcovers fuel hrest
        exact ⟨List.suffix_refl _, hmade.later hrun.later⟩
      · obtain ⟨hsuffix, hmade⟩ := ih haccepted hrest hmem
        exact ⟨hsuffix.trans hreading.suffix, hmade⟩

/-! ### The order of the elements -/

/-- The element of a start tag is newer than all nodes there were, because `made?` compares the
    newest element before and after. -/
theorem size_le_of_made? {S : Stock} {base : Tree} {b : Builder} (h : Sound S base b) {t : Tag}
    (ht : S.tags t) {fuel : Nat} {i : NodeId} (hmade : b.made? t fuel = some i) :
    base.nodes.size ≤ i := by
  induction fuel generalizing b with
  | zero => exact absurd hmade (by simp [made?])
  | succ fuel ih =>
    have hstep := h.step (t := .startTag t) ht
    unfold made? at hmade
    cases hlook : b.step (.startTag t) with
    | again b' =>
      rw [hlook] at hstep hmade
      exact ih hstep hmade
    | done b' =>
      rw [hlook] at hmade
      have hsize := (Option.filter_eq_some_iff.mp hmade).2
      exact Nat.le_trans h.later.size (of_decide_eq_true hsize)

/-- So is the element that the next tokens make, … -/
theorem size_le_of_makingOf {S : Stock} {base : Tree} {b : Builder} (h : Sound S base b)
    {t t' : Text} {tokens : List Token} (htokens : ∀ token ∈ tokens, S.Allows token) {i : NodeId}
    (hmem : (i, t') ∈ b.makingOf t tokens) : base.nodes.size ≤ i := by
  obtain ⟨-, tag, rfl, hmade⟩ := eq_startTag_of_makingOf hmem
  have hread : Sound S base { b with skipsNewline := false } := h
  exact size_le_of_made? hread (htokens _ (List.mem_singleton.mpr rfl)) hmade

/-- … and every element of a run is newer than the nodes before the run. -/
theorem size_le_of_makings {S : Stock} {base : Tree} {b : Builder} (h : Sound S base b)
    {kind : Text → Prop} (hcovers : S.Covers kind) {fuel : Nat} {t t' : Text} (ht : kind t)
    {i : NodeId} (hmem : (i, t') ∈ b.makings fuel t) : base.nodes.size ≤ i := by
  induction fuel generalizing b t with
  | zero => exact absurd hmem List.not_mem_nil
  | succ fuel ih =>
    unfold makings at hmem
    cases hnext : nextTokens? b.textMode b.inForeign t with
    | none =>
      rw [hnext] at hmem
      exact absurd hmem List.not_mem_nil
    | some p =>
      obtain ⟨tokens, rest⟩ := p
      rw [hnext] at hmem
      obtain ⟨htokens, hrest⟩ := hcovers _ _ t tokens rest ht hnext
      rcases List.mem_append.mp hmem with hmem | hmem
      · exact size_le_of_makingOf h htokens hmem
      · exact ih (h.foldl_accept htokens) hrest hmem

/-- A start tag takes some of the text, so the next element has less to come before it. -/
theorem length_lt_of_makingOf {b : Builder} {t t' rest : Text} {tokens : List Token} {i : NodeId}
    (hreading : Reading t tokens rest) (h : (i, t') ∈ b.makingOf t tokens) :
    rest.length < t.length := by
  obtain ⟨-, tag, rfl, -⟩ := eq_startTag_of_makingOf h
  obtain ⟨-, r, rfl, -, hread⟩ := hreading.startTag tag (List.mem_singleton.mpr rfl)
  exact Nat.lt_succ_of_le (readTag?_suffix hread).length_le

/-- **Later elements come from later tags.** Along `makings` the numbers of elements go up while
    what remains to be read gets shorter, by induction on the run. -/
theorem makings_pairwise {S : Stock} {base : Tree} {b : Builder} (h : Sound S base b)
    {kind : Text → Prop} (hcovers : S.Covers kind) {fuel : Nat} {t : Text} (ht : kind t) :
    (b.makings fuel t).Pairwise fun m m' =>
      m.1 < m'.1 ∧ m'.2 <:+ m.2 ∧ m'.2.length < m.2.length := by
  induction fuel generalizing b t with
  | zero => exact List.Pairwise.nil
  | succ fuel ih =>
    unfold makings
    cases hnext : nextTokens? b.textMode b.inForeign t with
    | none => exact List.Pairwise.nil
    | some p =>
      obtain ⟨tokens, rest⟩ := p
      have hreading := nextTokens?_reading hnext
      obtain ⟨htokens, hrest⟩ := hcovers _ _ t tokens rest ht hnext
      have haccepted := h.foldl_accept htokens
      refine List.pairwise_append.mpr ⟨?_, ih haccepted hrest, ?_⟩
      · -- the next tokens make at most one element
        unfold makingOf
        split
        · dsimp only
          generalize Option.map _ _ = made
          cases made with
          | none => exact List.Pairwise.nil
          | some m => exact List.pairwise_singleton _ m
        · exact List.Pairwise.nil
      · -- it is in the tree before the others are made, and its tag is read before
        rintro ⟨i, t₁⟩ hi ⟨j, t₂⟩ hj
        obtain ⟨rfl, -⟩ := eq_startTag_of_makingOf hi
        have hmade := made_of_makingOf hreading hi
        obtain ⟨hsuffix, -⟩ := made_of_makings haccepted hcovers hrest hj
        refine ⟨?_, hsuffix.trans hreading.suffix, ?_⟩
        · obtain ⟨-, -, -, -, e, -, -, -, -, he, -⟩ := hmade.startTag
          have hlt := Tree.lt_size_of_element? he
          exact Nat.lt_of_lt_of_le hlt (size_le_of_makings haccepted.rebase hcovers hrest hj)
        · exact Nat.lt_of_le_of_lt hsuffix.length_le (length_lt_of_makingOf hreading hi)

end Builder

/-! ### Origins -/

/-- The elements of the tree of a source that were made of start tags, each with the byte of its
    tag. -/
def origins (source : Text) : List (NodeId × Nat) :=
  (Builder.start.makings ((prepare source).length + 1) (prepare source)).map
    fun (i, t) => (i, offsetOf source t)

/-- An element that is made of a legible tag carries its attributes, whichever of the ways of
    `Tag.Makes` it is made in. -/
theorem Tag.Makes.carries {t : Tag} {e : Element} (h : t.Makes e) (ht : t.Legible) :
    e.Carries t := by
  cases h with
  | markup => exact carries_elementOf ht
  | image => exact carries_elementOf (legible_image ht)
  | foreign space name => exact carries_foreignElement ht space name

/-- **An element carries what is written at its origin** (`startTagAt?`). The page and its body are
    left out, since they may have got attributes of later tags. -/
theorem origins_carries {source : Text} {i : NodeId} {offset : Nat}
    (h : (i, offset) ∈ origins source) :
    ∃ e tag, (parse source).element? i = some e ∧ startTagAt? source offset = some tag ∧
      (e.isPage = false → e.Carries tag) := by
  obtain ⟨⟨j, t⟩, hmem, heq⟩ := List.mem_map.mp h
  obtain ⟨rfl, rfl⟩ := Prod.mk.inj heq
  have hcr : '\r' ∉ prepare source := not_mem_normalizeLines _
  have hstart := Builder.Sound.start Stock.legible
  obtain ⟨hsuffix, hmade⟩ := Builder.made_of_makings hstart legible_covers hcr hmem
  -- the end of the source leaves the elements as they are
  have hrun := hstart.run legible_covers ((prepare source).length + 1) hcr
  have hend := hrun.rebase.accept (t := .eof) trivial
  obtain ⟨r, tag, rest, e, e', rfl, halpha, hread, hmakes, he', hbecomes⟩ :=
    (hmade.later hend.later).startTag
  refine ⟨e', tag, he', startTagAt?_offsetOf hsuffix halpha hread, fun hpage => ?_⟩
  have hlegible : tag.Legible := by
    refine legible_of_readTag? halpha (fun hr => hcr (hsuffix.mem ?_)) hread
    exact List.mem_cons_of_mem _ hr
  -- only an element of the page has got attributes since then
  rcases hbecomes.same with hsame | hpage'
  · rw [hsame]
    exact hmakes.carries hlegible
  · rw [← hbecomes.isPage, hpage] at hpage'
    exact absurd hpage' Bool.false_ne_true

/-- The origins, in the order of both the elements and the tags: `makings_pairwise` for a whole
    source. -/
theorem origins_pairwise (source : Text) :
    (origins source).Pairwise fun m m' => m.1 < m'.1 ∧ m.2 < m'.2 := by
  have hcr : '\r' ∉ prepare source := not_mem_normalizeLines _
  have hstart := Builder.Sound.start Stock.legible
  unfold origins
  rw [List.pairwise_map]
  refine (Builder.makings_pairwise hstart legible_covers hcr).imp_of_mem ?_
  rintro ⟨i, t⟩ ⟨j, t'⟩ hmem - ⟨hij, hsuffix, hlt⟩
  obtain ⟨hread, -⟩ := Builder.made_of_makings hstart legible_covers hcr hmem
  exact ⟨hij, offsetOf_lt hread hsuffix hlt⟩

/-- **One element is older than another exactly if its tag is before the other's**, for any two of
    `origins`. -/
theorem lt_iff_of_origins {source : Text} {i j : NodeId} {o p : Nat} (hi : (i, o) ∈ origins source)
    (hj : (j, p) ∈ origins source) : i < j ↔ o < p := by
  have hforward : (origins source).Pairwise fun m m' => (m.1 < m'.1 ↔ m.2 < m'.2) :=
    (origins_pairwise source).imp fun h => iff_of_true h.1 h.2
  have hbackward : (origins source).Pairwise (flip fun m m' => (m.1 < m'.1 ↔ m.2 < m'.2)) :=
    (origins_pairwise source).imp fun h => iff_of_false (Nat.lt_asymm h.1) (Nat.lt_asymm h.2)
  have hself : ∀ m ∈ origins source, (m.1 < m.1 ↔ m.2 < m.2) :=
    fun m _ => iff_of_false (Nat.lt_irrefl _) (Nat.lt_irrefl _)
  exact hforward.forall_of_forall_of_flip hself hbackward hi hj

end AccessLint.Html
