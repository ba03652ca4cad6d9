import AccessLint.Proofs.Html.Carried

namespace AccessLint.Html

/-!
# Identifiers

The identifier of an element is its first attribute with the local name `id`, in whatever namespace;
the other attributes are looked up without a namespace. In the tree of a source both are the same, as
no name with a namespace is read as `id`.

* `Attr.mem_of_mem_ordered` — attributes in order are among the given ones;
* `Element.HasPlainId` — only an attribute without a namespace is called `id`;
* `id?_of_parse` — the identifier of an element is the value of its attribute `id`.
-/

/-! ### Attributes in order -/

/-- Inserting an attribute brings that attribute alone. -/
theorem Attr.mem_of_mem_insertMissing {a b : Attr} {l : List Attr} (h : b ∈ a.insertMissing l) :
    b = a ∨ b ∈ l := by
  induction l with
  | nil => exact Or.inl (List.mem_singleton.mp h)
  | cons c l ih =>
    unfold insertMissing at h
    split at h
    · exact Or.inr h
    · split at h
      · exact List.mem_cons.mp h
      · rcases List.mem_cons.mp h with rfl | h
        · exact Or.inr List.mem_cons_self
        · exact (ih h).imp_right (List.mem_cons_of_mem c)

/-- `Attr.ordered` inserts attributes one by one, so nothing is in the end that was not there. -/
theorem Attr.mem_of_mem_ordered {attrs : List Attr} {a : Attr} (h : a ∈ Attr.ordered attrs) :
    a ∈ attrs := by
  have hkept : ∀ kept : List Attr, a ∈ attrs.foldl (fun kept a => a.insertMissing kept) kept →
      a ∈ kept ∨ a ∈ attrs := by
    clear h
    induction attrs with
    | nil => exact fun kept hmem => Or.inl hmem
    | cons b attrs ih =>
      intro kept hmem
      rcases ih _ hmem with hmem | hmem
      · rcases mem_of_mem_insertMissing hmem with rfl | hmem
        · exact Or.inr List.mem_cons_self
        · exact Or.inl hmem
      · exact Or.inr (List.mem_cons_of_mem b hmem)
  exact (hkept [] h).resolve_left List.not_mem_nil

/-! ### The attribute `id` -/

/-- Only an attribute without a namespace has the local name `id`. -/
def Element.HasPlainId (e : Element) : Prop := ∀ a ∈ e.attrs, a.name = "id" → a.space = .none

/-- Then the identifier is the value of that attribute: `Element.id?` asks for the local name,
    `Element.attr?` for the name without a namespace. -/
theorem Element.HasPlainId.id?_eq {e : Element} (h : e.HasPlainId) : e.id? = e.attr? "id" := by
  have hsame : ∀ a ∈ e.attrs, (a.name == ("id" : Text)) =
      (a.space == .none && a.name == ("id" : Text)) := by
    intro a ha
    cases hname : a.name == ("id" : Text) with
    | false => rw [Bool.and_false]
    | true =>
      rw [h a ha (beq_iff_eq.mp hname)]
      rfl
  unfold id? attr?
  rw [← List.head?_filter, ← List.head?_filter, List.filter_congr hsame]

/-- The local names of attributes that get a namespace. -/
def namesWithSpace : List Text :=
  ("xmlns" : Text) :: "xlink" :: "lang" :: "space" :: Builder.linkAttrs

/-- An attribute of foreign content gets a namespace only with one of `namesWithSpace`, and `id` is
    none of these. -/
theorem space_foreignAttr (name value : Text) :
    (Builder.foreignAttr name value).space = .none ∨
      (Builder.foreignAttr name value).name ∈ namesWithSpace := by
  have hlisted : ∀ i n, namesWithSpace[i]? = some n → n ∈ namesWithSpace :=
    fun _ _ => List.mem_of_getElem?
  unfold Builder.foreignAttr
  split
  · next hname =>
    rw [hname]
    exact Or.inr (hlisted 0 _ rfl)
  · -- the names are tried one by one, the ones of links last
    split
    · exact Or.inr (hlisted 1 _ rfl)
    · split
      · exact Or.inr (hlisted 2 _ rfl)
      · split
        · exact Or.inr (hlisted 3 _ rfl)
        · split
          · next n hn =>
            have hlink := List.contains_iff_mem.mp (Option.filter_eq_some_iff.mp hn).2
            exact Or.inr (by simp [namesWithSpace, hlink])
          · exact Or.inl rfl

/-- An element that is made of a tag has such an identifier (`HasPlainId`), be it ordinary or
    foreign. -/
theorem Stock.Makes.hasPlainId {S : Stock} {e : Element} (h : S.Makes e) : e.HasPlainId := by
  intro a ha hname
  cases h with
  | markup t ht =>
    obtain ⟨p, -, rfl⟩ := List.mem_map.mp (Attr.mem_of_mem_ordered ha)
    rfl
  | foreign space name t ht _ =>
    obtain ⟨p, -, rfl⟩ := List.mem_map.mp (Attr.mem_of_mem_ordered ha)
    -- `id` is none of the names that come with a namespace
    refine (space_foreignAttr _ _).resolve_right fun hmem => ?_
    rw [hname] at hmem
    revert hmem
    decide

/-- **The identifier of an element** in the tree of a source is the value of its attribute `id`. -/
theorem id?_of_parse {source : Text} {i : NodeId} {e : Element}
    (he : (parse source).element? i = some e) (hpage : e.isPage = false) :
    e.id? = e.attr? "id" :=
  (makes_of_parse he hpage).hasPlainId.id?_eq

end AccessLint.Html
