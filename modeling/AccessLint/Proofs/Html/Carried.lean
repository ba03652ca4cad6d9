import AccessLint.Html.Markup
import AccessLint.Proofs.Html.Parse
import AccessLint.Proofs.Html.TokenReader

namespace AccessLint.Html

/-!
# What an element has of its tag

An element keeps the attributes of its tag in an order of its own, in foreign vocabularies under
names of their own. Read as they are written, they are the attributes of the tag.

* `Attr.asRead` — an attribute as it is read where it is written;
* `Element.Carries` — an element has exactly the attributes of a tag;
* `carries_elementOf`, `carries_foreignElement` — so do the elements that are made of a tag;
* `Stock.legible` — the stock of the tags that can be read; it covers every source;
* `makes_of_parse` — the elements of a tree are made of such tags.
-/

/-! ### Attributes in order -/

/-- An attribute with a new name is put somewhere into the list by `insertMissing`, which has all
    other attributes still. -/
theorem Attr.insertMissing_perm {a : Attr} {l : List Attr}
    (h : ∀ b ∈ l, ¬ (a.space = b.space ∧ a.name = b.name)) : (a.insertMissing l).Perm (a :: l) := by
  induction l with
  | nil => exact List.Perm.refl _
  | cons b l ih =>
    unfold insertMissing
    rw [if_neg (h b List.mem_cons_self)]
    split
    · exact List.Perm.refl _
    · have hrest := ih fun c hc => h c (List.mem_cons_of_mem b hc)
      exact (hrest.cons b).trans (List.Perm.swap a b l)

/-- Attributes with different names are all kept, by induction with the kept ones in front. -/
theorem Attr.foldl_insertMissing_perm {attrs : List Attr} (kept : List Attr)
    (h : (kept ++ attrs).Pairwise fun a b => ¬ (b.space = a.space ∧ b.name = a.name)) :
    (attrs.foldl (fun kept a => a.insertMissing kept) kept).Perm (kept ++ attrs) := by
  induction attrs generalizing kept with
  | nil => simp
  | cons a attrs ih =>
    have hperm : (a.insertMissing kept).Perm (kept ++ [a]) := by
      refine (insertMissing_perm fun b hb => ?_).trans (List.perm_append_singleton a kept).symm
      exact (List.pairwise_append.mp h).2.2 b hb a List.mem_cons_self
    have hsplit : kept ++ a :: attrs = (kept ++ [a]) ++ attrs := by simp
    rw [List.foldl_cons, hsplit]
    -- the condition is symmetric, so the order does not matter
    refine (ih _ ?_).trans (hperm.append_right attrs)
    rw [hsplit] at h
    refine (hperm.append_right attrs).symm.pairwise h ?_
    intro b c hbc hcb
    exact hbc ⟨hcb.1.symm, hcb.2.symm⟩

/-- `Attr.ordered` changes only the order of attributes with different names. -/
theorem Attr.ordered_perm {attrs : List Attr}
    (h : attrs.Pairwise fun a b => ¬ (b.space = a.space ∧ b.name = a.name)) :
    (Attr.ordered attrs).Perm attrs :=
  foldl_insertMissing_perm [] h

/-! ### Attributes as they are read -/

/-- The name of an attribute where it is written. -/
def Attr.writtenName (a : Attr) : Text := a.space.written ++ a.name

/-- An attribute as it is read where it is written. -/
def Attr.asRead (a : Attr) : Text × Text := (Text.lower a.writtenName, a.value)

/-- An element has exactly the attributes of a tag. -/
def Element.Carries (e : Element) (t : Tag) : Prop := (e.attrs.map Attr.asRead).Perm t.attrs

instance (e : Element) (t : Tag) : Decidable (e.Carries t) :=
  inferInstanceAs (Decidable ((e.attrs.map Attr.asRead).Perm t.attrs))

/-- Attributes that are read under different names have different names, so `Attr.ordered` keeps all
    of them. -/
theorem ordered_carries {attrs : List Attr} {written : List (Text × Text)}
    (h : attrs.map Attr.asRead = written) (hnodup : (written.map Prod.fst).Nodup) :
    ((Attr.ordered attrs).map Attr.asRead).Perm written := by
  rw [← h] at hnodup ⊢
  refine (Attr.ordered_perm ?_).map _
  -- two attributes with one name would be read under one name
  rw [List.map_map, List.Nodup, List.pairwise_map] at hnodup
  refine hnodup.imp fun {a b} hne heq => hne ?_
  show Text.lower a.writtenName = Text.lower b.writtenName
  unfold Attr.writtenName
  rw [heq.1, heq.2]

/-- An ordinary element (`elementOf`) has exactly the attributes of its tag, which is legible. -/
theorem carries_elementOf {t : Tag} (h : t.Legible) : (Builder.elementOf t).Carries t := by
  apply ordered_carries ?_ h.nodup
  rw [List.map_map]
  -- nothing is written before the name, and the name is in lower case
  have hsame : ∀ a ∈ t.attrs, (Attr.asRead ∘ fun p : Text × Text => ⟨.none, p.1, p.2⟩) a = a := by
    intro a ha
    show (Text.lower ([] ++ a.1), a.2) = a
    rw [List.nil_append, (h.names a ha).lower]
  exact (List.map_congr_left hsame).trans (List.map_id' _)

/-! ### Foreign vocabularies -/

/-- Another spelling is read as the name: the tables of `spelling` change upper and lower case
    only. -/
theorem lower_spelling (known : List Text) {name : Text} (h : Text.lower name = name) :
    Text.lower (Builder.spelling known name) = name := by
  unfold Builder.spelling
  cases hfind : known.find? fun k => Text.lower k == name with
  | none => exact h
  | some k =>
    have hk := List.find?_some hfind
    exact beq_iff_eq.mp hk

theorem lower_attrSpelling (space : Space) {name : Text} (h : Text.lower name = name) :
    Text.lower (Builder.attrSpelling space name) = name := by
  cases space with
  | html => exact h
  | svg => exact lower_spelling _ h
  | mathml => exact lower_spelling _ h

/-- The namespace of an attribute is written with its name, so `foreignAttr` loses nothing of what
    the tag had. -/
theorem writtenName_foreignAttr (name value : Text) :
    (Builder.foreignAttr name value).writtenName = name ∧
      (Builder.foreignAttr name value).value = value := by
  unfold Builder.foreignAttr Attr.writtenName
  -- the names with a namespace, one by one, then the prefix of links
  by_cases h1 : name = "xmlns"
  · rw [if_pos h1]
    exact ⟨rfl, rfl⟩
  rw [if_neg h1]
  by_cases h2 : name = "xmlns:xlink"
  · rw [if_pos h2, h2]
    exact ⟨rfl, rfl⟩
  rw [if_neg h2]
  by_cases h3 : name = "xml:lang"
  · rw [if_pos h3, h3]
    exact ⟨rfl, rfl⟩
  rw [if_neg h3]
  by_cases h4 : name = "xml:space"
  · rw [if_pos h4, h4]
    exact ⟨rfl, rfl⟩
  rw [if_neg h4]
  split
  · next n hn =>
    have hafter := (Option.filter_eq_some_iff.mp hn).1
    exact ⟨List.append_eq_of_isPrefixOf?_eq_some hafter, rfl⟩
  · exact ⟨rfl, rfl⟩

/-- An element of a vocabulary (`foreignElement`) has exactly the attributes of its tag, in the
    spelling of the vocabulary. -/
theorem carries_foreignElement {t : Tag} (h : t.Legible) (space : Space) (name : Text) :
    (Builder.foreignElement space name t).Carries t := by
  apply ordered_carries ?_ h.nodup
  rw [List.map_map]
  -- the spelling and the namespace are undone where the attribute is read
  have hsame : ∀ a ∈ t.attrs, (Attr.asRead ∘ fun p : Text × Text =>
      Builder.foreignAttr (Builder.attrSpelling space p.1) p.2) a = a := by
    intro a ha
    obtain ⟨hname, hvalue⟩ :=
      writtenName_foreignAttr (Builder.attrSpelling space a.1) a.2
    show (Text.lower (Builder.foreignAttr _ _).writtenName, (Builder.foreignAttr _ _).value) = a
    rw [hname, hvalue, lower_attrSpelling space (h.names a ha).lower]
  exact (List.map_congr_left hsame).trans (List.map_id' _)

/-! ### The tags of a source -/

/-- The names that a builder makes up are legible, as `Stock.legible` must be closed under them. -/
theorem legible_madeUp {name : Text} (h : name ∈ ("img" : Text) :: impliedNames) :
    name.head?.any Char.isAlpha = true ∧ (∀ d ∈ tagBreaks, d ∉ name) ∧
      Text.lower name = name := by
  -- checked name by name
  have hall : ∀ name ∈ ("img" : Text) :: impliedNames, name.head?.any Char.isAlpha = true ∧
      (tagBreaks.all fun d => decide (d ∉ name)) = true ∧ Text.lower name = name := by
    decide
  obtain ⟨hstart, hchars, hlower⟩ := hall name h
  refine ⟨hstart, ?_, hlower⟩
  intro d hd
  exact of_decide_eq_true (List.all_eq_true.mp hchars d hd)

theorem legible_plain {name : Text} (hname : name ∈ impliedNames) : (Tag.plain name).Legible := by
  obtain ⟨hstart, hchars, hlower⟩ := legible_madeUp (List.mem_cons_of_mem _ hname)
  exact ⟨hstart, hchars, hlower, fun a ha => absurd ha List.not_mem_nil,
    fun a ha => absurd ha List.not_mem_nil, List.nodup_nil⟩

theorem legible_image {t : Tag} (h : t.Legible) : ({ t with name := "img" } : Tag).Legible := by
  have himg : ("img" : Text) ∈ ("img" : Text) :: impliedNames := List.mem_cons_self
  obtain ⟨hstart, hchars, hlower⟩ := legible_madeUp himg
  exact ⟨hstart, hchars, hlower, h.names, h.values, h.nodup⟩

/-- The stock of the tags that can be read. -/
def Stock.legible : Stock := ⟨Tag.Legible, fun _ => legible_plain, fun _ => legible_image⟩

/-- What is read of a text without carriage returns is legible (`Stock.legible`), and what follows
    has none either. -/
theorem legible_covers : Stock.legible.Covers fun t => '\r' ∉ t := by
  intro mode inForeign t tokens rest ht hnext
  have hreading := nextTokens?_reading hnext
  refine ⟨?_, fun hmem => ht (hreading.suffix.mem hmem)⟩
  intro token htoken
  cases token with
  | startTag tag =>
    obtain ⟨-, r, hr, hstart, htag⟩ := hreading.startTag tag htoken
    refine legible_of_readTag? hstart (fun hmem => ht ?_) htag
    rw [hr]
    exact List.mem_cons_of_mem _ hmem
  | _ => trivial

/-- The elements of the tree of a source are made of legible tags (`Stock.legible`), except for
    those of the page, which may have attributes of several tags. -/
theorem makes_of_parse {source : Text} {i : NodeId} {e : Element}
    (he : (parse source).element? i = some e) (hpage : e.isPage = false) :
    Stock.legible.Makes e := by
  have hcr : '\r' ∉ prepare source := not_mem_normalizeLines _
  have hstart := Builder.Sound.start Stock.legible
  have hrun := hstart.run legible_covers ((prepare source).length + 1) hcr
  have hend := hrun.accept (t := .eof) trivial
  rcases hend.made i e he with hpage' | hmakes
  · rw [hpage] at hpage'
    exact absurd hpage' Bool.false_ne_true
  · exact hmakes

/-- An element that is made of a legible tag carries its attributes (`Element.Carries`) under a
    spelling of its name. -/
theorem Stock.Makes.carries {e : Element} (h : Stock.legible.Makes e) :
    ∃ t : Tag, t.Legible ∧ e.Carries t ∧ Text.lower e.name = t.name := by
  cases h with
  | markup t ht => exact ⟨t, ht, carries_elementOf ht, ht.lower⟩
  | foreign space name t ht hname =>
    refine ⟨t, ht, carries_foreignElement ht space name, ?_⟩
    show Text.lower name = t.name
    rcases hname with rfl | rfl
    · exact ht.lower
    · exact lower_spelling _ ht.lower

end AccessLint.Html
