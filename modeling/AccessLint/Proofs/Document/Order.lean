import AccessLint.Document
import AccessLint.Proofs.Html.Walk
import AccessLint.Proofs.Source.Locate
import AccessLint.Text.Keyed

namespace AccessLint

/-!
# Names in any order

The elements of a tree are located one name after the other. What is found for an element depends on
its own name only, so it does not matter in which order the names are gone through.

* `Keyed.lookup_flatMap` — looking up a key that only one of several tables can hold;
* `lookup_locateElements` — what is found for an element is found among those of its name;
* `lookup_locateElements_perm` — in any two orders the same is found;
* `Document.offsetOf?_inOrder`, `Document.lineOf_inOrder` — so documents of one source and tree have
  their elements at the same places.
-/

/-- A `List.lookup` of a key that, of some tables, only the one of a certain name can hold: the
    order of the tables does not matter. -/
theorem Keyed.lookup_flatMap {κ α : Type} [BEq κ] {tables : Text → List (κ × α)} {key : κ}
    {name : Text} (h : ∀ n, n ≠ name → (tables n).lookup key = none) (names : List Text) :
    (names.flatMap tables).lookup key = if name ∈ names then (tables name).lookup key else none := by
  induction names with
  | nil => rfl
  | cons n names ih =>
    rw [List.flatMap_cons, List.lookup_append, ih]
    by_cases hn : n = name
    · rw [hn, if_pos List.mem_cons_self]
      split
      · exact Option.or_self
      · exact Option.or_none
    · have hmem : name ∈ n :: names ↔ name ∈ names := by
        rw [List.mem_cons]
        exact or_iff_right (Ne.symm hn)
      rw [h n hn, Option.none_or]
      simp only [hmem]

open Html (Element NodeId Tree)

variable {source : Text} {tree : Tree} {names names' : List Text} {i : NodeId}

/-- The offsets of the elements of one name. -/
def locateElementsNamed (source : Text) (tree : Tree) (name : Text) : List (NodeId × Nat) :=
  (Source.locateNamed source (Source.scan source) (fun x => tree.markup x.1) name
    (tree.elements.filter fun x => x.2.name == name)).map fun p => (p.1.1, p.2)

/-- `locateElements` goes through the names, with one table for each. -/
theorem locateElements_eq_flatMap (source : Text) (tree : Tree) (names : List Text) :
    locateElements source tree names = names.flatMap (locateElementsNamed source tree) := by
  unfold locateElements Source.locateAll
  rw [List.map_flatMap]
  rfl

/-- What `locateElementsNamed` has under a name is an element of this name, so no place is in the
    tables of two names. -/
theorem element?_of_mem_locateElementsNamed {name : Text} {o : Nat}
    (h : (i, o) ∈ locateElementsNamed source tree name) :
    ∃ a, tree.element? i = some a ∧ a.name = name := by
  obtain ⟨⟨⟨j, a⟩, o'⟩, hmem, heq⟩ := List.mem_map.mp h
  obtain ⟨rfl, rfl⟩ := Prod.mk.inj heq
  obtain ⟨hin, hname⟩ := List.mem_filter.mp (Source.mem_of_mem_locateNamed hmem)
  exact ⟨a, (Tree.mem_elementsAmong.mp hin).2, beq_iff_eq.mp hname⟩

/-- **What `locateElements` finds for an element** is found among the elements of its name, if this
    name is one of those that are gone through. -/
theorem lookup_locateElements {a : Element} (ha : tree.element? i = some a) (names : List Text) :
    (locateElements source tree names).lookup i =
      if a.name ∈ names then (locateElementsNamed source tree a.name).lookup i else none := by
  -- a table of another name has no element with the place of this one
  have hother : ∀ n, n ≠ a.name → (locateElementsNamed source tree n).lookup i = none := by
    intro n hn
    refine Option.eq_none_iff_forall_ne_some.mpr fun o ho => hn ?_
    obtain ⟨b, hb, hname⟩ := element?_of_mem_locateElementsNamed (Keyed.mem_of_lookup ho)
    rw [← hname, Option.some.inj (ha.symm.trans hb)]
  rw [locateElements_eq_flatMap, Keyed.lookup_flatMap hother]

/-- **In any two orders** of the names `locateElements` has the same for every place of the tree,
    since both have the same names. -/
theorem lookup_locateElements_perm (h : names.Perm names') (i : NodeId) :
    (locateElements source tree names).lookup i = (locateElements source tree names').lookup i := by
  cases ha : tree.element? i with
  | some a => simp only [lookup_locateElements ha, h.mem_iff]
  | none =>
    have hnone : ∀ names, (locateElements source tree names).lookup i = none := by
      intro names
      refine Option.eq_none_iff_forall_ne_some.mpr fun o ho => ?_
      have hmem := Keyed.mem_of_lookup ho
      rw [locateElements_eq_flatMap] at hmem
      obtain ⟨n, -, hmem⟩ := List.mem_flatMap.mp hmem
      obtain ⟨a, ha', -⟩ := element?_of_mem_locateElementsNamed hmem
      rw [ha] at ha'
      cases ha'
    rw [hnone, hnone]

/-- Documents of one source and tree locate every element at the same byte (`offsetOf?`), whatever
    the order was in which they were made. -/
theorem Document.offsetOf?_inOrder (h : names.Perm (elementNames tree)) (e : ElementAt) :
    (inOrder source tree names h).offsetOf? e = (ofTree source tree).offsetOf? e :=
  lookup_locateElements_perm h e.id

/-- So they have every element on the same line (`lineOf`), and rules see no difference. -/
theorem Document.lineOf_inOrder (h : names.Perm (elementNames tree)) (e : ElementAt) :
    (inOrder source tree names h).lineOf e = (ofTree source tree).lineOf e := by
  unfold lineOf
  rw [offsetOf?_inOrder h]
  rfl

end AccessLint
