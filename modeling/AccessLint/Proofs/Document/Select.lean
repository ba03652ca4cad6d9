import AccessLint.Proofs.Html.Parse
import AccessLint.Proofs.Html.Walk
import AccessLint.Rule.Basic

namespace AccessLint

/-!
# Two ways to list the elements of a document

`Document.elements` walks through the tree. `Document.select` goes through the nodes in the order of
their creation, whether or not they still hang below the document.

* `Document.isAttached` — whether an element hangs below the document;
* `Document.mem_selectWithin` — the elements inside another one, by the links of the tree;
* `Document.select_parse` — when and how far the two agree;
* `Document.select_fosterParented` — a source on which they do not.
-/

open Html (Element NodeId Tree)

namespace Document

/-- Whether an element hangs below the document. -/
def isAttached (d : Document) (e : ElementAt) : Bool :=
  (d.tree.ancestors e.id).contains Tree.root

/-- The elements of a document that satisfy a condition, in tree order. -/
def matching (d : Document) (p : Element → Bool) : List ElementAt :=
  d.elements.filter fun e => p e.elem

variable {d : Document}

/-! ### What the lists hold -/

/-- The elements of a document are those of its tree that hang below it (`isAttached`). -/
theorem mem_elements (h : d.tree.Linked) {e : ElementAt} :
    e ∈ d.elements ↔ d.isAttached e = true ∧ d.tree.element? e.id = some e.elem := by
  unfold elements isAttached
  rw [List.mem_map, List.contains_iff_mem, ← h.mem_elements]
  constructor
  · rintro ⟨⟨i, a⟩, hmem, rfl⟩
    exact hmem
  · intro hmem
    exact ⟨(e.id, e.elem), hmem, rfl⟩

/-- The elements that `Document.select` gives are those with a parent that satisfy the condition,
    attached or not. -/
theorem mem_select {p : Element → Bool} {e : ElementAt} :
    e ∈ d.select p ↔
      ((d.tree.node e.id).parent.isSome ∧ d.tree.element? e.id = some e.elem) ∧
        p e.elem = true := by
  unfold select
  rw [List.mem_filter, List.mem_map]
  refine and_congr_left fun _ => ?_
  rw [← Tree.mem_created]
  constructor
  · rintro ⟨⟨i, a⟩, hmem, rfl⟩
    exact hmem
  · intro hmem
    exact ⟨(e.id, e.elem), hmem, rfl⟩

/-- Both lists have the same elements below the document: `select` and `matching` differ in their
    order and in detached elements only. -/
theorem mem_select_attached (h : d.tree.Linked) {p : Element → Bool} {e : ElementAt} :
    e ∈ (d.select p).filter d.isAttached ↔ e ∈ d.matching p := by
  unfold matching
  rw [List.mem_filter, List.mem_filter, mem_select, mem_elements h]
  constructor
  · rintro ⟨⟨⟨-, helem⟩, hp⟩, hattached⟩
    exact ⟨⟨hattached, helem⟩, hp⟩
  · rintro ⟨⟨hattached, helem⟩, hp⟩
    have hroot := List.contains_iff_mem.mp hattached
    exact ⟨⟨⟨Tree.parent_isSome_of_mem_ancestors hroot, helem⟩, hp⟩, hattached⟩

/-- What is inside an element are the elements from which some number of steps up (`Tree.up`) lead
    to it. -/
theorem mem_selectWithin (h : d.tree.Linked) {e x : ElementAt} {p : Element → Bool} :
    x ∈ d.selectWithin e p ↔ (∃ n, d.tree.up (n + 1) x.id = some e.id) ∧
      d.tree.element? x.id = some x.elem ∧ p x.elem = true := by
  have hbelow : x.id ∈ d.tree.descendants e.id ↔ ∃ n, d.tree.up (n + 1) x.id = some e.id := by
    rw [Tree.Linked.mem_descendants h, Tree.mem_ancestors]
  unfold selectWithin
  rw [List.mem_filter, List.mem_map, ← hbelow, ← and_assoc]
  refine and_congr_left fun _ => ?_
  rw [← Tree.mem_elementsAmong]
  constructor
  · rintro ⟨⟨i, a⟩, hmem, rfl⟩
    exact hmem
  · intro hmem
    exact ⟨(x.id, x.elem), hmem, rfl⟩

/-! ### Their order -/

/-- No element is listed twice, since a walk meets every node once (`nodup_descendants`). -/
theorem nodup_elements (h : d.tree.Linked) : (d.elements.map ElementAt.id).Nodup := by
  unfold elements
  rw [List.map_map]
  show (d.tree.elements.map Prod.fst).Nodup
  unfold Tree.elements
  rw [Tree.ids_elementsAmong]
  exact h.nodup_descendants.filter _

theorem nodup_matching (h : d.tree.Linked) (p : Element → Bool) : (d.matching p).Nodup :=
  ((nodup_elements h).of_map _).filter _

/-- `select` lists the elements in the order of their creation. -/
theorem select_created (p : Element → Bool) :
    (d.select p).Pairwise fun a b => a.id < b.id := by
  have hids : (d.tree.created.map Prod.fst).Pairwise (· < ·) := by
    unfold Tree.created
    rw [Tree.ids_elementsAmong]
    exact (List.pairwise_lt_range.filter _).filter _
  unfold select
  refine List.Pairwise.filter _ ?_
  rw [List.pairwise_map] at hids ⊢
  exact hids

theorem nodup_select (p : Element → Bool) : (d.select p).Nodup := by
  refine (select_created p).imp fun hlt heq => ?_
  rw [heq] at hlt
  exact Nat.lt_irrefl _ hlt

/-- `select` and `matching` agree, up to order, on what hangs below the document: they have the same
    members, and neither repeats one. -/
theorem select_attached_perm (h : d.tree.Linked) (p : Element → Bool) :
    ((d.select p).filter d.isAttached).Perm (d.matching p) :=
  (List.perm_ext_iff_of_nodup ((nodup_select p).filter _) (nodup_matching h p)).mpr fun _ =>
    mem_select_attached h

/-- `select` and `matching` are equal exactly if all that is selected hangs below the document and
    the tree has the matching elements in the order of their creation. Two ascending lists with the
    same members are equal. -/
theorem select_eq_matching_iff (h : d.tree.Linked) (p : Element → Bool) :
    d.select p = d.matching p ↔
      (∀ e ∈ d.select p, d.isAttached e = true) ∧
        (d.matching p).Pairwise fun a b => a.id < b.id := by
  constructor
  · intro heq
    refine ⟨?_, heq ▸ select_created p⟩
    intro e he
    rw [heq] at he
    exact ((mem_elements h).mp (List.mem_of_mem_filter he)).1
  · rintro ⟨hattached, horder⟩
    -- a permutation between two lists with one strict order
    have hperm := select_attached_perm h p
    rw [List.filter_eq_self.mpr hattached] at hperm
    refine hperm.eq_of_pairwise ?_ (select_created p) horder
    intro a b _ _ hab hba
    exact absurd (Nat.lt_trans hab hba) (Nat.lt_irrefl _)

/-! ### Parsed documents -/

/-- **Selected and listed elements.** In the document of a source, `elements` has every element that
    hangs below the document once, in tree order. `select` has the matching ones of them too, once
    each; but in the order of their creation, and besides them elements that were taken out of the
    document with an ancestor. So the two agree exactly if there are none of these and the tree has
    the matching elements in the order of their creation. -/
theorem select_parse (source : Text) (p : Element → Bool) :
    ((parse source).elements.map ElementAt.id).Nodup ∧
      (parse source).elements.map ElementAt.id =
        ((parse source).tree.descendants Tree.root).filter
          (fun i => ((parse source).tree.element? i).isSome) ∧
      (((parse source).select p).filter (parse source).isAttached).Perm
        ((parse source).matching p) ∧
      ((parse source).select p).Pairwise (fun a b => a.id < b.id) ∧
      ((parse source).select p = (parse source).matching p ↔
        (∀ e ∈ (parse source).select p, (parse source).isAttached e = true) ∧
          ((parse source).matching p).Pairwise fun a b => a.id < b.id) := by
  have h : (parse source).tree.Linked := Html.parse_linked source
  refine ⟨nodup_elements h, ?_, select_attached_perm h p, select_created p,
    select_eq_matching_iff h p⟩
  unfold elements
  rw [List.map_map]
  exact Tree.ids_elementsAmong _ _

/-- A heading after a cell's, but put before its table: `select` has the two headings in the order of
    their creation, and the tree has them the other way round. So `Rule.headingOrder` does not see
    that the second one skips a level. -/
theorem select_fosterParented :
    ((parse "<table><tr><td><h3>a</h3></td></tr><h1>b</h1></table>").select
        isHeading).map (·.elem.name) = ["h3", "h1"] ∧
      ((parse "<table><tr><td><h3>a</h3></td></tr><h1>b</h1></table>").matching
        isHeading).map (·.elem.name) = ["h1", "h3"] := by
  decide +kernel

end Document

end AccessLint
