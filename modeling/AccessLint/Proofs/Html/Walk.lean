import AccessLint.Proofs.Html.Linked
import Mathlib.Data.Finset.Card

namespace AccessLint.Html.Tree

/-!
# Walks through linked trees

* `up` — the node some steps above another one;
* `mem_preorderFrom`, `mem_ancestorsFrom` — walks down and up find the same nodes;
* `Linked.nodup_descendants` — a walk down from the document meets every node once;
* `mem_ancestors` — no fuel runs out, since a path that is longer than the number of nodes meets one
  of them twice;
* `Linked.mem_elements` — the elements that a walk finds are those below the document.
-/

/-- The node `n` steps above a node. -/
def up (t : Tree) : (n : Nat) → NodeId → Option NodeId
  | 0, i => some i
  | n + 1, i => (t.node i).parent.bind (t.up n)

/-- Going up `n + m` steps is going up `n` steps and then `m`. -/
theorem up_add (t : Tree) (n m : Nat) (i : NodeId) : t.up (n + m) i = (t.up n i).bind (t.up m) := by
  induction n generalizing i with
  | zero => rw [Nat.zero_add]; rfl
  | succ n ih =>
    rw [Nat.succ_add]
    -- both ways start with the same step
    show (t.node i).parent.bind (t.up (n + m)) = ((t.node i).parent.bind (t.up n)).bind (t.up m)
    rw [Option.bind_assoc]
    exact congrArg _ (funext ih)

theorem up_one (t : Tree) (i : NodeId) : t.up 1 i = (t.node i).parent := by
  show (t.node i).parent.bind some = _
  exact Option.bind_fun_some _

/-- What is above a node is the node above what is just below: the last step of `Tree.up` taken
    off. -/
theorem up_succ_eq_some {t : Tree} {n : Nat} {i p : NodeId} :
    t.up (n + 1) i = some p ↔ ∃ c, t.up n i = some c ∧ (t.node c).parent = some p := by
  rw [up_add, Option.bind_eq_some_iff]
  refine exists_congr fun c => and_congr_right fun _ => ?_
  rw [up_one]

/-! ### What walks find -/

/-- A walk up finds the nodes above, as far as its fuel goes. The induction is that of
    `ancestorsFrom`, with the node kept general. -/
theorem mem_ancestorsFrom (t : Tree) (fuel : Nat) (i p : NodeId) :
    p ∈ t.ancestorsFrom fuel i ↔ ∃ n < fuel, t.up (n + 1) i = some p := by
  induction fuel generalizing i with
  | zero => exact ⟨fun h => absurd h List.not_mem_nil, fun ⟨_, h, _⟩ => absurd h (Nat.not_lt_zero _)⟩
  | succ fuel ih =>
    unfold ancestorsFrom
    split
    · next hnone =>
      refine ⟨fun h => absurd h List.not_mem_nil, ?_⟩
      rintro ⟨n, -, h⟩
      rw [up, hnone] at h
      exact absurd h (by simp)
    · next q hq =>
      -- the first step leads to the parent, where the induction hypothesis applies
      rw [List.mem_cons, ih]
      constructor
      · rintro (rfl | ⟨n, hn, h⟩)
        · exact ⟨0, Nat.succ_pos _, by rw [up_one]; exact hq⟩
        · refine ⟨n + 1, Nat.succ_lt_succ hn, ?_⟩
          rw [up, hq]
          exact h
      · rintro ⟨n, hn, h⟩
        rw [up, hq] at h
        cases n with
        | zero => exact Or.inl (Option.some.inj h).symm
        | succ n => exact Or.inr ⟨n, Nat.lt_of_succ_lt_succ hn, h⟩

/-- **No path has to be longer than the number of nodes,** since one that meets a node twice can be
    shortened. This holds without the agreement of links, so `ancestors` needs no assumption. -/
theorem exists_up_lt_size (t : Tree) {n : Nat} {i p : NodeId} (hup : t.up (n + 1) i = some p) :
    ∃ m < t.nodes.size, t.up (m + 1) i = some p := by
  induction n using Nat.strong_induction_on with
  | _ n ih =>
    by_cases hn : n < t.nodes.size
    · exact ⟨n, hn, hup⟩
    · have hpath : ∀ k ≤ n, ∃ q, t.up k i = some q ∧ t.up (n - k + 1) q = some p := by
        intro k hk
        have hsplit : t.up (k + (n - k + 1)) i = some p := by
          rw [← Nat.add_assoc, Nat.add_sub_cancel' hk]
          exact hup
        rw [up_add] at hsplit
        exact Option.bind_eq_some_iff.mp hsplit
      -- the nodes on the path have a parent, so there are more places on it than nodes
      have hmaps : ∀ k ∈ Finset.range (n + 1),
          (t.up k i).getD root ∈ Finset.range t.nodes.size := by
        intro k hk
        obtain ⟨q, hq, hqp⟩ := hpath k (Nat.le_of_lt_succ (Finset.mem_range.mp hk))
        obtain ⟨q', hparent, -⟩ := Option.bind_eq_some_iff.mp hqp
        rw [hq, Finset.mem_range]
        exact Linked.lt_of_parent hparent
      have hcard : (Finset.range t.nodes.size).card < (Finset.range (n + 1)).card := by
        rw [Finset.card_range, Finset.card_range]
        omega
      obtain ⟨k, hk, l, hl, hne, heq⟩ :=
        Finset.exists_ne_map_eq_of_card_lt_of_maps_to hcard hmaps
      wlog hlt : k < l generalizing k l
      · exact this l hl k hk (Ne.symm hne) heq.symm (by omega)
      have hln : l ≤ n := Nat.le_of_lt_succ (Finset.mem_range.mp hl)
      obtain ⟨q, hq, -⟩ := hpath k (by omega)
      obtain ⟨q', hq', hrest⟩ := hpath l hln
      have hsame : q = q' := by
        rw [hq, hq'] at heq
        exact heq
      -- from the first place on, the path goes on as from the second one
      have hshort : t.up (k + (n - l) + 1) i = some p := by
        rw [Nat.add_assoc, up_add, hq, hsame]
        exact hrest
      exact ih (k + (n - l)) (by omega) hshort

/-- **No fuel runs out.** Above a node are the nodes that some number of steps leads to:
    `Tree.ancestors` takes the number of nodes as its fuel. -/
theorem mem_ancestors (t : Tree) (i p : NodeId) :
    p ∈ t.ancestors i ↔ ∃ n, t.up (n + 1) i = some p := by
  unfold ancestors
  rw [mem_ancestorsFrom]
  constructor
  · rintro ⟨n, -, hn⟩
    exact ⟨n, hn⟩
  · rintro ⟨n, hn⟩
    exact t.exists_up_lt_size hn

/-- A walk down (`preorderFrom`) finds the nodes that have the start above them: a child is found
    exactly where it has its parent. -/
theorem Linked.mem_preorderFrom {t : Tree} (h : t.Linked) (fuel : Nat) (p i : NodeId) :
    i ∈ t.preorderFrom fuel (t.node p).children ↔ ∃ n < fuel, t.up (n + 1) i = some p := by
  induction fuel generalizing p with
  | zero => exact ⟨fun h => absurd h List.not_mem_nil, fun ⟨_, h, _⟩ => absurd h (Nat.not_lt_zero _)⟩
  | succ fuel ih =>
    unfold preorderFrom
    rw [List.mem_flatMap]
    -- the walk goes down, so it is the last step up that is split off here
    constructor
    · rintro ⟨c, hc, hi⟩
      have hparent := (h.mem_children p c).mp hc
      rcases List.mem_cons.mp hi with rfl | hi
      · exact ⟨0, Nat.succ_pos _, by rw [up_one]; exact hparent⟩
      · obtain ⟨n, hn, hup⟩ := (ih c).mp hi
        exact ⟨n + 1, Nat.succ_lt_succ hn, up_succ_eq_some.mpr ⟨c, hup, hparent⟩⟩
    · rintro ⟨n, hn, hup⟩
      obtain ⟨c, hup, hparent⟩ := up_succ_eq_some.mp hup
      refine ⟨c, (h.mem_children p c).mpr hparent, ?_⟩
      cases n with
      | zero => exact List.mem_cons.mpr (Or.inl (Option.some.inj hup))
      | succ n =>
        exact List.mem_cons_of_mem _ ((ih c).mpr ⟨n, Nat.lt_of_succ_lt_succ hn, hup⟩)

/-- Below a node are the nodes that it is above: `Tree.descendants` and `Tree.ancestors` are two
    views of the same links. -/
theorem Linked.mem_descendants {t : Tree} (h : t.Linked) (p i : NodeId) :
    i ∈ t.descendants p ↔ p ∈ t.ancestors i :=
  (h.mem_preorderFrom _ p i).trans (t.mem_ancestorsFrom _ i p).symm

/-! ### Depth -/

namespace Linked

variable {t : Tree}

/-- Nothing is above the document (`Tree.up`), which has no parent in a linked tree. -/
theorem up_root (h : t.Linked) (n : Nat) : t.up (n + 1) root = none := by
  rw [up, h.root_parent]
  rfl

/-- The document is above a node at one distance only, the depth of the node. -/
theorem depth_unique (h : t.Linked) {n m : Nat} {i : NodeId} (hn : t.up n i = some root)
    (hm : t.up m i = some root) : n = m := by
  wlog hle : n ≤ m generalizing n m
  · exact (this hm hn (Nat.le_of_not_le hle)).symm
  -- the longer path would have to go on above the document
  obtain ⟨k, rfl⟩ := Nat.le.dest hle
  rw [up_add, hn] at hm
  cases k with
  | zero => rfl
  | succ k =>
    have hnone : t.up (k + 1) root = some root := hm
    rw [h.up_root] at hnone
    exact absurd hnone (by simp)

/-- The node at a distance below the document is found at one distance only, so the subtrees of two
    children do not overlap. -/
theorem steps_unique (h : t.Linked) {d n m : Nat} {i p q : NodeId} (hp : t.up d p = some root)
    (hq : t.up d q = some root) (hip : t.up n i = some p) (hiq : t.up m i = some q) :
    n = m ∧ p = q := by
  have hn : t.up (n + d) i = some root := by rw [up_add, hip]; exact hp
  have hm : t.up (m + d) i = some root := by rw [up_add, hiq]; exact hq
  have hnm : n = m := Nat.add_right_cancel (h.depth_unique hn hm)
  rw [hnm] at hip
  exact ⟨hnm, Option.some.inj (hip.symm.trans hiq)⟩

/-! ### Walks meet a node once -/

/-- A walk from a node of the document meets every node once: the subtrees of its children are
    walked one after the other, and `steps_unique` keeps them apart. -/
theorem nodup_preorderFrom (h : t.Linked) (fuel : Nat) {d : Nat} {p : NodeId}
    (hp : t.up d p = some root) : (t.preorderFrom fuel (t.node p).children).Nodup := by
  induction fuel generalizing d p with
  | zero => exact List.nodup_nil
  | succ fuel ih =>
    have hdepth : ∀ c ∈ (t.node p).children, t.up (d + 1) c = some root := by
      intro c hc
      rw [up, (h.mem_children p c).mp hc]
      exact hp
    -- what the walk meets below a child is that child or has it above it
    have hbelow : ∀ c i, i ∈ c :: t.preorderFrom fuel (t.node c).children →
        ∃ n, t.up n i = some c := by
      intro c i hi
      rcases List.mem_cons.mp hi with rfl | hi
      · exact ⟨0, rfl⟩
      · obtain ⟨n, -, hn⟩ := (h.mem_preorderFrom fuel c i).mp hi
        exact ⟨n + 1, hn⟩
    unfold preorderFrom
    rw [List.nodup_flatMap]
    constructor
    · intro c hc
      refine List.nodup_cons.mpr ⟨?_, ih (hdepth c hc)⟩
      -- no node is above itself
      intro hmem
      obtain ⟨n, -, hn⟩ := (h.mem_preorderFrom fuel c c).mp hmem
      have hself : t.up 0 c = some c := rfl
      have hzero := (h.steps_unique (hdepth c hc) (hdepth c hc) hn hself).1
      exact absurd hzero (Nat.succ_ne_zero n)
    · refine List.Nodup.pairwise_of_forall_ne (h.nodup p) ?_
      -- what is below two children would have both above it at one depth
      intro c hc c' hc' hne i hi hi'
      obtain ⟨n, hn⟩ := hbelow c i hi
      obtain ⟨m, hm⟩ := hbelow c' i hi'
      exact hne (h.steps_unique (hdepth c hc) (hdepth c' hc') hn hm).2

/-- A walk from the document meets every node once, so `Tree.descendants` of it repeats none. -/
theorem nodup_descendants (h : t.Linked) : (t.descendants root).Nodup :=
  h.nodup_preorderFrom _ (show t.up 0 root = some root from rfl)

end Linked

/-! ### Elements -/

/-- `Tree.elementsAmong` keeps the nodes that are elements, each with its element. -/
theorem mem_elementsAmong {t : Tree} {is : List NodeId} {i : NodeId} {e : Element} :
    (i, e) ∈ t.elementsAmong is ↔ i ∈ is ∧ t.element? i = some e := by
  unfold elementsAmong
  rw [List.mem_filterMap]
  constructor
  · rintro ⟨j, hj, h⟩
    obtain ⟨e', he', heq⟩ := Option.map_eq_some_iff.mp h
    obtain ⟨rfl, rfl⟩ := Prod.mk.inj heq
    exact ⟨hj, he'⟩
  · rintro ⟨hi, he⟩
    exact ⟨i, hi, by rw [he]; rfl⟩

/-- The places of the elements among some nodes, in the order of the nodes: nothing is reordered. -/
theorem ids_elementsAmong (t : Tree) (is : List NodeId) :
    (t.elementsAmong is).map Prod.fst = is.filter fun i => (t.element? i).isSome := by
  induction is with
  | nil => rfl
  | cons i is ih =>
    unfold elementsAmong at ih ⊢
    rw [List.filterMap_cons]
    cases he : t.element? i with
    | none =>
      rw [List.filter_cons_of_neg (by rw [he]; exact Bool.false_ne_true)]
      exact ih
    | some e =>
      rw [List.filter_cons_of_pos (by rw [he]; rfl), ← ih]
      rfl

/-- `Tree.elements` are those that have the document above them; an element that was detached is
    none. -/
theorem Linked.mem_elements {t : Tree} (h : t.Linked) {i : NodeId} {e : Element} :
    (i, e) ∈ t.elements ↔ root ∈ t.ancestors i ∧ t.element? i = some e := by
  unfold elements
  rw [mem_elementsAmong, h.mem_descendants]

/-- `Tree.created` has the elements with a parent, be it in the document or in a detached part. -/
theorem mem_created {t : Tree} {i : NodeId} {e : Element} :
    (i, e) ∈ t.created ↔ (t.node i).parent.isSome ∧ t.element? i = some e := by
  unfold created
  rw [mem_elementsAmong, List.mem_filter, List.mem_range]
  exact ⟨fun h => ⟨h.1.2, h.2⟩, fun h => ⟨⟨lt_size_of_element? h.2, h.1⟩, h.2⟩⟩

/-- What is below the document is below another node, so it is among the created ones. -/
theorem parent_isSome_of_mem_ancestors {t : Tree} {i p : NodeId} (h : p ∈ t.ancestors i) :
    (t.node i).parent.isSome := by
  obtain ⟨n, -, hn⟩ := (t.mem_ancestorsFrom _ i p).mp h
  obtain ⟨q, hq, -⟩ := Option.bind_eq_some_iff.mp hn
  rw [hq]
  rfl

end AccessLint.Html.Tree
