import AccessLint.Text.Basic

namespace AccessLint.Keyed

/-!
# Values under keys

Members of an object, entries of a directory, options of a configuration and offsets of elements are
lists of values under keys. Values under texts are set one by one.

* `lookup_eq_some_iff` — without repeated keys, looking up a key finds exactly what stands under it;
* `lookup_reverse_eq_some_iff` — from the end, the last pair with the key is found;
* `lookup_map` — looking up a key among values that were changed one by one;
* `put`, `lookup_put` — setting the value of one key;
* `nodup_put` — no key is repeated by that.
-/

variable {α β : Type}

/-! ### Looking up -/

section Lookup

variable {κ : Type} [BEq κ]

/-- Changing the values does not change under which keys they stand: `List.lookup` gives the changed
    value. -/
theorem lookup_map (f : α → β) (key : κ) (pairs : List (κ × α)) :
    (pairs.map fun p => (p.1, f p.2)).lookup key = (pairs.lookup key).map f := by
  induction pairs with
  | nil => rfl
  | cons p pairs ih =>
    rw [List.map_cons, List.lookup_cons, List.lookup_cons, ih]
    cases key == p.1 <;> rfl

variable [LawfulBEq κ] {key : κ} {value : α} {pairs : List (κ × α)}

/-- What is found stands in the list. -/
theorem mem_of_lookup (h : pairs.lookup key = some value) : (key, value) ∈ pairs := by
  obtain ⟨before, after, hsplit, -⟩ := List.lookup_eq_some_iff.mp h
  rw [hsplit]
  exact List.mem_append_right _ List.mem_cons_self

/-- **Without repeated keys**, `List.lookup` of a key finds exactly what stands under it. -/
theorem lookup_eq_some_iff (h : (pairs.map Prod.fst).Nodup) :
    pairs.lookup key = some value ↔ (key, value) ∈ pairs := by
  refine ⟨mem_of_lookup, fun hmem => ?_⟩
  obtain ⟨before, after, hsplit⟩ := List.append_of_mem hmem
  refine List.lookup_eq_some_iff.mpr ⟨before, after, hsplit, fun p hp => ?_⟩
  -- no earlier pair has the key
  rw [hsplit, List.map_append] at h
  have hne := (List.nodup_append.mp h).2.2 p.1 (List.mem_map_of_mem hp) key List.mem_cons_self
  simpa using fun heq => hne heq.symm

/-- **The last pair with a key counts** when the list is searched from its end. -/
theorem lookup_reverse_eq_some_iff : pairs.reverse.lookup key = some value ↔
    ∃ before after, pairs = before ++ (key, value) :: after ∧ ∀ p ∈ after, p.1 ≠ key := by
  rw [List.lookup_eq_some_iff]
  constructor
  · rintro ⟨after, before, hsplit, hafter⟩
    refine ⟨before.reverse, after.reverse, ?_, fun p hp heq => ?_⟩
    · rw [List.reverse_eq_append_iff, List.reverse_cons, List.append_assoc] at hsplit
      exact hsplit
    · simpa [heq] using hafter p (List.mem_reverse.mp hp)
  · rintro ⟨before, after, rfl, hafter⟩
    refine ⟨after.reverse, before.reverse, by simp, fun p hp => ?_⟩
    simpa using Ne.symm (hafter p (List.mem_reverse.mp hp))

end Lookup

variable {key : Text} {value : α} {pairs : List (Text × α)}

/-! ### Setting one value -/

/-- Sets the value of a key: in its place if the key is there, else at the end. -/
def put (key : Text) (value : α) : List (Text × α) → List (Text × α)
  | [] => [(key, value)]
  | (k, v) :: ps => if k = key then (k, value) :: ps else (k, v) :: put key value ps

/-- **One value is set** by `put`: under the key stands the new value, under the others what stood
    there. -/
theorem lookup_put (key k : Text) (value : α) (pairs : List (Text × α)) :
    (put key value pairs).lookup k = if k = key then some value else pairs.lookup k := by
  induction pairs with
  | nil =>
    by_cases hk : k = key
    · simp [put, hk]
    · have hne : (k == key) = false := by simpa using hk
      simp [put, List.lookup_cons, hk, hne]
  | cons p pairs ih =>
    obtain ⟨j, v⟩ := p
    by_cases hj : j = key
    · -- the value of the key is replaced
      by_cases hk : k = key
      · simp [put, hj, hk]
      · have hne : (k == key) = false := by simpa using hk
        simp [put, hj, hk, hne, List.lookup_cons]
    · -- another value stays in front
      by_cases hk : k = j
      · simp [put, hj, hk]
      · have hne : (k == j) = false := by simpa using hk
        simp [put, hj, hne, List.lookup_cons, ih]

/-- A new key comes at the end of the list that `put` gives. -/
theorem put_of_not_mem (h : key ∉ pairs.map Prod.fst) (value : α) :
    put key value pairs = pairs ++ [(key, value)] := by
  induction pairs with
  | nil => rfl
  | cons p pairs ih =>
    obtain ⟨k, v⟩ := p
    rw [List.map_cons, List.mem_cons, not_or] at h
    have hne : k ≠ key := fun heq => h.1 heq.symm
    rw [put, if_neg hne, ih h.2, List.cons_append]

/-- A key that is there stays in its place, so `put` keeps the order of the keys. -/
theorem keys_put_of_mem (h : key ∈ pairs.map Prod.fst) (value : α) :
    (put key value pairs).map Prod.fst = pairs.map Prod.fst := by
  induction pairs with
  | nil => simp at h
  | cons p pairs ih =>
    obtain ⟨k, v⟩ := p
    by_cases hk : k = key
    · rw [put, if_pos hk, List.map_cons, List.map_cons]
    · rw [List.map_cons, List.mem_cons] at h
      have hmem := h.resolve_left fun heq => hk heq.symm
      rw [put, if_neg hk, List.map_cons, List.map_cons, ih hmem]

/-- **No key is repeated** by `put`, if none was before. -/
theorem nodup_put (h : (pairs.map Prod.fst).Nodup) (key : Text) (value : α) :
    ((put key value pairs).map Prod.fst).Nodup := by
  by_cases hmem : key ∈ pairs.map Prod.fst
  · rw [keys_put_of_mem hmem]
    exact h
  · rw [put_of_not_mem hmem, List.map_append, List.map_singleton]
    refine List.nodup_append.mpr ⟨h, List.pairwise_singleton _ _, ?_⟩
    rintro a ha b hb rfl
    have heq : a = key := List.mem_singleton.mp hb
    exact hmem (heq ▸ ha)

/-- Nothing but the new value is new. -/
theorem mem_of_mem_put {p : Text × α} (h : p ∈ put key value pairs) :
    p ∈ pairs ∨ p = (key, value) := by
  induction pairs with
  | nil => exact Or.inr (List.mem_singleton.mp h)
  | cons q pairs ih =>
    obtain ⟨k, v⟩ := q
    by_cases hk : k = key
    · rw [put, if_pos hk, hk] at h
      rcases List.mem_cons.mp h with heq | hmem
      · exact Or.inr heq
      · exact Or.inl (List.mem_cons_of_mem _ hmem)
    · rw [put, if_neg hk] at h
      rcases List.mem_cons.mp h with heq | hmem
      · exact Or.inl (heq ▸ List.mem_cons_self)
      · exact (ih hmem).imp_left (List.mem_cons_of_mem _)

end AccessLint.Keyed
