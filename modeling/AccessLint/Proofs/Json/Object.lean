import AccessLint.Json.Basic
import AccessLint.Text.Keyed

namespace AccessLint.Json

/-!
# Objects without repeated keys

Every object of a value that was read has each of its keys once, since `object` drops what a later
member of the same key replaces.

* `Proper` — values in which no object repeats a key, and all numbers are of one sort;
* `object_eq_of_nodup` — members without a repeated key are an object as they are;
* `proper_object` — an object of proper members is proper, whatever their keys.
-/

/-- A value in which no object has a key twice, and all numbers are of some sort. -/
inductive Proper (p : Number → Prop) : Json → Prop
  | null : Proper p .null
  | bool (b : Bool) : Proper p (.bool b)
  | num {n : Number} : p n → Proper p (.num n)
  | str (t : Text) : Proper p (.str t)
  | arr {items : List Json} : (∀ v ∈ items, Proper p v) → Proper p (.arr items)
  | obj {members : List (Text × Json)} : (members.map Prod.fst).Nodup →
      (∀ m ∈ members, Proper p m.2) → Proper p (.obj members)

variable {members : List (Text × Json)}

/-- The members of an object, once some members were set before others: `Keyed.put` finds none of
    the keys, so each member comes last. -/
theorem foldl_put (start : List (Text × Json))
    (h : ((start ++ members).map Prod.fst).Nodup) :
    members.foldl (fun ms m => Keyed.put m.1 m.2 ms) start = start ++ members := by
  induction members generalizing start with
  | nil => simp
  | cons m members ih =>
    have hcomm : start ++ m :: members = (start ++ [m]) ++ members := by simp
    have hnew : m.1 ∉ start.map Prod.fst := by
      intro hmem
      rw [List.map_append, List.map_cons] at h
      exact (List.nodup_append.mp h).2.2 _ hmem _ List.mem_cons_self rfl
    rw [hcomm] at h
    rw [List.foldl_cons, Keyed.put_of_not_mem hnew, ih _ h, hcomm]

/-- **Members without a repeated key** are an object as they are, for `Json.object`, in their
    order. -/
theorem object_eq_of_nodup (h : (members.map Prod.fst).Nodup) : object members = .obj members := by
  unfold object
  rw [foldl_put [] h, List.nil_append]

/-- **Each key once.** What `object` makes of proper members is a proper value, since `Keyed.put`
    replaces a key that is there. -/
theorem proper_object {p : Number → Prop} (h : ∀ m ∈ members, Proper p m.2) :
    Proper p (object members) := by
  suffices hfold : ∀ start : List (Text × Json), (start.map Prod.fst).Nodup →
      (∀ m ∈ start, Proper p m.2) →
      Proper p (.obj (members.foldl (fun ms m => Keyed.put m.1 m.2 ms) start)) from
    hfold [] List.nodup_nil (by simp)
  intro start hnodup hstart
  induction members generalizing start with
  | nil => exact .obj hnodup hstart
  | cons m members ih =>
    rw [List.foldl_cons]
    refine ih (fun m' hm' => h m' (List.mem_cons_of_mem _ hm')) _ (Keyed.nodup_put hnodup _ _) ?_
    intro m' hm'
    rcases Keyed.mem_of_mem_put hm' with hmem | rfl
    · exact hstart m' hmem
    · exact h m List.mem_cons_self

end AccessLint.Json
