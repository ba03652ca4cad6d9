import AccessLint.Color.Named
import Mathlib.Data.List.Chain

namespace AccessLint.Rgb

/-!
# Looking up the name of a colour

The names are in alphabetical order, so binary search finds the same as a look at one after the
other.

* `lastWithin_spec` — where binary search stops;
* `findSorted?_eq_find?` — what it finds in a table in alphabetical order;
* `named_names`, `named_sorted` — how the names of colours are spelled, and that they are in this
  order;
* `ofName?_eq_find?`, `ofName?_eq_some_iff` — the colour of a name.
-/

/-! ### Binary search -/

/-- **Where binary search stops** (`lastWithin`), if what follows a number beyond is beyond: at the
    first number or at one that is not beyond, and all later ones are beyond. -/
theorem lastWithin_spec {beyond : Nat → Bool} {base size : Nat} (hsize : 0 < size)
    (hmono : ∀ i j, i ≤ j → j < base + size → beyond i = true → beyond j = true) :
    base ≤ lastWithin beyond base size ∧ lastWithin beyond base size < base + size ∧
      (lastWithin beyond base size = base ∨ beyond (lastWithin beyond base size) = false) ∧
      ∀ i, lastWithin beyond base size < i → i < base + size → beyond i = true := by
  fun_induction lastWithin beyond base size with
  | case1 base size hle => exact ⟨Nat.le_refl base, by omega, Or.inl rfl, fun i _ _ => by omega⟩
  | case2 base size hlt mid hmid ih =>
    -- what is left out follows the middle
    obtain ⟨hge, hin, hstop, hlater⟩ := ih (by omega) fun i j hij hj => hmono i j hij (by omega)
    refine ⟨hge, by omega, hstop, fun i hi hlast => ?_⟩
    by_cases hkept : i < base + (size - size / 2)
    · exact hlater i hi hkept
    · exact hmono mid i (by omega) hlast hmid
  | case3 base size hlt mid hmid ih =>
    obtain ⟨hge, hin, hstop, hlater⟩ := ih (by omega) fun i j hij hj => hmono i j hij (by omega)
    refine ⟨by omega, by omega, ?_, fun i hi hlast => hlater i hi (by omega)⟩
    rcases hstop with hfirst | hwithin
    · rw [hfirst]
      exact Or.inr (Bool.eq_false_iff.mpr hmid)
    · exact Or.inr hwithin

/-- If the numbers behind `p` are those beyond, binary search stops at `p`: `lastWithin_spec` leaves
    no other place. -/
theorem lastWithin_eq {beyond : Nat → Bool} {p size : Nat} (hp : p < size)
    (h : ∀ i, i < size → (beyond i = true ↔ p < i)) : lastWithin beyond 0 size = p := by
  have hmono : ∀ i j, i ≤ j → j < 0 + size → beyond i = true → beyond j = true := by
    intro i j hij hj hi
    have hpi := (h i (by omega)).mp hi
    exact (h j (by omega)).mpr (by omega)
  obtain ⟨-, hin, hstop, hlater⟩ := lastWithin_spec (by omega) hmono
  rcases Nat.lt_trichotomy (lastWithin beyond 0 size) p with hbefore | heq | hafter
  · -- then `p` would be beyond itself
    have hself := (h p hp).mp (hlater p hbefore (by omega))
    omega
  · exact heq
  · rcases hstop with hzero | hwithin
    · omega
    · rw [(h _ (by omega)).mpr hafter] at hwithin
      cases hwithin

/-! ### Alphabetical order -/

/-- The order of texts (`Text.precedes`) is the one of lists. -/
theorem precedes_iff_lt {a b : Text} : Text.precedes a b = true ↔ a < b := by
  induction a generalizing b with
  | nil => cases b <;> simp [Text.precedes]
  | cons c a ih =>
    cases b with
    | nil => simp [Text.precedes]
    | cons d b =>
      rw [Text.precedes, List.cons_lt_cons_iff]
      by_cases hcd : c = d
      · rw [if_pos hcd, ih, hcd]
        simp
      · rw [if_neg hcd, decide_eq_true_eq]
        simp only [hcd, false_and, or_false]
        exact Iff.rfl

/-- A table is in alphabetical order, and no name is in it twice. -/
def Sorted (table : List (String × Nat)) : Prop :=
  table.Pairwise fun a b => a.1.toList < b.1.toList

/-- The names, looked through once: each comes before the next one, consists of small letters that
    are not all hexadecimal digits, and is not `transparent`. -/
theorem named_names :
    (named.IsChain fun a b => Text.precedes a.1.toList b.1.toList = true) ∧
      ∀ entry ∈ named, entry.1.toList.all Char.isLower = true ∧
        entry.1.toList.any (fun c => (Text.hexValue? c).isNone) = true ∧
          entry.1.toList ≠ ("transparent" : Text) := by
  decide +kernel

/-- **The names of colours are in alphabetical order**, which `findSorted?` relies on. -/
theorem named_sorted : Sorted named := by
  have hlt : named.IsChain fun a b => a.1.toList < b.1.toList :=
    named_names.1.imp fun _ _ => precedes_iff_lt.mp
  have htrans : IsTrans (String × Nat) fun a b => a.1.toList < b.1.toList :=
    ⟨fun _ _ _ hab hbc => List.lt_trans hab hbc⟩
  exact List.isChain_iff_pairwise.mp hlt

variable {table : List (String × Nat)} {name : Text}

/-- What `findSorted?` finds is an entry of the name: the last comparison is for equality. -/
theorem of_findSorted? {entry : String × Nat} (h : findSorted? table name = some entry) :
    entry ∈ table ∧ entry.1.toList = name := by
  obtain ⟨hplace, hname⟩ := Option.filter_eq_some_iff.mp h
  exact ⟨List.mem_of_getElem? hplace, beq_iff_eq.mp hname⟩

/-- An entry of a table in alphabetical order (`Sorted`) is found by `findSorted?`, wherever it
    stands. -/
theorem findSorted?_of_mem (hsorted : Sorted table) {entry : String × Nat} (hmem : entry ∈ table) :
    findSorted? table entry.1.toList = some entry := by
  obtain ⟨p, hp, hentry⟩ := List.mem_iff_getElem.mp hmem
  have hlt : ∀ i j (hi : i < table.length) (hj : j < table.length), i < j →
      table[i].1.toList < table[j].1.toList := List.pairwise_iff_getElem.mp hsorted
  -- an entry is beyond exactly if it comes after the one that is looked for
  have hbeyond : ∀ i, i < table.length →
      ((table[i]?.any fun e => Text.precedes entry.1.toList e.1.toList) = true ↔ p < i) := by
    intro i hi
    rw [List.getElem?_eq_getElem hi, Option.any_some, precedes_iff_lt, ← hentry]
    constructor
    · intro h
      by_contra hle
      rcases Nat.lt_or_eq_of_le (Nat.le_of_not_lt hle) with hip | rfl
      · exact List.lt_irrefl _ (List.lt_trans h (hlt i p hi hp hip))
      · exact List.lt_irrefl _ h
    · exact hlt p i hp hi
  unfold findSorted?
  dsimp only
  rw [lastWithin_eq hp hbeyond, List.getElem?_eq_getElem hp, hentry]
  exact Option.filter_some_pos (beq_iff_eq.mpr rfl)

/-- **Binary search finds the same** as a look at one entry after the other (`List.find?`). -/
theorem findSorted?_eq_find? (hsorted : Sorted table) (name : Text) :
    findSorted? table name = table.find? fun entry => entry.1.toList == name := by
  cases hfind : table.find? fun entry => entry.1.toList == name with
  | some entry =>
    have hname := List.find?_some hfind
    rw [← beq_iff_eq.mp hname]
    exact findSorted?_of_mem hsorted (List.mem_of_find?_eq_some hfind)
  | none =>
    rw [Option.eq_none_iff_forall_ne_some]
    intro entry hentry
    obtain ⟨hmem, hname⟩ := of_findSorted? hentry
    exact List.find?_eq_none.mp hfind entry hmem (beq_iff_eq.mpr hname)

/-! ### Names of colours -/

/-- **The colour of a name** is the one that a look at all of `named` finds, since that table is
    sorted. -/
theorem ofName?_eq_find? (name : Text) :
    ofName? name = (named.find? fun entry => entry.1.toList == name).map fun entry =>
      ofNat entry.2 := by
  rw [ofName?, findSorted?_eq_find? named_sorted]

/-- A text has the colour of the entry of `named` whose name it is, and no two entries have one
    name. -/
theorem ofName?_eq_some_iff {c : Rgb} :
    ofName? name = some c ↔ ∃ entry ∈ named, name = entry.1.toList ∧ c = ofNat entry.2 := by
  unfold ofName?
  rw [Option.map_eq_some_iff]
  constructor
  · rintro ⟨entry, hfound, rfl⟩
    obtain ⟨hmem, hname⟩ := of_findSorted? hfound
    exact ⟨entry, hmem, hname.symm, rfl⟩
  · rintro ⟨entry, hmem, rfl, rfl⟩
    exact ⟨entry, findSorted?_of_mem named_sorted hmem, rfl⟩

end AccessLint.Rgb
