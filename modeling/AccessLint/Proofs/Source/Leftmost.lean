import AccessLint.Proofs.Source.Position
import AccessLint.Proofs.Text.Boundary
import Mathlib.Data.List.Forall2

namespace AccessLint

/-!
# The leftmost places

Elements that are searched for one after the other are found as far to the left as they can be. If
there are places for all of their markup from left to right at all, then all of it is found, and
nothing is found further on than in any other choice of places.

* `Text.OccursAt` — a text stands at a byte of another one;
* `Source.Placing` — places for the markup of some elements, from left to right;
* `Source.searchFrom_leftmost` — a search stays left of every such choice of places;
* `Source.locateNamed_leftmost` — and what it finds is one.
-/

namespace Text

/-- A text stands at a byte of another one. -/
def OccursAt (needle t : Text) (offset : Nat) : Prop :=
  ∃ r ∈ fromByte? offset t, needle <+: r

instance (needle t : Text) (offset : Nat) : Decidable (OccursAt needle t offset) :=
  inferInstanceAs (Decidable (∃ r ∈ fromByte? offset t, needle <+: r))

/-- `Text.fromByte?` cuts a text where a character starts, so what stands before and behind the cut
    is the text. -/
theorem append_of_fromByte? {offset : Nat} {t r : Text} (h : fromByte? offset t = some r) :
    ∃ before, before ++ r = t ∧ utf8Size before = offset := by
  fun_induction fromByte? offset t with
  | case1 t => exact ⟨[], Option.some.inj h.symm, rfl⟩
  | case2 => cases h
  | case3 n c t hfits ih =>
    obtain ⟨before, ht, hsize⟩ := ih h
    refine ⟨c :: before, by rw [List.cons_append, ht], ?_⟩
    rw [utf8Size, hsize]
    omega
  | case4 => cases h

/-- Where a text stands, there is some text before it and some after it: `OccursAt` in terms of
    `++`, which proofs can take apart. -/
theorem occursAt_iff {needle t : Text} {offset : Nat} :
    OccursAt needle t offset ↔
      ∃ before after, t = before ++ (needle ++ after) ∧ utf8Size before = offset := by
  constructor
  · rintro ⟨r, hfrom, hstart⟩
    obtain ⟨before, ht, hsize⟩ := append_of_fromByte? hfrom
    obtain ⟨after, hr⟩ := hstart
    exact ⟨before, after, by rw [← ht, ← hr], hsize⟩
  · rintro ⟨before, after, rfl, rfl⟩
    exact ⟨needle ++ after, fromByte?_utf8Size before _, List.prefix_append needle after⟩

end Text

namespace Source

variable {α : Type} {source name : Text} {markup : α → Text} {es : List α} {os : List Nat}

/-- Places for the markup of some elements in a source, one for each, from left to right. -/
structure Placing (source : Text) (markup : α → Text) (es : List α) (os : List Nat) : Prop where
  ascending : os.Pairwise (· < ·)
  occurs : List.Forall₂ (fun e o => Text.OccursAt (markup e) source o) es os

/-! ### One step of a search -/

/-- An element whose markup is not found is left out, and `searchFrom` goes on from the same
    place. -/
theorem searchFrom_of_missed {e : α} {t : Text} (h : Text.findFirst? (markup e) t = none)
    (offset : Nat) (es : List α) :
    searchFrom markup offset t (e :: es) = searchFrom markup offset t es := by
  rw [searchFrom, h]

/-- After a find, `searchFrom` goes on behind the first character of what was found, which is a
    `<`. -/
theorem searchFrom_of_found {e : α} {t first : Text} (h : Text.findFirst? (markup e) t = some first)
    (hmarkup : (markup e).head? = some '<') (offset : Nat) (es : List α) :
    ∃ rest, t = first ++ '<' :: rest ∧ searchFrom markup offset t (e :: es) =
      (e, offset + Text.utf8Size first) ::
        searchFrom markup (offset + Text.utf8Size first + 1) rest es := by
  obtain ⟨after, ht⟩ := Text.eq_append_of_findFirst? h
  obtain ⟨tail, hhead⟩ := List.head?_eq_some_iff.mp hmarkup
  rw [hhead, List.cons_append] at ht
  refine ⟨tail ++ after, ht, ?_⟩
  have hdrop : t.drop first.length = '<' :: (tail ++ after) := by
    rw [ht, List.drop_left]
  rw [searchFrom, h]
  dsimp only
  rw [hdrop]
  rfl

/-! ### The whole search -/

/-- **A search stays left of every placing.** If there are places (`Placing`) behind what was
    searched before, every element is found, and no element further on than at its place. The
    induction is on the elements; what was searched before is general in it. -/
theorem searchFrom_leftmost (hmarkup : ∀ e ∈ es, (markup e).head? = some '<') {before t : Text}
    (hplacing : Placing (before ++ t) markup es os) (hos : ∀ o ∈ os, Text.utf8Size before ≤ o) :
    (searchFrom markup (Text.utf8Size before) t es).map Prod.fst = es ∧
      List.Forall₂ (· ≤ ·) ((searchFrom markup (Text.utf8Size before) t es).map Prod.snd) os := by
  induction es generalizing before t os with
  | nil =>
    cases hplacing.occurs
    exact ⟨rfl, .nil⟩
  | cons e es ih =>
    obtain ⟨hascending, hoccurs⟩ := hplacing
    obtain ⟨o, os, ho, hlater, rfl⟩ := List.forall₂_cons_left_iff.mp hoccurs
    obtain ⟨hfirst, hascending⟩ := List.pairwise_cons.mp hascending
    -- the place of the first element is behind what was searched before, so it is found
    obtain ⟨upto, after, hsource, hsize⟩ := Text.occursAt_iff.mp ho
    have hbehind : Text.utf8Size before ≤ Text.utf8Size upto := by
      rw [hsize]
      exact hos o List.mem_cons_self
    obtain ⟨between, hupto, ht⟩ := Text.exists_between hsource hbehind
    obtain ⟨first, hfind, hle⟩ := Text.exists_findFirst? (markup e) between after
    rw [← ht] at hfind
    have hat : Text.utf8Size before + Text.utf8Size first ≤ o := by
      rw [← hsize, hupto, Text.utf8Size_append]
      exact Nat.add_le_add_left hle _
    -- the later places are behind the first character of what was found
    obtain ⟨rest, hrest, hstep⟩ := searchFrom_of_found hfind (hmarkup e List.mem_cons_self)
      (Text.utf8Size before) es
    have hsplit : before ++ t = (before ++ (first ++ ['<'])) ++ rest := by
      rw [hrest]
      simp
    have hmoved : Text.utf8Size (before ++ (first ++ ['<'])) =
        Text.utf8Size before + Text.utf8Size first + 1 := by
      rw [Text.utf8Size_append, Text.utf8Size_append, Nat.add_assoc]
      rfl
    rw [hsplit] at hlater
    have hos' : ∀ o' ∈ os, Text.utf8Size (before ++ (first ++ ['<'])) ≤ o' := by
      intro o' ho'
      have hlt := hfirst o' ho'
      omega
    obtain ⟨hall, hleft⟩ :=
      ih (fun e he => hmarkup e (List.mem_cons_of_mem _ he)) ⟨hascending, hlater⟩ hos'
    rw [hmoved] at hall hleft
    rw [hstep, List.map_cons, List.map_cons]
    exact ⟨by rw [hall], .cons hat hleft⟩

/-- What is found by `searchFrom` is a `Placing` of all that is found: each markup stands at its
    place, and the places go from left to right. -/
theorem placing_searchFrom (hmarkup : ∀ e ∈ es, (markup e).head? = some '<')
    (hall : (searchFrom markup 0 source es).map Prod.fst = es) :
    Placing source markup es ((searchFrom markup 0 source es).map Prod.snd) := by
  have hnonempty : ∀ e ∈ es, markup e ≠ [] := by
    intro e he hnil
    have hhead := hmarkup e he
    rw [hnil] at hhead
    cases hhead
  have hoccurs : List.Forall₂ (fun e o => Text.OccursAt (markup e) source o)
      ((searchFrom markup 0 source es).map Prod.fst)
      ((searchFrom markup 0 source es).map Prod.snd) := by
    rw [List.forall₂_map_left_iff, List.forall₂_map_right_iff, List.forall₂_same]
    rintro ⟨e, o⟩ hmem
    obtain ⟨-, before, after, hsource, ho⟩ := mem_searchFrom hmem
    exact Text.occursAt_iff.mpr ⟨before, after, hsource, by rw [ho, Nat.zero_add]⟩
  rw [hall] at hoccurs
  exact ⟨List.pairwise_map.mpr (searchFrom_sorted hnonempty 0 source), hoccurs⟩

/-- **The leftmost places.** If there are more or fewer tags of a name than elements, and there are
    places for the markup of these elements at all, then `locateNamed` locates all of them, and at
    the leftmost places that there are. -/
theorem locateNamed_leftmost (hmarkup : ∀ e ∈ es, (markup e).head? = some '<')
    (hlength : (offsetsOf (scan source) name).length ≠ es.length)
    (hplacing : Placing source markup es os) :
    (locateNamed source (scan source) markup name es).map Prod.fst = es ∧
      Placing source markup es
        ((locateNamed source (scan source) markup name es).map Prod.snd) ∧
      List.Forall₂ (· ≤ ·) ((locateNamed source (scan source) markup name es).map Prod.snd) os := by
  have hsearched : locateNamed source (scan source) markup name es =
      searchFrom markup 0 source es := if_neg hlength
  have hstart : ∀ o ∈ os, Text.utf8Size [] ≤ o := fun o _ => Nat.zero_le o
  have hplacing : Placing ([] ++ source) markup es os := hplacing
  obtain ⟨hall, hleft⟩ := searchFrom_leftmost hmarkup hplacing hstart
  rw [hsearched]
  exact ⟨hall, placing_searchFrom hmarkup hall, hleft⟩

end Source

end AccessLint
