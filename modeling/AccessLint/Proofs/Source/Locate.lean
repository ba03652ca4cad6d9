import AccessLint.Proofs.Text.Search
import AccessLint.Source.Locate
import Mathlib.Data.List.Perm.Subperm

namespace AccessLint

/-!
# What is found in a source

* `Source.offsetsOf_sorted` — the start tags of a name are found from left to right;
* `Source.mem_locateAll` — an element is located among the elements of its name;
* `Source.locateNamed_paired` — as many tags as elements are paired by their ordinals;
* `Source.locateNamed_searched` — otherwise an element stands where its markup is;
* `Source.map_own_eq_iff` — when elements that are paired with tags are paired with their own.
-/

namespace Source

variable {α : Type}

/-! ### Start tags from left to right -/

/-- A tag that `readTag` gives stands where it is read, under the name that is written there, in
    lower case. -/
theorem eq_of_readTag {offset : Nat} {t : Text} {s : StartTag}
    (h : (readTag offset t).1 = some s) :
    s = ⟨Text.lower (t.takeWhile (!endsName ·)), offset⟩ := by
  unfold readTag at h
  split at h
  · exact absurd h (by simp)
  · split at h
    · exact (Option.some.inj h).symm
    · exact absurd h (by simp)

/-- The start tags that `scanFrom` gives are found from left to right, none of them before the byte
    where the scan starts. -/
theorem scanFrom_sorted (skip offset : Nat) (t : Text) :
    (scanFrom skip offset t).Pairwise (fun a b => a.offset < b.offset) ∧
      ∀ s ∈ scanFrom skip offset t, offset ≤ s.offset := by
  induction t generalizing skip offset with
  | nil => simp [scanFrom]
  | cons c r ih =>
    cases skip with
    | succ skip =>
      obtain ⟨hsorted, hle⟩ := ih skip (offset + c.utf8Size)
      unfold scanFrom
      exact ⟨hsorted, fun s hs => Nat.le_of_add_right_le (hle s hs)⟩
    | zero =>
      unfold scanFrom
      split
      · -- at most one tag starts here, and what it takes is skipped
        obtain ⟨hsorted, hle⟩ := ih (readTag offset r).2 (offset + 1)
        have hhere : ∀ s ∈ (readTag offset r).1.toList, s.offset = offset := by
          intro s hs
          rw [eq_of_readTag (Option.mem_toList.mp hs)]
        dsimp only
        constructor
        · rw [List.pairwise_append]
          refine ⟨?_, hsorted, ?_⟩
          · cases (readTag offset r).1 <;> simp
          · intro a ha b hb
            rw [hhere a ha]
            exact hle b hb
        · intro s hs
          rcases List.mem_append.mp hs with hs | hs
          · exact Nat.le_of_eq (hhere s hs).symm
          · exact Nat.le_of_succ_le (hle s hs)
      · obtain ⟨hsorted, hle⟩ := ih 0 (offset + c.utf8Size)
        exact ⟨hsorted, fun s hs => Nat.le_of_add_right_le (hle s hs)⟩

/-- The start tags of a name are found from left to right, as all start tags of `scan` are. -/
theorem offsetsOf_sorted (source name : Text) : (offsetsOf (scan source) name).Pairwise (· < ·) := by
  unfold offsetsOf scan
  rw [List.pairwise_map]
  exact (scanFrom_sorted 0 0 source).1.filter _

/-! ### Elements of one name -/

/-- An element that `searchFrom` gives stands where its markup is. -/
theorem mem_searchFrom {markup : α → Text} {offset : Nat} {t : Text} {es : List α} {e : α} {o : Nat}
    (h : (e, o) ∈ searchFrom markup offset t es) :
    e ∈ es ∧ ∃ before after, t = before ++ (markup e ++ after) ∧ o = offset + Text.utf8Size before := by
  induction es generalizing offset t with
  | nil => exact absurd h List.not_mem_nil
  | cons a es ih =>
    unfold searchFrom at h
    split at h
    · obtain ⟨hmem, hfound⟩ := ih h
      exact ⟨List.mem_cons_of_mem a hmem, hfound⟩
    · next before hfind =>
      obtain ⟨rest, hrest⟩ := Text.eq_append_of_findFirst? hfind
      rcases List.mem_cons.mp h with heq | h
      · obtain ⟨rfl, rfl⟩ := Prod.mk.inj heq
        exact ⟨List.mem_cons_self, before, rest, hrest, rfl⟩
      · obtain ⟨hmem, before', after', ht, ho⟩ := ih h
        refine ⟨List.mem_cons_of_mem a hmem,
          before ++ ((t.drop before.length).take 1 ++ before'), after', ?_, ?_⟩
        · -- the text before, the first character found, and what was searched next
          calc t = before ++ t.drop before.length := by
                rw [hrest, List.drop_left]
            _ = before ++ ((t.drop before.length).take 1 ++ (t.drop before.length).drop 1) := by
                rw [List.take_append_drop]
            _ = _ := by
                rw [ht]
                simp only [List.append_assoc]
        · rw [ho, Text.utf8Size_append, Text.utf8Size_append]
          omega

/-- As many tags as elements are paired by their ordinals: the `k`-th element of `locateNamed`
    stands at the `k`-th start tag. -/
theorem locateNamed_paired {source name : Text} {tags : List StartTag} {markup : α → Text}
    {es : List α} (hlength : (offsetsOf tags name).length = es.length) {e : α} {o : Nat} :
    (e, o) ∈ locateNamed source tags markup name es ↔
      ∃ k : Nat, es[k]? = some e ∧ (offsetsOf tags name)[k]? = some o := by
  unfold locateNamed
  dsimp only
  rw [if_pos hlength]
  unfold pairUp
  rw [List.mem_iff_getElem?]
  refine exists_congr fun k => ?_
  rw [List.getElem?_zip_eq_some]

/-- Otherwise `locateNamed` searches for the markup of an element, so the element stands where that
    markup is. -/
theorem locateNamed_searched {source name : Text} {tags : List StartTag} {markup : α → Text}
    {es : List α} (hlength : (offsetsOf tags name).length ≠ es.length) {e : α} {o : Nat}
    (h : (e, o) ∈ locateNamed source tags markup name es) :
    ∃ before after, source = before ++ (markup e ++ after) ∧ o = Text.utf8Size before := by
  unfold locateNamed at h
  dsimp only at h
  rw [if_neg hlength] at h
  obtain ⟨-, before, after, hsource, ho⟩ := mem_searchFrom h
  exact ⟨before, after, hsource, by rw [ho, Nat.zero_add]⟩

/-- Only the given elements are located, in both ways of `locateNamed`. -/
theorem mem_of_mem_locateNamed {source name : Text} {tags : List StartTag} {markup : α → Text}
    {es : List α} {e : α} {o : Nat} (h : (e, o) ∈ locateNamed source tags markup name es) :
    e ∈ es := by
  unfold locateNamed at h
  dsimp only at h
  split at h
  · exact (List.of_mem_zip h).1
  · exact (mem_searchFrom h).1

/-! ### All elements -/

/-- The names of some elements are all listed by `namesOf`, so no element is left out of
    `locateAll`. -/
theorem mem_namesOf {name : α → Text} {es : List α} {e : α} (h : e ∈ es) : name e ∈ namesOf name es := by
  have hfold : ∀ (es : List α) (names : List Text), (name e ∈ names ∨ e ∈ es) →
      name e ∈ es.foldl (fun names e => if names.contains (name e) then names
        else names ++ [name e]) names := by
    intro es
    induction es with
    | nil =>
      intro names hmem
      exact hmem.resolve_right List.not_mem_nil
    | cons a es ih =>
      intro names hmem
      -- the name of the next element is listed now, if it was not before
      apply ih
      rcases hmem with hmem | hmem
      · left
        dsimp only
        split
        · exact hmem
        · exact List.mem_append_left _ hmem
      · rcases List.mem_cons.mp hmem with rfl | hmem
        · left
          dsimp only
          split
          · next hcontains => exact List.contains_iff_mem.mp hcontains
          · exact List.mem_append_right _ (List.mem_singleton.mpr rfl)
        · exact Or.inr hmem
  exact hfold es [] (Or.inr h)

/-- An element is located by `locateAll` among the elements of its name, in whatever order the names
    are gone through. -/
theorem mem_locateAll {source : Text} {name markup : α → Text} {es : List α} {names : List Text}
    (hnames : names.Perm (namesOf name es)) {e : α} {o : Nat} :
    (e, o) ∈ locateAll source name markup es names ↔
      (e, o) ∈ locateNamed source (scan source) markup (name e) (es.filter fun x => name x == name e) := by
  unfold locateAll
  dsimp only
  rw [List.mem_flatMap]
  constructor
  · rintro ⟨n, -, h⟩
    -- among the elements of another name it would not be found
    have hname := (List.mem_filter.mp (mem_of_mem_locateNamed h)).2
    rw [← beq_iff_eq.mp hname] at h
    exact h
  · intro h
    have hmem := List.mem_of_mem_filter (mem_of_mem_locateNamed h)
    exact ⟨name e, hnames.mem_iff.mpr (mem_namesOf hmem), h⟩

/-! ### Elements and their own tags -/

/-- Two ordered lists of the same length are equal if one has the members of the other. -/
theorem eq_of_sorted_of_subset {l m : List Nat} (hl : l.Pairwise (· < ·)) (hm : m.Pairwise (· < ·))
    (hsubset : l ⊆ m) (hlength : l.length = m.length) : l = m := by
  -- one is a permutation of the other, and an order has only one
  have hnodup : l.Nodup := hl.imp fun h => Nat.ne_of_lt h
  have hperm := (hnodup.subperm hsubset).perm_of_length_le (Nat.le_of_eq hlength.symm)
  refine hperm.eq_of_pairwise ?_ hl hm
  intro a b _ _ hab hba
  omega

/-- **As many elements as tags are paired with their own tags** exactly if all come from these tags,
    in the order of the tags. Here `own` gives the tag that an element comes from, if there is
    one. -/
theorem map_own_eq_iff {own : α → Option Nat} {es : List α} {offsets : List Nat}
    (hsorted : offsets.Pairwise (· < ·)) (hlength : offsets.length = es.length) :
    es.map own = offsets.map some ↔ (∀ e ∈ es, ∃ o ∈ offsets, own e = some o) ∧
      es.Pairwise fun e e' => ∀ o ∈ own e, ∀ o' ∈ own e', o < o' := by
  constructor
  · intro heq
    constructor
    · intro e he
      have hmem : own e ∈ offsets.map some := heq ▸ List.mem_map_of_mem he
      obtain ⟨o, ho, howne⟩ := List.mem_map.mp hmem
      exact ⟨o, ho, howne.symm⟩
    · have hmapped : (es.map own).Pairwise fun x y => ∀ o ∈ x, ∀ o' ∈ y, o < o' := by
        rw [heq, List.pairwise_map]
        refine hsorted.imp fun {a b} hlt o ho o' ho' => ?_
        rw [← Option.some.inj ho, ← Option.some.inj ho']
        exact hlt
      exact List.pairwise_map.mp hmapped
  · rintro ⟨hscanned, hordered⟩
    have hown : ∀ e ∈ es, own e = some ((own e).getD 0) := by
      intro e he
      obtain ⟨o, -, ho⟩ := hscanned e he
      rw [ho]
      rfl
    -- the own tags are ordered, scanned, and as many as all scanned ones
    have hvalues : (es.map fun e => (own e).getD 0) = offsets := by
      refine eq_of_sorted_of_subset ?_ hsorted ?_ (by rw [List.length_map, hlength])
      · rw [List.pairwise_map]
        refine hordered.imp_of_mem fun {e e'} he he' hlt => ?_
        exact hlt _ (hown e he) _ (hown e' he')
      · intro o ho
        obtain ⟨e, he, rfl⟩ := List.mem_map.mp ho
        obtain ⟨o', ho', howne⟩ := hscanned e he
        rw [howne]
        exact ho'
    rw [← hvalues, List.map_map]
    exact List.map_congr_left hown

end Source

end AccessLint
