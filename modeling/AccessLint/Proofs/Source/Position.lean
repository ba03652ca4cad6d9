import AccessLint.Proofs.Html.Lines
import AccessLint.Proofs.Source.Locate

namespace AccessLint

/-!
# Where located elements stand

The elements of a name are paired with the scanned tags of that name, or searched for by their
markup, one after the other. Both ways find a tag of the name, and both go from left to right:

* `Source.TagStartsAt` — a tag of a name begins at a byte of a source;
* `Source.locateNamed_tagStartsAt` — an element is located where a tag of its name begins;
* `Source.locateNamed_sorted`, `locateNamed_sublist` — what is located, is located in order;
* `Source.pairwise_of_sorted` — so elements that come later stand later.
-/

namespace Source

variable {α : Type}

/-- A tag of a name begins at a byte of a source: there is a `<`, and what follows up to the end of
    a tag's name is the name in any case of its letters. -/
def TagStartsAt (source : Text) (offset : Nat) (name : Text) : Prop :=
  ∃ t ∈ Text.fromByte? offset source, t.head? = some '<' ∧
    Text.lower (t.tail.takeWhile (!endsName ·)) = Text.lower name

instance (source : Text) (offset : Nat) (name : Text) :
    Decidable (TagStartsAt source offset name) :=
  inferInstanceAs (Decidable (∃ t ∈ Text.fromByte? offset source, t.head? = some '<' ∧
    Text.lower (t.tail.takeWhile (!endsName ·)) = Text.lower name))

/-- A tag begins after some text (`TagStartsAt`), at the byte where that text ends. -/
theorem tagStartsAt_utf8Size {before rest name : Text}
    (h : Text.lower (rest.takeWhile (!endsName ·)) = Text.lower name) :
    TagStartsAt (before ++ '<' :: rest) (Text.utf8Size before) name := by
  have hfrom := Text.fromByte?_utf8Size before ('<' :: rest)
  exact ⟨'<' :: rest, hfrom, rfl, h⟩

/-! ### Scanned tags -/

/-- A tag of `scanFrom` stands behind the text before it, under the name that is written there. -/
theorem exists_of_mem_scanFrom {skip offset : Nat} {t : Text} {s : StartTag}
    (h : s ∈ scanFrom skip offset t) :
    ∃ before rest, t = before ++ '<' :: rest ∧
      s = ⟨Text.lower (rest.takeWhile (!endsName ·)), offset + Text.utf8Size before⟩ := by
  induction t generalizing skip offset with
  | nil => simp [scanFrom] at h
  | cons c r ih =>
    -- what is found further on, stands behind the first character too
    have hlater : ∀ {skip' : Nat}, s ∈ scanFrom skip' (offset + c.utf8Size) r →
        ∃ before rest, c :: r = before ++ '<' :: rest ∧
          s = ⟨Text.lower (rest.takeWhile (!endsName ·)), offset + Text.utf8Size before⟩ := by
      intro skip' hs
      obtain ⟨before, rest, hr, heq⟩ := ih hs
      refine ⟨c :: before, rest, by rw [hr, List.cons_append], ?_⟩
      simp [heq, Text.utf8Size, Nat.add_assoc]
    cases skip with
    | succ skip =>
      unfold scanFrom at h
      exact hlater h
    | zero =>
      unfold scanFrom at h
      by_cases hc : c = '<'
      · rw [if_pos hc] at h
        rcases List.mem_append.mp h with hhere | h
        · refine ⟨[], r, by simp [hc], ?_⟩
          rw [eq_of_readTag (Option.mem_toList.mp hhere)]
          simp [Text.utf8Size]
        · have hsize : offset + 1 = offset + c.utf8Size := by
            rw [hc]
            rfl
          rw [hsize] at h
          exact hlater h
      · rw [if_neg hc] at h
        exact hlater h

/-- Where `scan` has a tag of a name, one begins in the sense of `TagStartsAt`. -/
theorem tagStartsAt_of_mem_offsetsOf {source name : Text} {o : Nat}
    (h : o ∈ offsetsOf (scan source) name) : TagStartsAt source o name := by
  unfold offsetsOf at h
  obtain ⟨s, hs, rfl⟩ := List.mem_map.mp h
  obtain ⟨hscan, hname⟩ := List.mem_filter.mp hs
  obtain ⟨before, rest, hsource, heq⟩ := exists_of_mem_scanFrom hscan
  have hlower : Text.lower (rest.takeWhile (!endsName ·)) = Text.lower name := by
    have hsame := beq_iff_eq.mp hname
    rw [heq] at hsame
    exact hsame
  have hoffset : s.offset = Text.utf8Size before := by simp [heq]
  rw [hsource, hoffset]
  exact tagStartsAt_utf8Size hlower

/-! ### Located elements -/

/-- The markup of an element begins as a tag of a name. -/
def OpensWith (markup name : Text) : Prop :=
  ∃ rest, markup = '<' :: (name ++ rest) ∧ (∀ c ∈ name, endsName c = false) ∧
    rest.head?.any endsName = true

/-- A name is read up to where it ends: at a character that `endsName` holds of. -/
theorem takeWhile_name {name rest : Text} (hname : ∀ c ∈ name, endsName c = false)
    (hrest : rest.head?.any endsName = true) : (name ++ rest).takeWhile (!endsName ·) = name := by
  have hall : ∀ c ∈ name, (!endsName c) = true := fun c hc => by simp [hname c hc]
  cases rest with
  | nil => simp at hrest
  | cons c rest =>
    have hstop : endsName c = true := by simpa using hrest
    rw [List.takeWhile_append_of_pos hall]
    simp [hstop]

/-- Where markup is found that `OpensWith` a name, a tag of the name begins. -/
theorem OpensWith.tagStartsAt {markup name : Text} (h : OpensWith markup name)
    (before after : Text) :
    TagStartsAt (before ++ (markup ++ after)) (Text.utf8Size before) name := by
  obtain ⟨rest, hmarkup, hname, hrest⟩ := h
  have hsplit : markup ++ after = '<' :: (name ++ (rest ++ after)) := by
    rw [hmarkup]
    simp
  have hends : (rest ++ after).head?.any endsName = true := by
    cases rest with
    | nil => simp at hrest
    | cons c rest => exact hrest
  rw [hsplit]
  apply tagStartsAt_utf8Size
  rw [takeWhile_name hname hends]

variable {source name : Text} {markup : α → Text} {es : List α}

/-- **An element is located where a tag of its name begins**, whichever way `locateNamed` finds it:
    by its ordinal or by its markup. -/
theorem locateNamed_tagStartsAt (hmarkup : ∀ e ∈ es, OpensWith (markup e) name) {e : α} {o : Nat}
    (h : (e, o) ∈ locateNamed source (scan source) markup name es) :
    TagStartsAt source o name := by
  by_cases hlength : (offsetsOf (scan source) name).length = es.length
  · obtain ⟨k, -, hk⟩ := (locateNamed_paired hlength).mp h
    exact tagStartsAt_of_mem_offsetsOf (List.mem_of_getElem? hk)
  · obtain ⟨before, after, hsource, ho⟩ := locateNamed_searched hlength h
    have hopens := hmarkup e (mem_of_mem_locateNamed h)
    rw [hsource, ho]
    exact hopens.tagStartsAt before after

/-! ### From left to right -/

/-- `searchFrom` gives the elements in their order, some of them left out. -/
theorem searchFrom_sublist (offset : Nat) (t : Text) :
    ((searchFrom markup offset t es).map Prod.fst).Sublist es := by
  induction es generalizing offset t with
  | nil => simp [searchFrom]
  | cons e es ih =>
    unfold searchFrom
    split
    · exact (ih offset t).cons e
    · simpa using ih _ _

/-- Elements whose markup is not empty are found from left to right, since `searchFrom` goes on
    behind what it has found. -/
theorem searchFrom_sorted (hmarkup : ∀ e ∈ es, markup e ≠ []) (offset : Nat) (t : Text) :
    (searchFrom markup offset t es).Pairwise fun a b => a.2 < b.2 := by
  induction es generalizing offset t with
  | nil => simp [searchFrom]
  | cons e es ih =>
    have hrest : ∀ e ∈ es, markup e ≠ [] := fun e he => hmarkup e (List.mem_cons_of_mem _ he)
    unfold searchFrom
    split
    · exact ih hrest offset t
    · next before hfind =>
      refine List.pairwise_cons.mpr ⟨?_, ih hrest _ _⟩
      rintro ⟨e', o'⟩ hlater
      -- the search goes on behind the first character of what was found
      obtain ⟨rest, ht⟩ := Text.eq_append_of_findFirst? hfind
      have hne := hmarkup e List.mem_cons_self
      obtain ⟨c, r, hcons⟩ := List.exists_cons_of_ne_nil hne
      have htake : (t.drop before.length).take 1 = [c] := by
        rw [ht, List.drop_left, hcons]
        simp
      have hpos : 0 < c.utf8Size := c.utf8Size_pos
      obtain ⟨-, before', -, -, ho'⟩ := mem_searchFrom hlater
      have hsize : Text.utf8Size [c] = c.utf8Size := by simp [Text.utf8Size]
      rw [htake, hsize] at ho'
      show offset + Text.utf8Size before < o'
      omega

/-- In both ways `locateNamed` keeps the order of the elements. -/
theorem locateNamed_sublist (tags : List StartTag) :
    ((locateNamed source tags markup name es).map Prod.fst).Sublist es := by
  unfold locateNamed
  dsimp only
  split
  · next hlength =>
    unfold pairUp
    rw [List.map_fst_zip (Nat.le_of_eq hlength.symm)]
  · exact searchFrom_sublist 0 source

/-- **What is located, is located from left to right**, in both ways of `locateNamed`. -/
theorem locateNamed_sorted (hmarkup : ∀ e ∈ es, markup e ≠ []) :
    (locateNamed source (scan source) markup name es).Pairwise fun a b => a.2 < b.2 := by
  unfold locateNamed
  dsimp only
  split
  · next hlength =>
    have hoffsets : ((es.zip (offsetsOf (scan source) name)).map Prod.snd).Pairwise (· < ·) := by
      rw [List.map_snd_zip (Nat.le_of_eq hlength)]
      exact offsetsOf_sorted source name
    exact List.pairwise_map.mp hoffsets
  · exact searchFrom_sorted hmarkup 0 source

/-- If some things are found from left to right and in order, a later one that is found is found
    further on. The list without repeats makes the place of each thing unique. -/
theorem pairwise_of_sorted {found : List (α × Nat)} (hes : es.Nodup)
    (hsublist : (found.map Prod.fst).Sublist es)
    (hsorted : found.Pairwise fun a b => a.2 < b.2) :
    es.Pairwise fun x y => ∀ o o', (x, o) ∈ found → (y, o') ∈ found → o < o' := by
  induction es generalizing found with
  | nil => exact List.Pairwise.nil
  | cons e es ih =>
    obtain ⟨he, hnodup⟩ := List.nodup_cons.mp hes
    rcases List.sublist_cons_iff.mp hsublist with hrest | ⟨r, hr, hrest⟩
    · -- the first one is not found at all
      refine List.pairwise_cons.mpr ⟨?_, ih hnodup hrest hsorted⟩
      intro y hy o o' ho
      have hmem : e ∈ found.map Prod.fst := List.mem_map.mpr ⟨(e, o), ho, rfl⟩
      exact absurd (hrest.subset hmem) he
    · -- it is found before all others
      obtain ⟨⟨e', o₁⟩, found', rfl, hfst, rfl⟩ := List.map_eq_cons_iff.mp hr
      have heq : e' = e := hfst
      subst heq
      obtain ⟨hfirst, hsorted'⟩ := List.pairwise_cons.mp hsorted
      have hother : ∀ y ∈ es, ∀ o, (y, o) ∈ (e', o₁) :: found' → (y, o) ∈ found' := by
        intro y hy o ho
        rcases List.mem_cons.mp ho with heq | ho
        · rw [(Prod.mk.inj heq).1] at hy
          exact absurd hy he
        · exact ho
      refine List.pairwise_cons.mpr ⟨?_, ?_⟩
      · intro y hy o o' ho ho'
        have hlater := hfirst _ (hother y hy o' ho')
        rcases List.mem_cons.mp ho with heq | ho
        · rw [(Prod.mk.inj heq).2]
          exact hlater
        · exact absurd (hrest.subset (List.mem_map.mpr ⟨(e', o), ho, rfl⟩)) he
      · refine (ih hnodup hrest hsorted').imp_of_mem ?_
        intro x y hx hy hlt o o' ho ho'
        exact hlt o o' (hother x hx o ho) (hother y hy o' ho')

end Source

end AccessLint
