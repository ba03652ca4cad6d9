import AccessLint.Files.Tree
import AccessLint.Proofs.Text.Pieces

namespace AccessLint

/-!
# Paths of entries

The path of an entry of a directory ends in the name of the entry, and different locations below a
directory have different paths.

* `Files.isEntryName` — names that an entry of a directory can have;
* `Files.names`, `Files.steps_join` — the names on a path, and those on the path of an entry;
* `Files.fileName?_join` — the last name on the path of an entry;
* `Files.extensionOf?_eq_some_iff` — what the extension of a name is;
* `Files.pathBelow`, `Files.pathBelow_injective` — the paths of what stands below a directory.
-/

namespace Files

variable {name dir path ext : Text}

/-- Whether an entry of a directory can have a name: it leads to neither the same directory nor the
    one above, and it is one step. -/
def isEntryName (name : Text) : Bool := !staysHere name && !leadsUp name && name.all (· != '/')

/-- The name of an entry is one step: `isEntryName` rules out a slash in it. -/
theorem slash_not_mem (h : isEntryName name = true) : '/' ∉ name := by
  rw [isEntryName, Bool.and_eq_true, List.all_eq_true] at h
  intro hmem
  simpa using h.2 '/' hmem

theorem ne_nil_of_isEntryName (h : isEntryName name = true) : name ≠ [] := by
  rintro rfl
  cases h

/-- Splitting at slashes, as `Path.steps` and `Path.fileName?` do, leaves the name of an entry in
    one piece. -/
theorem splitOnP_entryName (h : isEntryName name = true) :
    List.splitOnP (· == '/') name = [name] := by
  refine List.splitOnP_eq_singleton fun c hc => ?_
  have hne : c ≠ '/' := fun heq => slash_not_mem h (heq ▸ hc)
  simpa using hne

/-! ### Names and extensions -/

/-- A directory and a slash, unless the path of the directory ends in one. -/
def slashed (dir : Text) : Text := if List.isSuffixOf "/" dir then dir else dir ++ ['/']

/-- `Path.join` is `slashed` and the name, whether or not the directory ends in a slash already. -/
theorem join_eq (dir name : Text) : join dir name = slashed dir ++ name := by
  unfold join slashed
  split
  · rfl
  · rw [List.append_assoc]
    rfl

/-- What `slashed` gives ends in exactly the slash that the name of an entry follows, so splitting
    at that slash separates the two. -/
theorem exists_slashed (dir : Text) : ∃ d, slashed dir = d ++ ['/'] := by
  unfold slashed
  by_cases h : List.isSuffixOf "/" dir = true
  · obtain ⟨d, hd⟩ := List.isSuffixOf_iff_suffix.mp h
    rw [if_pos h]
    exact ⟨d, hd.symm⟩
  · rw [if_neg h]
    exact ⟨dir, rfl⟩

/-- The names on a path: its steps without the empty one that a slash at its end leaves. -/
def names (path : Text) : List Text := Text.words (· == '/') path

/-- A path takes the steps of its names, and one more if it ends in a slash: `Path.steps` keeps the
    empty step there, which asks for a directory. -/
theorem steps_eq_names (path : Text) : steps path = names path ∨ steps path = names path ++ [[]] := by
  obtain ⟨before, last, hsplit⟩ : ∃ before last, path.splitOnP (· == '/') = before ++ [last] :=
    ⟨_, _, (List.dropLast_append_getLast (List.splitOnP_ne_nil _ path)).symm⟩
  unfold steps names Text.words
  dsimp only
  rw [hsplit, List.dropLast_concat, List.getLast?_concat, List.filter_append]
  cases last with
  | nil => exact Or.inr (by simp)
  | cons c last => exact Or.inl (by simp)

/-- A slash at the end of a path adds no name to `names`, so `dir` and `dir/` have the same
    entries. -/
theorem names_slashed (dir : Text) : names (slashed dir) = names dir := by
  unfold slashed names
  split
  · rfl
  · rw [Text.words_append rfl]
    exact List.append_nil _

/-- The pieces of the path of an entry (`Path.join`): behind the slash of the directory stands the
    name alone, and what stands before it has the names of the directory. -/
theorem exists_splitOnP_join (h : isEntryName name = true) (dir : Text) :
    ∃ d, names d = names dir ∧
      (join dir name).splitOnP (· == '/') = d.splitOnP (· == '/') ++ [name] := by
  obtain ⟨d, hd⟩ := exists_slashed dir
  refine ⟨d, ?_, ?_⟩
  · rw [← names_slashed dir, hd]
    unfold names
    rw [Text.words_append rfl]
    exact (List.append_nil _).symm
  · rw [join_eq, hd, List.append_assoc, List.singleton_append, List.splitOnP_append_cons _ _ rfl,
      splitOnP_entryName h]

/-- **The names on the path of an entry** (`names`) are those of its directory, and its own, whether
    or not the path of the directory ends in a slash. -/
theorem names_join (h : isEntryName name = true) (dir : Text) :
    names (join dir name) = names dir ++ [name] := by
  obtain ⟨d, hd, hsplit⟩ := exists_splitOnP_join h dir
  have hname : [name].filter (!·.isEmpty) = [name] := by simp [ne_nil_of_isEntryName h]
  rw [← hd]
  unfold names Text.words
  rw [hsplit, List.filter_append, hname]

/-- The path of an entry ends in no slash, so its `Path.steps` are its `names`, without an empty
    step at the end. -/
theorem steps_join (h : isEntryName name = true) (dir : Text) :
    steps (join dir name) = names dir ++ [name] := by
  obtain ⟨d, hd, hsplit⟩ := exists_splitOnP_join h dir
  unfold steps
  dsimp only
  rw [hsplit, List.dropLast_concat, List.getLast?_concat, ← hd]
  rfl

/-- **The last name on the path of an entry** is the name of the entry: `Path.fileName?` gives back
    what `Path.join` has put there. -/
theorem fileName?_join (h : isEntryName name = true) (dir : Text) :
    fileName? (join dir name) = some name := by
  have hkept : staysHere name = false ∧ leadsUp name = false := by
    simp only [isEntryName, Bool.and_eq_true, Bool.not_eq_true'] at h
    exact h.1
  unfold fileName?
  rw [steps_join h]
  simp [hkept.1, hkept.2]

/-- A name that is cut at its last dot has what follows as its extension, unless nothing stands
    before the dot (`.html` has none). -/
theorem extensionOf?_append (stem : Text) (h : '.' ∉ ext) :
    extensionOf? (stem ++ '.' :: ext) = if stem = [] then none else some ext := by
  have hafter : ((stem ++ '.' :: ext).reverse.takeWhile (· != '.')).reverse = ext := by
    have hall : ∀ c ∈ ext.reverse, (c != '.') = true := by
      intro c hc
      have hne : c ≠ '.' := fun heq => h (heq ▸ List.mem_reverse.mp hc)
      simpa using hne
    rw [List.reverse_append, List.reverse_cons, List.append_assoc,
      List.takeWhile_append_of_pos hall]
    simp
  unfold extensionOf?
  dsimp only
  rw [hafter, List.length_append, List.length_cons]
  cases stem with
  | nil => simp
  | cons c stem => simp

/-- A name without a dot has no extension, so no selection takes a file of that name. -/
theorem extensionOf?_of_not_mem (h : '.' ∉ name) : extensionOf? name = none := by
  have hall : ∀ c ∈ name.reverse, (c != '.') = true := by
    intro c hc
    have hne : c ≠ '.' := fun heq => h (heq ▸ List.mem_reverse.mp hc)
    simpa using hne
  unfold extensionOf?
  dsimp only
  rw [List.takeWhile_eq_self_iff.mpr hall, List.reverse_reverse]
  simp

/-- **The extension of a name** (`extensionOf?`) is what follows its last dot, unless the name
    starts with that dot. -/
theorem extensionOf?_eq_some_iff :
    extensionOf? name = some ext ↔ ∃ stem, stem ≠ [] ∧ name = stem ++ '.' :: ext ∧ '.' ∉ ext := by
  constructor
  · intro h
    by_cases hdot : '.' ∈ name
    · -- the last dot is the first one from the end
      obtain ⟨after, before, hsplit, hafter⟩ :=
        List.eq_append_cons_of_mem (List.mem_reverse.mpr hdot)
      have hname : name = before.reverse ++ '.' :: after.reverse := by
        rw [← List.reverse_reverse name, hsplit]
        simp
      rw [hname, extensionOf?_append _ (by simpa using hafter)] at h
      by_cases hstem : before.reverse = []
      · rw [if_pos hstem] at h
        cases h
      · rw [if_neg hstem] at h
        cases h
        exact ⟨before.reverse, hstem, hname, by simpa using hafter⟩
    · rw [extensionOf?_of_not_mem hdot] at h
      cases h
  · rintro ⟨stem, hstem, rfl, hext⟩
    rw [extensionOf?_append stem hext, if_neg hstem]

/-! ### Locations below a directory -/

/-- The path of what stands at a location below a directory. -/
def pathBelow (path : Text) (l : Location) : Text := l.foldl join path

/-- The path of an entry does not end in a slash, so what stands below it follows a slash of its
    own. -/
theorem slashed_join (h : isEntryName name = true) (dir : Text) :
    slashed (join dir name) = join dir name ++ ['/'] := by
  have hends : ¬ List.isSuffixOf "/" (join dir name) = true := by
    rw [List.isSuffixOf_iff_suffix, join_eq]
    intro hslash
    have hlast : ['/'] <:+ name := List.suffix_of_suffix_length_le hslash
      (List.suffix_append (slashed dir) name) (List.length_pos_of_ne_nil (ne_nil_of_isEntryName h))
    exact slash_not_mem h (hlast.subset List.mem_cons_self)
  unfold slashed
  rw [if_neg hends]

/-- Below a directory each name follows a slash, the first one the slash of the directory:
    `pathBelow` spells a location without joining step by step. -/
theorem slashed_pathBelow {l : Location} (h : ∀ name ∈ l, isEntryName name = true) (path : Text) :
    slashed (pathBelow path l) = slashed path ++ l.flatMap (· ++ ['/']) := by
  induction l generalizing path with
  | nil => simp [pathBelow]
  | cons name l ih =>
    have hrest := ih (fun n hn => h n (List.mem_cons_of_mem _ hn)) (join path name)
    rw [slashed_join (h name List.mem_cons_self), join_eq] at hrest
    rw [List.flatMap_cons]
    show slashed (pathBelow (join path name) l) = _
    rw [join_eq, hrest]
    simp only [List.append_assoc]

/-- Names that are followed by slashes can be told apart, since no name has a slash in it. This is
    what makes `pathBelow` injective. -/
theorem splitOnP_flatMap_slash {l : Location} (h : ∀ name ∈ l, isEntryName name = true) :
    List.splitOnP (· == '/') (l.flatMap (· ++ ['/'])) = l ++ [[]] := by
  induction l with
  | nil => rfl
  | cons name l ih =>
    rw [List.flatMap_cons, List.append_assoc, List.singleton_append, List.splitOnP_append_cons _ _ rfl,
      splitOnP_entryName (h name List.mem_cons_self), ih fun n hn => h n (List.mem_cons_of_mem _ hn)]
    rfl

/-- **Different locations below a directory** have different paths (`pathBelow`), so a search that
    visits every location once finds no path twice. -/
theorem pathBelow_injective {l m : Location} (hl : ∀ name ∈ l, isEntryName name = true)
    (hm : ∀ name ∈ m, isEntryName name = true) (h : pathBelow path l = pathBelow path m) :
    l = m := by
  have hslashed := congrArg slashed h
  rw [slashed_pathBelow hl, slashed_pathBelow hm, List.append_cancel_left_eq] at hslashed
  have hpieces := congrArg (List.splitOnP (· == '/')) hslashed
  rw [splitOnP_flatMap_slash hl, splitOnP_flatMap_slash hm] at hpieces
  exact List.append_cancel_right hpieces

end Files

end AccessLint
