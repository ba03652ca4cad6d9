import AccessLint.Proofs.Files.Path
import AccessLint.Proofs.Files.Resolve

namespace AccessLint.Files

/-!
# Paths of what stands below a directory

A path that leads to a directory, with the names on the way from there to a directory below it,
leads to that other directory. So the entries that a search enters are those that can be listed by a
path.

* `steps_pathBelow` — the steps of such a path;
* `Node.Searchable` — locations to which a path can lead;
* `walk_below` — a walk along the names of a location;
* `follow_below` — where such a path leads;
* `FileTree.entries_of_list` — what is listed by such a path are the entries that stand there;
* `FileTree.list_pathBelow` — they are listed where the rights allow it.
-/

variable {path name : Text} {l : Location}

/-! ### The path as a text -/

/-- The names on the path of a location are those of the directory and then the location itself:
    `pathBelow` joins one name after the other. -/
theorem names_pathBelow (hl : ∀ name ∈ l, isEntryName name = true) (path : Text) :
    names (pathBelow path l) = names path ++ l := by
  induction l generalizing path with
  | nil => exact (List.append_nil _).symm
  | cons name l ih =>
    obtain ⟨hname, hl⟩ := List.forall_mem_cons.mp hl
    show names (pathBelow (join path name) l) = _
    rw [ih hl, names_join hname, List.append_assoc, List.singleton_append]

/-- **The steps of a path** (`Path.steps`) to what stands below a directory: the names on the path
    of the directory, and the names on the way from there. -/
theorem steps_pathBelow (hne : l ≠ []) (hl : ∀ name ∈ l, isEntryName name = true) (path : Text) :
    steps (pathBelow path l) = names path ++ l := by
  obtain ⟨above, name, rfl⟩ : ∃ above name, l = above ++ [name] :=
    ⟨_, _, (List.dropLast_append_getLast hne).symm⟩
  obtain ⟨habove, hname⟩ := List.forall_mem_append.mp hl
  have hjoin : pathBelow path (above ++ [name]) = join (pathBelow path above) name := by
    unfold pathBelow
    rw [List.foldl_append]
    rfl
  rw [hjoin, steps_join (hname name (List.mem_singleton_self name)), names_pathBelow habove,
    List.append_assoc]

/-- The path of an entry starts where the path of its directory starts, since the name stands at its
    end. -/
theorem isAbsolute_join (hpath : path ≠ []) (name : Text) :
    isAbsolute (join path name) = isAbsolute path := by
  obtain ⟨c, path, rfl⟩ := List.exists_cons_of_ne_nil hpath
  rw [join_eq]
  unfold slashed
  split <;> rfl

/-- The path of an entry is not empty, so `FileTree.resolve` does not refuse it for that. -/
theorem join_ne_nil (hpath : path ≠ []) (name : Text) : join path name ≠ [] := by
  obtain ⟨c, path, rfl⟩ := List.exists_cons_of_ne_nil hpath
  unfold join
  split <;> simp

/-- A path below a directory starts where the path of the directory starts: `FileTree.resolve`
    follows both from the same place. -/
theorem isAbsolute_pathBelow (hpath : path ≠ []) (l : Location) :
    pathBelow path l ≠ [] ∧ isAbsolute (pathBelow path l) = isAbsolute path := by
  induction l generalizing path with
  | nil => exact ⟨hpath, rfl⟩
  | cons name l ih =>
    obtain ⟨hne, habsolute⟩ := ih (join_ne_nil hpath name)
    exact ⟨hne, habsolute.trans (isAbsolute_join hpath name)⟩

/-- The path that `pathBelow` gives has the characters of the names on it, and slashes. A NUL in the
    path is therefore one in the directory or in a name. -/
theorem mem_pathBelow {c : Char} (h : c ∈ pathBelow path l) :
    c ∈ path ∨ c = '/' ∨ ∃ name ∈ l, c ∈ name := by
  induction l generalizing path with
  | nil => exact Or.inl h
  | cons first l ih =>
    rcases ih h with hjoin | hslash | ⟨name, hname, hc⟩
    · unfold join at hjoin
      split at hjoin
      · rcases List.mem_append.mp hjoin with hpath | hfirst
        · exact Or.inl hpath
        · exact Or.inr (Or.inr ⟨first, List.mem_cons_self, hfirst⟩)
      · rcases List.mem_append.mp hjoin with hpath | hrest
        · exact Or.inl hpath
        · rcases List.mem_cons.mp hrest with hslash | hfirst
          · exact Or.inr (Or.inl hslash)
          · exact Or.inr (Or.inr ⟨first, List.mem_cons_self, hfirst⟩)
    · exact Or.inr (Or.inl hslash)
    · exact Or.inr (Or.inr ⟨name, List.mem_cons_of_mem first hname, hc⟩)

/-! ### Where the path leads -/

/-- Whether a path can lead from a node to a location below it: all directories before it may be
    searched, and no name on the way is too long. -/
def Node.Searchable (n : Node) (l : Location) : Prop :=
  ∀ above name below es a, l = above ++ name :: below → n.at? above = some (.dir es a) →
    a.searches = true ∧ Text.utf8Size name ≤ maxNameSize

variable {root n m x : Node} {here : Location} {rest : List Text} {es : List (Text × Node)}
  {a : Access}

/-- A `walk` takes the name of an entry of a directory that may be searched. A name that is too long
    and a directory that may not be searched are its only faults there. -/
theorem walk_entry (hdir : root.at? here = some (.dir es a)) (hname : isEntryName name = true)
    (hlookup : es.lookup name = some x) (hlink : ∀ target, x ≠ .link target) :
    walk root false here (name :: rest) =
      if a.searches then
        if maxNameSize < Text.utf8Size name then .error .nameTooLong
        else walk root false (here ++ [name]) rest
      else .error .permissionDenied := by
  have hkept : staysHere name = false ∧ leadsUp name = false := by
    simp only [isEntryName, Bool.and_eq_true, Bool.not_eq_true'] at hname
    exact hname.1
  have hempty : name.isEmpty = false := by simpa using ne_nil_of_isEntryName hname
  rw [walk, hdir]
  simp only [hkept.1, hkept.2, hempty, hlookup]
  cases a.searches with
  | false => rfl
  | true =>
    cases x with
    | link target => exact absurd rfl (hlink target)
    | file content a => rfl
    | dir es a => rfl

/-- **A walk along the names of a location** arrives there or fails, and it arrives if the location
    can be searched for (`Node.Searchable`). -/
theorem walk_below (hhere : root.at? here = some n) (hm : n.at? l = some m)
    (hlink : ∀ target, m ≠ .link target) (hl : ∀ name ∈ l, isEntryName name = true) :
    ∃ r : Except FileFault Place, walk root false here l = r.map .arrived ∧
      (∀ place, r = .ok place → place = .occupied (here ++ l)) ∧
      (n.Searchable l → r = .ok (.occupied (here ++ l))) := by
  induction l generalizing here n with
  | nil =>
    rw [List.append_nil]
    exact ⟨.ok (.occupied here), rfl, fun place h => (Except.ok.inj h).symm, fun _ => rfl⟩
  | cons name l ih =>
    obtain ⟨hname, hl⟩ := List.forall_mem_cons.mp hl
    rw [Node.at?_cons] at hm
    obtain ⟨x, hx, hxm⟩ := Option.bind_eq_some_iff.mp hm
    -- only what is no link has something below it
    have hentered : ∀ target, x ≠ .link target := by
      rintro target rfl
      obtain ⟨-, rfl⟩ := Node.eq_nil_of_at? rfl hxm
      exact hlink target rfl
    cases n with
    | file content a => simp at hx
    | link target => simp at hx
    | dir es a =>
      rw [Node.entries_dir] at hx
      have hnext : root.at? (here ++ [name]) = some x := by rw [Node.at?_concat hhere, hx]
      obtain ⟨r, hr, hplace, hopen⟩ := ih hnext hxm hl
      rw [List.append_assoc, List.singleton_append] at hplace hopen
      rw [walk_entry hhere hname hx hentered]
      by_cases hsearches : a.searches = true
      · by_cases hsize : maxNameSize < Text.utf8Size name
        · refine ⟨.error .nameTooLong, by rw [if_pos hsearches, if_pos hsize]; rfl, ?_, ?_⟩
          · intro place h
            cases h
          · -- the first directory on the way is one that the location is searched for in
            intro h
            have hshort := (h [] name l es a rfl rfl).2
            omega
        · refine ⟨r, by rw [if_pos hsearches, if_neg hsize, hr], hplace, fun h => hopen ?_⟩
          -- what is on the way from the entry is on the way from here
          intro above name' below es' a' hsplit hat
          refine h (name :: above) name' below es' a' (by rw [hsplit, List.cons_append]) ?_
          rw [Node.at?_cons, Node.entries_dir, hx]
          exact hat
      · refine ⟨.error .permissionDenied, by rw [if_neg hsearches]; rfl, ?_, ?_⟩
        · intro place h
          cases h
        · intro h
          exact absurd (h [] name l es a rfl rfl).1 hsearches

namespace FileTree

variable {t : FileTree} {top : Node} {location : Location}

/-- **The path of a location below a directory** leads from where the path of the directory leads
    along the names of the location. The path of the directory may lead through links; no link is
    followed below it, so `walk` alone decides there. -/
theorem follow_below {r : Except FileFault Place} (hne : l ≠ [])
    (hl : ∀ name ∈ l, isEntryName name = true)
    (h : t.resolve false path = .ok (.occupied location))
    (hwalk : walk t.root false location l = r.map .arrived) :
    follow t.root false maxLinks (if isAbsolute (pathBelow path l) then [] else t.current)
      (steps (pathBelow path l)) = r := by
  have hpath : path ≠ [] := by
    rintro rfl
    cases h
  rw [(isAbsolute_pathBelow hpath l).2, steps_pathBelow hne hl]
  rw [resolve_eq_follow h] at h
  refine follow_append hne ?_ hwalk
  rcases steps_eq_names path with heq | heq
  · rw [← heq]
    exact h
  · rw [heq] at h
    exact follow_of_append_nil h

/-- **The entries that are listed by a path** below a directory are those that stand there.
    `FileTree.filesAt` uses the entries of the node, and asks `FileTree.list` only whether there is
    a fault. -/
theorem entries_of_list (hnode : t.node? path = .ok top) (hm : top.at? l = some (.dir es a))
    (hl : ∀ name ∈ l, isEntryName name = true) {listed : List (Text × Node)}
    (h : t.list (pathBelow path l) = .ok listed) : listed = es := by
  obtain ⟨b, hlisted⟩ := exists_dir_of_list h
  by_cases hne : l = []
  · subst hne
    rw [Option.some.inj hm] at hnode
    cases hnode.symm.trans hlisted
    rfl
  · obtain ⟨location, hresolve, htop⟩ := node?_eq_ok_iff.mp hnode
    obtain ⟨location', hresolve', hat⟩ := node?_eq_ok_iff.mp hlisted
    obtain ⟨r, hr, hplace, -⟩ := walk_below htop hm (by simp) hl
    have hfollow := follow_below hne hl hresolve hr
    rw [← resolve_eq_follow hresolve' t false, hresolve'] at hfollow
    -- the two paths lead to the same place
    cases hplace _ hfollow.symm
    rw [Node.at?_append, htop, Option.bind_some, hm] at hat
    cases hat
    rfl

/-- **A directory below another one is listed** by its path (`FileTree.list`) if it may be read, the
    directories on the way to it may be searched, and neither the path nor a name on it is too
    long. -/
theorem list_pathBelow (hnode : t.node? path = .ok top) (hm : top.at? l = some (.dir es a))
    (hl : ∀ name ∈ l, isEntryName name = true) (hreads : a.reads = true) (hopen : top.Searchable l)
    (hnul : ∀ name ∈ l, '\x00' ∉ name) (hsize : Text.utf8Size (pathBelow path l) < pathSizeLimit) :
    t.list (pathBelow path l) = .ok es := by
  have hlisted : t.node? (pathBelow path l) = .ok (.dir es a) := by
    -- at the empty location the path is that of the directory itself
    by_cases hne : l = []
    · subst hne
      rw [Option.some.inj hm] at hnode
      exact hnode
    · obtain ⟨location, hresolve, htop⟩ := node?_eq_ok_iff.mp hnode
      obtain ⟨r, hr, -, harrives⟩ := walk_below htop hm (by simp) hl
      have hfollow := follow_below hne hl hresolve hr
      rw [harrives hopen] at hfollow
      obtain ⟨hpath, hpathNul, -⟩ := valid_of_resolve hresolve
      have hbelowNul : '\x00' ∉ pathBelow path l := by
        intro hmem
        rcases mem_pathBelow hmem with hmem | hslash | ⟨name, hname, hmem⟩
        · exact hpathNul hmem
        · cases hslash
        · exact hnul name hname hmem
      refine node?_eq_ok_iff.mpr ⟨location ++ l, ?_, ?_⟩
      · rw [resolve_of_valid (isAbsolute_pathBelow hpath l).1 hbelowNul hsize]
        exact hfollow
      · rw [Node.at?_append, htop, Option.bind_some, hm]
  unfold list
  rw [hlisted]
  exact if_pos hreads

end FileTree

end AccessLint.Files
