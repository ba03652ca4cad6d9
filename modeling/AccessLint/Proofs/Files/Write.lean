import AccessLint.Proofs.Files.Resolve

namespace AccessLint.Files

/-!
# Writing a file

`FileTree.write` puts a file where a path leads. Only what stands there changes, and the path leads
to the new file afterwards. What may be done with a file or a directory stays as it is; a run that
replaces a file needs the right to write it, and one that makes a file the right to write its
directory.

* `Node.Wrote` — two trees that differ in one file;
* `Node.wrote_put` — a tree with a file that was put into a directory;
* `walk_wrote` — a walk takes the same steps when the new file is there;
* `follow_wrote` — a path that led to the place of the new file leads to the file;
* `FileTree.write_wrote` — what a write does.
-/

namespace Node

variable {es : List (Text × Node)} {a : Access} {l m : Location} {name : Text}

/-- A node without what is below it. -/
def bare : Node → Node
  | dir _ a => dir [] a
  | n => n

/-! ### Putting a file -/

/-- Two trees that differ in one file: it is at a location in the second one, in the place of a file
    with the same rights or of nothing; all other files, links and directories are the same, with
    their rights. -/
structure Wrote (root root' : Node) (l : Location) (content : List UInt8) (access : Access) :
    Prop where
  holds : root'.at? l = some (.file content access)
  replaces : ∀ n, root.at? l = some n → ∃ old, n = .file old access
  others : ∀ m, m ≠ l → (root'.at? m).map bare = (root.at? m).map bare

variable {content : List UInt8} {access : Access}

/-- A directory in which a file is put at some place below one entry: `Keyed.put` changes that entry
    alone, so the other locations in the directory are as before. -/
theorem wrote_put_entry {k : Text} {x' : Node} {rest : Location} (a : Access)
    (holds : x'.at? rest = some (.file content access))
    (replaces : ∀ n, ((es.lookup k).bind fun x => x.at? rest) = some n →
      ∃ old, n = .file old access)
    (others : ∀ m, m ≠ rest →
      (x'.at? m).map bare = ((es.lookup k).bind fun x => x.at? m).map bare) :
    (Node.dir es a).Wrote (.dir (Keyed.put k x' es) a) (k :: rest) content access := by
  refine ⟨?_, ?_, ?_⟩
  · rw [at?_cons, entries_dir, Keyed.lookup_put, if_pos rfl]
    exact holds
  · intro n hn
    rw [at?_cons] at hn
    exact replaces n hn
  · -- another location starts with another name, or goes another way below the same one
    intro m hm
    cases m with
    | nil => rfl
    | cons j m =>
      rw [at?_cons, at?_cons, entries_dir, entries_dir, Keyed.lookup_put]
      by_cases hj : j = k
      · rw [if_pos hj, hj]
        apply others
        intro heq
        exact hm (by rw [hj, heq])
      · rw [if_neg hj]

/-- A file that is put into a directory, under a free name or that of a file. The induction is on
    the way to the directory, with `wrote_put_entry` at each step. -/
theorem wrote_put {root : Node} (hdir : root.at? l = some (.dir es a))
    (hfile : ∀ n, es.lookup name = some n → ∃ old, n = .file old access) (content : List UInt8) :
    root.Wrote (root.put (l ++ [name]) (.file content access)) (l ++ [name]) content access := by
  induction l generalizing root with
  | nil =>
    have hroot : root = .dir es a := Option.some.inj hdir
    rw [hroot]
    refine wrote_put_entry a rfl ?_ ?_
    · intro n hn
      obtain ⟨x, hx, hxn⟩ := Option.bind_eq_some_iff.mp hn
      rw [← Option.some.inj hxn]
      exact hfile x hx
    · intro m hm
      -- nothing is below a file, neither the new one nor an old one
      obtain ⟨j, m, rfl⟩ := List.exists_cons_of_ne_nil hm
      cases hlookup : es.lookup name with
      | none => rfl
      | some x =>
        obtain ⟨old, rfl⟩ := hfile x hlookup
        rfl
  | cons first l ih =>
    rw [at?_cons] at hdir
    obtain ⟨x, hx, hxl⟩ := Option.bind_eq_some_iff.mp hdir
    have hwrote := ih hxl
    cases root with
    | file content a => simp at hx
    | link target => simp at hx
    | dir es' a' =>
      rw [entries_dir] at hx
      have hput : (Node.dir es' a').put (first :: l ++ [name]) (.file content access) =
          .dir (Keyed.put first (x.put (l ++ [name]) (.file content access)) es') a' := by
        rw [List.cons_append, put, entries_dir, hx]
        rfl
      rw [hput]
      refine wrote_put_entry a' hwrote.holds ?_ ?_
      · rw [hx]
        exact hwrote.replaces
      · rw [hx]
        exact hwrote.others

end Node

variable {root root' : Node} {here l : Location} {todo : List Text}

/-! ### The way to a new file -/

namespace Progress

/-- How far the same steps lead once a file is where they have arrived. -/
def settled : Progress → Progress
  | arrived place => arrived (.occupied place.location)
  | followLink start todo => followLink start todo

/-- Whether a walk is at a location, unless it has come to a link. -/
def LeadsTo (l : Location) : Progress → Prop
  | arrived place => place.location = l
  | followLink _ _ => True

end Progress

variable {content : List UInt8} {access : Access}

/-- A directory is one still, with the same rights: `Node.bare` keeps both. -/
theorem Node.Wrote.dir {es : List (Text × Node)} {a : Access}
    (h : root.Wrote root' l content access) (hdir : root.at? here = some (.dir es a)) :
    ∃ es', root'.at? here = some (.dir es' a) := by
  have hne : here ≠ l := by
    rintro rfl
    obtain ⟨old, hold⟩ := h.replaces _ hdir
    cases hold
  have hsame := h.others here hne
  rw [hdir] at hsame
  obtain ⟨x, hx, hbare⟩ := Option.map_eq_some_iff.mp hsame
  cases x with
  | dir es' a' =>
    cases hbare
    exact ⟨es', hx⟩
  | file content access => cases hbare
  | link target => cases hbare

/-- The other entries of a directory are the same, but for what is below them. This is all that a
    `walk` looks at. -/
theorem Node.Wrote.lookup {es es' : List (Text × Node)} {a : Access} {step : Text}
    (h : root.Wrote root' l content access) (hdir : root.at? here = some (.dir es a))
    (hdir' : root'.at? here = some (.dir es' a)) (hne : here ++ [step] ≠ l) :
    (es'.lookup step).map Node.bare = (es.lookup step).map Node.bare := by
  rw [← Node.at?_concat hdir', ← Node.at?_concat hdir]
  exact h.others _ hne

/-- In the tree after a write the entry of the new file is that file, with the rights that it was
    given. -/
theorem Node.Wrote.lookup_self {es' : List (Text × Node)} {a : Access} {step : Text}
    (h : root.Wrote root' l content access) (hdir' : root'.at? here = some (.dir es' a))
    (heq : here ++ [step] = l) : es'.lookup step = some (.file content access) := by
  rw [← Node.at?_concat hdir', heq]
  exact h.holds

/-- A link is where it was, with the same target: a write replaces files only. -/
theorem Node.Wrote.lookup_link {es es' : List (Text × Node)} {a : Access} {step target : Text}
    (h : root.Wrote root' l content access) (hdir : root.at? here = some (.dir es a))
    (hdir' : root'.at? here = some (.dir es' a)) (hlink : es.lookup step = some (.link target)) :
    es'.lookup step = some (.link target) := by
  have hne : here ++ [step] ≠ l := by
    rintro rfl
    have hat := Node.at?_concat hdir step
    rw [hlink] at hat
    obtain ⟨old, hold⟩ := h.replaces _ hat
    cases hold
  have hsame := h.lookup hdir hdir' hne
  rw [hlink] at hsame
  obtain ⟨x, hx, hbare⟩ := Option.map_eq_some_iff.mp hsame
  cases x with
  | link target' =>
    cases hbare
    exact hx
  | dir es a => cases hbare
  | file content access => cases hbare

/-- A file or a directory can still be entered, so a `walk` does not turn into one that follows a
    link. -/
theorem Node.Wrote.lookup_entered {es es' : List (Text × Node)} {a : Access} {step : Text}
    {x : Node} (h : root.Wrote root' l content access) (hdir : root.at? here = some (.dir es a))
    (hdir' : root'.at? here = some (.dir es' a)) (hx : es.lookup step = some x)
    (hlink : ∀ target, x ≠ .link target) :
    ∃ x', es'.lookup step = some x' ∧ ∀ target, x' ≠ .link target := by
  by_cases heq : here ++ [step] = l
  · exact ⟨_, h.lookup_self hdir' heq, by simp⟩
  · have hsame := h.lookup hdir hdir' heq
    rw [hx] at hsame
    obtain ⟨x', hx', hbare⟩ := Option.map_eq_some_iff.mp hsame
    refine ⟨x', hx', ?_⟩
    rintro target rfl
    cases x with
    | link target' => exact hlink target' rfl
    | dir es a => cases hbare
    | file content access => cases hbare

/-- **A walk that leads to the place of a new file** takes the same steps when the file is there:
    `walk` looks only at directories, their rights and the names in them, and a write leaves these
    as they are, but for the new name at the end of the way. -/
theorem walk_wrote (h : root.Wrote root' l content access) {p : Progress}
    (hwalk : walk root true here todo = .ok p) (hp : p.LeadsTo l) :
    walk root' false here todo = .ok p.settled := by
  fun_induction walk root true here todo with
  | case1 here =>
    cases hwalk
    rfl
  | case3 here step rest es a hdir hsearch hstays ih =>
    obtain ⟨es', hdir'⟩ := h.dir hdir
    rw [walk, hdir']
    simp only [hsearch, hstays, if_true]
    exact ih hwalk
  | case4 here step rest es a hdir hsearch hstays hup ih =>
    obtain ⟨es', hdir'⟩ := h.dir hdir
    rw [walk, hdir']
    simp only [hsearch, hstays, hup, if_true]
    exact ih hwalk
  | case7 here step rest es a hdir hsearch hstays hup hfile hsize target hlookup =>
    cases hwalk
    obtain ⟨es', hdir'⟩ := h.dir hdir
    rw [walk, hdir']
    simp only [hsearch, hstays, hup, hsize, h.lookup_link hdir hdir' hlookup]
    simp [Progress.settled]
  | case8 here step rest es a hdir hsearch hstays hup hfile hsize x hlink hlookup ih =>
    obtain ⟨es', hdir'⟩ := h.dir hdir
    obtain ⟨x', hlookup', hlink'⟩ := h.lookup_entered hdir hdir' hlookup fun t ht => hlink t ht
    rw [walk, hdir']
    simp only [hsearch, hstays, hup, hsize, hlookup']
    cases x' with
    | link target => exact absurd rfl (hlink' target)
    | dir es'' a'' => simpa using ih hwalk
    | file content' access' => simpa using ih hwalk
  | case9 here step rest es a hdir hsearch hstays hup hfile hsize hlookup hrest =>
    -- the name was free, and it is the name of the new file
    cases hwalk
    obtain ⟨es', hdir'⟩ := h.dir hdir
    have hself := h.lookup_self hdir' hp
    have hnil : rest = [] := List.isEmpty_iff.mp hrest
    rw [walk, hdir']
    simp only [hsearch, hstays, hup, hsize, hself, hnil]
    simp [walk, Progress.settled, Place.location]
  | case2 | case5 | case6 | case10 | case11 => cases hwalk

/-- **A path that led to the place of a new file** leads to the file: `walk_wrote` at the end of
    each link. -/
theorem follow_wrote (h : root.Wrote root' l content access) {links : Nat} {place : Place}
    (hfollow : follow root true links here todo = .ok place) (hplace : place.location = l) :
    follow root' false links here todo = .ok (.occupied l) := by
  refine follow_induction
    (motive := fun links here todo => follow root' false links here todo = .ok (.occupied l)) ?_ ?_
    hfollow
  · intro links here todo hwalk
    have hwalk' := walk_wrote h hwalk hplace
    rw [Progress.settled, hplace] at hwalk'
    exact follow_of_arrived hwalk' links
  · intro links here todo start todo' hwalk ih
    -- the write changes no link, so the same one is met
    rw [follow_of_followLink (walk_wrote h hwalk trivial)]
    exact ih

/-! ### File trees -/

namespace FileTree

variable {t t' : FileTree} {path : Text}

/-- What a write has done: a path leads to a file with some content, and every other file, link and
    directory is as before. -/
structure Wrote (t t' : FileTree) (path : Text) (content : List UInt8) : Prop where
  current : t'.current = t.current
  holds : ∃ access, t'.node? path = .ok (.file content access)
  changed : ∃ l access, t'.resolve false path = .ok (.occupied l) ∧
    t.root.Wrote t'.root l content access

/-- A tree with a new file where a path leads: `Node.Wrote` of the root gives `FileTree.Wrote`. -/
theorem wrote_of_resolve {place : Place} (h : t.resolve true path = .ok place)
    (hroot : t.root.Wrote root' place.location content access) :
    t.Wrote { t with root := root' } path content := by
  have hfollow := h
  rw [resolve_eq_follow h] at hfollow
  have hresolve : ({ t with root := root' } : FileTree).resolve false path =
      .ok (.occupied place.location) := by
    rw [resolve_eq_follow h]
    exact follow_wrote hroot hfollow rfl
  refine ⟨rfl, ⟨access, ?_⟩, place.location, access, hresolve, hroot⟩
  unfold node?
  rw [hresolve]
  simp [hroot.holds]

/-- **A write changes one file** (`FileTree.Wrote`): the one that the path leads to, which has the
    content then. The cases are a file that is written over and a name that is free. -/
theorem write_wrote (h : t.write path content = .ok t') : t.Wrote t' path content := by
  unfold write at h
  cases hresolve : t.resolve true path with
  | error fault =>
    rw [hresolve] at h
    cases h
  | ok place =>
    rw [hresolve] at h
    have hfollow := hresolve
    rw [resolve_eq_follow hresolve] at hfollow
    have hplace := hasPlace_of_follow (steps_ne_nil path) hfollow
    cases place with
    | free above name =>
      obtain ⟨es, a, hdir, hlookup⟩ := hplace
      simp only [hdir, Option.any_some, Node.access_dir] at h
      split at h
      case isTrue hwrites =>
        cases h
        refine wrote_of_resolve hresolve (Node.wrote_put hdir ?_ content)
        intro n hn
        rw [hlookup] at hn
        cases hn
      case isFalse => cases h
    | occupied l =>
      rcases hplace with ⟨es, a, hdir⟩ | ⟨above, name, es, a, old, access, rfl, hdir, hlookup⟩
      · -- a directory stays what it is
        simp [hdir] at h
      · have hold := Node.at?_concat hdir name
        rw [hlookup] at hold
        simp only [hold] at h
        split at h
        case isTrue hwrites =>
          cases h
          refine wrote_of_resolve hresolve (Node.wrote_put hdir ?_ content)
          intro n hn
          rw [hlookup] at hn
          exact ⟨old, (Option.some.inj hn).symm⟩
        case isFalse => cases h

end FileTree

end AccessLint.Files
