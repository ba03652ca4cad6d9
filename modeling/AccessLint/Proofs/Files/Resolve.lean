import AccessLint.Files.Tree
import AccessLint.Proofs.Text.Pieces
import Mathlib.Data.List.Basic

namespace AccessLint.Files

/-!
# Where paths lead

`FileTree.resolve` takes the steps of a path one by one (`walk`) and starts again at every link
(`follow`).

* `Node.at?_append`, `Node.at?_concat` — what stands below a location;
* `Node.HasPlace`, `hasPlace_of_follow` — what there is where a path leads;
* `follow_induction` — induction along the links of a path that leads somewhere;
* `walk_append`, `follow_append` — a path that goes on after it has led somewhere;
* `FileTree.resolve_eq_follow` — what a path leads to in different trees;
* `FileTree.node?_eq_ok_iff`, `FileTree.exists_dir_of_list` — the node that a path leads to, and the
  directory that it leads to if entries can be listed.
-/

namespace Node

variable {n x : Node} {l m : Location} {name : Text} {es : List (Text × Node)} {a : Access}

/-- The entries of a directory do not depend on the rights to it: `FileTree.list` asks for these. -/
@[simp] theorem entries_dir (es : List (Text × Node)) (a : Access) : (dir es a).entries = es := rfl

@[simp] theorem entries_file (content : List UInt8) (a : Access) :
    (file content a).entries = [] := rfl

@[simp] theorem entries_link (target : Text) : (link target).entries = [] := rfl

@[simp] theorem access_dir (es : List (Text × Node)) (a : Access) : (dir es a).access = a := rfl

/-! ### Nodes at locations -/

/-- `Node.at?` one entry at a time: the first name is looked up among the entries of the node. -/
theorem at?_cons (n : Node) (name : Text) (rest : Location) :
    n.at? (name :: rest) = (n.entries.lookup name).bind fun m => m.at? rest := by
  rw [at?]
  cases n.entries.lookup name <;> rfl

/-- **Going down in two parts**: what stands at `l ++ m` is what stands at `m` below what stands at
    `l`. -/
theorem at?_append (n : Node) (l m : Location) :
    n.at? (l ++ m) = (n.at? l).bind fun x => x.at? m := by
  induction l generalizing n with
  | nil => rfl
  | cons name l ih =>
    rw [List.cons_append, at?_cons, at?_cons, Option.bind_assoc]
    simp only [ih]

/-- An entry of a directory stands below it, one name further. -/
theorem at?_concat (h : n.at? l = some (.dir es a)) (name : Text) :
    n.at? (l ++ [name]) = es.lookup name := by
  rw [at?_append, h, Option.bind_some, at?_cons, entries_dir]
  cases es.lookup name <;> rfl

/-- Nothing stands below a file or a link (`Node.at?`), since both have no entries. -/
theorem eq_nil_of_at? (hn : n.entries = []) (h : n.at? l = some x) : l = [] ∧ n = x := by
  cases l with
  | nil => exact ⟨rfl, Option.some.inj h⟩
  | cons name l =>
    rw [at?_cons, hn] at h
    cases h

/-- Only directories have something below them, and what is below is found by its last name among
    the entries. -/
theorem exists_dir_of_at?_concat (h : n.at? (l ++ [name]) = some x) :
    ∃ es a, n.at? l = some (.dir es a) ∧ es.lookup name = some x := by
  rw [at?_append] at h
  obtain ⟨y, hy, hx⟩ := Option.bind_eq_some_iff.mp h
  rw [at?_cons] at hx
  obtain ⟨z, hz, hzx⟩ := Option.bind_eq_some_iff.mp hx
  have heq : z = x := Option.some.inj hzx
  rw [heq] at hz
  cases y with
  | dir es a => exact ⟨es, a, hy, hz⟩
  | file content a => simp at hz
  | link target => simp at hz

/-- Above a directory is a directory. The root is its own parent, as in `Location.dropLast` of the
    empty location. -/
theorem exists_dir_dropLast (h : n.at? l = some (.dir es a)) :
    ∃ es' a', n.at? l.dropLast = some (.dir es' a') := by
  rcases List.eq_nil_or_concat l with rfl | ⟨above, name, rfl⟩
  · exact ⟨es, a, h⟩
  · rw [List.concat_eq_append] at h
    obtain ⟨es', a', hdir, -⟩ := exists_dir_of_at?_concat h
    rw [List.concat_eq_append, List.dropLast_concat]
    exact ⟨es', a', hdir⟩

end Node

/-! ### Where a path leads -/

namespace Place

/-- The location of a place. -/
def location : Place → Location
  | occupied l => l
  | free above name => above ++ [name]

end Place

/-- What there is where a path leads: a directory, a file in a directory, or a directory that does
    not have the name. -/
def Node.HasPlace (root : Node) : Place → Prop
  | .occupied l => (∃ es a, root.at? l = some (.dir es a)) ∨ ∃ above name es a content access,
      l = above ++ [name] ∧ root.at? above = some (.dir es a) ∧
        es.lookup name = some (.file content access)
  | .free above name => ∃ es a, root.at? above = some (.dir es a) ∧ es.lookup name = none

/-- A path has at least one step: `Path.steps` of the empty path is one empty step. -/
theorem steps_ne_nil (path : Text) : steps path ≠ [] := by
  unfold steps
  dsimp only
  rw [List.getLast?_eq_some_getLast (List.splitOnP_ne_nil _ path)]
  simp

variable {root root' : Node} {makesFile : Bool} {here l : Location} {todo : List Text}

/-- What a `walk` has arrived at is there, if the walk takes a step or starts where something is.
    The induction is that of `walk`; only a step that enters something leads to a new place. -/
theorem hasPlace_of_walk {place : Place} (hhere : todo ≠ [] ∨ root.HasPlace (.occupied here))
    (h : walk root makesFile here todo = .ok (.arrived place)) : root.HasPlace place := by
  fun_induction walk root makesFile here todo with
  | case1 here =>
    cases h
    exact hhere.resolve_left fun hne => hne rfl
  | case3 here step rest es a hdir hsearch hstays ih =>
    exact ih (Or.inr (Or.inl ⟨es, a, hdir⟩)) h
  | case4 here step rest es a hdir hsearch hstays hup ih =>
    exact ih (Or.inr (Or.inl (Node.exists_dir_dropLast hdir))) h
  | case8 here step rest es a hdir hsearch hstays hup hfile hsize x hlink hlookup ih =>
    refine ih (Or.inr ?_) h
    -- what is entered is a directory or a file, since links are followed
    cases x with
    | dir es' a' =>
      have hat := Node.at?_concat hdir step
      rw [hlookup] at hat
      exact Or.inl ⟨es', a', hat⟩
    | file content access => exact Or.inr ⟨here, step, es, a, content, access, rfl, hdir, hlookup⟩
    | link target => exact absurd rfl (hlink target)
  | case9 here step rest es a hdir hsearch hstays hup hfile hsize hlookup hrest =>
    cases h
    exact ⟨es, a, hdir, hlookup⟩
  | case2 | case5 | case6 | case7 | case10 | case11 => cases h

/-- A walk that has come to a link has steps left, the ones of the link's target, so `follow` goes
    on. -/
theorem todo_ne_nil_of_walk {start : Location} {todo' : List Text}
    (h : walk root makesFile here todo = .ok (.followLink start todo')) : todo' ≠ [] := by
  fun_induction walk root makesFile here todo with
  | case3 here step rest es a hdir hsearch hstays ih => exact ih h
  | case4 here step rest es a hdir hsearch hstays hup ih => exact ih h
  | case7 here step rest es a hdir hsearch hstays hup hfile hsize target hlookup =>
    cases h
    intro hnil
    exact steps_ne_nil target (List.append_eq_nil_iff.mp hnil).1
  | case8 here step rest es a hdir hsearch hstays hup hfile hsize x hlink hlookup ih => exact ih h
  | case1 | case2 | case5 | case6 | case9 | case10 | case11 => cases h

/-- What `follow` arrives at is reached without a link, or from the first link on with one link
    less. -/
theorem follow_eq_ok {links : Nat} {place : Place}
    (h : follow root makesFile links here todo = .ok place) :
    walk root makesFile here todo = .ok (.arrived place) ∨
      ∃ n start todo', links = n + 1 ∧
        walk root makesFile here todo = .ok (.followLink start todo') ∧
        follow root makesFile n start todo' = .ok place := by
  unfold follow at h
  split at h
  · cases h
  · next hwalk =>
    cases h
    exact Or.inl hwalk
  · next start todo' hwalk =>
    cases links with
    | zero => cases h
    | succ n => exact Or.inr ⟨n, start, todo', rfl, hwalk, h⟩

/-- **Induction along the links of a path** that leads somewhere (`follow`): what holds where a walk
    arrives, and holds before a link if it holds from the target of the link on, holds at the start
    of the path. -/
theorem follow_induction {place : Place} {motive : Nat → Location → List Text → Prop}
    (arrived : ∀ links here todo, walk root makesFile here todo = .ok (.arrived place) →
      motive links here todo)
    (link : ∀ links here todo start todo',
      walk root makesFile here todo = .ok (.followLink start todo') → motive links start todo' →
        motive (links + 1) here todo)
    {links : Nat} (h : follow root makesFile links here todo = .ok place) :
    motive links here todo := by
  induction links generalizing here todo with
  | zero =>
    rcases follow_eq_ok h with hwalk | ⟨n, -, -, hlinks, -⟩
    · exact arrived 0 here todo hwalk
    · cases hlinks
  | succ links ih =>
    rcases follow_eq_ok h with hwalk | ⟨n, start, todo', hlinks, hwalk, hfollow⟩
    · exact arrived (links + 1) here todo hwalk
    · cases hlinks
      exact link links here todo start todo' hwalk (ih hfollow)

/-- A walk that meets no link is all that `follow` does, however many links it could still take. -/
theorem follow_of_arrived {place : Place} (h : walk root makesFile here todo = .ok (.arrived place))
    (links : Nat) : follow root makesFile links here todo = .ok place := by
  unfold follow
  rw [h]

/-- The same for a walk that may fail: without a link, `follow` succeeds and fails as the walk
    does. -/
theorem follow_of_map_arrived {r : Except FileFault Place}
    (h : walk root makesFile here todo = r.map .arrived) (links : Nat) :
    follow root makesFile links here todo = r := by
  unfold follow
  rw [h]
  cases r <;> rfl

/-- At a link, `follow` starts over from the target of the link. -/
theorem follow_of_followLink {start : Location} {todo' : List Text}
    (h : walk root makesFile here todo = .ok (.followLink start todo')) (n : Nat) :
    follow root makesFile (n + 1) here todo = follow root makesFile n start todo' := by
  rw [follow, h]

/-- What a path leads to is there: `follow` ends in a walk that arrives, and that walk takes a
    step. -/
theorem hasPlace_of_follow {links : Nat} {place : Place} (htodo : todo ≠ [])
    (h : follow root makesFile links here todo = .ok place) : root.HasPlace place := by
  refine follow_induction (motive := fun _ _ todo => todo ≠ [] → root.HasPlace place) ?_ ?_ h htodo
  · intro links here todo hwalk htodo
    exact hasPlace_of_walk (Or.inl htodo) hwalk
  · intro links here todo start todo' hwalk ih _
    exact ih (todo_ne_nil_of_walk hwalk)

/-! ### Paths that go on -/

/-- How a walk goes on with more steps from where it has come to. -/
def Progress.onward (root : Node) (more : List Text) : Progress → Except FileFault Progress
  | arrived (.occupied l) => walk root false l more
  | arrived (.free _ _) => .error .notFound
  | followLink start todo => .ok (.followLink start (todo ++ more))

variable {more : List Text}

/-- **A `walk` of some steps and more** is the walk of the first ones, and the walk of the others
    from where that has arrived. A link on the way is followed before the other steps are taken. -/
theorem walk_append (hmore : more ≠ []) : walk root false here (todo ++ more) =
    (walk root false here todo).bind (Progress.onward root more) := by
  fun_induction walk root false here todo with
  | case1 here => rfl
  | case2 here step rest es a hdir hsearch =>
    rw [List.cons_append, walk, hdir]
    simp only [hsearch]
    rfl
  | case3 here step rest es a hdir hsearch hstays ih =>
    rw [List.cons_append, walk, hdir]
    simp only [hsearch, hstays]
    exact ih
  | case4 here step rest es a hdir hsearch hstays hup ih =>
    rw [List.cons_append, walk, hdir]
    simp only [hsearch, hstays, hup]
    exact ih
  -- `makesFile` is false here, so the case of a last name that is to be made does not arise
  | case5 here step rest es a hdir hsearch hstays hup hfile => cases hfile
  | case6 here step rest es a hdir hsearch hstays hup hfile hsize =>
    rw [List.cons_append, walk, hdir]
    simp only [hsearch, hstays, hup, hsize]
    rfl
  | case7 here step rest es a hdir hsearch hstays hup hfile hsize target hlookup =>
    rw [List.cons_append, walk, hdir]
    simp only [hsearch, hstays, hup, hsize, hlookup]
    simp [Except.bind, Progress.onward]
  | case8 here step rest es a hdir hsearch hstays hup hfile hsize x hlink hlookup ih =>
    rw [List.cons_append, walk, hdir]
    simp only [hsearch, hstays, hup, hsize, hlookup]
    simpa using ih
  | case9 here step rest es a hdir hsearch hstays hup hfile hsize hlookup hrest =>
    -- the last name is free, so there is nothing to go on from
    have hnil : rest = [] := List.isEmpty_iff.mp hrest
    rw [List.cons_append, walk, hdir]
    simp only [hsearch, hstays, hup, hsize, hlookup, hnil]
    simp [hmore, Except.bind, Progress.onward]
  | case10 here step rest es a hdir hsearch hstays hup hfile hsize hlookup hrest =>
    rw [List.cons_append, walk, hdir]
    simp only [hsearch, hstays, hup, hsize, hlookup]
    simp [hmore, Except.bind]
  | case11 here step rest hdir =>
    rw [List.cons_append, walk]
    split
    case h_1 es a hsome => exact absurd hsome (hdir es a)
    case h_2 => rfl

/-- **A path that goes on after it has led somewhere**, without another link, leads to where its
    other steps lead from there. The links on the first part of the path are counted once. -/
theorem follow_append {links : Nat} {r : Except FileFault Place} (hmore : more ≠ [])
    (h : follow root false links here todo = .ok (.occupied l))
    (hwalk : walk root false l more = r.map .arrived) :
    follow root false links here (todo ++ more) = r := by
  refine follow_induction
    (motive := fun links here todo => follow root false links here (todo ++ more) = r) ?_ ?_ h
  · intro links here todo harrived
    -- no link before the place, so none before the end of the longer path
    have hall : walk root false here (todo ++ more) = r.map .arrived := by
      rw [walk_append hmore, harrived]
      exact hwalk
    exact follow_of_map_arrived hall links
  · intro links here todo start todo' hlink ih
    have hall : walk root false here (todo ++ more) = .ok (.followLink start (todo' ++ more)) := by
      rw [walk_append hmore, hlink]
      rfl
    rw [follow_of_followLink hall]
    exact ih

/-- An empty step, as a slash at the end of a path leaves one, leads nowhere else: `walk` only
    checks that there is a directory. -/
theorem eq_of_walk_nil {p : Progress} (h : walk root false l [[]] = .ok p) :
    p = .arrived (.occupied l) := by
  rw [walk] at h
  split at h
  case h_1 => exact (Except.ok.inj h).symm
  case h_2 => cases h

/-- A walk of some steps and more comes to what the walk of the first ones leads on to:
    `walk_append` read from its result. -/
theorem exists_onward {p : Progress} (hmore : more ≠ [])
    (h : walk root false here (todo ++ more) = .ok p) :
    ∃ p', walk root false here todo = .ok p' ∧ p'.onward root more = .ok p := by
  rw [walk_append hmore] at h
  cases hwalk : walk root false here todo with
  | error fault =>
    rw [hwalk] at h
    cases h
  | ok p' =>
    rw [hwalk] at h
    exact ⟨p', rfl, h⟩

/-- Without the slash at its end a walk arrives where it arrives with it, … -/
theorem walk_of_append_nil (h : walk root false here (todo ++ [[]]) = .ok (.arrived (.occupied l))) :
    walk root false here todo = .ok (.arrived (.occupied l)) := by
  obtain ⟨p, hp, honward⟩ := exists_onward (by simp) h
  rw [hp]
  cases p with
  | arrived place =>
    cases place with
    | occupied l' => rw [← eq_of_walk_nil honward]
    | free above name => cases honward
  | followLink start todo' => cases honward

/-- … and comes to the same link, with the empty step still to be taken behind the target. -/
theorem exists_link_of_append_nil {start : Location} {todo' : List Text}
    (h : walk root false here (todo ++ [[]]) = .ok (.followLink start todo')) :
    ∃ rest, walk root false here todo = .ok (.followLink start rest) ∧ todo' = rest ++ [[]] := by
  obtain ⟨p, hp, honward⟩ := exists_onward (by simp) h
  cases p with
  | arrived place =>
    cases place with
    | occupied l' => cases eq_of_walk_nil honward
    | free above name => cases honward
  | followLink start' rest =>
    cases honward
    exact ⟨rest, hp, rfl⟩

/-- **A slash at the end of a path** does not change where the path leads, if it leads somewhere:
    `dir/` and `dir` are the same directory. -/
theorem follow_of_append_nil {links : Nat}
    (h : follow root false links here (todo ++ [[]]) = .ok (.occupied l)) :
    follow root false links here todo = .ok (.occupied l) := by
  refine follow_induction
    (motive := fun links here steps => ∀ todo, steps = todo ++ [[]] →
      follow root false links here todo = .ok (.occupied l)) ?_ ?_ h todo rfl
  · rintro links here - harrived todo rfl
    exact follow_of_arrived (walk_of_append_nil harrived) links
  · rintro links here - start todo' hlink ih todo rfl
    -- the empty step stays the last one behind the target of the link
    obtain ⟨rest, hlink', rfl⟩ := exists_link_of_append_nil hlink
    rw [follow_of_followLink hlink']
    exact ih rest rfl

/-! ### File trees -/

namespace FileTree

variable {t : FileTree} {path : Text} {es : List (Text × Node)}

/-- A path without a fault in itself is followed from its start, the root or the current directory:
    `FileTree.resolve` refuses only the empty path, a path with a NUL and one that is too long. -/
theorem resolve_of_valid (hne : path ≠ []) (hnul : '\x00' ∉ path)
    (hsize : Text.utf8Size path < pathSizeLimit) (t : FileTree) (makesFile : Bool) :
    t.resolve makesFile path =
      follow t.root makesFile maxLinks (if isAbsolute path then [] else t.current) (steps path) := by
  have hany : ¬ path.any (· == '\x00') = true := by simpa using hnul
  have hempty : ¬ path.isEmpty = true := by simpa using hne
  unfold resolve
  rw [if_neg hany, if_neg hempty, if_neg (Nat.not_le.mpr hsize)]

/-- A path that leads somewhere has no fault of its own, so `resolve_of_valid` applies to it. -/
theorem valid_of_resolve {place : Place} (h : t.resolve makesFile path = .ok place) :
    path ≠ [] ∧ '\x00' ∉ path ∧ Text.utf8Size path < pathSizeLimit := by
  unfold resolve at h
  split at h
  case isTrue => cases h
  case isFalse hnul =>
    split at h
    case isTrue => cases h
    case isFalse hempty =>
      split at h
      case isTrue => cases h
      case isFalse hsize => exact ⟨by simpa using hempty, by simpa using hnul, by omega⟩

/-- A path that leads somewhere is followed in the same way whatever the files are, and whether or
    not a file is to be made: the checks of `FileTree.resolve` only look at the path. -/
theorem resolve_eq_follow {place : Place} (h : t.resolve makesFile path = .ok place)
    (t' : FileTree) (makesFile' : Bool) : t'.resolve makesFile' path =
      follow t'.root makesFile' maxLinks (if isAbsolute path then [] else t'.current)
        (steps path) := by
  obtain ⟨hne, hnul, hsize⟩ := valid_of_resolve h
  exact resolve_of_valid hne hnul hsize t' makesFile'

/-- **The node that a path leads to** stands at the location that `FileTree.resolve` gives for the
    path. -/
theorem node?_eq_ok_iff {n : Node} : t.node? path = .ok n ↔
    ∃ l, t.resolve false path = .ok (.occupied l) ∧ t.root.at? l = some n := by
  unfold node?
  cases hresolve : t.resolve false path with
  | error fault => simp
  | ok place =>
    cases place with
    | free above name => simp
    | occupied l => cases hat : t.root.at? l <;> simp [hat]

/-- A path whose entries `FileTree.list` gives leads to a directory of the tree, with the entries
    that are listed. -/
theorem exists_dir_of_list (h : t.list path = .ok es) :
    ∃ a, t.node? path = .ok (.dir es a) := by
  unfold list at h
  split at h
  case h_1 => cases h
  case h_2 es' a hnode =>
    split at h
    case isTrue => exact ⟨a, Except.ok.inj h ▸ hnode⟩
    case isFalse => cases h
  case h_3 => cases h

end FileTree

end AccessLint.Files
