import AccessLint.Files.Selection
import AccessLint.Proofs.Files.Below
import Mathlib.Data.List.Nodup

namespace AccessLint.Files

/-!
# Discovering files

What is discovered below a directory are exactly the files that a selection takes, as far as the
directories on the way to them can be listed.

* `Node.WellFormed` — trees in which names are names, and each directory has a name once;
* `Selection.Takes` — what a selection takes: a file with one of the extensions, outside of the
  directories that are left out;
* `FileTree.Opened` — locations on the way to which every directory can be listed;
* `FileTree.mem_filesIn` — the files in a directory are those that are taken and opened;
* `FileTree.nodup_filesIn` — none of them is found twice;
* `FileTree.Readable` — directories below which every directory can be listed;
* `FileTree.discover_takes` — what is discovered below such a directory.
-/

namespace Node

/-- Trees as they can be on a disk: an entry has a name that leads to it, and the names in a
    directory differ. -/
inductive WellFormed : Node → Prop
  | file (content : List UInt8) (a : Access) : WellFormed (.file content a)
  | link (target : Text) : WellFormed (.link target)
  | dir {es : List (Text × Node)} {a : Access} : (es.map Prod.fst).Nodup →
      (∀ e ∈ es, isEntryName e.1 = true) → (∀ e ∈ es, WellFormed e.2) → WellFormed (.dir es a)

variable {n m : Node} {es : List (Text × Node)} {a : Access} {l : Location}

/-- `Node.WellFormed` of a directory, read as a condition on its list of entries. -/
theorem wellFormed_dir_iff :
    (dir es a).WellFormed ↔ (es.map Prod.fst).Nodup ∧ (∀ e ∈ es, isEntryName e.1 = true) ∧
      ∀ e ∈ es, e.2.WellFormed :=
  ⟨fun | .dir hnodup hnames hes => ⟨hnodup, hnames, hes⟩,
    fun ⟨hnodup, hnames, hes⟩ => .dir hnodup hnames hes⟩

/-- What stands in a directory is one of its entries, or stands below one of them. The names differ,
    so the look-up of `Node.at?` finds every entry. -/
theorem at?_dir (hnodup : (es.map Prod.fst).Nodup) {name : Text} :
    (dir es a).at? (name :: l) = some m ↔ ∃ n, (name, n) ∈ es ∧ n.at? l = some m := by
  rw [at?_cons, entries_dir, Option.bind_eq_some_iff]
  simp only [Keyed.lookup_eq_some_iff hnodup]

/-- The names on the way to a node are names of entries, so the lemmas on `Path.pathBelow` apply to
    its location. -/
theorem WellFormed.isEntryName (h : n.WellFormed) (hm : n.at? l = some m) :
    ∀ name ∈ l, isEntryName name = true := by
  induction h generalizing l with
  | file content a => simp [(eq_nil_of_at? rfl hm).1]
  | link target => simp [(eq_nil_of_at? rfl hm).1]
  | dir hnodup hnames _ ih =>
    cases l with
    | nil => simp
    | cons name l =>
      obtain ⟨x, hx, hxm⟩ := (at?_dir hnodup).mp hm
      intro name' hname'
      rcases List.mem_cons.mp hname' with rfl | hl
      · exact hnames _ hx
      · exact ih _ hx hxm _ hl

/-- Whether something holds of every directory in a tree: of its location and its rights. -/
def ForallDirs (n : Node) (p : Location → Access → Prop) : Prop :=
  ∀ l es a, n.at? l = some (.dir es a) → p l a

variable {p : Location → Access → Prop}

/-- There is no directory in a file, so `Node.ForallDirs` asks for nothing. -/
theorem forallDirs_file (content : List UInt8) (a : Access) : (file content a).ForallDirs p := by
  intro l es b h
  cases (eq_nil_of_at? rfl h).2

/-- A link is not followed: a directory that it leads to does not count as one in the tree. -/
theorem forallDirs_link (target : Text) : (link target).ForallDirs p := by
  intro l es b h
  cases (eq_nil_of_at? rfl h).2

/-- `Node.ForallDirs` holds of a directory if the property holds of the directory itself and of
    those in its entries, with the name of the entry before their locations. -/
theorem forallDirs_dir_iff (hnodup : (es.map Prod.fst).Nodup) : (dir es a).ForallDirs p ↔
    p [] a ∧ ∀ e ∈ es, e.2.ForallDirs fun l b => p (e.1 :: l) b := by
  constructor
  · intro h
    refine ⟨h [] es a rfl, fun e he l es' b hl => ?_⟩
    exact h (e.1 :: l) es' b ((at?_dir hnodup).mpr ⟨e.2, he, hl⟩)
  · rintro ⟨hself, hentries⟩ l es' b hl
    cases l with
    | nil =>
      cases hl
      exact hself
    | cons name l =>
      obtain ⟨n, hn, hl⟩ := (at?_dir hnodup).mp hl
      exact hentries (name, n) hn l es' b hl

/-- A node of a well-formed tree is a well-formed tree itself. -/
theorem WellFormed.at? (h : n.WellFormed) (hm : n.at? l = some m) : m.WellFormed := by
  induction h generalizing l with
  | file content a => exact (eq_nil_of_at? rfl hm).2 ▸ .file content a
  | link target => exact (eq_nil_of_at? rfl hm).2 ▸ .link target
  | dir hnodup hnames hes ih =>
    cases l with
    | nil => exact Option.some.inj hm ▸ .dir hnodup hnames hes
    | cons name l =>
      obtain ⟨x, hx, hxm⟩ := (at?_dir hnodup).mp hm
      exact ih _ hx hxm

end Node

namespace Selection

variable {s : Selection} {dir name : Text} {l : Location} {n : Node} {content : List UInt8}
  {a : Access}

/-! ### What is taken -/

/-- What a selection takes below a directory: a file, not a link, whose name has one of the
    extensions after its last dot, and that is in none of the directories that are left out. Its own
    name does not count for the latter, and neither do those of the directory and above. -/
structure Takes (s : Selection) (l : Location) (n : Node) : Prop where
  isFile : ∃ content a, n = .file content a
  hasExtension : ∃ above stem ext, l = above ++ [stem ++ '.' :: ext] ∧ stem ≠ [] ∧ '.' ∉ ext ∧
    ext ∈ s.extensions
  entered : ∀ dir ∈ l.dropLast, dir ∉ s.excluded

/-- A selection never takes (`Selection.Takes`) the directory where a search starts: what it takes
    is a file, with a name. -/
theorem Takes.ne_nil (h : s.Takes l n) : l ≠ [] := by
  obtain ⟨above, stem, ext, rfl, -⟩ := h.hasExtension
  simp

/-- A file is taken from its directory for its extension alone: `Selection.admits` looks at the last
    name on its path. -/
theorem takes_singleton (hname : isEntryName name = true) (dir : Text) :
    s.Takes [name] (.file content a) ↔ s.admits (join dir name) = true := by
  have hadmits : s.admits (join dir name) = true ↔
      ∃ ext, extensionOf? name = some ext ∧ ext ∈ s.extensions := by
    rw [admits, extension?, fileName?_join hname, Option.bind_some, Option.any_eq_true]
    simp only [List.contains_iff_mem]
  simp only [hadmits, extensionOf?_eq_some_iff]
  constructor
  · intro h
    obtain ⟨above, stem, ext, heq, hstem, hdot, hext⟩ := h.hasExtension
    have hlast := congrArg List.getLast? heq
    rw [List.getLast?_concat, List.getLast?_singleton] at hlast
    exact ⟨ext, ⟨stem, hstem, Option.some.inj hlast, hdot⟩, hext⟩
  · rintro ⟨ext, ⟨stem, hstem, rfl, hdot⟩, hext⟩
    exact ⟨⟨content, a, rfl⟩, ⟨[], stem, ext, rfl, hstem, hdot, hext⟩, by simp⟩

/-- What stands deeper is taken if the first directory on the way to it is not one that
    `Selection.excluded` names, and it is taken below that directory. -/
theorem takes_cons (hl : l ≠ []) : s.Takes (name :: l) n ↔ name ∉ s.excluded ∧ s.Takes l n := by
  have hdrop : (name :: l).dropLast = name :: l.dropLast := List.dropLast_cons_of_ne_nil hl
  constructor
  · intro h
    have hentered := h.entered
    rw [hdrop, List.forall_mem_cons] at hentered
    refine ⟨hentered.1, h.isFile, ?_, hentered.2⟩
    obtain ⟨above, stem, ext, heq, hrest⟩ := h.hasExtension
    cases above with
    | nil => exact absurd (List.cons.inj heq).2 hl
    | cons a above => exact ⟨above, stem, ext, (List.cons.inj heq).2, hrest⟩
  · rintro ⟨hname, h⟩
    obtain ⟨above, stem, ext, heq, hrest⟩ := h.hasExtension
    refine ⟨h.isFile, ⟨name :: above, stem, ext, by rw [heq, List.cons_append], hrest⟩, ?_⟩
    rw [hdrop, List.forall_mem_cons]
    exact ⟨hname, h.entered⟩

end Selection

namespace FileTree

variable {t : FileTree} {s : Selection} {path dir name p : Text} {l : Location} {n m : Node}
  {es : List (Text × Node)} {content : List UInt8} {a : Access}

/-! ### What is opened -/

/-- Whether a search gets from a directory to a location below it: every directory strictly between
    the two can be listed by its path. -/
def Opened (t : FileTree) (path : Text) (l : Location) : Prop :=
  ∀ above below, above ≠ [] → below ≠ [] → l = above ++ below →
    ∃ es, t.list (pathBelow path above) = .ok es

/-- Nothing stands between a directory and its entries, so nothing has to be listed for them. -/
theorem opened_singleton (t : FileTree) (dir name : Text) : t.Opened dir [name] := by
  intro above below habove hbelow heq
  have hlength := congrArg List.length heq
  rw [List.length_append, List.length_singleton] at hlength
  have hpos := List.length_pos_of_ne_nil habove
  have hpos' := List.length_pos_of_ne_nil hbelow
  omega

/-- What stands deeper is opened (`FileTree.Opened`) if the first directory on the way to it can be
    listed, and it is opened from there. -/
theorem opened_cons (hl : l ≠ []) : t.Opened dir (name :: l) ↔
    (∃ es, t.list (join dir name) = .ok es) ∧ t.Opened (join dir name) l := by
  constructor
  · intro h
    refine ⟨h [name] l (by simp) hl rfl, fun above below habove hbelow heq => ?_⟩
    exact h (name :: above) below (by simp) hbelow (by rw [heq, List.cons_append])
  · rintro ⟨hfirst, hrest⟩ above below habove hbelow heq
    obtain ⟨first, above, rfl⟩ := List.exists_cons_of_ne_nil habove
    obtain ⟨rfl, hl'⟩ := List.cons.inj heq
    by_cases hnil : above = []
    · rw [hnil]
      exact hfirst
    · exact hrest above below hnil hbelow hl'

/-- The paths of what is taken in one entry of a directory, as far as it is opened. -/
def TakenIn (t : FileTree) (s : Selection) (dir name : Text) (n : Node) (p : Text) : Prop :=
  ∃ l m, n.at? l = some m ∧ s.Takes (name :: l) m ∧ t.Opened dir (name :: l) ∧
    p = pathBelow dir (name :: l)

/-- A file has at most one path to be taken by (`FileTree.TakenIn`): its own. -/
theorem takenIn_file (hname : isEntryName name = true) :
    t.TakenIn s dir name (.file content a) p ↔
      s.admits (join dir name) = true ∧ p = join dir name := by
  have hadmits : s.Takes [name] (.file content a) ↔ s.admits (join dir name) = true :=
    Selection.takes_singleton hname dir
  constructor
  · rintro ⟨l, m, hm, htakes, -, hpath⟩
    obtain ⟨rfl, rfl⟩ := Node.eq_nil_of_at? rfl hm
    exact ⟨hadmits.mp htakes, hpath⟩
  · rintro ⟨h, hpath⟩
    exact ⟨[], _, rfl, hadmits.mpr h, opened_singleton t dir name, hpath⟩

/-- A link is not taken, whatever it leads to: `FileTree.filesAt` neither follows it nor gives it as
    a file. -/
theorem not_takenIn_link {target : Text} : ¬ t.TakenIn s dir name (.link target) p := by
  rintro ⟨l, m, hm, htakes, -, -⟩
  obtain ⟨rfl, rfl⟩ := Node.eq_nil_of_at? rfl hm
  obtain ⟨content, a, hfile⟩ := htakes.isFile
  cases hfile

/-- A directory that is entered has the paths of what is taken in it; any other has none. A
    directory is entered if its name is not one to leave out and it can be listed. -/
theorem takenIn_dir : t.TakenIn s dir name (.dir es a) p ↔
    name ∉ s.excluded ∧ (∃ es', t.list (join dir name) = .ok es') ∧
      ∃ l m, (Node.dir es a).at? l = some m ∧ s.Takes l m ∧ t.Opened (join dir name) l ∧
        p = pathBelow (join dir name) l := by
  constructor
  · rintro ⟨l, m, hm, htakes, hopened, hpath⟩
    have hl : l ≠ [] := by
      rintro rfl
      obtain ⟨content, a, rfl⟩ := htakes.isFile
      cases hm
    obtain ⟨hentered, htakes⟩ := (Selection.takes_cons hl).mp htakes
    obtain ⟨hlist, hopened⟩ := (opened_cons hl).mp hopened
    exact ⟨hentered, hlist, l, m, hm, htakes, hopened, hpath⟩
  · rintro ⟨hentered, hlist, l, m, hm, htakes, hopened, hpath⟩
    exact ⟨l, m, hm, (Selection.takes_cons htakes.ne_nil).mpr ⟨hentered, htakes⟩,
      (opened_cons htakes.ne_nil).mpr ⟨hlist, hopened⟩, hpath⟩

/-! ### What is found -/

/-- `FileTree.filesIn` goes through the entries in the order of the list, with what
    `FileTree.filesAt` finds in each. -/
theorem filesIn_eq_flatMap (t : FileTree) (s : Selection) (dir : Text)
    (es : List (Text × Node)) :
    t.filesIn s dir es = es.flatMap fun e => t.filesAt s (join dir e.1) e.1 e.2 := by
  induction es with
  | nil => rw [filesIn, List.flatMap_nil]
  | cons e es ih => rw [filesIn, ih, List.flatMap_cons]

/-- What `filesAt` finds at a directory: nothing if it is left out or cannot be listed, and what is
    found in its entries otherwise. -/
theorem mem_filesAt_dir : p ∈ t.filesAt s path name (.dir es a) ↔
    name ∉ s.excluded ∧ (∃ es', t.list path = .ok es') ∧ p ∈ t.filesIn s path es := by
  rw [filesAt]
  split
  case isTrue h => simp [List.contains_iff_mem.mp h]
  case isFalse h =>
    have hname : name ∉ s.excluded := mt List.contains_iff_mem.mpr h
    cases hlist : t.list path with
    | ok es' => simp [hname]
    | error fault => simp

/-- What is found in a directory is what `Node.at?`, `Selection.Takes` and `FileTree.Opened` say, if
    in each of its entries it is `FileTree.TakenIn`. This is the step of `mem_filesAt` at a
    directory. -/
theorem mem_filesIn_of_entries (hnodup : (es.map Prod.fst).Nodup) (a : Access)
    (hes : ∀ e ∈ es, (p ∈ t.filesAt s (join dir e.1) e.1 e.2 ↔ t.TakenIn s dir e.1 e.2 p)) :
    p ∈ t.filesIn s dir es ↔ ∃ l m, (Node.dir es a).at? l = some m ∧ s.Takes l m ∧
      t.Opened dir l ∧ p = pathBelow dir l := by
  rw [filesIn_eq_flatMap, List.mem_flatMap]
  constructor
  · rintro ⟨e, he, hp⟩
    obtain ⟨l, m, hm, htakes, hopened, hpath⟩ := (hes e he).mp hp
    exact ⟨e.1 :: l, m, (Node.at?_dir hnodup).mpr ⟨e.2, he, hm⟩, htakes, hopened, hpath⟩
  · rintro ⟨l, m, hm, htakes, hopened, hpath⟩
    obtain ⟨name, l, rfl⟩ := List.exists_cons_of_ne_nil htakes.ne_nil
    obtain ⟨n, he, hn⟩ := (Node.at?_dir hnodup).mp hm
    exact ⟨(name, n), he, (hes _ he).mpr ⟨l, m, hn, htakes, hopened, hpath⟩⟩

/-- **The files in one entry** of a directory are those that the selection takes, as far as they are
    opened. The induction is that of `filesAt`, over the entry and the entries in it. -/
theorem mem_filesAt (h : n.WellFormed) (hname : isEntryName name = true) :
    p ∈ t.filesAt s (join dir name) name n ↔ t.TakenIn s dir name n p := by
  induction h generalizing dir name with
  | file content a =>
    rw [filesAt, takenIn_file hname]
    split
    case isTrue h => simp [h]
    case isFalse h => simp [h]
  | link target =>
    rw [filesAt]
    exact iff_of_false List.not_mem_nil not_takenIn_link
  | @dir es a hnodup hnames _ ih =>
    rw [mem_filesAt_dir, takenIn_dir,
      ← mem_filesIn_of_entries hnodup a fun e he => ih e he (hnames e he)]

/-- The files that `filesAt` finds in two entries of a directory are different ones, since the two
    names stand at the same place of their paths. -/
theorem disjoint_filesAt (hn : n.WellFormed) (hm : m.WellFormed) {other : Text}
    (hname : isEntryName name = true) (hother : isEntryName other = true) (hne : name ≠ other) :
    List.Disjoint (t.filesAt s (join dir name) name n) (t.filesAt s (join dir other) other m) := by
  intro p hpn hpm
  obtain ⟨l, _, hl, -, -, rfl⟩ := (mem_filesAt hn hname).mp hpn
  obtain ⟨k, _, hk, -, -, hpath⟩ := (mem_filesAt hm hother).mp hpm
  have heq := pathBelow_injective
    (List.forall_mem_cons.mpr ⟨hname, hn.isEntryName hl⟩)
    (List.forall_mem_cons.mpr ⟨hother, hm.isEntryName hk⟩) hpath
  exact hne (List.cons.inj heq).1

/-- No file is found twice in a directory, if none is found twice in an entry: between two entries
    `disjoint_filesAt` keeps them apart. -/
theorem nodup_filesIn_of_entries (h : (Node.dir es a).WellFormed)
    (hes : ∀ e ∈ es, (t.filesAt s (join dir e.1) e.1 e.2).Nodup) : (t.filesIn s dir es).Nodup := by
  obtain ⟨hnodup, hnames, hwf⟩ := Node.wellFormed_dir_iff.mp h
  rw [filesIn_eq_flatMap, List.nodup_flatMap]
  refine ⟨hes, (List.pairwise_map.mp hnodup).imp_of_mem fun {a b} ha hb hne => ?_⟩
  exact disjoint_filesAt (hwf a ha) (hwf b hb) (hnames a ha) (hnames b hb) hne

/-- **No file is found twice** in an entry, by the same induction as `mem_filesAt`. -/
theorem nodup_filesAt (h : n.WellFormed) : (t.filesAt s path name n).Nodup := by
  induction h generalizing path name with
  | file content a =>
    rw [filesAt]
    split <;> simp
  | link target => exact List.nodup_nil
  | @dir es a hnodup hnames hwf ih =>
    rw [filesAt]
    split
    case isTrue => exact List.nodup_nil
    case isFalse =>
      split
      case h_1 => exact nodup_filesIn_of_entries (.dir (a := a) hnodup hnames hwf) fun e he => ih e he
      case h_2 => exact List.nodup_nil

/-- The files in a directory are those that the selection takes, as far as they are opened:
    `mem_filesAt` put together for all entries. -/
theorem mem_filesIn (h : (Node.dir es a).WellFormed) :
    p ∈ t.filesIn s dir es ↔ ∃ l m, (Node.dir es a).at? l = some m ∧ s.Takes l m ∧
      t.Opened dir l ∧ p = pathBelow dir l := by
  obtain ⟨hnodup, hnames, hwf⟩ := Node.wellFormed_dir_iff.mp h
  exact mem_filesIn_of_entries hnodup a fun e he => mem_filesAt (hwf e he) (hnames e he)

theorem nodup_filesIn (h : (Node.dir es a).WellFormed) : (t.filesIn s dir es).Nodup :=
  nodup_filesIn_of_entries h fun e he => nodup_filesAt ((Node.wellFormed_dir_iff.mp h).2.2 e he)

/-! ### What is discovered -/

/-- `FileTree.discover` fails for a path that leads to no directory, or to one that cannot be listed,
    and for no other. -/
theorem discover_eq_error_iff {failure : DiscoverFailure} : t.discover s path = .error failure ↔
    (t.isDirectory path = false ∧ failure = .notADirectory path) ∨
      (t.isDirectory path = true ∧
        ∃ fault, t.list path = .error fault ∧ failure = .unlistable path fault) := by
  unfold discover
  cases hdir : t.isDirectory path with
  | false => simp [eq_comm]
  | true =>
    cases hlist : t.list path with
    | error fault => simp [eq_comm]
    | ok es => simp

/-- **What is discovered below a directory** that can be listed: the path of what stands at a
    location is discovered just when it is a file that is taken (`Selection.Takes`) and opened
    (`FileTree.Opened`), nothing else is discovered, and nothing twice. A path to a directory may
    lead through links; below it none is followed. -/
theorem discover_opened (s : Selection) (hroot : t.root.WellFormed) (hlist : t.list path = .ok es) :
    ∃ top files, t.node? path = .ok top ∧ t.discover s path = .ok files ∧ files.Nodup ∧
      (∀ l n, top.at? l = some n →
        (pathBelow path l ∈ files ↔ s.Takes l n ∧ t.Opened path l)) ∧
      ∀ p ∈ files, ∃ l n, top.at? l = some n ∧ p = pathBelow path l := by
  obtain ⟨a, hnode⟩ := exists_dir_of_list hlist
  obtain ⟨location, -, hlocation⟩ := node?_eq_ok_iff.mp hnode
  have htop : (Node.dir es a).WellFormed := hroot.at? hlocation
  have hdiscover : t.discover s path = .ok (t.filesIn s path es) := by
    simp [discover, isDirectory, hnode, hlist]
  refine ⟨.dir es a, t.filesIn s path es, hnode, hdiscover, nodup_filesIn htop, ?_, ?_⟩
  · intro l n hn
    rw [mem_filesIn htop]
    constructor
    · rintro ⟨k, m, hm, htakes, hopened, hpath⟩
      -- the file was found at some location, and the path tells which
      obtain rfl := pathBelow_injective (htop.isEntryName hn) (htop.isEntryName hm) hpath
      exact ⟨Option.some.inj (hm.symm.trans hn) ▸ htakes, hopened⟩
    · rintro ⟨htakes, hopened⟩
      exact ⟨l, n, hn, htakes, hopened, rfl⟩
  · intro p hp
    obtain ⟨l, m, hm, -, -, hpath⟩ := (mem_filesIn htop).mp hp
    exact ⟨l, m, hm, hpath⟩

/-! ### Readable directories -/

/-- Whether the directory that a path leads to, and every directory below it, can be listed by its
    path. -/
def Readable (t : FileTree) (path : Text) : Prop :=
  ∀ top, t.node? path = .ok top →
    top.ForallDirs fun l _ => ∃ es, t.list (pathBelow path l) = .ok es

/-- **Rights make a directory readable** (`FileTree.Readable`): the directories in it may all be
    listed and searched, and neither their paths nor the names on them are too long. -/
theorem readable_of_rights {top : Node} (hroot : t.root.WellFormed) (htop : t.node? path = .ok top)
    (h : top.ForallDirs fun l a => a.reads = true ∧ a.searches = true ∧
      Text.utf8Size (pathBelow path l) < pathSizeLimit ∧
      ∀ name ∈ l, '\x00' ∉ name ∧ Text.utf8Size name ≤ maxNameSize) : t.Readable path := by
  intro top' htop' l es a hm
  cases htop.symm.trans htop'
  obtain ⟨location, -, hlocation⟩ := node?_eq_ok_iff.mp htop
  obtain ⟨hreads, -, hsize, hnames⟩ := h l es a hm
  refine ⟨es, list_pathBelow htop hm ((hroot.at? hlocation).isEntryName hm) hreads ?_
    (fun name hname => (hnames name hname).1) hsize⟩
  rintro above name below es' b rfl hat
  refine ⟨(h above es' b hat).2.1, (hnames name ?_).2⟩
  exact List.mem_append_right above List.mem_cons_self

/-- A path to a directory leads to a node that is one, which is what `FileTree.isDirectory`
    tests. -/
theorem exists_node?_of_isDirectory (h : t.isDirectory path = true) :
    ∃ es a, t.node? path = .ok (.dir es a) := by
  unfold isDirectory at h
  split at h
  case h_1 es a heq => exact ⟨es, a, heq⟩
  case h_2 => cases h

/-- All that stands below a readable directory is opened (`FileTree.Opened`): every directory on the
    way to it is one that can be listed. -/
theorem Readable.opened (h : t.Readable path) {top : Node} (htop : t.node? path = .ok top)
    (hn : top.at? l = some n) : t.Opened path l := by
  rintro above below - hbelow rfl
  obtain ⟨first, below, rfl⟩ := List.exists_cons_of_ne_nil hbelow
  rw [Node.at?_append] at hn
  obtain ⟨x, hx, hxn⟩ := Option.bind_eq_some_iff.mp hn
  cases x with
  | dir es a => exact h top htop above es a hx
  | file content a => cases (Node.eq_nil_of_at? rfl hxn).1
  | link target => cases (Node.eq_nil_of_at? rfl hxn).1

/-- **What is discovered below a readable directory** is what the selection takes there
    (`Selection.Takes`): the path of what stands at a location is discovered just when it is a file
    that is taken, nothing else is discovered, and nothing twice. -/
theorem discover_takes (s : Selection) (hroot : t.root.WellFormed)
    (hdir : t.isDirectory path = true) (hreadable : t.Readable path) :
    ∃ top files, t.node? path = .ok top ∧ t.discover s path = .ok files ∧ files.Nodup ∧
      (∀ l n, top.at? l = some n → (pathBelow path l ∈ files ↔ s.Takes l n)) ∧
      ∀ p ∈ files, ∃ l n, top.at? l = some n ∧ p = pathBelow path l := by
  obtain ⟨es, a, hnode⟩ := exists_node?_of_isDirectory hdir
  obtain ⟨es', hlist⟩ : ∃ es', t.list path = .ok es' := hreadable _ hnode [] es a rfl
  obtain ⟨top, files, htop, hdiscover, hnodup, hmem, honly⟩ := discover_opened s hroot hlist
  refine ⟨top, files, htop, hdiscover, hnodup, fun l n hn => ?_, honly⟩
  rw [hmem l n hn]
  exact and_iff_left (hreadable.opened htop hn)

/-- A site in a directory whose name is that of a directory to leave out. -/
def site : FileTree where
  root := .dir [("build", .dir [
    ("index.html", .file [] .full), (".html", .file [] .full), ("page.html.bak", .file [] .full),
    ("log", .dir [("old.html", .file [] .full)] .full), ("home.html", .link "index.html"),
    ("parts", .dir [("bin", .file [] .full), ("nav.min.twig", .file [] .full),
      ("log.php", .file [] .full)] .full)] .full)] .full
  current := []

/-- What is discovered in `site`: the page, the template and the script, and nothing from the two
    directories to leave out. -/
theorem discover_takes_site :
    site.root.WellFormed ∧ site.isDirectory "/build" = true ∧ site.Readable "/build" ∧
    site.discover .default "/build" =
      .ok ["/build/index.html", "/build/parts/nav.min.twig", "/build/parts/log.php"] ∧
    ∃ top files, site.node? "/build" = .ok top ∧ site.discover .default "/build" = .ok files ∧
      files.Nodup ∧
      (∀ l n, top.at? l = some n → (pathBelow "/build" l ∈ files ↔ Selection.default.Takes l n)) ∧
      ∀ p ∈ files, ∃ l n, top.at? l = some n ∧ p = pathBelow "/build" l := by
  have hroot : site.root.WellFormed := by
    simp only [site, Node.wellFormed_dir_iff, List.forall_mem_cons, List.not_mem_nil,
      false_implies, implies_true, Node.WellFormed.file, Node.WellFormed.link, true_and, and_true]
    decide
  have hdir : site.isDirectory "/build" = true := by decide
  have hreadable : site.Readable "/build" := by
    refine readable_of_rights hroot rfl ?_
    rw [Node.forallDirs_dir_iff (by decide)]
    simp only [List.forall_mem_cons, Node.forallDirs_file, Node.forallDirs_link]
    refine ⟨by decide, trivial, trivial, trivial, ?_, trivial, ?_, by simp⟩
    all_goals
      rw [Node.forallDirs_dir_iff (by decide)]
      simp only [List.forall_mem_cons, Node.forallDirs_file]
      exact ⟨by decide, by simp⟩
  exact ⟨hroot, hdir, hreadable, by decide, discover_takes .default hroot hdir hreadable⟩

end FileTree

end AccessLint.Files
