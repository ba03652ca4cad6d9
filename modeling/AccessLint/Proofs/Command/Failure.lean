import AccessLint.Command.Run
import AccessLint.Proofs.Files.Discover
import AccessLint.Proofs.Web.Fetch

namespace AccessLint

/-!
# Runs without an input

A run has nothing to report if it is not told what to lint, or if what it is to lint cannot be read
as a whole. Then it prints nothing and leaves all files as they are, even if some of the files were
read and have findings.

* `Command.InputError` — why there is nothing to lint, in terms of the files and the network;
* `readPages_of_unreadable` — one file that cannot be read is enough;
* `Command.inputError_iff` — linting fails exactly if there is an input error;
* `Command.run_inputError` — what such a run leaves behind.
-/

open Files (FileTree)
open Web (Network)

/-! ### Files that cannot be read -/

/-- **One file that cannot be read is enough** for `readPages` to fail, wherever it stands among the
    others. -/
theorem readPages_of_unreadable {files : FileTree} {paths : List Text} {path : Text}
    {fault : FileFault} (hpath : path ∈ paths) (h : files.read path = .error fault) :
    ∃ failure, readPages files paths = .error failure := by
  induction paths with
  | nil => simp at hpath
  | cons first paths ih =>
    rw [readPages]
    cases hfirst : readPage files first with
    | error failure => exact ⟨failure, rfl⟩
    | ok page =>
      -- the first file was read, so the other one comes later, and what was read is dropped
      have hne : path ≠ first := by
        rintro rfl
        unfold readPage at hfirst
        rw [h] at hfirst
        cases hfirst
      obtain ⟨failure, hrest⟩ := ih (List.mem_of_ne_of_mem hne hpath)
      refine ⟨failure, ?_⟩
      rw [hrest]
      rfl

/-- Nothing else makes `readPages` fail: bytes that are no UTF-8 are replaced, so every content is a
    text. -/
theorem exists_unreadable {files : FileTree} {paths : List Text} {failure : InputFailure}
    (h : readPages files paths = .error failure) :
    ∃ path ∈ paths, ∃ fault, files.read path = .error fault := by
  induction paths generalizing failure with
  | nil => cases h
  | cons first paths ih =>
    cases hread : files.read first with
    | error fault => exact ⟨first, List.mem_cons_self, fault, hread⟩
    | ok bytes =>
      cases hrest : readPages files paths with
      | error failure' =>
        obtain ⟨path, hpath, hfault⟩ := ih hrest
        exact ⟨path, List.mem_cons_of_mem _ hpath, hfault⟩
      | ok pages =>
        rw [readPages, readPage, hread, hrest] at h
        cases h

namespace Command

variable {files : FileTree} {net : Network}

/-- What a run is to lint. -/
def Options.targetIn (o : Options) (env : Environment) : Option Target :=
  (o.inputIn env).map Target.ofText

/-- Why there is nothing to lint: nothing was named; what was named is not a directory, or is one
    whose entries cannot be listed; one of the files that were discovered cannot be read; the
    request for a page fails; it is answered, but not with success; or the answer is a success whose
    page does not come as a whole. -/
inductive InputError (files : FileTree) (net : Network) : Option Target → Prop
  | missing : InputError files net none
  | notADirectory {path : Text} : files.isDirectory path = false →
      InputError files net (some (.directory path))
  | unlistable {path : Text} {fault : FileFault} : files.isDirectory path = true →
      files.list path = .error fault → InputError files net (some (.directory path))
  | unreadable {root path : Text} {paths : List Text} {fault : FileFault} :
      files.discover .default root = .ok paths → path ∈ paths → files.read path = .error fault →
      InputError files net (some (.directory root))
  | unanswered {url : Text} : (∀ r, ¬ Web.Answers net url r) →
      InputError files net (some (.url url))
  | unsuccessful {url : Text} {r : Web.Response} : Web.Answers net url r →
      Web.isSuccess r.status = false → InputError files net (some (.url url))
  | unfinished {url : Text} {r : Web.Response} : Web.Answers net url r →
      Web.isSuccess r.status = true → r.text? = none → InputError files net (some (.url url))

/-! ### Linting with an input error -/

/-- Linting fails for a path that is no directory: `requireDirectory` stops it. -/
theorem lintDirectory_of_not_isDirectory (c : Config) {path : Text}
    (h : files.isDirectory path = false) :
    ∃ failure, (lintDirectory c files path).result = .error failure := by
  unfold lintDirectory requireDirectory
  simp [h]

/-- It fails for a directory that cannot be listed: `FileTree.discover` stops it. -/
theorem lintDirectory_of_unlistable (c : Config) {path : Text} {fault : FileFault}
    (hdir : files.isDirectory path = true) (h : files.list path = .error fault) :
    ∃ failure, (lintDirectory c files path).result = .error failure := by
  have hdiscover : files.discover .default path = .error (.unlistable path fault) :=
    Files.FileTree.discover_eq_error_iff.mpr (Or.inr ⟨hdir, fault, h, rfl⟩)
  unfold lintDirectory requireDirectory
  simp [hdir, hdiscover]

/-- It fails for a directory with a file that cannot be read: `readPages` stops it, wherever the
    file stands. -/
theorem lintDirectory_of_unreadable (c : Config) {root path : Text} {paths : List Text}
    {fault : FileFault} (hdiscover : files.discover .default root = .ok paths)
    (hpath : path ∈ paths) (h : files.read path = .error fault) :
    ∃ failure, (lintDirectory c files root).result = .error failure := by
  obtain ⟨failure, hpages⟩ := readPages_of_unreadable hpath h
  unfold lintDirectory requireDirectory
  by_cases hdir : files.isDirectory root = true
  · simp [hdir, hdiscover, hpages]
  · simp [hdir]

/-- Linting fails for an address exactly if `Web.fetch` does not load its page: a page that is
    loaded can be linted. -/
theorem exists_lintAddress_error_iff (c : Config) {url : Text} :
    (∃ failure, (lintAddress c net url).result = .error failure) ↔
      ∃ failure, (Web.fetch net url).result = .error failure := by
  unfold lintAddress loadPage
  cases hfetch : (Web.fetch net url).result <;> simp [hfetch, Except.map]

/-- Linting fails with every input error: one case for each constructor of `InputError` that has a
    target, by the lemmas above. -/
theorem lintTarget_of_inputError (c : Config) {target : Target}
    (h : InputError files net (some target)) :
    ∃ failure, (lintTarget c files net target).result = .error failure := by
  cases h with
  | notADirectory hdir => exact lintDirectory_of_not_isDirectory c hdir
  | unlistable hdir hlist => exact lintDirectory_of_unlistable c hdir hlist
  | unreadable hdiscover hpath hread => exact lintDirectory_of_unreadable c hdiscover hpath hread
  | unanswered hnone => exact (exists_lintAddress_error_iff c).mpr (Web.fetch_of_unanswered hnone)
  | unsuccessful hanswers hstatus =>
    refine (exists_lintAddress_error_iff c).mpr ?_
    rw [Web.fetch_of_answers hanswers]
    exact Web.Response.exists_page_error_iff.mpr (Or.inl hstatus)
  | unfinished hanswers hstatus htext =>
    refine (exists_lintAddress_error_iff c).mpr ?_
    rw [Web.fetch_of_answers hanswers]
    exact Web.Response.exists_page_error_iff.mpr (Or.inr ⟨hstatus, htext⟩)

/-- Without an input error all files that are discovered are read and linted: `requireDirectory`,
    `FileTree.discover` and `readPages` go through, and nothing else can stop `lintDirectory`. -/
theorem exists_pages (c : Config) {root : Text}
    (h : ¬ InputError files net (some (.directory root))) :
    ∃ paths pages, files.discover .default root = .ok paths ∧ readPages files paths = .ok pages ∧
      (lintDirectory c files root).result = .ok (lintPages c .batch pages) := by
  -- every step of `lintDirectory` that can fail does so with an input error of its own
  cases hdir : files.isDirectory root with
  | false => exact absurd (.notADirectory hdir) h
  | true =>
    cases hdiscover : files.discover .default root with
    | error failure =>
      rcases Files.FileTree.discover_eq_error_iff.mp hdiscover with ⟨hnot, -⟩ | ⟨-, fault, hlist, -⟩
      · rw [hdir] at hnot
        cases hnot
      · exact absurd (.unlistable hdir hlist) h
    | ok paths =>
      cases hpages : readPages files paths with
      | error failure =>
        obtain ⟨path, hpath, fault, hread⟩ := exists_unreadable hpages
        exact absurd (.unreadable hdiscover hpath hread) h
      | ok pages =>
        refine ⟨paths, pages, rfl, hpages, ?_⟩
        simp [lintDirectory, requireDirectory, hdir, hdiscover, hpages]

/-- Linting a directory fails only with an input error, the contrapositive of `exists_pages`. -/
theorem inputError_of_lintDirectory {c : Config} {root : Text} {failure : InputFailure}
    (h : (lintDirectory c files root).result = .error failure) :
    InputError files net (some (.directory root)) := by
  by_cases hinput : InputError files net (some (.directory root))
  · exact hinput
  · obtain ⟨paths, pages, -, -, hresult⟩ := exists_pages c hinput
    rw [h] at hresult
    cases hresult

/-- Linting the page at an address fails only with an input error: the chain of redirections has no
    end, or the response at its end gives no page (`Web.fetch_of_answers`). -/
theorem inputError_of_lintAddress {c : Config} {url : Text} {failure : InputFailure}
    (h : (lintAddress c net url).result = .error failure) :
    InputError files net (some (.url url)) := by
  by_cases hanswers : ∃ r, Web.Answers net url r
  · obtain ⟨r, hr⟩ := hanswers
    have hpage := (exists_lintAddress_error_iff c).mp ⟨failure, h⟩
    rw [Web.fetch_of_answers hr] at hpage
    rcases Web.Response.exists_page_error_iff.mp hpage with hstatus | ⟨hstatus, htext⟩
    · exact .unsuccessful hr hstatus
    · exact .unfinished hr hstatus htext
  · exact .unanswered fun r hr => hanswers ⟨r, hr⟩

/-- **Linting fails exactly if there is an input error**: `InputError` leaves no failure of
    `lintTarget` out and claims none that is not there. -/
theorem inputError_iff (c : Config) {target : Target} : InputError files net (some target) ↔
    ∃ failure, (lintTarget c files net target).result = .error failure := by
  constructor
  · exact lintTarget_of_inputError c
  · rintro ⟨failure, h⟩
    cases target with
    | url url => exact inputError_of_lintAddress h
    | directory root => exact inputError_of_lintDirectory h

/-! ### Runs -/

variable {args : List Text} {o : Options} {env : Environment} {terminal : Bool}

/-- What a run leaves behind is what linting leaves behind, but for the log: `run` only adds the
    lines that it logs before. -/
theorem run_eq_lintOutcome (hargs : Invocation.ofArgs? args = some (.run o))
    (hlint : o.listRules = false) (env : Environment) (terminal : Bool) (files : FileTree)
    (net : Network) :
    (run args env terminal files net).status = (lintOutcome o env terminal files net).status ∧
      (run args env terminal files net).output = (lintOutcome o env terminal files net).output ∧
      (run args env terminal files net).files = (lintOutcome o env terminal files net).files := by
  unfold run
  rw [hargs]
  simp [runWith, hlint]

/-- **A run without an input** (`InputError`) has the exit status 1, prints nothing on standard
    output and leaves all files as they are, those of an export included. -/
theorem run_inputError (hargs : Invocation.ofArgs? args = some (.run o))
    (hlint : o.listRules = false) (h : InputError files net (o.targetIn env)) :
    (run args env terminal files net).status = 1 ∧
      (run args env terminal files net).output = [] ∧
      (run args env terminal files net).files = files := by
  obtain ⟨hstatus, houtput, hfiles⟩ := run_eq_lintOutcome hargs hlint env terminal files net
  rw [hstatus, houtput, hfiles]
  unfold Options.targetIn at h
  unfold lintOutcome
  cases hinput : o.inputIn env with
  | none => exact ⟨rfl, rfl, rfl⟩
  | some input =>
    rw [hinput, Option.map_some] at h
    obtain ⟨failure, hresult⟩ := lintTarget_of_inputError (loadConfig files o.configPath).1 h
    simp [hresult, refused]

/-- The options of a command line that names a site and a place for the export. -/
def siteOptions : Options :=
  { Options.none with input := some "s".toList, report := some "r.json".toList }

/-- No right to read or write. -/
def noAccess : Files.Access := ⟨false, false, false⟩

/-- A page with a finding, and another one that may not be read. -/
def lockedFiles : FileTree :=
  ⟨.dir [("s", .dir [("a.html", .file (Text.encode "<img>") .full),
    ("b.html", .file (Text.encode "<img>") noAccess)] .full)] .full, []⟩

/-- A directory that may be searched, but not listed. -/
def hiddenFiles : FileTree :=
  ⟨.dir [("s", .dir [("a.html", .file (Text.encode "<img>") .full)] ⟨false, true, true⟩)] .full, []⟩

/-- In the site of `lockedFiles` the first page is read and has a finding, but the second one cannot
    be read; the one of `hiddenFiles` cannot be listed. -/
theorem run_inputError_lockedFiles :
    lockedFiles.discover .default "s" = .ok ["s/a.html", "s/b.html"] ∧
      lockedFiles.read "s/a.html" = .ok (Text.encode "<img>") ∧
      lint "<img>" "s/a.html" .default .batch ≠ [] ∧
      ((run ["s", "r.json"] [] false lockedFiles fun _ _ => none).status = 1 ∧
        (run ["s", "r.json"] [] false lockedFiles fun _ _ => none).output = [] ∧
        (run ["s", "r.json"] [] false lockedFiles fun _ _ => none).files = lockedFiles) ∧
      hiddenFiles.isDirectory "s" = true ∧
      (run ["s", "r.json"] [] false hiddenFiles fun _ _ => none).status = 1 ∧
      (run ["s", "r.json"] [] false hiddenFiles fun _ _ => none).output = [] ∧
      (run ["s", "r.json"] [] false hiddenFiles fun _ _ => none).files = hiddenFiles := by
  have hdiscover : lockedFiles.discover .default "s" = .ok ["s/a.html", "s/b.html"] := rfl
  have hread : lockedFiles.read "s/b.html" = .error .permissionDenied := rfl
  have hlocked : InputError lockedFiles (fun _ _ => none) (some (.directory "s")) :=
    .unreadable hdiscover (List.mem_cons_of_mem _ List.mem_cons_self) hread
  have hlist : hiddenFiles.list "s" = .error .permissionDenied := rfl
  have hhidden : InputError hiddenFiles (fun _ _ => none) (some (.directory "s")) :=
    .unlistable rfl hlist
  have hargs : Invocation.ofArgs? ["s", "r.json"] = some (.run siteOptions) := by decide
  exact ⟨hdiscover, rfl, by decide +kernel, run_inputError hargs rfl hlocked, rfl,
    run_inputError hargs rfl hhidden⟩

end Command

end AccessLint
