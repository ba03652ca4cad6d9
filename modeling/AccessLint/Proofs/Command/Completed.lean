import AccessLint.Proofs.Command.Failure
import AccessLint.Proofs.Files.Write
import AccessLint.Proofs.Text.Utf8

namespace AccessLint.Command

/-!
# Runs on a directory

A run whose input can be read reports the findings of all files that it discovers. The report is
printed, and also exported if that was asked for; the exit status says whether there are findings.

* `fileFindings` — the findings in one file;
* `Completed` — what a run leaves behind that has reported some findings;
* `completed_reported` — the report of some findings is complete;
* `run_directory` — a run on a directory reports the findings of its files, one after the other.
-/

open Files (FileTree)
open Web (Network)

/-- The findings in a file of many; the file is read as text, and its path is their label. -/
def fileFindings (files : FileTree) (c : Config) (path : Text) : List Finding :=
  match files.read path with
  | .ok bytes => lint (Text.decodeLossy bytes) path c .batch
  | .error _ => []

/-- Whether the output of a run is coloured. -/
def Options.colorIn (o : Options) (env : Environment) (terminal : Bool) : Bool :=
  terminal && !o.noColor && (env.lookup ("NO_COLOR" : Text)).isNone

/-! ### Reports -/

/-- The text for some findings: all of them, and a table of their kinds. -/
def findingsText (color : Bool) (fs : List Finding) : Text :=
  Report.detailed color fs ++ Report.summary color fs

/-- The bytes of an export. -/
def exportBytes (fs : List Finding) : List UInt8 := Text.encode (Report.exported fs)

/-- How an export goes: it was not asked for; or the file was written, and its path is confirmed; or
    it could not be written, and no file has changed. -/
inductive Exported (before : FileTree) (fs : List Finding) :
    (asked confirmed : Option Text) → (after : FileTree) → Prop
  | unasked : Exported before fs none none before
  | written {path : Text} {after : FileTree} : before.write path (exportBytes fs) = .ok after →
      before.Wrote after path (exportBytes fs) → Exported before fs (some path) (some path) after
  | failed {path : Text} {fault : FileFault} :
      before.write path (exportBytes fs) = .error fault → Exported before fs (some path) none before

/-- What a run leaves behind that has reported some findings. Without findings there is one line of
    output, and no file changes. With findings there is their text, and the line for an export after
    it if one is confirmed; the export changes at most its own file. -/
structure Completed (before : FileTree) (color : Bool) (asked : Option Text) (fs : List Finding)
    (out : Outcome) : Prop where
  status : out.status = if fs = [] then 0 else 1
  success : out.output = successLine color ↔ fs = []
  clean : fs = [] → out.files = before
  found : fs ≠ [] → ∃ confirmed, Exported before fs asked confirmed out.files ∧
    out.output = findingsText color fs ++ confirmed.elim [] (exportLine color)

/-- The text for findings (`findingsText`) starts with an empty line, so it is never the line for
    none (`successLine`): a reader of the output can tell the two apart. -/
theorem findingsText_append_ne (color : Bool) (fs : List Finding) (more : Text) :
    findingsText color fs ++ more ≠ successLine color := by
  intro heq
  have hhead : (findingsText color fs ++ more).head? = some '\n' := rfl
  have hother : ∀ color, (successLine color).head? ≠ some '\n' := by decide
  rw [heq] at hhead
  exact hother color hhead

/-- What `reported` gives for findings, with an export as it goes (`Exported`). The cases are no
    export, an export that is written and one that fails. -/
theorem reported_found (color : Bool) (asked : Option Text) (files : FileTree)
    {fs : List Finding} (hfs : fs ≠ []) :
    (reported color asked files fs).status = 1 ∧
      ∃ confirmed, Exported files fs asked confirmed (reported color asked files fs).files ∧
        (reported color asked files fs).output =
          findingsText color fs ++ confirmed.elim [] (exportLine color) := by
  have hempty : fs.isEmpty = false := by simpa using hfs
  -- the exit status and the output depend on the export only through the line that confirms it
  cases asked with
  | none =>
    have hreported : reported color none files fs =
        ⟨1, findingsText color fs, [], files, []⟩ := by
      simp [reported, hempty, findingsText]
    rw [hreported]
    exact ⟨rfl, none, .unasked, by simp⟩
  | some path =>
    cases hwrite : files.write path (exportBytes fs) with
    | ok after =>
      have hwritten : files.write path (Text.encode (Report.exported fs)) = .ok after := hwrite
      have hreported : reported color (some path) files fs =
          ⟨1, findingsText color fs ++ exportLine color path, [], after, []⟩ := by
        simp [reported, hempty, hwritten, findingsText]
      rw [hreported]
      exact ⟨rfl, some path, .written hwrite (FileTree.write_wrote hwrite), rfl⟩
    | error fault =>
      have hfailed : files.write path (Text.encode (Report.exported fs)) = .error fault := hwrite
      refine ⟨?_, none, ?_, ?_⟩
      · simp [reported, hempty, hfailed]
      · have hfiles : (reported color (some path) files fs).files = files := by
          simp [reported, hempty, hfailed]
        rw [hfiles]
        exact .failed hwrite
      · simp [reported, hempty, hfailed, findingsText]

/-- **The report of some findings is complete**, whether or not it can be exported: `reported` meets
    `Completed` in every case. -/
theorem completed_reported (color : Bool) (asked : Option Text) (files : FileTree)
    (fs : List Finding) : Completed files color asked fs (reported color asked files fs) := by
  by_cases hfs : fs = []
  · have hreported : reported color asked files fs = ⟨0, successLine color, [], files, []⟩ := by
      rw [hfs]
      rfl
    rw [hreported]
    exact ⟨by simp [hfs], by simp [hfs], fun _ => rfl, fun h => absurd hfs h⟩
  · obtain ⟨hstatus, confirmed, hexported, houtput⟩ := reported_found color asked files hfs
    refine ⟨by rw [hstatus, if_neg hfs], ?_, fun h => absurd h hfs, ?_⟩
    · rw [houtput]
      constructor
      · intro heq
        exact absurd heq (findingsText_append_ne color fs _)
      · intro h
        exact absurd h hfs
    · intro _
      exact ⟨confirmed, hexported, houtput⟩

/-- Only the status, the output and the files of an `Outcome` count for `Completed`, so a log may be
    added to it. -/
theorem Completed.of_eq {before : FileTree} {color : Bool} {asked : Option Text}
    {fs : List Finding} {out out' : Outcome} (h : Completed before color asked fs out)
    (hstatus : out'.status = out.status) (houtput : out'.output = out.output)
    (hfiles : out'.files = out.files) : Completed before color asked fs out' := by
  obtain ⟨hs, ho, hclean, hfound⟩ := h
  rw [← hstatus] at hs
  rw [← houtput] at ho hfound
  rw [← hfiles] at hclean hfound
  exact ⟨hs, ho, hclean, hfound⟩

/-! ### Directories -/

/-- The findings on the pages of some files are those of `fileFindings` in one file after the other,
    each read as text and labelled with its path. -/
theorem lintPages_eq_flatMap {files : FileTree} (c : Config) {paths : List Text}
    {pages : List Page} (h : readPages files paths = .ok pages) :
    (∀ path ∈ paths, ∃ bytes, files.read path = .ok bytes) ∧
      lintPages c .batch pages = paths.flatMap (fileFindings files c) := by
  induction paths generalizing pages with
  | nil =>
    cases h
    simp [lintPages]
  | cons first paths ih =>
    -- with a file that cannot be read there are no pages, neither from it nor from the others
    cases hread : files.read first with
    | error fault =>
      rw [readPages, readPage, hread] at h
      cases h
    | ok bytes =>
      cases hrest : readPages files paths with
      | error failure =>
        rw [readPages, readPage, hread, hrest] at h
        cases h
      | ok rest =>
        rw [readPages, readPage, hread, hrest] at h
        cases h
        obtain ⟨hreadable, hflat⟩ := ih hrest
        refine ⟨?_, ?_⟩
        · intro path hpath
          rcases List.mem_cons.mp hpath with rfl | hpath
          · exact ⟨bytes, hread⟩
          · exact hreadable path hpath
        · have hfirst : fileFindings files c first =
              lint (Text.decodeLossy bytes) first c .batch := by
            simp [fileFindings, hread]
          unfold lintPages at hflat ⊢
          rw [List.flatMap_cons, List.flatMap_cons, hfirst, hflat]
          -- the pages were decoded with `decode`, which agrees with `decodeLossy`
          dsimp only
          rw [Text.decode_eq_decodeLossy]

/-- A directory that can be read has the findings of the files that are discovered in it: no finding
    is dropped or moved between `lintPages` and the result. -/
theorem lintDirectory_eq_ok {files : FileTree} {net : Network} (c : Config) {root : Text}
    (h : ¬ InputError files net (some (.directory root))) :
    ∃ paths, files.discover .default root = .ok paths ∧
      (∀ path ∈ paths, ∃ bytes, files.read path = .ok bytes) ∧
      (lintDirectory c files root).result = .ok (paths.flatMap (fileFindings files c)) := by
  obtain ⟨paths, pages, hdiscover, hpages, hresult⟩ := exists_pages c h
  obtain ⟨hreadable, hflat⟩ := lintPages_eq_flatMap c hpages
  rw [hflat] at hresult
  exact ⟨paths, hdiscover, hreadable, hresult⟩

variable {args : List Text} {o : Options} {env : Environment} {files : FileTree} {net : Network}
  {root : Text}

/-- **A run on a directory** without an input error is `Completed` with the findings of all files
    that are discovered in it, one file after the other, under the configuration that is loaded. -/
theorem run_directory (hargs : Invocation.ofArgs? args = some (.run o))
    (hlint : o.listRules = false) (htarget : o.targetIn env = some (.directory root))
    (h : ¬ InputError files net (some (.directory root))) (terminal : Bool) :
    ∃ paths, files.discover .default root = .ok paths ∧
      (∀ path ∈ paths, ∃ bytes, files.read path = .ok bytes) ∧
      Completed files (o.colorIn env terminal) (o.reportIn env)
        (paths.flatMap (fileFindings files (Config.load (files.read o.configPath))))
        (run args env terminal files net) := by
  obtain ⟨paths, hdiscover, hreadable, hresult⟩ :=
    lintDirectory_eq_ok (Config.load (files.read o.configPath)) h
  refine ⟨paths, hdiscover, hreadable, ?_⟩
  obtain ⟨hstatus, houtput, hfiles⟩ := run_eq_lintOutcome hargs hlint env terminal files net
  refine Completed.of_eq ?_ hstatus houtput hfiles
  obtain ⟨input, hinput, hdirectory⟩ := Option.map_eq_some_iff.mp htarget
  have hreported := completed_reported (o.colorIn env terminal) (o.reportIn env) files
    (paths.flatMap (fileFindings files (Config.load (files.read o.configPath))))
  have hlinted : (lintTarget (loadConfig files o.configPath).1 files net (.ofText input)).result =
      .ok (paths.flatMap (fileFindings files (Config.load (files.read o.configPath)))) := by
    rw [hdirectory]
    exact hresult
  -- apart from the log, the outcome is the report
  refine hreported.of_eq ?_ ?_ ?_ <;> simp [lintOutcome, hinput, hlinted, Options.colorIn]

/-- A directory with one page, which has a finding. -/
def pageFiles : FileTree :=
  ⟨.dir [("s", .dir [("a.html", .file (Text.encode "<img>") .full)] .full)] .full, []⟩

/-- The finding on the page of `pageFiles` is printed and exported, and the line that confirms the
    export names the file. -/
theorem run_directory_pageFiles :
    lint "<img>" "s/a.html" .default .batch ≠ [] ∧
      (run ["s", "r.json"] [] false pageFiles fun _ _ => none).status = 1 ∧
      (run ["s", "r.json"] [] false pageFiles fun _ _ => none).output =
        findingsText false (lint "<img>" "s/a.html" .default .batch) ++
          exportLine false "r.json" ∧
      (run ["s", "r.json"] [] false pageFiles fun _ _ => none).files.read "r.json" =
        .ok (exportBytes (lint "<img>" "s/a.html" .default .batch)) := by
  have hdiscover : pageFiles.discover .default "s" = .ok ["s/a.html".toList] := rfl
  have hread : pageFiles.read "s/a.html" = .ok (Text.encode "<img>") := rfl
  have hnone : ¬ InputError pageFiles (fun _ _ => none) (some (.directory "s")) := by
    intro h
    cases h with
    | notADirectory hdir => cases hdir
    | unlistable hdir hlist => cases hlist
    | unreadable hpaths hpath hfault =>
      rw [hdiscover] at hpaths
      cases hpaths
      rw [List.mem_singleton.mp hpath, hread] at hfault
      cases hfault
  have hargs : Invocation.ofArgs? ["s", "r.json"] = some (.run siteOptions) := by decide
  have htarget : siteOptions.targetIn [] = some (.directory "s") := rfl
  have hfindings : lint "<img>" "s/a.html" .default .batch ≠ [] := by decide +kernel
  obtain ⟨paths, hpaths, -, hcompleted⟩ := run_directory hargs rfl htarget hnone false
  rw [hdiscover] at hpaths
  cases hpaths
  -- there is no configuration file, so the default one is used
  have hconfig : Config.load (pageFiles.read siteOptions.configPath) = .default := rfl
  have hfound : ["s/a.html".toList].flatMap (fileFindings pageFiles .default) =
      lint "<img>" "s/a.html" .default .batch := by
    rw [List.flatMap_singleton, fileFindings, hread]
    rfl
  rw [hconfig, hfound] at hcompleted
  obtain ⟨confirmed, hexported, houtput⟩ := hcompleted.found hfindings
  have hstatus := hcompleted.status
  rw [if_neg hfindings] at hstatus
  have hasked : siteOptions.reportIn [] = some "r.json".toList := rfl
  rw [hasked] at hexported
  cases hexported with
  | written hwritten _ =>
    -- the new file may be read, whatever its content is
    have hnew : ∀ content, ∃ after, pageFiles.write "r.json" content = .ok after ∧
        after.read "r.json" = .ok content := fun content => ⟨_, rfl, rfl⟩
    obtain ⟨after, hafter, hcontent⟩ := hnew (exportBytes (lint "<img>" "s/a.html" .default .batch))
    have hfiles := Except.ok.inj (hafter.symm.trans hwritten)
    rw [hfiles] at hcontent
    exact ⟨hfindings, hstatus, houtput, hcontent⟩

end AccessLint.Command
