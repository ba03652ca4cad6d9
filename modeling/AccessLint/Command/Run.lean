import AccessLint.Catalogue
import AccessLint.Command.LogFilter
import AccessLint.Command.Options
import AccessLint.Input
import AccessLint.Report.Basic

namespace AccessLint.Command

/-!
# Runs of the program

* `ruleTable` — all rules with their keys, whether they are on, and what they report;
* `Outcome` — all that a run leaves behind;
* `loadConfig` — the configuration of a run, with a warning if there is none;
* `lintTarget` — the findings in a directory or on a page;
* `reported` — the report of some findings;
* `run` — a run, given its arguments and what it finds around it.
-/

open Files (FileTree)
open Web (Network Address Request)

/-! ### The table of rules -/

/-- A row of the table; all columns but the last have a fixed width. -/
def tableRow (name key state reports : Text) : Text :=
  Text.padEnd ' ' 22 name ++ " | " ++ Text.padEnd ' ' 22 key ++ " | " ++
    Text.padEnd ' ' 8 state ++ " | " ++ reports ++ "\n"

/-- The line below the head of the table. -/
def tableRule : Text :=
  List.intercalate "-+-" ([22, 22, 8, 30].map fun n => List.replicate n '-') ++ "\n"

/-- What a rule reports, and whether it is for whole pages only. -/
def reportsOf (r : Rule) : Text :=
  List.intercalate ", " (r.kinds.map Kind.name) ++
    match r.scope with
    | .everywhere => []
    | .wholePages => " (URL input only)"

/-- The row of a rule. -/
def ruleRow (c : Config) (r : Rule) : Text :=
  tableRow r.name r.configKey (if r.isEnabled c then "yes".toList else "no".toList) (reportsOf r)

/-- The table of all rules under a configuration. -/
def ruleTable (c : Config) : Text :=
  tableRow "Rule" "Config key" "Enabled" "Reports" ++ tableRule ++ catalogue.flatMap (ruleRow c)

/-! ### What a run leaves behind -/

/-- What a run leaves behind: its exit status, its output and log, the files and its requests. -/
structure Outcome where
  status : Nat
  output : Text
  log : List LogEntry
  files : FileTree
  requests : List Request

/-- How the program calls itself in its requests. -/
def userAgent : Text := programName ++ "/" ++ programVersion

/-- The configuration in a file; if there is none, the default one and a warning. -/
def loadConfig (files : FileTree) (path : Text) : Config × List LogEntry :=
  let content := files.read path
  (Config.load content, match Config.ofFile content with
    | .ok _ => []
    | .error failure => [⟨.configuration, .warn,
      ("No config file found or invalid JSON at " : Text) ++ path ++ " (" ++ failure.message ++
        "). Using default rules."⟩])

/-- The findings of a run, or why there are none, with its log and its requests. -/
structure Linted where
  result : Except InputFailure (List Finding)
  log : List LogEntry
  requests : List Address

/-- The findings on some pages. -/
def lintPages (c : Config) (mode : LintMode) (pages : List Page) : List Finding :=
  pages.flatMap fun p => lint p.text p.label c mode

/-- The findings in the files below a directory. -/
def lintDirectory (c : Config) (files : FileTree) (path : Text) : Linted :=
  match requireDirectory files path with
  | .error failure => ⟨.error failure, [], []⟩
  | .ok () =>
    match files.discover .default path with
    | .error failure => ⟨.error (.undiscovered failure), [], []⟩
    | .ok paths =>
      let count := Text.ofNat paths.length
      let discovered : LogEntry := ⟨.discovery, .info, ("Discovered " : Text) ++ count ++ " files to lint"⟩
      match readPages files paths with
      | .error failure => ⟨.error failure, [discovered], []⟩
      | .ok pages =>
        ⟨.ok (lintPages c .batch pages),
          [discovered, ⟨.linting, .info, ("Checked " : Text) ++ count ++ " files"⟩], []⟩

/-- The findings on the page at an address. -/
def lintAddress (c : Config) (net : Network) (url : Text) : Linted :=
  let (requests, page) := loadPage net url
  ⟨page.map fun p => lintPages c .single [p], [], requests⟩

/-- The findings in a directory or on a page. -/
def lintTarget (c : Config) (files : FileTree) (net : Network) : Target → Linted
  | .url url => lintAddress c net url
  | .directory path => lintDirectory c files path

/-- The line for no findings. -/
def successLine (color : Bool) : Text :=
  (if color then Report.bolded (Report.coloured .green successText) else successText) ++ "\n"
where
  successText : Text := "✅ No accessibility issues found!"

/-- The line for an export. -/
def exportLine (color : Bool) (path : Text) : Text :=
  let message := ("📦 Results exported to " : Text) ++ path
  (if color then Report.coloured .blue message else message) ++ "\n"

/-- The report of some findings: whether they are also exported, and to where. -/
def reported (color : Bool) (export? : Option Text) (files : FileTree) (fs : List Finding) :
    Outcome :=
  if fs.isEmpty then
    ⟨0, successLine color, [], files, []⟩
  else
    let output := Report.detailed color fs ++ Report.summary color fs
    match export? with
    | none => ⟨1, output, [], files, []⟩
    | some path =>
      match files.write path (Text.encode (Report.exported fs)) with
      | .ok written =>
        ⟨1, output ++ exportLine color path, [], written, []⟩
      | .error fault =>
        let warning : LogEntry := ⟨.linting, .warn,
          ("Failed to export JSON to " : Text) ++ path ++ ": " ++ fault.message⟩
        ⟨1, output, [warning], files, []⟩

/-- The outcome of a failure. -/
def refused (files : FileTree) (failure : InputFailure) : Outcome :=
  ⟨1, [], [⟨.program, .error, failure.message⟩], files, []⟩

/-- The outcome of linting with some options, with the whole log. -/
def lintOutcome (o : Options) (env : Environment) (terminal : Bool) (files : FileTree)
    (net : Network) : Outcome :=
  match o.inputIn env with
  | none => refused files .missing
  | some input =>
    let (config, warnings) := loadConfig files o.configPath
    let linted := lintTarget config files net (.ofText input)
    let color := terminal && !o.noColor && (env.lookup ("NO_COLOR" : Text)).isNone
    let outcome := match linted.result with
      | .ok fs => reported color (o.reportIn env) files fs
      | .error failure => refused files failure
    { outcome with
      log := warnings ++ linted.log ++ outcome.log
      requests := linted.requests.map (.forPage userAgent) }

/-- The outcome of listing the rules. -/
def listOutcome (o : Options) (files : FileTree) : Outcome :=
  let (config, warnings) := loadConfig files o.configPath
  ⟨0, ruleTable config, warnings, files, []⟩

/-- What the log shows: a variable decides if it is well formed, else the options. -/
def logFilter (o : Options) (env : Environment) : LogFilter :=
  ((env.lookup ("RUST_LOG" : Text)).bind LogFilter.ofText?).getD [.forAll (if o.verbose then 4 else 3)]

/-- A run with some options. -/
def runWith (o : Options) (env : Environment) (terminal : Bool) (files : FileTree)
    (net : Network) : Outcome :=
  let outcome :=
    if o.listRules then listOutcome o files else lintOutcome o env terminal files net
  { outcome with log := (logFilter o env).shown outcome.log }

/-- How the program is used. -/
def usage : Text :=
  "Usage: a11ylint [OPTIONS] [INPUT] [REPORT]\n".toList

/-- A run of the program: from its arguments, its environment, whether its output is a terminal,
    the files and the network. -/
def run (args : List Text) (env : Environment) (terminal : Bool) (files : FileTree)
    (net : Network) : Outcome :=
  match Invocation.ofArgs? args with
  | none => ⟨2, [], [], files, []⟩
  | some .version => ⟨0, programName ++ " " ++ programVersion ++ "\n", [], files, []⟩
  | some .help => ⟨0, usage, [], files, []⟩
  | some (.run o) => runWith o env terminal files net

end AccessLint.Command
