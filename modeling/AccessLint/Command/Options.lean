import AccessLint.Text.Blank

namespace AccessLint.Command

/-!
# Command lines

* `Options` — what a command line asks for;
* `Invocation` — a run with options, or one of the two texts about the program;
* `Invocation.ofArgs?` — reads a command line;
* `Options.inputIn`, `Options.reportIn` — the input and the report, which variables can override.
-/

/-- What a command line asks for; nothing is given twice. -/
structure Options where
  input : Option Text
  report : Option Text
  config : Option Text
  verbose : Bool
  noColor : Bool
  listRules : Bool
deriving DecidableEq

namespace Options

/-- The options before any argument. -/
def none : Options := ⟨.none, .none, .none, false, false, false⟩

/-- The configuration file, which has a default. -/
def configPath (o : Options) : Text := o.config.getD "a11y.config.json".toList

/-- Takes the configuration file. -/
def withConfig? (o : Options) (path : Text) : Option Options :=
  if o.config.isSome || path.isEmpty then .none else some { o with config := some path }

/-- Takes a positional argument: the input, then the report. -/
def withPositional? (o : Options) (t : Text) : Option Options :=
  if o.input.isNone then some { o with input := some t }
  else if o.report.isSome || t.isEmpty then .none
  else some { o with report := some t }

/-- Takes the flag for more messages. -/
def withVerbose? (o : Options) : Option Options :=
  if o.verbose then .none else some { o with verbose := true }

end Options

/-- What a command line stands for. -/
inductive Invocation where
  | run (o : Options)
  | version
  | help
deriving DecidableEq

/-- What reading one argument gives: the options so far, of which the configuration file may still
    be due, or the end of reading. -/
inductive Reading where
  | more (o : Options) (configDue : Bool)
  | done (i : Invocation)

/-- Reads the letters of an argument after its single dash. -/
def readLetters? (o : Options) : Text → Option Reading
  | [] => some (.more o false)
  | 'v' :: r => o.withVerbose?.bind fun o => readLetters? o r
  | 'V' :: _ => some (.done .version)
  | 'h' :: _ => some (.done .help)
  | 'c' :: r =>
    match r with
    | [] => if o.config.isSome then none else some (.more o true)
    | '=' :: path => (o.withConfig? path).map (.more · false)
    | path => (o.withConfig? path).map (.more · false)
  | _ => none

/-- Reads a word after two dashes, with the value after its equals sign. -/
def readWord? (o : Options) (word : Text) (value : Option Text) : Option Reading :=
  if word = "config" then
    match value with
    | some path => (o.withConfig? path).map (.more · false)
    | none => if o.config.isSome then none else some (.more o true)
  else if value.isSome then none
  else if word = "verbose" then o.withVerbose?.map (.more · false)
  else if word = "no-color" then
    if o.noColor then none else some (.more { o with noColor := true } false)
  else if word = "list-rules" then
    if o.listRules then none else some (.more { o with listRules := true } false)
  else if word = "version" then some (.done .version)
  else if word = "help" then some (.done .help)
  else none

/-- Whether an argument cannot be a value: a single dash can. -/
def isOption (arg : Text) : Bool := arg.head? == some '-' && arg.length > 1

/-- Reads an argument that is no value. -/
def readArg? (o : Options) (arg : Text) : Option Reading :=
  if !isOption arg then (o.withPositional? arg).map (.more · false)
  else match List.isPrefixOf? "--" arg with
    | some r => let (word, value) := Text.cut (· == '=') r; readWord? o word value
    | none => readLetters? o (arg.drop 1)

/-- Reads arguments; after two dashes alone all are positional. -/
def readArgs? (o : Options) (configDue : Bool) : List Text → Option Invocation
  | [] => if configDue then none else some (.run o)
  | arg :: rest =>
    if configDue then
      if isOption arg then none else (o.withConfig? arg).bind fun o => readArgs? o false rest
    else if arg = "--" then (rest.foldlM Options.withPositional? o).map .run
    else match readArg? o arg with
      | some (.more o configDue) => readArgs? o configDue rest
      | some (.done i) => some i
      | none => none

/-- Reads a command line. -/
def Invocation.ofArgs? (args : List Text) : Option Invocation := readArgs? Options.none false args

/-! ### Variables -/

/-- The variables of an environment. -/
abbrev Environment := List (Text × Text)

/-- The value of a variable, if it is not blank. -/
def nonBlank? (env : Environment) (name : Text) : Option Text :=
  (env.lookup name).filter fun v => !Text.isBlank v

/-- The input: one of two variables, or the first positional argument unless it is empty. -/
def Options.inputIn (o : Options) (env : Environment) : Option Text :=
  nonBlank? env "INPUT_URL" <|> nonBlank? env "INPUT_INPUT" <|> o.input.filter (!·.isEmpty)

/-- The report: a variable, or the second positional argument. -/
def Options.reportIn (o : Options) (env : Environment) : Option Text :=
  nonBlank? env "INPUT_REPORT" <|> o.report

end AccessLint.Command
