import AccessLint.Files.Path
import AccessLint.Json.Basic
import AccessLint.Json.Relaxed
import AccessLint.Text.Encoding

namespace AccessLint

/-!
# Configuration

A configuration maps keys to options. A key is the configuration key of a rule, its name, or the
name of one optional check; only the option `false` turns anything off.

* `Config.isEnabled`, `Config.set` — asking for and changing one key;
* `Config.ofText` — the configuration that a text describes;
* `Config.ofFile`, `Config.load` — the same for the content of a file; `load` never fails;
* `Config.toJson` — the object that describes a configuration.
-/

/-- The option of one key. -/
inductive RuleOption where
  | enabled (b : Bool)
  | other (value : Json)

/-- Whether an option leaves its rule on. -/
def RuleOption.isEnabled : RuleOption → Bool
  | enabled b => b
  | other _ => true

/-- The option that a value describes. -/
def RuleOption.ofJson : Json → RuleOption
  | .bool b => enabled b
  | v => other v

/-- The value that describes an option. -/
def RuleOption.toJson : RuleOption → Json
  | enabled b => .bool b
  | other v => v

/-- The options of a run; no key occurs twice. -/
structure Config where
  rules : List (Text × RuleOption)

namespace Config

/-- The default configuration, in which every rule is on. -/
def default : Config := ⟨[]⟩

/-- The option stored under a key. -/
def get? (c : Config) (key : Text) : Option RuleOption := c.rules.lookup key

/-- Whether a key is on; an absent key is. -/
def isEnabled (c : Config) (key : Text) : Bool :=
  match c.get? key with
  | some o => o.isEnabled
  | none => true

/-- Turns a key on or off. -/
def set (c : Config) (key : Text) (on : Bool) : Config := ⟨Keyed.put key (.enabled on) c.rules⟩

/-- The object that describes a configuration. -/
def toJson (c : Config) : Json :=
  .obj [("rules", .obj (c.rules.map fun (k, o) => (k, o.toJson)))]

/-- The options that a value describes. -/
def rulesOfJson : Json → Except ShapeError (List (Text × RuleOption))
  | .obj members => .ok (members.map fun (k, v) => (k, RuleOption.ofJson v))
  | v => .error (.wrongType v "a map")

/-- The configuration that a value describes: an object, of which only `rules` counts, or an array
    that holds the rules. -/
def ofJson : Json → Except ShapeError Config
  | .obj members =>
    match members.lookup ("rules" : Text) with
    | none => .ok default
    | some v => (rulesOfJson v).map fun rs => ⟨rs⟩
  | .arr [] => .ok default
  | .arr (v :: vs) => do
    let rs ← rulesOfJson v
    if vs.isEmpty then return ⟨rs⟩
    else .error (.wrongLength (vs.length + 1) "fewer elements in array")
  | v => .error (.wrongType v "struct RuleConfig")

/-- Why there is no configuration. -/
inductive Failure where
  | unreadable (fault : FileFault)
  | malformed (source : Text) (failure : Json.Relaxed.Failure)
  | empty
  | shape (error : ShapeError)

/-- The wording of a failure. -/
def Failure.message (f : Failure) : Text :=
  "Configuration error: " ++ match f with
    | .unreadable fault => ("Failed to read config: " : Text) ++ fault.message
    | .malformed source failure => ("Invalid JSON: " : Text) ++ failure.describe source
    | .empty => "Config file is empty"
    | .shape error => ("Invalid config: " : Text) ++ error.message

/-- The configuration that a text describes. -/
def ofText (t : Text) : Except Failure Config :=
  match Json.Relaxed.read t with
  | .error failure => .error (.malformed t failure)
  | .ok none => .error .empty
  | .ok (some v) => (ofJson v).mapError Failure.shape

/-- The configuration in a file, given what reading the file gave. -/
def ofFile (content : Except FileFault (List UInt8)) : Except Failure Config :=
  match content with
  | .error fault => .error (.unreadable fault)
  | .ok bytes =>
    match Text.decode? bytes with
    | none => .error (.unreadable .notUtf8)
    | some t => ofText t

/-- The configuration in a file, or the default one if there is none. -/
def load (content : Except FileFault (List UInt8)) : Config :=
  match ofFile content with
  | .ok c => c
  | .error _ => default

end Config

end AccessLint
