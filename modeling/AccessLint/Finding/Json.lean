import AccessLint.Finding
import AccessLint.Json.Basic

namespace AccessLint

/-!
# Findings as JSON

* `Finding.toJson` — an object of the fields file, line, type and message;
* `Kind.ofJson` — a kind from its name, or from an object whose only key is its name;
* `Finding.ofJson` — a finding from such an object, or from an array of its four fields;
* `Finding.listOfJson` — a list of findings.
-/

/-- The object of a finding. -/
def Finding.toJson (f : Finding) : Json :=
  .obj [("file", .str f.file), ("line", .ofNat f.line), ("type", .str f.kind.name),
    ("message", .str f.message)]

/-- The kind of a name, or the error that lists all names. -/
def Kind.ofName (t : Text) : Except ShapeError Kind :=
  match Kind.ofName? t with
  | some k => .ok k
  | none => .error (.unknownName t (Kind.all.map Kind.name))

/-- The kind that a value stands for. -/
def Kind.ofJson : Json → Except ShapeError Kind
  | .str t => Kind.ofName t
  | .obj [(t, v)] => do
    let k ← Kind.ofName t
    match v with
    | .null => return k
    | v => .error (.wrongType v "unit")
  | v@(.obj _) => .error (.wrongValue v "map with a single key")
  | v => .error (.wrongType v "string or map")

/-- The text that a value stands for. -/
def Json.toText : Json → Except ShapeError Text
  | .str t => .ok t
  | v => .error (.wrongType v "a string")

/-- The line number that a value stands for. -/
def Json.toLine : Json → Except ShapeError Nat
  | v@(.num (.int n)) => if 0 ≤ n then .ok n.toNat else .error (.wrongValue v "usize")
  | v => .error (.wrongType v "usize")

/-- The fields of a finding that are known so far. -/
structure Finding.Fields where
  file : Option Text
  line : Option Nat
  kind : Option Kind
  message : Option Text

/-- Takes one member of an object; members of other names are ignored. -/
def Finding.Fields.take (fs : Finding.Fields) (member : Text × Json) :
    Except ShapeError Finding.Fields :=
  let (key, v) := member
  if key = "file" then v.toText.map fun t => { fs with file := some t }
  else if key = "line" then v.toLine.map fun n => { fs with line := some n }
  else if key = "type" then (Kind.ofJson v).map fun k => { fs with kind := some k }
  else if key = "message" then v.toText.map fun t => { fs with message := some t }
  else .ok fs

/-- A field that must be there. -/
def ShapeError.require {α : Type} (name : Text) : Option α → Except ShapeError α
  | some a => .ok a
  | none => .error (.missingField name)

/-- The field at a place of an array, which must have four items. -/
def Finding.itemAt {α : Type} (items : List Json) (place : Nat) (read : Json → Except ShapeError α) :
    Except ShapeError α :=
  match items[place]? with
  | some v => read v
  | none => .error (.wrongLength place "struct Finding with 4 elements")

/-- The finding that a value stands for. The members of an object are looked at in their order, and
    only then is a missing one noticed. -/
def Finding.ofJson : Json → Except ShapeError Finding
  | .obj members => do
    let fs ← members.foldlM Finding.Fields.take ⟨none, none, none, none⟩
    return {
      file := ← ShapeError.require "file" fs.file
      line := ← ShapeError.require "line" fs.line
      kind := ← ShapeError.require "type" fs.kind
      message := ← ShapeError.require "message" fs.message }
  | .arr items => do
    let f : Finding := {
      file := ← itemAt items 0 Json.toText
      line := ← itemAt items 1 Json.toLine
      kind := ← itemAt items 2 Kind.ofJson
      message := ← itemAt items 3 Json.toText }
    if items.length = 4 then return f
    else .error (.wrongLength items.length "fewer elements in array")
  | v => .error (.wrongType v "struct Finding")

/-- The list of findings that a value stands for. -/
def Finding.listOfJson : Json → Except ShapeError (List Finding)
  | .arr items => items.mapM Finding.ofJson
  | v => .error (.wrongType v "a sequence")

end AccessLint
