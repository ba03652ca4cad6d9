import AccessLint.Command.Log
import AccessLint.Text.Alphanumeric
import AccessLint.Text.Blank

namespace AccessLint.Command

/-!
# What the log shows

A filter is a list of directives between commas. Levels are ranked from 1 for errors to 5; a
threshold shows the ranks up to it, and 0 shows nothing.

* `Directive` — a threshold for the entries of some parts of the program;
* `Directive.ofText?` — reads a directive;
* `LogFilter.ofText?` — reads a filter;
* `LogFilter.shows` — whether an entry is shown: the most specific directive about it decides.
-/

/-- The names of thresholds, in the order of their numbers. -/
def thresholdNames : List Text := ["off", "error", "warn", "info", "debug", "trace"]

/-- The threshold that shows everything. -/
def showAll : Nat := 5

/-- The threshold of a number, or of a name in any case. -/
def thresholdOf? (t : Text) : Option Nat :=
  let ds := (List.isPrefixOf? "+" t).getD t
  if !ds.isEmpty && ds.all Char.isDigit then
    let n := Text.natOfDigits ds
    if n ≤ showAll then some n else none
  else thresholdNames.findIdx? fun name => name == Text.lower t

/-- What a field must be like: a name, and whether a value is asked for as well. -/
structure FieldTest where
  name : Text
  hasValue : Bool
deriving DecidableEq

/-- A directive: the name that the parts start with, whether it is about the inside of a span, the
    test of a field, and the threshold. -/
structure Directive where
  target : Text
  inSpan : Bool
  field : Option FieldTest
  threshold : Nat
deriving DecidableEq

namespace Directive

/-- A threshold for all entries. -/
def forAll (threshold : Nat) : Directive := ⟨[], false, none, threshold⟩

/-- Whether a character may start a directive, apart from a bracket. -/
def canStart (c : Char) : Bool := Text.isAlphanumeric c || c == '-' || c == ':' || c == '_'

/-- The test between braces. -/
def fieldOf? (t : Text) : Option FieldTest :=
  if t.isEmpty then none
  else
    let (name, value) := Text.cut (· == '=') t
    some ⟨Text.trim name, value.isSome⟩

/-- What stands between two places of a text. -/
def part (t : Text) (i j : Nat) : Text := (t.take j).drop i

/-- The threshold from a place on; nothing at all shows everything. -/
def thresholdFrom? (t : Text) (i : Nat) : Option Nat :=
  let name := t.drop i
  if name.isEmpty then some showAll else thresholdOf? name

/-- Completes a directive by the threshold that may follow at a place. -/
def complete? (t s : Text) (i : Nat) (d : Directive) : Option Directive :=
  match s.drop i with
  | [] => some d
  | '=' :: _ => (thresholdFrom? t (i + 1)).map fun n => { d with threshold := n }
  | _ => none

/-- Reads a span from the place after its bracket, with a field between braces. -/
def readSpan? (t s : Text) (target : Text) (i : Nat) : Option Directive :=
  let j := i + ((s.drop i).takeWhile fun c => c != ']' && c != '{').length
  match s.drop j with
  | [] => none
  | ']' :: _ => complete? t s (j + 1) ⟨target, true, none, showAll⟩
  | _ :: r =>
    let k := j + 1 + (r.takeWhile (· != '}')).length
    match s.drop k, fieldOf? (part t (j + 1) k) with
    | '}' :: ']' :: _, some field =>
      complete? t s (k + 2) ⟨target, !(part t i j).isEmpty, some field, showAll⟩
    | _, _ => none

/-- Reads a directive: a threshold alone, or a target, a span between brackets, and a threshold
    after an equals sign; without a threshold everything is shown. The places are counted in the
    text without the blanks around it, but what stands there is taken from the whole text. -/
def ofText? (t : Text) : Option Directive :=
  let s := Text.trim t
  match s with
  | [] => none
  | '[' :: _ => readSpan? t s [] 1
  | c :: _ =>
    if !canStart c then none
    else
      let i := (s.takeWhile fun c => c != '=' && c != '[').length
      match s.drop i with
      | [] => some (match thresholdOf? t with
        | some n => forAll n
        | none => ⟨t, false, none, showAll⟩)
      | '=' :: _ => complete? t s i ⟨part t 0 i, false, none, showAll⟩
      | _ => readSpan? t s (part t 0 i) (i + 1)

/-- Whether a directive can decide about entries, of which none is inside a span. -/
def isStatic (d : Directive) : Bool := !d.inSpan && !d.field.any FieldTest.hasValue

/-- Whether a directive is about an entry, whose only field is its message. -/
def isAbout (d : Directive) (e : LogEntry) : Bool :=
  List.isPrefixOf d.target e.part.name && d.field.all fun f => f.name == ("message" : Text)

/-- Whether a directive is at least as specific as another one: a longer target, or as long a one
    with at least as many fields. -/
def refines (d other : Directive) : Bool :=
  other.target.length < d.target.length ||
    (other.target.length == d.target.length && (d.field.isSome || other.field.isNone))

end Directive

/-- A filter: its directives. -/
abbrev LogFilter := List Directive

namespace LogFilter

/-- Reads a filter, of which empty parts do not count. A filter without directives shows errors. -/
def ofText? (t : Text) : Option LogFilter := do
  let ds ← (Text.words (· == ',') t).mapM Directive.ofText?
  return if ds.isEmpty then [.forAll Level.error.rank] else ds.filter Directive.isStatic

/-- Of the directives about an entry the most specific one; of equals the last. -/
def deciding? (f : LogFilter) (e : LogEntry) : Option Directive :=
  (f.filter (·.isAbout e)).foldl (fun best d =>
    if best.all d.refines then some d else best) none

/-- Whether an entry is shown. -/
def shows (f : LogFilter) (e : LogEntry) : Bool :=
  (f.deciding? e).any fun d => e.level.rank ≤ d.threshold

/-- The entries that are shown, as they are written. -/
def shown (f : LogFilter) (log : List LogEntry) : List LogEntry :=
  (log.filter f.shows).map LogEntry.written

end LogFilter

end AccessLint.Command
