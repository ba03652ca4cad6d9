import AccessLint.Decimal.Binary
import AccessLint.Decimal.Read
import AccessLint.Decimal.Write
import AccessLint.Text.Keyed
import AccessLint.Text.Quoted

namespace AccessLint

/-!
# JSON values

* `Number` — a whole number in the range of 64-bit words, or a floating-point number;
* `Json` — values, whose objects keep their members in order;
* `Json.object` — an object in which a repeated key has its last value at its first place;
* `Json.get?` — look-up of a member;
* `Number.ofLiteral?` — the number that a decimal literal stands for;
* `ShapeError` — why a value cannot be understood as a finding or a configuration: what was found,
  and what was wanted.
-/

/-- A number: whole between `-2 ^ 63` and `2 ^ 64 - 1`, or floating-point. -/
inductive Number where
  | int (n : Int)
  | real (x : Float)

/-- A JSON value. -/
inductive Json where
  | null
  | bool (b : Bool)
  | num (n : Number)
  | str (t : Text)
  | arr (items : List Json)
  | obj (members : List (Text × Json))

instance : Inhabited Json := ⟨.null⟩

namespace Json

/-- The object of some members; the last value of a repeated key counts. -/
def object (members : List (Text × Json)) : Json :=
  .obj (members.foldl (fun ms m => Keyed.put m.1 m.2 ms) [])

/-- The member `key` of an object. -/
def get? (key : Text) : Json → Option Json
  | .obj members => members.lookup key
  | _ => none

/-- A whole number. -/
def ofNat (n : Nat) : Json := .num (.int n)

end Json

namespace Number

/-- The power of ten next to its exact value. -/
def powerOfTen (k : Nat) : Float := Float.ofScientific 1 false k

/-- `significand · 10 ^ exponent` in floating-point steps, or `none` if it is too large. -/
def scaled? (fuel : Nat) (x : Float) (exponent : Int) : Option Float :=
  match fuel with
  | 0 => some 0.0
  | f + 1 =>
    if x == 0.0 then some x
    else if 308 < exponent then none
    else if exponent < -308 then scaled? f (x / powerOfTen 308) (exponent + 308)
    else if 0 ≤ exponent then
      let y := x * powerOfTen exponent.toNat
      if y.isInf then none else some y
    else some (x / powerOfTen (-exponent).toNat)

/-- The leading digits of a literal as a 64-bit word, and how many digits that leaves out. -/
def leadingWord (n : Nat) : Text → Nat × Nat
  | [] => (n, 0)
  | d :: ds =>
    let m := n * 10 + (d.toNat - 48)
    if m < Decimal.twoTo 64 then leadingWord m ds else (n, (d :: ds).length)

/-- The floating-point number of a literal: the digits that fit a word, scaled by a power of ten.
    The result can differ from the nearest number in its last places. -/
def realOfLiteral? (l : Decimal.Literal) : Option Number :=
  let (w, left) := leadingWord 0 l.whole
  let (m, dropped) := if left = 0 then leadingWord w l.fraction else (w, l.fraction.length)
  let exponent := l.exponent + left - (l.fraction.length - dropped : Nat)
  -- Two divisions by the greatest power of ten make every word vanish.
  (scaled? 4 (Float.ofNat m) exponent).map fun y => .real (if l.negative then -y else y)

/-- The number of a literal. It is whole if it is written without point and exponent and fits a
    word; minus zero is a floating-point number. -/
def ofLiteral? (l : Decimal.Literal) (isWhole : Bool) : Option Number :=
  let n := Text.natOfDigits l.whole
  if isWhole && !l.negative && n < Decimal.twoTo 64 then some (.int n)
  else if isWhole && l.negative && 0 < n && n ≤ Decimal.twoTo 63 then some (.int (-n))
  else realOfLiteral? l

end Number

/-! ### Values of the wrong shape -/

/-- Why a value is not of the wanted shape. -/
inductive ShapeError where
  | wrongType (found : Json) (expected : Text)
  | wrongValue (found : Json) (expected : Text)
  | wrongLength (found : Nat) (expected : Text)
  | missingField (name : Text)
  | unknownName (found : Text) (known : List Text)

/-- A text between backquotes. -/
def backquoted (t : Text) : Text := '\x60' :: t ++ ['\x60']

/-- What a value is, in the words of a message. -/
def Json.describe : Json → Text
  | .null => "null"
  | .bool b => "boolean " ++ backquoted (if b then "true" else "false")
  | .num (.int n) => "integer " ++ backquoted (Text.ofInt n)
  | .num (.real x) => "floating point " ++ backquoted (Decimal.shortest x)
  | .str t => "string " ++ Text.quoted t
  | .arr _ => "sequence"
  | .obj _ => "map"

/-- The wording of a shape error. -/
def ShapeError.message : ShapeError → Text
  | .wrongType found expected => "invalid type: " ++ found.describe ++ ", expected " ++ expected
  | .wrongValue found expected => "invalid value: " ++ found.describe ++ ", expected " ++ expected
  | .wrongLength found expected =>
    "invalid length " ++ Text.ofNat found ++ ", expected " ++ expected
  | .missingField name => "missing field " ++ backquoted name
  | .unknownName found known =>
    "unknown variant " ++ backquoted found ++ ", expected one of " ++
      List.intercalate ", " (known.map backquoted)

end AccessLint
