import AccessLint.Json.Basic
import AccessLint.Text.Encoding

namespace AccessLint.Json

/-!
# Reading JSON

`read?` reads a text that is exactly one JSON value.

* `readString?` — the rest of a string after its opening quote;
* `readNumber?` — a number at the start of a text;
* `readValue?`, `readItems?`, `readMembers?` — values, with fuel that bounds the nesting.
-/

/-- Skips the four characters that may stand between tokens. -/
def skipSpace (t : Text) : Text :=
  t.dropWhile fun c => c == ' ' || c == '\n' || c == '\r' || c == '\t'

/-- The value of four hexadecimal digits. -/
def hexQuad? (a b c d : Char) : Option Nat := do
  return ((← Text.hexValue? a) * 16 + (← Text.hexValue? b)) * 256 +
    ((← Text.hexValue? c) * 16 + (← Text.hexValue? d))

/-- The character that a letter after a backslash stands for. -/
def unescape? : Char → Option Char
  | '"' => some '"'
  | '\\' => some '\\'
  | '/' => some '/'
  | 'b' => some '\x08'
  | 'f' => some '\x0c'
  | 'n' => some '\n'
  | 'r' => some '\r'
  | 't' => some '\t'
  | _ => none

/-- The code units of a string after its opening quote, and what follows its closing quote. An
    escape by number gives a unit that may be half of a pair. -/
def readUnits? : Text → Option (List Nat × Text)
  | [] => none
  | '"' :: r => some ([], r)
  | '\\' :: 'u' :: a :: b :: c :: d :: r => do
    let n ← hexQuad? a b c d
    let (ns, rest) ← readUnits? r
    return (n :: ns, rest)
  | '\\' :: e :: r => do
    let c ← unescape? e
    let (ns, rest) ← readUnits? r
    return (c.toNat :: ns, rest)
  | c :: r =>
    if c = '\\' || c.toNat < 0x20 then none
    else (readUnits? r).map fun (ns, rest) => (c.toNat :: ns, rest)

/-- A string after its opening quote, and what follows it. -/
def readString? (t : Text) : Option (Text × Text) := do
  let (units, rest) ← readUnits? t
  return (← Text.joinHalves? units, rest)

/-- Splits a text after its leading decimal digits. -/
def digits (t : Text) : Text × Text := (t.takeWhile Char.isDigit, t.dropWhile Char.isDigit)

/-- The digits after a point, whether there is a point, and what follows them. -/
def readFraction? : Text → Option (Text × Bool × Text)
  | '.' :: r =>
    let (f, rest) := digits r
    if f.isEmpty then none else some (f, true, rest)
  | t => some ([], false, t)

/-- The exponent after its letter, whether there is one, and what follows it. -/
def readExponent? : Text → Option (Int × Bool × Text)
  | [] => some (0, false, [])
  | c :: r =>
    if c = 'e' || c = 'E' then
      let (down, ds) := Decimal.readSign r
      let (e, rest) := digits ds
      if e.isEmpty then none
      else
        let n : Int := Text.natOfDigits e
        some (if down then -n else n, true, rest)
    else some (0, false, c :: r)

/-- A number after its sign, and what follows it. -/
def readUnsigned? (negative : Bool) (t : Text) : Option (Number × Text) :=
  let (whole, t) := digits t
  if whole.isEmpty || (whole.head? == some '0' && whole.length != 1) then none
  else do
    let (fraction, hasPoint, t) ← readFraction? t
    let (exponent, hasExponent, t) ← readExponent? t
    let n ← Number.ofLiteral? ⟨negative, whole, fraction, exponent⟩ (!hasPoint && !hasExponent)
    return (n, t)

/-- A number at the start of a text, and what follows it. -/
def readNumber? : Text → Option (Number × Text)
  | '-' :: r => readUnsigned? true r
  | t => readUnsigned? false t

mutual

/-- A value, and what follows it. -/
def readValue? : Nat → Text → Option (Json × Text)
  | 0, _ => none
  | fuel + 1, t =>
    match skipSpace t with
    | '"' :: r => (readString? r).map fun (s, rest) => (.str s, rest)
    | '[' :: r =>
      match skipSpace r with
      | ']' :: rest => some (.arr [], rest)
      | r => (readItems? fuel r).map fun (vs, rest) => (.arr vs, rest)
    | '{' :: r =>
      match skipSpace r with
      | '}' :: rest => some (.obj [], rest)
      | r => (readMembers? fuel r).map fun (ms, rest) => (object ms, rest)
    | 'n' :: 'u' :: 'l' :: 'l' :: rest => some (.null, rest)
    | 't' :: 'r' :: 'u' :: 'e' :: rest => some (.bool true, rest)
    | 'f' :: 'a' :: 'l' :: 's' :: 'e' :: rest => some (.bool false, rest)
    | t => (readNumber? t).map fun (n, rest) => (.num n, rest)

/-- The items of a non-empty array up to its end. -/
def readItems? : Nat → Text → Option (List Json × Text)
  | 0, _ => none
  | fuel + 1, t => do
    let (v, r) ← readValue? fuel t
    match skipSpace r with
    | ',' :: r => (readItems? fuel r).map fun (vs, rest) => (v :: vs, rest)
    | ']' :: rest => some ([v], rest)
    | _ => none

/-- The members of a non-empty object up to its end. -/
def readMembers? : Nat → Text → Option (List (Text × Json) × Text)
  | 0, _ => none
  | fuel + 1, t => do
    let (key, r) ← match skipSpace t with
      | '"' :: r => readString? r
      | _ => none
    let (v, r) ← match skipSpace r with
      | ':' :: r => readValue? fuel r
      | _ => none
    match skipSpace r with
    | ',' :: r => (readMembers? fuel r).map fun (ms, rest) => ((key, v) :: ms, rest)
    | '}' :: rest => some ([(key, v)], rest)
    | _ => none

end

/-- Reads a text that is one JSON value, with space around it. Each character opens at most two
    levels of reading. -/
def read? (t : Text) : Option Json :=
  match readValue? (2 * t.length + 2) t with
  | some (v, rest) => if (skipSpace rest).isEmpty then some v else none
  | none => none

end AccessLint.Json
