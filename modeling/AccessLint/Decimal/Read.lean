import AccessLint.Text.Basic

namespace AccessLint.Decimal

/-!
# Reading decimal numbers

* `Literal` — the parts of a decimal number as written;
* `Literal.ofText?` — a sign, digits with at most one point among or around them, and an exponent;
* `readFinite?` — the nearest floating-point number, refused if there is none.
-/

/-- The parts of a decimal number as written. -/
structure Literal where
  negative : Bool
  whole : Text
  fraction : Text
  exponent : Int

/-- A sign, if there is one: whether it is a minus, and the rest. -/
def readSign : Text → Bool × Text
  | '-' :: t => (true, t)
  | '+' :: t => (false, t)
  | t => (false, t)

/-- An exponent without its letter: digits with an optional sign and nothing after them. -/
def readExponent? (t : Text) : Option Int :=
  let (negative, ds) := readSign t
  if ds.isEmpty || !ds.all Char.isDigit then none
  else some (if negative then -(Text.natOfDigits ds : Int) else Text.natOfDigits ds)

/-- Reads a whole text as a decimal number. At least one digit must stand beside the point. -/
def Literal.ofText? (t : Text) : Option Literal :=
  let (negative, t) := readSign t
  let whole := t.takeWhile Char.isDigit
  let t := t.dropWhile Char.isDigit
  let (fraction, t) := match t with
    | '.' :: r => (r.takeWhile Char.isDigit, r.dropWhile Char.isDigit)
    | _ => ([], t)
  if whole.isEmpty && fraction.isEmpty then none
  else match t with
    | [] => some ⟨negative, whole, fraction, 0⟩
    | c :: r =>
      if c = 'e' || c = 'E' then (readExponent? r).map (⟨negative, whole, fraction, ·⟩)
      else none

/-- The floating-point number nearest to a decimal, or `none` if it is too large for one. -/
def Literal.toFloat? (l : Literal) : Option Float :=
  let digits := l.whole ++ l.fraction
  let m := Text.natOfDigits digits
  let e := l.exponent - l.fraction.length
  let magnitude :=
    if m = 0 || e + digits.length < -330 then some 0.0
    else if 320 < e then none
    else
      let x := if 0 ≤ e then Float.ofScientific m false e.toNat
        else Float.ofScientific m true (-e).toNat
      if x.isInf then none else some x
  magnitude.map fun x => if l.negative then -x else x

/-- Reads a whole text as a finite floating-point number. -/
def readFinite? (t : Text) : Option Float := (Literal.ofText? t).bind Literal.toFloat?

end AccessLint.Decimal
