import AccessLint.Decimal.Binary
import AccessLint.Text.Basic

namespace AccessLint.Decimal

/-!
# Writing decimals

A number is written with a fixed number of decimal places, or with the fewest digits that read back:
the fewest among all decimals that are nearer to it than to any other floating-point number, and of
those with the nearest one.

* `roundHalfEven` — a quotient rounded to the nearest whole number, a tie to the even one;
* `fixed` — a number with a given count of decimal places, rounded from its exact value;
* `Interval` — the decimals that round to a number, over a common denominator;
* `digitsOf` — the digits and the place of the decimal point;
* `Digits.positional`, `Digits.scientific` — the digits without and with an exponent;
* `shortest` — the number in one of the two forms, by its size.
-/

/-! ### A fixed number of places -/

/-- The whole number nearest to `num / den`; a tie goes to the even neighbour. -/
def roundHalfEven (num den : Nat) : Nat :=
  let q := num / den
  let r := num % den
  if 2 * r < den then q
  else if den < 2 * r then q + 1
  else if q % 2 = 0 then q else q + 1

/-- The digits of `n` behind enough zeros to make `width` of them. -/
def padded (width n : Nat) : Text :=
  let ds := Text.ofNat n
  List.replicate (width - ds.length) '0' ++ ds

/-- A finite number with `places` decimal places. -/
def fixed (places : Nat) (x : Float) : Text :=
  let e := Exact.ofFloat x
  let scaled := e.significand * tenTo places
  let n :=
    if 0 ≤ e.exponent then scaled * twoTo e.exponent.toNat
    else roundHalfEven scaled (twoTo (-e.exponent).toNat)
  let sign : Text := if e.negative then ['-'] else []
  let whole := sign ++ Text.ofNat (n / tenTo places)
  if places = 0 then whole else whole ++ '.' :: padded places (n % tenTo places)

/-! ### The fewest digits that read back -/

/-- The reals that round to a floating-point number: from `low / den` to `high / den`, the ends
    included if `closed`, with the number itself at `value / den`. -/
structure Interval where
  low : Nat
  value : Nat
  high : Nat
  den : Nat
  closed : Bool

/-- The interval of a positive number. Below a power of two the neighbour is nearer. -/
def Interval.ofExact (e : Exact) : Interval :=
  let narrow := e.significand == twoTo 52 && e.exponent > -1074
  let m := 4 * e.significand
  let up := if 0 ≤ e.exponent then twoTo e.exponent.toNat else 1
  let den := if 0 ≤ e.exponent then 4 else 4 * twoTo (-e.exponent).toNat
  { low := (if narrow then m - 1 else m - 2) * up
    value := m * up
    high := (m + 2) * up
    den := den
    closed := e.significand % 2 == 0 }

/-- Whether the decimal `num / den` rounds to the number of the interval. -/
def Interval.holds (i : Interval) (num den : Nat) : Bool :=
  let l := i.low * den
  let h := i.high * den
  let v := num * i.den
  if i.closed then l ≤ v && v ≤ h else l < v && v < h

/-- Digits, most significant first, and the number of them before the decimal point. -/
structure Digits where
  digits : Nat
  point : Int

/-- The least `point` with `value < 10 ^ point`, searched upwards from `start`. -/
def pointFrom (fuel : Nat) (num den : Nat) (start : Int) : Int :=
  match fuel with
  | 0 => start
  | f + 1 =>
    let below :=
      if 0 ≤ start then num < den * tenTo start.toNat else num * tenTo (-start).toNat < den
    if below then start else pointFrom f num den (start + 1)

/-- The decimal with `count` digits that the interval holds and that is nearest to the number. -/
def candidate? (i : Interval) (point : Int) (count : Nat) : Option Digits :=
  -- The grid has the step `10 ^ shift`, written as `up / down`.
  let shift := point - count
  let up := if 0 ≤ shift then tenTo shift.toNat else 1
  let down := if 0 ≤ shift then 1 else tenTo (-shift).toNat
  let below := i.value * down / (i.den * up)
  let above := below + 1
  let holdsBelow := i.holds (below * up) down
  let holdsAbove := i.holds (above * up) down
  let offBelow := i.value * down - below * up * i.den
  let offAbove := above * up * i.den - i.value * down
  if holdsBelow && (!holdsAbove || offBelow < offAbove ||
      (offBelow == offAbove && below % 2 == 0)) then some ⟨below, point⟩
  else if holdsAbove then some ⟨above, if above = tenTo count then point + 1 else point⟩
  else none

/-- Removes the zeros at the end of some digits. -/
def stripZeros (fuel : Nat) (n : Nat) : Nat :=
  match fuel with
  | 0 => n
  | f + 1 => if n % 10 = 0 && n != 0 then stripZeros f (n / 10) else n

/-- The shortest digits of a positive number. -/
def digitsOf (e : Exact) : Digits :=
  let i := Interval.ofExact e
  let point := pointFrom 700 i.value i.den (-330)
  let found := (List.range 17).findSome? fun k => candidate? i point (k + 1)
  match found with
  | some d => { d with digits := stripZeros 17 d.digits }
  | none => ⟨0, 0⟩

/-- Digits without an exponent: at least one on each side of the point. -/
def Digits.positional (d : Digits) : Text :=
  let ds := Text.ofNat d.digits
  if d.point ≤ 0 then "0." ++ List.replicate (-d.point).toNat '0' ++ ds
  else if ds.length ≤ d.point.toNat then
    ds ++ List.replicate (d.point.toNat - ds.length) '0' ++ ".0"
  else ds.take d.point.toNat ++ '.' :: ds.drop d.point.toNat

/-- Digits with an exponent, which has a sign: one digit before the point, if there is a point. -/
def Digits.scientific (d : Digits) : Text :=
  let exponent := d.point - 1
  let power := 'e' :: (if 0 ≤ exponent then '+' else '-') :: Text.ofNat exponent.natAbs
  match Text.ofNat d.digits with
  | [digit] => digit :: power
  | ds => ds.take 1 ++ '.' :: ds.drop 1 ++ power

/-- A finite number in its fewest digits, without an exponent from 0.00001 up to 10 to the power
    of 16. -/
def shortest (x : Float) : Text :=
  let e := Exact.ofFloat x
  let sign : Text := if e.negative then ['-'] else []
  if e.significand = 0 then sign ++ "0.0"
  else
    let d := digitsOf e
    sign ++ if -5 < d.point && d.point ≤ 16 then d.positional else d.scientific

end AccessLint.Decimal
