namespace AccessLint.Decimal

/-!
# Floating-point numbers as exact values

Everything that prints a floating-point number starts from its exact value,
`significand · 2 ^ exponent`.

* `twoTo`, `tenTo` — the weights of the digits of a number;
* `Exact.ofFloat` — the exact value of a finite number;
* `remainder` — the remainder of an exact division by a whole number;
* `roundToByte` — the nearest byte, a half going up.
-/

/-! ### Powers -/

/-- A power of two. -/
def twoTo (n : Nat) : Nat := Nat.pow 2 n

/-- A power of ten. -/
def tenTo (n : Nat) : Nat := Nat.pow 10 n

/-! ### Exact values -/

/-- A finite floating-point number: a sign and the magnitude `significand · 2 ^ exponent`. -/
structure Exact where
  negative : Bool
  significand : Nat
  exponent : Int

/-- The exact value of a finite number. -/
def Exact.ofFloat (x : Float) : Exact :=
  let bits := x.toBits.toNat
  let fraction := bits % twoTo 52
  let biased : Nat := bits / twoTo 52 % twoTo 11
  { negative := bits / twoTo 63 == 1
    significand := if biased = 0 then fraction else fraction + twoTo 52
    exponent := if biased = 0 then -1074 else (biased : Int) - 1075 }

/-- The remainder of `x` divided by `n`, computed exactly, with the sign of `x`. -/
def remainder (x : Float) (n : Nat) : Float :=
  let e := Exact.ofFloat x
  if x.abs < Float.ofNat n then x
  else
    let r :=
      if 0 ≤ e.exponent then Float.ofNat (e.significand * twoTo e.exponent.toNat % n)
      else
        let scale := twoTo (-e.exponent).toNat
        Float.ofNat (e.significand % (n * scale)) / Float.ofNat scale
    if e.negative then -r else r

/-- The byte nearest to `x`; a half goes up, and values outside go to the nearest end. -/
def roundToByte (x : Float) : UInt8 :=
  if x ≤ 0 then 0
  else if 255 ≤ x then 255
  else
    let whole := x.toUInt8
    if 0.5 ≤ x - Float.ofNat whole.toNat then whole + 1 else whole

end AccessLint.Decimal
