import AccessLint.Color.Named
import AccessLint.Decimal.Binary
import AccessLint.Decimal.Read
import AccessLint.Text.Blank

namespace AccessLint.Rgb

/-!
# Reading colours

A colour is written as a name, as `transparent`, as hexadecimal digits with or without a number
sign, or by a function of three or four arguments. The alpha of a colour is not looked at.

* `Functional.ofText?` — the function of a colour and its arguments;
* `ofChannels?`, `ofHsl?` — the colours of the two families of functions;
* `ofHex?` — the colour of hexadecimal digits;
* `parse?` — all of them.
-/

/-! ### Functions -/

/-- The two families of colour functions. -/
inductive Family where
  | rgb
  | hsl
deriving DecidableEq

/-- A colour function and its arguments. -/
structure Functional where
  family : Family
  args : List Text

/-- Whether a character stands between arguments. -/
def separatesArgs (c : Char) : Bool := c == ',' || c == '/' || Text.isBlankChar c

/-- The family whose name starts a text, and the rest of the text. -/
def familyAt? (t : Text) : Option (Family × Text) :=
  match t with
  | 'r' :: 'g' :: 'b' :: 'a' :: r => some (.rgb, r)
  | 'r' :: 'g' :: 'b' :: r => some (.rgb, r)
  | 'h' :: 's' :: 'l' :: 'a' :: r => some (.hsl, r)
  | 'h' :: 's' :: 'l' :: r => some (.hsl, r)
  | _ => none

/-- Reads a function and its arguments. Blanks may stand before the opening parenthesis, and no
    other parenthesis may stand between the two. -/
def Functional.ofText? (t : Text) : Option Functional := do
  let (family, r) ← familyAt? t
  match Text.trimStart r with
  | '(' :: r =>
    let inside ← List.isSuffixOf? ")" r
    if inside.any fun c => c == '(' || c == ')' then none
    else some ⟨family, Text.words separatesArgs inside⟩
  | _ => none

/-- A channel of the first family: a number up to 255, or a percentage. -/
def channel? (arg : Text) : Option UInt8 :=
  match List.isSuffixOf? "%" arg with
  | some percent => (Decimal.readFinite? percent).map fun x => Decimal.roundToByte (x * 2.55)
  | none => (Decimal.readFinite? arg).map Decimal.roundToByte

/-- The colour of three channels. -/
def ofChannels? (r g b : Text) : Option Rgb := do
  return ⟨← channel? r, ← channel? g, ← channel? b⟩

/-- The nearer end for a number outside the unit interval. -/
def clampUnit (x : Float) : Float := if x < 0.0 then 0.0 else if 1.0 < x then 1.0 else x

/-- A saturation or lightness: a percentage, or a number, which above one counts as one too. -/
def fraction? (arg : Text) : Option Float :=
  match List.isSuffixOf? "%" arg with
  | some percent => (Decimal.readFinite? percent).map fun x => clampUnit (x / 100.0)
  | none =>
    (Decimal.readFinite? arg).map fun x => clampUnit (if x ≤ 1.0 then x else x / 100.0)

/-- A hue in degrees, with or without its unit. -/
def hue? (arg : Text) : Option Float :=
  Decimal.readFinite? ((List.isSuffixOf? "deg" arg).getD arg)

/-- A hue as a part of the full circle, at least zero. -/
def turn (hue : Float) : Float :=
  let r := Decimal.remainder hue 360
  (if r < 0.0 then r + 360.0 else r) / 360.0

/-- The intensity of one channel, for a place on the circle of hues. -/
def hueIntensity (p q place : Float) : Float :=
  let t := if place < 0.0 then place + 1.0 else place
  let t := if 1.0 < t then t - 1.0 else t
  if t < 1.0 / 6.0 then p + (q - p) * 6.0 * t
  else if t < 0.5 then q
  else if t < 2.0 / 3.0 then p + (q - p) * (2.0 / 3.0 - t) * 6.0
  else p

/-- The colour of a hue on the circle, a saturation and a lightness. -/
def ofHsl (h s l : Float) : Rgb :=
  let byte := fun x : Float => Decimal.roundToByte (x * 255.0)
  if s == 0.0 then ⟨byte l, byte l, byte l⟩
  else
    let q := if l < 0.5 then l * (1.0 + s) else l + s - l * s
    let p := 2.0 * l - q
    ⟨byte (hueIntensity p q (h + 1.0 / 3.0)), byte (hueIntensity p q h),
      byte (hueIntensity p q (h - 1.0 / 3.0))⟩

/-- The colour of a hue, a saturation and a lightness as written. -/
def ofHsl? (h s l : Text) : Option Rgb := do
  let h ← hue? h
  return ofHsl (turn h) (← fraction? s) (← fraction? l)

/-- The colour of a function; a fourth argument is the alpha. -/
def Functional.color? (f : Functional) : Option Rgb :=
  match f.args with
  | [a, b, c] | [a, b, c, _] =>
    match f.family with
    | .rgb => ofChannels? a b c
    | .hsl => ofHsl? a b c
  | _ => none

/-! ### Digits -/

/-- The byte of two hexadecimal digits. -/
def hexByte? (high low : Char) : Option UInt8 := do
  return UInt8.ofNat ((← Text.hexValue? high) * 16 + (← Text.hexValue? low))

/-- The colour of three or six hexadecimal digits, or of four or eight with an alpha. A single
    digit counts twice. -/
def ofHex? (t : Text) : Option Rgb :=
  if t.all fun c => (Text.hexValue? c).isSome then
    match t with
    | [r, g, b] | [r, g, b, _] => do return ⟨← hexByte? r r, ← hexByte? g g, ← hexByte? b b⟩
    | [r, r', g, g', b, b'] | [r, r', g, g', b, b', _, _] => do
      return ⟨← hexByte? r r', ← hexByte? g g', ← hexByte? b b'⟩
    | _ => none
  else none

/-! ### Colours -/

/-- Reads a colour without regard to ASCII case and blanks around it. -/
def parse? (value : Text) : Option Rgb :=
  let v := Text.lower (Text.trim value)
  if v.isEmpty then none
  else if v = "transparent" then some black
  else match ofName? v with
    | some c => some c
    | none =>
      match Functional.ofText? v with
      | some f => f.color?
      | none => ofHex? ((List.isPrefixOf? "#" v).getD v)

end AccessLint.Rgb
