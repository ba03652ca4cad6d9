import AccessLint.Text.Basic

namespace AccessLint

/-!
# Colours

* `Rgb` — a colour of three bytes;
* `Rgb.luminance` — the relative luminance of a colour;
* `contrastRatio` — the contrast of two colours, from 1 for equal ones to 21.
-/

/-- A colour of three channels. -/
structure Rgb where
  red : UInt8
  green : UInt8
  blue : UInt8
deriving DecidableEq

namespace Rgb

/-- Black. -/
def black : Rgb := ⟨0, 0, 0⟩

/-- The linear intensity of a channel. -/
def linear (channel : UInt8) : Float :=
  let v := Float.ofNat channel.toNat / 255.0
  if v ≤ 0.03928 then v / 12.92 else ((v + 0.055) / 1.055).pow 2.4

/-- The relative luminance: the channels' intensities, weighted by how bright they look. -/
def luminance (c : Rgb) : Float :=
  0.2126 * linear c.red + 0.7152 * linear c.green + 0.0722 * linear c.blue

end Rgb

/-- The contrast of two colours, in either order. -/
def contrastRatio (a b : Rgb) : Float :=
  let la := a.luminance
  let lb := b.luminance
  if lb < la then (la + 0.05) / (lb + 0.05) else (lb + 0.05) / (la + 0.05)

end AccessLint
