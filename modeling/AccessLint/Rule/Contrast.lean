import AccessLint.Color.Parse
import AccessLint.Decimal.Write
import AccessLint.Rule.Basic

namespace AccessLint.Rule

/-!
# Contrast

* `inlineStyle` — the declarations of a `style` attribute;
* `lowContrast?` — the colours of a style, if their contrast is too low;
* `contrast` — the rule.
-/

/-- The least contrast of text and background. -/
def minContrast : Float := 4.5

/-- A declaration of a style: the trimmed texts before the first colon and between the first two.
    Both must be there. -/
def declaration? (t : Text) : Option (Text × Text) :=
  match List.splitOnP (· == ':') t with
  | key :: value :: _ =>
    let key := Text.trim key
    let value := Text.trim value
    if key.isEmpty || value.isEmpty then none else some (key, value)
  | _ => none

/-- The declarations of a style in order. -/
def inlineStyle (style : Text) : List (Text × Text) :=
  (List.splitOnP (· == ';') style).filterMap declaration?

/-- The value of a key; the last declaration counts. -/
def styleValue? (declarations : List (Text × Text)) (key : Text) : Option Text :=
  declarations.reverse.lookup key

/-- Whether a style can hold both colours. -/
def mentionsColors (style : Text) : Bool :=
  Text.contains "color" style && Text.contains "background-color" style

/-- The contrast and the two colours as written, foreground first, if the contrast of a style is too
    low. -/
def lowContrast? (style : Text) : Option (Float × Text × Text) := do
  let declarations := inlineStyle style
  let fg ← styleValue? declarations "color"
  let bg ← styleValue? declarations "background-color"
  let ratio := contrastRatio (← Rgb.parse? bg) (← Rgb.parse? fg)
  if ratio < minContrast then some (ratio, fg, bg) else none

/-- Text must stand out from its background. -/
def contrast : Rule where
  name := "contrast"
  configKey := "contrast"
  kinds := [.contrast]
  scope := .everywhere
  check d label _ :=
    d.elements.filterMap fun e => do
      let style ← (e.elem.attr? "style").filter mentionsColors
      let (ratio, fg, bg) ← lowContrast? style
      return d.report label e .contrast
        ("Low contrast ratio (" ++ Decimal.fixed 2 ratio ++ "): " ++ fg ++ " on " ++ bg)

end AccessLint.Rule
