import AccessLint.Text.Basic

namespace AccessLint.Report

/-!
# Styled texts

* `Style` — a colour and a weight;
* `Style.codes` — the terminal codes of a style;
* `paint` — a text in a style, or plain where colours are off;
* `coloured`, `bolded` — a text in a colour, and in bold letters, each with a sequence of its own that
  ends it.
-/

/-- The colours of a terminal that reports use. -/
inductive Colour where
  | red
  | green
  | yellow
  | blue
  | magenta
  | cyan
  | white
  | brightBlack
  | brightYellow
  | brightBlue
deriving DecidableEq

/-- The terminal code of a colour. -/
def Colour.code : Colour → Nat
  | red => 31
  | green => 32
  | yellow => 33
  | blue => 34
  | magenta => 35
  | cyan => 36
  | white => 37
  | brightBlack => 90
  | brightYellow => 93
  | brightBlue => 94

/-- A colour, if any, and whether the letters are bold. -/
structure Style where
  colour : Option Colour
  bold : Bool
deriving DecidableEq

namespace Style

/-- Normal letters in a colour. -/
def plain (c : Colour) : Style := ⟨some c, false⟩

/-- Bold letters in a colour. -/
def strong (c : Colour) : Style := ⟨some c, true⟩

/-- Bold letters. -/
def boldOnly : Style := ⟨none, true⟩

/-- The codes of a style: the colour comes first. -/
def codes (s : Style) : List Nat :=
  s.colour.toList.map Colour.code ++ if s.bold then [1] else []

end Style

/-- The escape character. -/
def escapeChar : Char := '\x1b'

/-- The sequence that switches some codes on. -/
def escapeSequence (codes : List Nat) : Text :=
  escapeChar :: '[' :: List.intercalate [';'] (codes.map Text.ofNat) ++ ['m']

/-- A text in a style; where colours are off, the text itself. -/
def paint (color : Bool) (s : Style) (t : Text) : Text :=
  if color then escapeSequence s.codes ++ t ++ escapeSequence [0] else t

/-- A text in a colour, after which the colour is the default one again. -/
def coloured (c : Colour) (t : Text) : Text := escapeSequence [c.code] ++ t ++ escapeSequence [39]

/-- A text in bold letters, after which all is as by default again. -/
def bolded (t : Text) : Text := escapeSequence [1] ++ t ++ escapeSequence [0]

end AccessLint.Report
