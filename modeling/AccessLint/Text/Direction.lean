import AccessLint.Text.DirectionTable
import AccessLint.Text.MarkTable

namespace AccessLint.Text

/-!
# Directions of writing

* `direction` — the direction in which a character is written;
* `keepsDirection` — whether a word reads in the same way wherever it stands among others.
-/

/-- The direction in which a character is written. Numbers go from left to right, but two kinds of
    them stand in their own way among letters of the other direction. -/
inductive Direction where
  | left
  | right
  | arabicNumber
  | europeanNumber
  | neutral
  | mark
deriving DecidableEq

/-- The direction of a character. -/
def direction (c : Char) : Direction :=
  if isIn nonspacingMarks c then .mark
  else if isIn rightToLeft c then .right
  else if isIn arabicNumbers c then .arabicNumber
  else if isIn europeanNumbers c then .europeanNumber
  else if isIn neutrals c then .neutral
  else .left

/-- Whether a word needs care with directions: it holds letters from right to left, or their
    numbers. -/
def turns (word : Text) : Bool :=
  (word.map direction).any fun d => d == .right || d == .arabicNumber

/-- Whether a word keeps its direction. It starts with a letter; it holds nothing of the other
    direction, and numbers of one kind only if it is written from right to left; and apart from marks
    it ends with a letter or a number. -/
def keepsDirection (word : Text) : Bool :=
  let ds := word.map direction
  let last := ds.reverse.find? (· != .mark)
  match ds.head? with
  | some .right =>
    ds.all (· != .left) && !(ds.contains .europeanNumber && ds.contains .arabicNumber) &&
      last.any (· != .neutral)
  | some .left =>
    ds.all (fun d => d != .right && d != .arabicNumber) && last.any (· != .neutral)
  | _ => false

end AccessLint.Text
