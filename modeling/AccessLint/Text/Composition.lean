import AccessLint.Text.CompositionTable
import AccessLint.Text.MarkTable

namespace AccessLint.Text

/-!
# Composed texts

A letter with its marks can be written as one character or as several. A composed text has one
character wherever there is one, and the marks of a letter in the order of their classes.

* `decompose` — a text with all characters taken apart;
* `orderMarks` — a text with the marks of each letter in order;
* `compose` — the composed form of a text.
-/

/-- The combining class of a character. Only marks have one other than zero. -/
def combiningClass (c : Char) : Nat :=
  match combiningClasses.find? fun (_, ranges) => isIn ranges c with
  | some (n, _) => n
  | none => 0

/-! ### Korean syllables

A syllable is composed of a lead and a vowel, and perhaps of a tail. There are 19 leads, 21 vowels
and, with none at all, 28 tails. -/

/-- The syllable of a lead and a vowel, or of such a syllable and a tail. -/
def composeSyllable? (a b : Char) : Option Char :=
  let a := a.toNat
  let b := b.toNat
  if 0x1100 ≤ a && a < 0x1113 && 0x1161 ≤ b && b < 0x1176 then
    some (Char.ofNat (0xAC00 + ((a - 0x1100) * 21 + (b - 0x1161)) * 28))
  else if 0xAC00 ≤ a && a < 0xD7A4 && (a - 0xAC00) % 28 = 0 && 0x11A7 < b && b < 0x11C3 then
    some (Char.ofNat (a + (b - 0x11A7)))
  else none

/-- The lead, the vowel and the tail of a syllable. -/
def decomposeSyllable? (c : Char) : Option Text :=
  if 0xAC00 ≤ c.toNat && c.toNat < 0xD7A4 then
    let n := c.toNat - 0xAC00
    let tail := if n % 28 = 0 then [] else [Char.ofNat (0x11A7 + n % 28)]
    some (Char.ofNat (0x1100 + n / 588) :: Char.ofNat (0x1161 + n % 588 / 28) :: tail)
  else none

/-! ### All characters -/

/-- The character that two characters are composed to. -/
def composePair? (a b : Char) : Option Char :=
  composeSyllable? a b <|>
    (composites.find? fun p => p.second == b.toNat && p.first == a.toNat).map fun p =>
      Char.ofNat p.whole

/-- A character taken apart, in as many steps as there is fuel. -/
def decomposeChar (c : Char) : (fuel : Nat) → Text
  | 0 => [c]
  | fuel + 1 =>
    match composites.find? fun p => p.whole == c.toNat with
    | some p => decomposeChar (Char.ofNat p.first) fuel ++ [Char.ofNat p.second]
    | none => (decomposeSyllable? c).getD [c]

/-- A text with all characters taken apart. No character takes more than four steps. -/
def decompose (t : Text) : Text := t.flatMap (decomposeChar · 4)

/-- Inserts a character before a text, behind the marks of a lower class if it is a mark itself. -/
def insertMark (c : Char) : Text → Text
  | [] => [c]
  | d :: r =>
    if combiningClass d != 0 && combiningClass d < combiningClass c then d :: insertMark c r
    else c :: d :: r

/-- A text with the marks of each letter in the order of their classes. -/
def orderMarks (t : Text) : Text := t.foldr insertMark []

/-- Composes a letter with the marks after it: those that were passed over stand in `marks`, the
    last one first, and hide the marks of their class and of lower ones. -/
def composeFrom (letter : Char) (marks : Text) : Text → Text
  | [] => letter :: marks.reverse
  | c :: r =>
    let isHidden := marks.head?.any fun m => combiningClass c ≤ combiningClass m
    match if isHidden then none else composePair? letter c with
    | some whole => composeFrom whole marks r
    | none =>
      if combiningClass c = 0 then letter :: marks.reverse ++ composeFrom c [] r
      else composeFrom letter (c :: marks) r

/-- The composed form of a text. -/
def compose (t : Text) : Text :=
  match orderMarks (decompose t) with
  | [] => []
  | c :: r => composeFrom c [] r

end AccessLint.Text
