namespace AccessLint

/-!
# Texts

Sources, attribute values, labels and messages are all texts: lists of characters.

* `Text.utf8Size` — the number of bytes of a text in UTF-8, the unit of every offset;
* `Text.findFirst?` — the text before the first occurrence of another one;
* `Text.words`, `Text.cut` — cutting a text at separator characters;
* `Text.lower` — ASCII lower case;
* `Text.readRanges`, `Text.readClasses`, `Text.isIn` — classes of characters, written as texts of
  hexadecimal code points.
-/

/-- A text is the list of its characters. -/
abbrev Text := List Char

instance : Coe String Text := ⟨String.toList⟩

namespace Text

/-- The number of bytes of a text in UTF-8. -/
def utf8Size : Text → Nat
  | [] => 0
  | c :: cs => c.utf8Size + utf8Size cs

@[simp] theorem utf8Size_append (a b : Text) : utf8Size (a ++ b) = utf8Size a + utf8Size b := by
  induction a with
  | nil => simp [utf8Size]
  | cons c cs ih => simp [utf8Size, ih, Nat.add_assoc]

/-- The decimal digits of a number. -/
def ofNat (n : Nat) : Text := Nat.toDigits 10 n

/-- The decimal digits of an integer, with a minus sign in front of a negative one. -/
def ofInt : Int → Text
  | .ofNat n => ofNat n
  | .negSucc n => '-' :: ofNat (n + 1)

/-- The text before the first occurrence of `needle`. -/
def findFirst? (needle : Text) : Text → Option Text
  | [] => if needle.isEmpty then some [] else none
  | c :: cs =>
    if needle.isPrefixOf (c :: cs) then some [] else (findFirst? needle cs).map (c :: ·)

/-- Whether `needle` occurs in the text. -/
def contains (needle t : Text) : Bool := (findFirst? needle t).isSome

/-- The non-empty pieces of a text between the characters that satisfy `isSep`. -/
def words (isSep : Char → Bool) (t : Text) : List Text :=
  (t.splitOnP isSep).filter fun p => !p.isEmpty

/-- What stands before the first character that satisfies `isCut`, and what follows it. -/
def cut (isCut : Char → Bool) (t : Text) : Text × Option Text :=
  match t.dropWhile (!isCut ·) with
  | [] => (t, none)
  | _ :: r => (t.takeWhile (!isCut ·), some r)

/-- A text made at least `width` characters long by repeating `fill` at its end. -/
def padEnd (fill : Char) (width : Nat) (t : Text) : Text :=
  t ++ List.replicate (width - t.length) fill

/-- ASCII lower case: the letters `A` to `Z` are replaced, all else stays. -/
def lower (t : Text) : Text := t.map Char.toLower

/-- Equality that ignores the case of ASCII letters. -/
def eqIgnoringCase (a b : Text) : Bool := lower a == lower b

/-- The order of two texts by their characters' code points, which is also the order of their
    UTF-8 bytes. -/
def precedes : Text → Text → Bool
  | [], [] => false
  | [], _ :: _ => true
  | _ :: _, [] => false
  | a :: as, b :: bs => if a = b then precedes as bs else a.toNat < b.toNat

/-- The value of a hexadecimal digit. -/
def hexValue? (c : Char) : Option Nat :=
  if '0' ≤ c ∧ c ≤ '9' then some (c.toNat - 48)
  else if 'a' ≤ c ∧ c ≤ 'f' then some (c.toNat - 87)
  else if 'A' ≤ c ∧ c ≤ 'F' then some (c.toNat - 55)
  else none

/-- The number that a run of decimal digits stands for. -/
def natOfDigits (ds : Text) : Nat := ds.foldl (fun n d => n * 10 + (d.toNat - 48)) 0

/-- The number that a run of hexadecimal digits stands for. -/
def natOfHex (ds : Text) : Nat := ds.foldl (fun n d => n * 16 + (hexValue? d).getD 0) 0

/-! ### Tables of characters -/

/-- The words of a table: what stands between spaces and line ends. -/
def tableWords (table : Text) : List Text := words (fun c => c == ' ' || c == '\n') table

/-- The range of a text such as `61-7A`, or of a single code point. -/
def readRange (t : Text) : Nat × Nat :=
  let (low, high) := cut (· == '-') t
  (natOfHex low, natOfHex (high.getD low))

/-- The ranges of a table: ranges such as `61-7A`, both ends included, or single characters, between
    blanks. -/
def readRanges (table : String) : List (Nat × Nat) := (tableWords table).map readRange

/-- The numbered classes of a table: numbers, each with ranges between commas after a colon. -/
def readClasses (table : String) : List (Nat × List (Nat × Nat)) :=
  (tableWords table).map fun w =>
    let (number, ranges) := cut (· == ':') w
    (natOfDigits number, ((ranges.getD []).splitOnP (· == ',')).map readRange)

/-- Whether a character is in one of some ranges. -/
def isIn (ranges : List (Nat × Nat)) (c : Char) : Bool :=
  ranges.any fun r => r.1 ≤ c.toNat && c.toNat ≤ r.2

end Text

end AccessLint
