import AccessLint.Text.Basic

namespace AccessLint.Text

/-!
# UTF-8 and UTF-16

* `encode` — the bytes of a text;
* `readUnit` — the unit at the start of some bytes: a character, or a maximal invalid prefix;
* `decodeLossy` — the text of arbitrary bytes, with one replacement character for each maximal
  invalid prefix;
* `decode?` — the text of valid bytes;
* `decode` — the strict decoder, and the lossy one where it fails;
* `joinHalves?` — the characters of the code units of UTF-16, where every half stands in a pair.

Both decoders of bytes read the same units, so they agree wherever the strict one succeeds.
-/

/-! ### UTF-8 -/

/-- The UTF-8 bytes of a text. -/
def encode (t : Text) : List UInt8 := t.flatMap String.utf8EncodeChar

/-- The replacement character U+FFFD. -/
def replacement : Char := '\uFFFD'

/-- Whether a byte continues a character. -/
def isContinuation (b : UInt8) : Bool := 0x80 ≤ b && b ≤ 0xBF

/-- The payload of a continuation byte. -/
def payload (b : UInt8) : Nat := b.toNat % 64

/-- The second bytes that may follow a leading byte of a character of three or four bytes. -/
def allowsSecond (lead second : UInt8) : Bool :=
  if lead == 0xE0 then 0xA0 ≤ second && second ≤ 0xBF
  else if lead == 0xED then 0x80 ≤ second && second ≤ 0x9F
  else if lead == 0xF0 then 0x90 ≤ second && second ≤ 0xBF
  else if lead == 0xF4 then 0x80 ≤ second && second ≤ 0x8F
  else isContinuation second

/-- The unit that starts with byte `lead` before `rest`: its character, or `none` for a maximal
    invalid prefix, and how many bytes of `rest` it takes. -/
def readUnit (lead : UInt8) (rest : List UInt8) : Option Char × Nat :=
  if lead < 0x80 then (some (Char.ofNat lead.toNat), 0)
  else if 0xC2 ≤ lead && lead ≤ 0xDF then
    match rest with
    | b :: _ =>
      if isContinuation b then (some (Char.ofNat ((lead.toNat % 32) * 64 + payload b)), 1)
      else (none, 0)
    | [] => (none, 0)
  else if 0xE0 ≤ lead && lead ≤ 0xEF then
    match rest with
    | b :: c :: _ =>
      if !allowsSecond lead b then (none, 0)
      else if isContinuation c then
        (some (Char.ofNat ((lead.toNat % 16) * 4096 + payload b * 64 + payload c)), 2)
      else (none, 1)
    | [b] => (none, if allowsSecond lead b then 1 else 0)
    | [] => (none, 0)
  else if 0xF0 ≤ lead && lead ≤ 0xF4 then
    match rest with
    | b :: c :: d :: _ =>
      if !allowsSecond lead b then (none, 0)
      else if !isContinuation c then (none, 1)
      else if isContinuation d then
        (some (Char.ofNat
          ((lead.toNat % 8) * 262144 + payload b * 4096 + payload c * 64 + payload d)), 3)
      else (none, 2)
    | [b, c] =>
      (none, if !allowsSecond lead b then 0 else if isContinuation c then 2 else 1)
    | [b] => (none, if allowsSecond lead b then 1 else 0)
    | [] => (none, 0)
  else (none, 0)

/-- The units of some bytes, of which the first `skip` belong to a unit already read. -/
def units (skip : Nat) : List UInt8 → List (Option Char)
  | [] => []
  | b :: bs =>
    match skip with
    | n + 1 => units n bs
    | 0 => let (c, more) := readUnit b bs; c :: units more bs

/-- The text of arbitrary bytes. -/
def decodeLossy (bytes : List UInt8) : Text := (units 0 bytes).map (·.getD replacement)

/-- The text of bytes that are valid UTF-8. -/
def decode? (bytes : List UInt8) : Option Text := (units 0 bytes).mapM id

/-- The text of bytes as they are if they are valid UTF-8, and else with replacement characters. -/
def decode (bytes : List UInt8) : Text :=
  match decode? bytes with
  | some t => t
  | none => decodeLossy bytes

/-! ### UTF-16 -/

/-- Whether a code unit is the first half of a pair. -/
def isHighHalf (n : Nat) : Bool := 0xD800 ≤ n && n ≤ 0xDBFF

/-- Whether a code unit is the second half of a pair. -/
def isLowHalf (n : Nat) : Bool := 0xDC00 ≤ n && n ≤ 0xDFFF

/-- The character of two halves. -/
def ofHalves (high low : Nat) : Char :=
  Char.ofNat (0x10000 + (high - 0xD800) * 1024 + (low - 0xDC00))

/-- The characters of code units; a half must stand in a pair. -/
def joinHalves? : List Nat → Option Text
  | [] => some []
  | [n] => if isHighHalf n || isLowHalf n then none else some [Char.ofNat n]
  | n :: m :: r =>
    if isHighHalf n then
      if isLowHalf m then (joinHalves? r).map (ofHalves n m :: ·) else none
    else if isLowHalf n then none
    else (joinHalves? (m :: r)).map (Char.ofNat n :: ·)

end AccessLint.Text
