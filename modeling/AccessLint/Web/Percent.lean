import AccessLint.Text.Encoding

namespace AccessLint.Web

/-!
# Percent-encoding

* `percentEncode` — a text in which some characters are replaced by their bytes as `%` and two
  digits;
* `percentDecode` — the bytes of a text in which such groups are replaced by their bytes.
-/

/-- A hexadecimal digit, with capital letters. -/
def capitalDigit (n : Nat) : Char := Char.ofNat (if n < 10 then 48 + n else 55 + n)

/-- The three characters of a byte. -/
def percentByte (b : UInt8) : Text :=
  ['%', capitalDigit (b.toNat / 16), capitalDigit (b.toNat % 16)]

/-- A text with the characters that do not satisfy `isKept` encoded. -/
def percentEncode (isKept : Char → Bool) (t : Text) : Text :=
  t.flatMap fun c => if isKept c then [c] else (Text.encode [c]).flatMap percentByte

/-- The byte of a percent sign and two digits at the start of a text, and the rest. -/
def percentByte? : Text → Option (UInt8 × Text)
  | '%' :: a :: b :: r => do
    return (UInt8.ofNat ((← Text.hexValue? a) * 16 + (← Text.hexValue? b)), r)
  | _ => none

/-- The bytes of a text, of which the first `skip` characters belong to a group already read. -/
def percentDecodeFrom (skip : Nat) : Text → List UInt8
  | [] => []
  | c :: cs =>
    match skip with
    | n + 1 => percentDecodeFrom n cs
    | 0 =>
      match percentByte? (c :: cs) with
      | some (b, _) => b :: percentDecodeFrom 2 cs
      | none => Text.encode [c] ++ percentDecodeFrom 0 cs

/-- The bytes of a text with its groups decoded. -/
def percentDecode (t : Text) : List UInt8 := percentDecodeFrom 0 t

end AccessLint.Web
