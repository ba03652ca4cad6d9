import AccessLint.Html.ReferenceTable
import AccessLint.Text.Encoding

namespace AccessLint.Html

/-!
# Character references

* `legacyChar` — what the numbers of the upper control characters stand for;
* `numberedReference?`, `namedReference?` — the reference after an ampersand: what it stands for
  and how many characters it takes;
* `decodeReferences` — a text with its references replaced;
* `startsUnterminated` — whether a text starts with a reference by number without its semicolon.
-/

/-- The characters that the code points 80 to 9F (hexadecimal) stand for on legacy pages. Those
    without an entry stand for themselves. -/
def legacyChars : List (Nat × Nat) := [
  (0x80, 0x20AC), (0x82, 0x201A), (0x83, 0x0192), (0x84, 0x201E), (0x85, 0x2026), (0x86, 0x2020),
  (0x87, 0x2021), (0x88, 0x02C6), (0x89, 0x2030), (0x8A, 0x0160), (0x8B, 0x2039), (0x8C, 0x0152),
  (0x8E, 0x017D), (0x91, 0x2018), (0x92, 0x2019), (0x93, 0x201C), (0x94, 0x201D), (0x95, 0x2022),
  (0x96, 0x2013), (0x97, 0x2014), (0x98, 0x02DC), (0x99, 0x2122), (0x9A, 0x0161), (0x9B, 0x203A),
  (0x9C, 0x0153), (0x9E, 0x017E), (0x9F, 0x0178)]

/-- The character of a code point on a legacy page. -/
def legacyChar (n : Nat) : Char := Char.ofNat ((legacyChars.lookup n).getD n)

/-- The character of a reference by number. Numbers that no character has give the replacement
    character. -/
def charOfReference (n : Nat) : Char :=
  if n = 0 || 0x10FFFF < n || (0xD800 ≤ n && n ≤ 0xDFFF) then Text.replacement else legacyChar n

/-- A reference by number after `&#`. -/
def numberedReference? (t : Text) : Option (Text × Nat) :=
  let (marks, isDigit, value) : Nat × (Char → Bool) × (Text → Nat) :=
    match t with
    | 'x' :: _ | 'X' :: _ => (1, fun c => (Text.hexValue? c).isSome, Text.natOfHex)
    | _ => (0, Char.isDigit, Text.natOfDigits)
  let ds := (t.drop marks).takeWhile isDigit
  if ds.isEmpty then none
  else
    let taken := marks + ds.length
    let taken := if (t.drop taken).head? == some ';' then taken + 1 else taken
    some ([charOfReference (value ds)], taken)

/-- The longest of the names that start a text. -/
def longestName? (t : Text) : List Reference → Option Reference
  | [] => none
  | r :: rs =>
    let other := longestName? t rs
    if List.isPrefixOf r.name t then
      match other with
      | some o => if r.name.length < o.name.length then some o else some r
      | none => some r
    else other

/-- A reference by name after `&`. In an attribute value a name without its semicolon counts only
    if no letter, digit or equals sign follows. -/
def namedReference? (inAttribute : Bool) (t : Text) : Option (Text × Nat) :=
  match t with
  | [] => none
  | c :: _ =>
    match longestName? t (referencesStartingWith c) with
    | none => none
    | some r =>
      let name : Text := r.name
      let continues := (t.drop name.length).head?.any fun d => d.isAlphanum || d == '='
      if inAttribute && name.getLast? != some ';' && continues then none
      else some (r.codePoints.map Char.ofNat, name.length)

/-- The reference after an ampersand. -/
def reference? (inAttribute : Bool) (t : Text) : Option (Text × Nat) :=
  match t with
  | '#' :: r => (numberedReference? r).map fun (cs, n) => (cs, n + 1)
  | _ => namedReference? inAttribute t

/-- Replaces the references of a text, of which the first `skip` characters belong to a reference
    already replaced. -/
def decodeFrom (inAttribute : Bool) : (skip : Nat) → Text → Text
  | _, [] => []
  | skip + 1, _ :: r => decodeFrom inAttribute skip r
  | 0, c :: r =>
    if c = '&' then
      match reference? inAttribute r with
      | some (cs, n) => cs ++ decodeFrom inAttribute n r
      | none => c :: decodeFrom inAttribute 0 r
    else c :: decodeFrom inAttribute 0 r

/-- A text with its references replaced. -/
def decodeReferences (inAttribute : Bool) (t : Text) : Text := decodeFrom inAttribute 0 t

/-- Whether a text starts with a reference by number that has no semicolon. -/
def startsUnterminated (t : Text) : Bool :=
  match List.isPrefixOf? "&#" t with
  | some r => (numberedReference? r).any fun (_, n) => (r.take n).getLast? != some ';'
  | none => false

end AccessLint.Html
