import AccessLint.Json.Read
import AccessLint.Json.Write
import Mathlib.Tactic.SplitIfs

namespace AccessLint

/-!
# Strings and numbers that were written

A string is read up to its closing quote, whatever follows it. A whole number is read up to
something that cannot continue a number.

* `Text.joinHalves?_toNat` — characters are never halves of a pair;
* `Json.readString?_writeString` — a string is read as it was before it was written;
* `Text.natOfDigits_ofNat` — the digits of a number stand for it;
* `Json.EndsNumber` — what may follow a number;
* `Json.readNumber?_ofInt` — a whole number that fits a word is read as it was before it was written.
-/

namespace Text

/-! ### Code units -/

theorem not_half (c : Char) : isHighHalf c.toNat = false ∧ isLowHalf c.toNat = false := by
  have hvalid : c.toNat < 0xD800 ∨ 0xDFFF < c.toNat ∧ c.toNat < 0x110000 := c.valid
  unfold isHighHalf isLowHalf
  simp only [Bool.and_eq_false_iff, decide_eq_false_iff_not]
  omega

/-- **Characters are never halves of a pair**, so `joinHalves?` gives them back one by one. -/
theorem joinHalves?_toNat (t : Text) : joinHalves? (t.map Char.toNat) = some t := by
  induction t with
  | nil => rfl
  | cons c t ih =>
    obtain ⟨hhigh, hlow⟩ := not_half c
    cases t with
    | nil => simp [joinHalves?, hhigh, hlow, Char.ofNat_toNat]
    | cons d t =>
      rw [List.map_cons] at ih
      rw [List.map_cons, List.map_cons, joinHalves?, ih]
      simp [hhigh, hlow, Char.ofNat_toNat]

/-! ### Decimal digits -/

/-- **The digits of a number** stand for it: `natOfDigits` is inverse to `Text.ofNat`. -/
theorem natOfDigits_ofNat (n : Nat) : natOfDigits (ofNat n) = n := by
  have hfold : natOfDigits (ofNat n) = Nat.ofDigitChars 10 (Nat.toDigits 10 n) 0 := by
    unfold natOfDigits ofNat Nat.ofDigitChars
    congr 1
    funext m d
    rw [Nat.mul_comm]
    rfl
  rw [hfold, Nat.ofDigitChars_ten_toDigits]

theorem isDigit_of_mem_ofNat {n : Nat} {c : Char} (h : c ∈ ofNat n) : c.isDigit = true :=
  Nat.isDigit_of_mem_toDigits (by decide) (by decide) h

/-- Nothing but digits is written for a number. -/
theorem not_mem_ofNat {c : Char} (h : c.isDigit = false) (n : Nat) : c ∉ ofNat n := by
  intro hmem
  rw [isDigit_of_mem_ofNat hmem] at h
  cases h

theorem ofNat_ne_nil (n : Nat) : ofNat n ≠ [] := Nat.toDigits_ne_nil

/-- The digits of a positive number do not start with a zero, as strict JSON asks for. -/
theorem head?_ofNat {n : Nat} (h : 0 < n) : (ofNat n).head? ≠ some '0' := by
  induction n using Nat.strongRecOn with
  | ind n ih =>
    unfold ofNat at ih ⊢
    rw [Nat.toDigits_eq_if (by decide)]
    by_cases hn : n < 10
    · -- a single digit
      have hall : ∀ d : Fin 10, 0 < d.1 → [d.1.digitChar].head? ≠ some '0' := by decide
      rw [if_pos hn]
      exact hall ⟨n, hn⟩ h
    · obtain ⟨d, ds, hds⟩ := List.exists_cons_of_ne_nil (ofNat_ne_nil (n / 10))
      have hfirst := ih (n / 10) (by omega) (by omega)
      unfold ofNat at hds
      rw [hds] at hfirst
      rw [if_neg hn, hds]
      exact hfirst

end Text

namespace Json

/-! ### Strings -/

/-- The two digits that `hexPair` writes for a control character are read: there are 32 of them,
    checked one by one. -/
theorem hexQuad?_hexPair {n : Nat} (h : n < 0x20) :
    ∃ a b, hexPair n = [a, b] ∧ hexQuad? '0' '0' a b = some n := by
  have hall : ∀ n : Fin 0x20, ((hexPair n.1)[0]?.bind fun a => (hexPair n.1)[1]?.bind fun b =>
      if hexPair n.1 = [a, b] then hexQuad? '0' '0' a b else none) = some n.1 := by decide
  obtain ⟨a, -, ha⟩ := Option.bind_eq_some_iff.mp (hall ⟨n, h⟩)
  obtain ⟨b, -, hb⟩ := Option.bind_eq_some_iff.mp ha
  by_cases hpair : hexPair n = [a, b]
  · rw [if_pos hpair] at hb
    exact ⟨a, b, hpair, hb⟩
  · rw [if_neg hpair] at hb
    cases hb

/-- The forms of a character inside quotes (`escape`): a letter after a backslash that stands for
    it, the number of a control character, or the character itself. -/
theorem escape_cases (c : Char) :
    (∃ e, escape c = ['\\', e] ∧ e ≠ 'u' ∧ unescape? e = some c) ∨
    (escape c = ['\\', 'u', '0', '0'] ++ hexPair c.toNat ∧ c.toNat < 0x20) ∨
    (escape c = [c] ∧ c ≠ '"' ∧ c ≠ '\\' ∧ 0x20 ≤ c.toNat) := by
  unfold escape
  split_ifs with hquote hbackslash hnewline hreturn htab hback hfeed hcontrol
  · exact .inl ⟨'"', rfl, by decide, by rw [hquote]; rfl⟩
  · exact .inl ⟨'\\', rfl, by decide, by rw [hbackslash]; rfl⟩
  · exact .inl ⟨'n', rfl, by decide, by rw [hnewline]; rfl⟩
  · exact .inl ⟨'r', rfl, by decide, by rw [hreturn]; rfl⟩
  · exact .inl ⟨'t', rfl, by decide, by rw [htab]; rfl⟩
  · exact .inl ⟨'b', rfl, by decide, by rw [hback]; rfl⟩
  · exact .inl ⟨'f', rfl, by decide, by rw [hfeed]; rfl⟩
  · exact .inr (.inl ⟨rfl, hcontrol⟩)
  · exact .inr (.inr ⟨rfl, hquote, hbackslash, Nat.le_of_not_lt hcontrol⟩)

/-- **One character of a string** is read by `readUnits?` as one unit, whatever is written for
    it. -/
theorem readUnits?_escape (c : Char) {r rest : Text} {units : List Nat}
    (h : readUnits? r = some (units, rest)) :
    readUnits? (escape c ++ r) = some (c.toNat :: units, rest) := by
  rcases escape_cases c with ⟨e, hescape, he, hc⟩ | ⟨hescape, hcontrol⟩ | ⟨hescape, h1, h2, h3⟩
  · rw [hescape]
    show readUnits? ('\\' :: e :: r) = _
    rw [readUnits?.eq_4 _ _ fun _ _ _ _ _ heq => absurd heq he, hc, h]
    rfl
  · obtain ⟨a, b, hpair, hquad⟩ := hexQuad?_hexPair hcontrol
    rw [hescape, hpair]
    show readUnits? ('\\' :: 'u' :: '0' :: '0' :: a :: b :: r) = _
    rw [readUnits?, hquad, h]
    rfl
  · rw [hescape, List.singleton_append]
    rw [readUnits?.eq_5 _ _ h1 (fun _ _ _ _ _ heq => absurd heq h2) fun _ _ heq => absurd heq h2, h]
    simp [h2, Nat.not_lt.mpr h3]

/-- The units of a string that was written are those of its characters, by induction on the
    string. -/
theorem readUnits?_flatMap_escape (s rest : Text) :
    readUnits? (s.flatMap escape ++ '"' :: rest) = some (s.map Char.toNat, rest) := by
  induction s with
  | nil => rfl
  | cons c s ih =>
    rw [List.flatMap_cons, List.append_assoc, List.map_cons]
    exact readUnits?_escape c ih

/-- **A string is read by `readString?` as it was before it was written**, after its opening quote:
    its units are characters again. -/
theorem readString?_writeString (s rest : Text) :
    readString? (s.flatMap escape ++ '"' :: rest) = some (s, rest) := by
  unfold readString?
  rw [readUnits?_flatMap_escape]
  show (Text.joinHalves? (s.map Char.toNat)).bind (fun t => some (t, rest)) = _
  rw [Text.joinHalves?_toNat]
  rfl

/-! ### Numbers -/

/-- Whether a text that follows a whole number ends it. -/
def EndsNumber (rest : Text) : Prop :=
  ∀ c ∈ rest.head?, c.isDigit = false ∧ c ≠ '.' ∧ c ≠ 'e' ∧ c ≠ 'E'

/-- A number that was written starts with its sign or a digit. -/
theorem exists_ofInt_eq_cons (n : Int) :
    ∃ c r, Text.ofInt n = c :: r ∧ (c = '-' ∨ c.isDigit = true) := by
  cases n with
  | ofNat n =>
    obtain ⟨d, ds, hds⟩ := List.exists_cons_of_ne_nil (Text.ofNat_ne_nil n)
    exact ⟨d, ds, hds, .inr (Text.isDigit_of_mem_ofNat (hds ▸ List.mem_cons_self))⟩
  | negSucc n => exact ⟨'-', Text.ofNat (n + 1), rfl, .inl rfl⟩

/-- `digits` takes the digits of a number up to its end, and none of them is left. -/
theorem digits_ofNat (n : Nat) {rest : Text} (h : EndsNumber rest) :
    digits (Text.ofNat n ++ rest) = (Text.ofNat n, rest) := by
  have hall : ∀ c ∈ Text.ofNat n, c.isDigit = true := fun c => Text.isDigit_of_mem_ofNat
  have hstop : rest.takeWhile Char.isDigit = [] ∧ rest.dropWhile Char.isDigit = rest := by
    cases rest with
    | nil => exact ⟨rfl, rfl⟩
    | cons c rest =>
      have hc : c.isDigit = false := (h c rfl).1
      simp [hc]
  unfold digits
  rw [List.takeWhile_append_of_pos hall, List.dropWhile_append_of_pos hall, hstop.1, hstop.2,
    List.append_nil]

/-- The whole numbers of a word. -/
def FitsWord : Number → Prop
  | .int n => -(Decimal.twoTo 63 : Int) ≤ n ∧ n < Decimal.twoTo 64
  | .real _ => False

/-- The digits of a number have no leading zero, the condition that `readUnsigned?` puts on them. -/
theorem plainWhole_ofNat (n : Nat) : ((Text.ofNat n).isEmpty ||
    ((Text.ofNat n).head? == some '0' && (Text.ofNat n).length != 1)) = false := by
  by_cases hn : n = 0
  · rw [hn]
    rfl
  · have hhead := Text.head?_ofNat (Nat.pos_of_ne_zero hn)
    simp [Text.ofNat_ne_nil, hhead]

theorem readFraction?_end {rest : Text} (h : EndsNumber rest) :
    readFraction? rest = some ([], false, rest) := by
  cases rest with
  | nil => rfl
  | cons c rest =>
    obtain ⟨-, hpoint, -, -⟩ := h c rfl
    rw [readFraction?]
    rintro r ⟨⟩
    exact hpoint rfl

theorem readExponent?_end {rest : Text} (h : EndsNumber rest) :
    readExponent? rest = some (0, false, rest) := by
  cases rest with
  | nil => rfl
  | cons c rest =>
    obtain ⟨-, -, he, hE⟩ := h c rfl
    simp [readExponent?, he, hE]

/-- The digits of a number that was written are read by `readUnsigned?` as a whole number, with the
    sign that was read before. -/
theorem readUnsigned?_ofNat (negative : Bool) (n : Nat) {rest : Text} (h : EndsNumber rest) :
    readUnsigned? negative (Text.ofNat n ++ rest) =
      (Number.ofLiteral? ⟨negative, Text.ofNat n, [], 0⟩ true).map fun m => (m, rest) := by
  unfold readUnsigned?
  rw [digits_ofNat n h]
  dsimp only
  rw [plainWhole_ofNat, readFraction?_end h]
  show (readExponent? rest).bind _ = _
  rw [readExponent?_end h, Option.map_eq_bind]
  rfl

/-- **A whole number that fits a word** (`FitsWord`) is read by `readNumber?` as it was before it
    was written. -/
theorem readNumber?_ofInt {n : Int} (hn : FitsWord (.int n)) {rest : Text} (h : EndsNumber rest) :
    readNumber? (Text.ofInt n ++ rest) = some (.int n, rest) := by
  obtain ⟨hlow, hhigh⟩ := hn
  cases n with
  | ofNat n =>
    obtain ⟨d, ds, hds⟩ := List.exists_cons_of_ne_nil (Text.ofNat_ne_nil n)
    -- without a minus sign the number is read as it stands
    have hd : d ≠ '-' := by
      rintro rfl
      have hdigit : '-'.isDigit = true := Text.isDigit_of_mem_ofNat (hds ▸ List.mem_cons_self)
      cases hdigit
    have hread : readNumber? (Text.ofNat n ++ rest) = readUnsigned? false (Text.ofNat n ++ rest) := by
      rw [hds, List.cons_append, readNumber?]
      rintro r ⟨⟩
      exact hd rfl
    have hfits : n < Decimal.twoTo 64 := by
      have hcast : Int.ofNat n = (n : Int) := rfl
      omega
    rw [Text.ofInt, hread, readUnsigned?_ofNat false n h]
    simp [Number.ofLiteral?, Text.natOfDigits_ofNat, hfits]
  | negSucc n =>
    have hvalue : Int.negSucc n = -(n + 1 : Nat) := rfl
    have hfits : n + 1 ≤ Decimal.twoTo 63 := by omega
    rw [Text.ofInt, List.cons_append, readNumber?, readUnsigned?_ofNat true (n + 1) h, hvalue]
    simp [Number.ofLiteral?, Text.natOfDigits_ofNat, hfits]

end Json

end AccessLint
