import AccessLint.Decimal.Read
import Mathlib.Data.List.TakeWhile

namespace AccessLint.Decimal

/-!
# Characters of decimal numbers

A decimal number as written consists of digits, signs, points and letters for exponents. So a unit
behind a number cannot be taken for a part of it.

* `isNumeric` — the characters of numbers;
* `isNumeric_of_readFinite?` — a text that is read as a number consists of them;
* `readFinite?_append_unit` — nothing is a number that ends in another character.
-/

/-- Whether a character can occur in a decimal number. -/
def isNumeric (c : Char) : Bool :=
  c.isDigit || c == '+' || c == '-' || c == '.' || c == 'e' || c == 'E'

theorem all_isNumeric_of_digits {ds : Text} (h : ds.all Char.isDigit = true) :
    ds.all isNumeric = true := by
  rw [List.all_eq_true] at h ⊢
  intro c hc
  simp [isNumeric, h c hc]

theorem all_isNumeric_takeWhile (t : Text) : (t.takeWhile Char.isDigit).all isNumeric = true :=
  all_isNumeric_of_digits (List.all_takeWhile)

/-- A sign in front, which `readSign` takes off, is part of a number, so only what follows it need
    be looked at. -/
theorem all_isNumeric_of_readSign {t : Text} (h : (readSign t).2.all isNumeric = true) :
    t.all isNumeric = true := by
  unfold readSign at h
  split at h
  · exact Bool.and_eq_true_iff.mpr ⟨rfl, h⟩
  · exact Bool.and_eq_true_iff.mpr ⟨rfl, h⟩
  · exact h

/-- An exponent that can be read consists of a sign and digits, which all are `isNumeric`. -/
theorem all_isNumeric_of_readExponent? {t : Text} (h : (readExponent? t).isSome = true) :
    t.all isNumeric = true := by
  refine all_isNumeric_of_readSign (all_isNumeric_of_digits ?_)
  unfold readExponent? at h
  dsimp only at h
  split at h
  · cases h
  · next hds =>
    rw [Bool.or_eq_true, not_or, Bool.not_eq_true', Bool.not_eq_false] at hds
    exact hds.2

/-- Behind the digits of a number there is nothing or an exponent: the two ways in which
    `readFinite?` ends. -/
theorem all_isNumeric_of_end {negative : Bool} {whole fraction rest : Text}
    (h : (if (whole.isEmpty && fraction.isEmpty) = true then none
      else match rest with
        | [] => some ⟨negative, whole, fraction, 0⟩
        | c :: r =>
          if c = 'e' || c = 'E' then
            (readExponent? r).map (Literal.mk negative whole fraction ·)
          else none : Option Literal).isSome = true) :
    rest.all isNumeric = true := by
  split at h
  · cases h
  · cases rest with
    | nil => rfl
    | cons c r =>
      dsimp only at h
      split at h
      · -- only an exponent may follow the digits
        next hc =>
        rw [Option.isSome_map] at h
        rw [List.all_cons, all_isNumeric_of_readExponent? h, Bool.and_true]
        rw [Bool.or_eq_true, decide_eq_true_eq, decide_eq_true_eq] at hc
        rcases hc with rfl | rfl
        · rfl
        · rfl
      · cases h

/-- **Numbers consist of their characters**, those that are `isNumeric`: digits, signs, a point and
    the letters of an exponent. -/
theorem isNumeric_of_readFinite? {t : Text} (h : (readFinite? t).isSome = true) :
    t.all isNumeric = true := by
  have hliteral : (Literal.ofText? t).isSome = true := by
    unfold readFinite? at h
    exact Option.isSome_of_isSome_bind h
  refine all_isNumeric_of_readSign ?_
  unfold Literal.ofText? at hliteral
  dsimp only at hliteral
  generalize (readSign t).2 = u at hliteral ⊢
  rw [← List.takeWhile_append_dropWhile (p := Char.isDigit) (l := u), List.all_append,
    all_isNumeric_takeWhile, Bool.true_and]
  generalize u.dropWhile Char.isDigit = r at hliteral ⊢
  -- with or without a point
  split at hliteral
  · next r =>
    rw [List.all_cons, ← List.takeWhile_append_dropWhile (p := Char.isDigit) (l := r),
      List.all_append, all_isNumeric_takeWhile, all_isNumeric_of_end hliteral]
    rfl
  · exact all_isNumeric_of_end hliteral

/-- **A unit is no part of a number**, so a text that ends in a percent sign or a word is read as
    none by `readFinite?`. -/
theorem readFinite?_append_unit {unit : Text} {c : Char} (hc : c ∈ unit) (hunit : isNumeric c = false)
    (t : Text) : readFinite? (t ++ unit) = none := by
  rw [← Option.not_isSome_iff_eq_none]
  intro h
  have hall := List.all_eq_true.mp (isNumeric_of_readFinite? h) c (List.mem_append_right t hc)
  rw [hunit] at hall
  cases hall

end AccessLint.Decimal
