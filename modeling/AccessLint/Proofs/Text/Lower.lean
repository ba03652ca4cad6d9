import AccessLint.Text.Blank

namespace AccessLint.Text

/-!
# Lower case

Only the letters of ASCII have a lower case here. All other characters are left as they are, and no
letter becomes one of them.

* `toLower_eq_iff` — a character that is no letter comes from itself only;
* `apply_toLower` — so nothing changes for properties that letters do not have;
* `lower_lower` — lower case stays as it is;
* `utf8Size_lower` — it takes as many bytes;
* `lower_trim` — blanks are trimmed in the same places.
-/

theorem isLower_iff {c : Char} : c.isLower = true ↔ 97 ≤ c.val.toNat ∧ c.val.toNat ≤ 122 := by
  show (decide ('a'.val ≤ c.val) && decide (c.val ≤ 'z'.val)) = true ↔ _
  rw [Bool.and_eq_true, decide_eq_true_eq, decide_eq_true_eq]
  exact Iff.rfl

/-- A character that `Char.toLower` changes becomes a small letter. -/
theorem isLower_toLower {c : Char} (h : c.toLower ≠ c) : c.toLower.isLower = true := by
  unfold Char.toLower at h ⊢
  split
  · next hc =>
    have h65 : 65 ≤ c.val.toNat := hc.1
    have h90 : c.val.toNat ≤ 90 := hc.2
    -- the distance between the cases does not overflow
    have hadd : (c.val + ('a'.val - 'A'.val)).toNat = c.val.toNat + 32 := by
      rw [UInt32.toNat_add]
      apply Nat.mod_eq_of_lt
      show c.val.toNat + 32 < 4294967296
      omega
    rw [isLower_iff]
    show 97 ≤ (c.val + ('a'.val - 'A'.val)).toNat ∧ (c.val + ('a'.val - 'A'.val)).toNat ≤ 122
    rw [hadd]
    omega
  · next hc => exact absurd (dif_neg hc) h

theorem toLower_of_isLower {c : Char} (h : c.isLower = true) : c.toLower = c := by
  unfold Char.toLower
  apply dif_neg
  have h97 : 97 ≤ c.val.toNat := (isLower_iff.mp h).1
  rintro ⟨-, hle⟩
  have h90 : c.val.toNat ≤ 90 := hle
  omega

theorem toLower_toLower (c : Char) : c.toLower.toLower = c.toLower := by
  by_cases h : c.toLower = c
  · rw [h, h]
  · exact toLower_of_isLower (isLower_toLower h)

/-- A letter stays a letter, so names stay names. -/
theorem isAlpha_toLower {c : Char} (h : c.isAlpha = true) : c.toLower.isAlpha = true := by
  by_cases hc : c.toLower = c
  · rw [hc]
    exact h
  · exact Bool.or_eq_true_iff.mpr (Or.inr (isLower_toLower hc))

/-- A character that is no letter is the lower case of itself only, so looking for it does not
    depend on case (`Char.toLower`). -/
theorem toLower_eq_iff {c d : Char} (hd : d.isAlpha = false) : c.toLower = d ↔ c = d := by
  have hlower : d.isLower = false := (Bool.or_eq_false_iff.mp hd).2
  constructor
  · intro h
    by_cases hc : c.toLower = c
    · exact hc.symm.trans h
    · -- a changed character would be a letter
      have hsmall := isLower_toLower hc
      rw [h, hlower] at hsmall
      exact absurd hsmall Bool.false_ne_true
  · rintro rfl
    have hupper : c.isUpper = false := (Bool.or_eq_false_iff.mp hd).1
    unfold Char.toLower
    apply dif_neg
    intro hc
    have hcapital : c.isUpper = true := decide_eq_true hc
    rw [hupper] at hcapital
    exact absurd hcapital Bool.false_ne_true

/-- A property that no letter has does not depend on case: such are blanks, and what ends a name. -/
theorem apply_toLower {p : Char → Bool} (hp : ∀ c, c.isAlpha = true → p c = false) (c : Char) :
    p c.toLower = p c := by
  by_cases h : c.toLower = c
  · rw [h]
  · -- both are letters
    have hsmall : c.toLower.isAlpha = true := Bool.or_eq_true_iff.mpr (Or.inr (isLower_toLower h))
    cases hletter : c.isAlpha with
    | true => rw [hp c hletter, hp _ hsmall]
    | false => exact absurd ((toLower_eq_iff hletter).mpr rfl) h

/-- Whether a character that is no letter occurs in a text does not depend on case: `lower` changes
    letters only. -/
theorem mem_lower {d : Char} (hd : d.isAlpha = false) {t : Text} : d ∈ lower t ↔ d ∈ t := by
  unfold lower
  rw [List.mem_map]
  constructor
  · rintro ⟨c, hc, h⟩
    rw [(toLower_eq_iff hd).mp h] at hc
    exact hc
  · intro h
    exact ⟨d, h, (toLower_eq_iff hd).mpr rfl⟩

theorem lower_lower (t : Text) : lower (lower t) = lower t := by
  unfold lower
  rw [List.map_map]
  apply List.map_congr_left
  intro c _
  exact toLower_toLower c

/-- Capital and small letters take one byte each, … -/
theorem utf8Size_toLower (c : Char) : c.toLower.utf8Size = c.utf8Size := by
  by_cases h : c.toLower = c
  · rw [h]
  · have hsmall := isLower_iff.mp (isLower_toLower h)
    have hcapital : c.val.toNat ≤ 90 := by
      unfold Char.toLower at h
      split at h
      · next hc => exact hc.2
      · exact absurd rfl h
    have h127 : (127 : UInt32).toNat = 127 := rfl
    have hone : c.toLower.utf8Size = 1 :=
      Char.utf8Size_eq_one_iff.mpr (UInt32.le_iff_toNat_le.mpr (by omega))
    have hone' : c.utf8Size = 1 :=
      Char.utf8Size_eq_one_iff.mpr (UInt32.le_iff_toNat_le.mpr (by omega))
    rw [hone, hone']

/-- … so `lower` keeps the number of bytes, and offsets stay where they are. -/
@[simp] theorem utf8Size_lower (t : Text) : utf8Size (lower t) = utf8Size t := by
  induction t with
  | nil => rfl
  | cons c t ih =>
    show c.toLower.utf8Size + utf8Size (lower t) = c.utf8Size + utf8Size t
    rw [utf8Size_toLower, ih]

@[simp] theorem length_lower (t : Text) : (lower t).length = t.length := List.length_map _

@[simp] theorem lower_append (a b : Text) : lower (a ++ b) = lower a ++ lower b := List.map_append

/-! ### Blanks -/

theorem isBlankChar_of_isAlpha {c : Char} (h : c.isAlpha = true) : isBlankChar c = false := by
  have hletter : 65 ≤ c.toNat ∧ c.toNat ≤ 90 ∨ 97 ≤ c.toNat ∧ c.toNat ≤ 122 := by
    rcases Bool.or_eq_true_iff.mp h with hupper | hlower
    · exact Or.inl (of_decide_eq_true hupper)
    · exact Or.inr (isLower_iff.mp hlower)
  unfold isBlankChar
  simp only [Bool.or_eq_false_iff, Bool.and_eq_false_iff, decide_eq_false_iff_not,
    beq_eq_false_iff_ne]
  omega

theorem isBlankChar_toLower (c : Char) : isBlankChar c.toLower = isBlankChar c :=
  apply_toLower (fun _ => isBlankChar_of_isAlpha) c

theorem isBlank_lower (t : Text) : isBlank (lower t) = isBlank t := by
  unfold isBlank lower
  rw [List.all_map]
  exact congrArg t.all (funext isBlankChar_toLower)

/-- `trim` takes the same off a text in any case, since blanks have no case. -/
theorem lower_trim (t : Text) : lower (trim t) = trim (lower t) := by
  have hstart : ∀ s : Text, trimStart (lower s) = lower (trimStart s) := by
    intro s
    have hsame : isBlankChar ∘ Char.toLower = isBlankChar := funext isBlankChar_toLower
    unfold trimStart lower
    rw [List.dropWhile_map, hsame]
  have hend : ∀ s : Text, trimEnd (lower s) = lower (trimEnd s) := by
    intro s
    have hreverse : ∀ r : Text, (lower r).reverse = lower r.reverse :=
      fun _ => List.map_reverse.symm
    show (trimStart (lower s).reverse).reverse = lower (trimStart s.reverse).reverse
    rw [hreverse, hstart, hreverse]
  unfold trim
  rw [hstart, hend]

end AccessLint.Text
