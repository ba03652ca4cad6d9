import AccessLint.Proofs.Text.Lower
import AccessLint.Text.Lowercase
import AccessLint.Text.Pattern

namespace AccessLint.Text

/-!
# Small letters of all scripts against those of ASCII

Lower case of all scripts takes letters beyond ASCII to such letters, with the exception of the Kelvin
sign. So before a text is compared with phrases in ASCII that have no `k`, it makes no difference
whether all of its letters are made small or those of ASCII only.

* `toLower_of_beyond` — characters beyond ASCII have no lower case in ASCII;
* `caseRuns_beyond` — the table of letters with a lower case;
* `exists_beyond_mem_lowerChar` — one letter beyond ASCII in lower case;
* `readLongS` — the long s as an s;
* `map_foldedLetter_toLowercase` — a text against a phrase.
-/

/-! ### Characters -/

/-- Beyond ASCII nothing is changed by `Char.toLower`. -/
theorem toLower_of_beyond {c : Char} (h : 128 ≤ c.toNat) : c.toLower = c := by
  unfold Char.toLower
  apply dif_neg
  rintro ⟨-, hle⟩
  have h90 : c.toNat ≤ 90 := hle
  omega

/-- In ASCII `lowerChar` is `Char.toLower`. -/
theorem lowerChar_ascii {c : Char} (h : c.toNat < 128) : lowerChar c = [c.toLower] := if_pos h

/-- **The table of lower case** (`caseRuns`). But for the Kelvin sign, letters beyond ASCII go to
    letters beyond ASCII, and none of them to the long s. -/
theorem caseRuns_beyond : ∀ r ∈ caseRuns,
    (r.first = 0x212A ∧ r.last = 0x212A) ∨
      (128 ≤ r.target ∧ r.target + (r.last - r.first) < 0x17F) ∨
      (0x17F < r.target ∧ r.target + (r.last - r.first) < 0xD800) ∨
      (0xE000 ≤ r.target ∧ r.target + (r.last - r.first) < 0x110000) := by
  decide +kernel

/-- A letter beyond ASCII keeps a letter beyond ASCII in its lower case, but for the long s and the
    Kelvin sign: so it is read as none of ASCII. -/
theorem exists_beyond_mem_lowerChar {c : Char} (h : 128 ≤ c.toNat) (hs : c ≠ '\u017F')
    (hk : c ≠ '\u212A') : ∃ x ∈ lowerChar c, 128 ≤ x.toNat ∧ x ≠ '\u017F' := by
  have hascii : ¬ c.toNat < 128 := by omega
  unfold lowerChar
  rw [if_neg hascii]
  split
  · -- the dotted capital I keeps its dot
    exact ⟨'\u0307', by simp, by decide, by decide⟩
  · split
    · next r hr =>
      have hcovers := List.find?_some hr
      simp only [CaseRun.covers, Bool.and_eq_true, decide_eq_true_eq] at hcovers
      obtain ⟨⟨hfirst, hlast⟩, -⟩ := hcovers
      have hne : c.toNat ≠ 0x212A := fun heq => hk (Char.toNat_inj.mp heq)
      refine ⟨_, List.mem_singleton.mpr rfl, ?_⟩
      -- the letter has the place in the run of small letters that `c` has in its own
      have hplace : c.toNat - r.first ≤ r.last - r.first := by omega
      have hvalid : (r.target + (c.toNat - r.first)).isValidChar ∧
          128 ≤ r.target + (c.toNat - r.first) ∧ r.target + (c.toNat - r.first) ≠ 0x17F := by
        unfold Nat.isValidChar
        rcases caseRuns_beyond r (List.mem_of_find?_eq_some hr) with h | h | h | h <;> omega
      have htoNat : (Char.ofNat (r.target + (c.toNat - r.first))).toNat =
          r.target + (c.toNat - r.first) := by
        rw [Char.ofNat, dif_pos hvalid.1]
        rfl
      rw [htoNat]
      refine ⟨hvalid.2.1, fun heq => hvalid.2.2 ?_⟩
      rw [← htoNat, heq]
      rfl
    · exact ⟨c, List.mem_singleton.mpr rfl, h, hs⟩

/-! ### Texts -/

/-- The long s read as an s. -/
def readLongS (c : Char) : Char := if c = '\u017F' then 's' else c

/-- A character beyond ASCII other than the long s counts as one beyond ASCII or as a `k`
    (`foldedLetter`). -/
theorem foldedLetter_of_beyond {c : Char} (h : 128 ≤ c.toNat) (hs : c ≠ '\u017F') :
    128 ≤ (foldedLetter c).toNat ∨ foldedLetter c = 'k' := by
  unfold foldedLetter
  rw [if_neg hs]
  split
  · exact Or.inr rfl
  · rw [toLower_of_beyond h]
    exact Or.inl h

/-- In ASCII `foldedLetter` is `Char.toLower`. -/
theorem foldedLetter_ascii {c : Char} (h : c.toNat < 128) : foldedLetter c = c.toLower := by
  have hs : c ≠ '\u017F' := by
    rintro rfl
    exact absurd h (by decide)
  have hk : c ≠ '\u212A' := by
    rintro rfl
    exact absurd h (by decide)
  unfold foldedLetter
  rw [if_neg hs, if_neg hk]

/-- The lower-case form of a character in a text is the one it has by itself (`lowerChar`), unless
    it is a sigma, whose form depends on what is around it. -/
theorem toLowercaseAfter_cons (before : Text) {c : Char} (hc : c ≠ '\u03A3') (t : Text) :
    toLowercaseAfter before (c :: t) = lowerChar c ++ toLowercaseAfter (c :: before) t := by
  rw [toLowercaseAfter, if_neg hc]

/-- Characters of ASCII and the long s count as the small letters of ASCII that they are
    (`readLongS`). -/
theorem map_foldedLetter_lowerChar {c : Char} (h : c.toNat < 128 ∨ c = '\u017F') :
    (lowerChar c).map foldedLetter = [(readLongS c).toLower] := by
  rcases h with h | rfl
  · have hs : c ≠ '\u017F' := by
      rintro rfl
      exact absurd h (by decide)
    have hsmall : c.toLower.toNat < 128 := by
      by_cases hc : c.toLower = c
      · rw [hc]
        exact h
      · have hle := (isLower_iff.mp (isLower_toLower hc)).2
        show c.toLower.val.toNat < 128
        omega
    rw [lowerChar_ascii h, List.map_singleton, foldedLetter_ascii hsmall, toLower_toLower]
    unfold readLongS
    rw [if_neg hs]
  · decide +kernel

/-- All other characters keep something in lower case that counts as no letter but a `k`, so a
    phrase without a `k` does not match them. -/
theorem exists_mem_toLowercaseAfter (before : Text) {c : Char} (h : 128 ≤ c.toNat)
    (hs : c ≠ '\u017F') (t : Text) : ∃ x ∈ toLowercaseAfter before (c :: t),
      128 ≤ (foldedLetter x).toNat ∨ foldedLetter x = 'k' := by
  by_cases hsigma : c = '\u03A3'
  · subst hsigma
    rw [toLowercaseAfter, if_pos rfl]
    refine ⟨_, List.mem_append_left _ List.mem_cons_self, ?_⟩
    split
    · exact foldedLetter_of_beyond (by decide) (by decide)
    · exact foldedLetter_of_beyond (by decide) (by decide)
  · rw [toLowercaseAfter_cons before hsigma]
    by_cases hk : c = '\u212A'
    · subst hk
      have hmem : 'k' ∈ lowerChar '\u212A' := by decide +kernel
      exact ⟨'k', List.mem_append_left _ hmem, Or.inr (by decide)⟩
    · obtain ⟨x, hx, hbeyond, hxs⟩ := exists_beyond_mem_lowerChar h hs hk
      exact ⟨x, List.mem_append_left _ hx, foldedLetter_of_beyond hbeyond hxs⟩

/-- **A text against a phrase.** Let a phrase consist of characters of ASCII other than `k`. A text in
    lower case of all scripts is read as the phrase exactly if its lower case of ASCII is, once the
    long s is read as an s. -/
theorem map_foldedLetter_toLowercase {w : Text} (hw : ∀ x ∈ w, x.toNat < 128 ∧ x ≠ 'k') (t : Text) :
    (toLowercase t).map foldedLetter = w ↔ lower (t.map readLongS) = w := by
  unfold toLowercase
  generalize ([] : Text) = before
  induction t generalizing before w with
  | nil => exact Iff.rfl
  | cons c t ih =>
    have hlower : lower ((c :: t).map readLongS) =
        (readLongS c).toLower :: lower (t.map readLongS) := rfl
    rw [hlower]
    by_cases hplain : c.toNat < 128 ∨ c = '\u017F'
    · -- both sides start with the same letter
      have hsigma : c ≠ '\u03A3' := by
        rintro rfl
        exact absurd hplain (by decide)
      rw [toLowercaseAfter_cons before hsigma, List.map_append, map_foldedLetter_lowerChar hplain,
        List.singleton_append]
      cases w with
      | nil => simp
      | cons x w =>
        rw [List.cons.injEq, List.cons.injEq]
        exact and_congr_right fun _ => ih (fun y hy => hw y (List.mem_cons_of_mem x hy)) (c :: before)
    · -- neither side is the phrase
      rw [not_or, Nat.not_lt] at hplain
      obtain ⟨x, hx, hfolded⟩ := exists_mem_toLowercaseAfter before hplain.1 hplain.2 t
      refine iff_of_false ?_ ?_
      · rintro rfl
        obtain ⟨hascii, hne⟩ := hw _ (List.mem_map_of_mem hx)
        rcases hfolded with hbeyond | hk
        · omega
        · exact hne hk
      · rintro rfl
        have hascii := (hw _ List.mem_cons_self).1
        unfold readLongS at hascii
        rw [if_neg hplain.2, toLower_of_beyond hplain.1] at hascii
        omega

end AccessLint.Text
