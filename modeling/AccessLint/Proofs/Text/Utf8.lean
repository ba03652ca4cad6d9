import AccessLint.Text.Encoding

namespace AccessLint.Text

/-!
# UTF-8 and back

The decoder accepts the bytes of texts and no others.

* `Spells` — the bytes that spell the character with some number, as the decoder reads them;
* `spells_encode`, `encode_of_spells` — these are the bytes of the character;
* `decode?_eq_some_iff` — a text is decoded from its bytes alone;
* `decode_eq_decodeLossy` — the two decoders agree.
-/

theorem isContinuation_iff {b : UInt8} :
    isContinuation b = true ↔ 0x80 ≤ b.toNat ∧ b.toNat ≤ 0xBF := by
  simp [isContinuation, UInt8.le_iff_toNat_le]

/-- The second bytes after the leading bytes of characters of three or four bytes (`allowsSecond`).
    What is missing has a shorter spelling, is half of a pair, or comes after the last character. -/
theorem allowsSecond_iff {a b : UInt8} :
    allowsSecond a b = true ↔ 0x80 ≤ b.toNat ∧ b.toNat ≤ 0xBF ∧
      (a.toNat = 0xE0 → 0xA0 ≤ b.toNat) ∧ (a.toNat = 0xED → b.toNat ≤ 0x9F) ∧
      (a.toNat = 0xF0 → 0x90 ≤ b.toNat) ∧ (a.toNat = 0xF4 → b.toNat ≤ 0x8F) := by
  unfold allowsSecond
  simp only [beq_iff_eq, ← UInt8.toNat_inj]
  repeat' split
  all_goals simp [isContinuation, UInt8.le_iff_toNat_le] at *
  all_goals omega

/-- The bytes that spell the character with some number: one byte, or a leading byte and one, two or
    three that continue it. -/
inductive Spells : Nat → UInt8 → List UInt8 → Prop
  | one {n : Nat} {a : UInt8} : a < 0x80 → n = a.toNat → Spells n a []
  | two {n : Nat} {a b : UInt8} : 0xC2 ≤ a → a ≤ 0xDF → isContinuation b = true →
      n = a.toNat % 32 * 64 + payload b → Spells n a [b]
  | three {n : Nat} {a b c : UInt8} : 0xE0 ≤ a → a ≤ 0xEF → allowsSecond a b = true →
      isContinuation c = true → n = a.toNat % 16 * 4096 + payload b * 64 + payload c →
      Spells n a [b, c]
  | four {n : Nat} {a b c d : UInt8} : 0xF0 ≤ a → a ≤ 0xF4 → allowsSecond a b = true →
      isContinuation c = true → isContinuation d = true →
      n = a.toNat % 8 * 262144 + payload b * 4096 + payload c * 64 + payload d →
      Spells n a [b, c, d]

variable {n : Nat} {b : UInt8} {bs rest : List UInt8} {c : Char} {t : Text}

/-- The decoder reads a spelling as its character: `readUnit` on what `Spells` describes. -/
theorem readUnit_of_spells (h : Spells n b bs) (rest : List UInt8) :
    readUnit b (bs ++ rest) = (some (Char.ofNat n), bs.length) := by
  cases h with
  | one ha hn => simp [readUnit, ha, hn]
  | two h1 h2 hb hn =>
    have h0 : ¬ b < 0x80 := by
      simp only [UInt8.lt_iff_toNat_lt, UInt8.le_iff_toNat_le, UInt8.reduceToNat] at *
      omega
    simp [readUnit, h0, h1, h2, hb, hn]
  | three h1 h2 hb hc hn =>
    have h0 : ¬ b < 0x80 ∧ ¬ b ≤ 0xDF := by
      simp only [UInt8.lt_iff_toNat_lt, UInt8.le_iff_toNat_le, UInt8.reduceToNat] at *
      omega
    simp [readUnit, h0, h1, h2, hb, hc, hn]
  | four h1 h2 hb hc hd hn =>
    have h0 : ¬ b < 0x80 ∧ ¬ b ≤ 0xDF ∧ ¬ b ≤ 0xEF := by
      simp only [UInt8.lt_iff_toNat_lt, UInt8.le_iff_toNat_le, UInt8.reduceToNat] at *
      omega
    simp [readUnit, h0, h1, h2, hb, hc, hd, hn]

/-- A character is read from a spelling only. The cases are the branches of `readUnit` that give
    one. -/
theorem spells_of_readUnit {more : Nat} (h : readUnit b rest = (some c, more)) :
    ∃ n bs after, rest = bs ++ after ∧ bs.length = more ∧ Spells n b bs ∧ c = Char.ofNat n := by
  -- the branches are those of the leading byte: characters of one, two, three and four bytes
  unfold readUnit at h
  split at h
  case isTrue ha =>
    cases h
    exact ⟨_, [], rest, rfl, rfl, .one ha rfl, rfl⟩
  split at h
  case isTrue ha =>
    rw [Bool.and_eq_true, decide_eq_true_eq, decide_eq_true_eq] at ha
    split at h
    case h_1 b' after =>
      split at h
      case isTrue hb =>
        cases h
        exact ⟨_, [b'], after, rfl, rfl, .two ha.1 ha.2 hb rfl, rfl⟩
      case isFalse => cases h
    case h_2 => cases h
  split at h
  case isTrue ha =>
    rw [Bool.and_eq_true, decide_eq_true_eq, decide_eq_true_eq] at ha
    split at h
    case h_1 b' c' after =>
      split at h
      case isTrue => cases h
      case isFalse hb =>
        split at h
        case isTrue hc =>
          cases h
          exact ⟨_, [b', c'], after, rfl, rfl, .three ha.1 ha.2 (by simpa using hb) hc rfl, rfl⟩
        case isFalse => cases h
    all_goals cases h
  split at h
  case isTrue ha =>
    rw [Bool.and_eq_true, decide_eq_true_eq, decide_eq_true_eq] at ha
    split at h
    case h_1 b' c' d' after =>
      split at h
      case isTrue => cases h
      case isFalse hb =>
        split at h
        case isTrue => cases h
        case isFalse hc =>
          split at h
          case isTrue hd =>
            cases h
            exact ⟨_, [b', c', d'], after, rfl, rfl,
              .four ha.1 ha.2 (by simpa using hb) (by simpa using hc) hd rfl, rfl⟩
          case isFalse => cases h
    all_goals cases h
  case isFalse => cases h

/-! ### Spellings are the bytes of characters -/

/-- Spelled numbers are those of characters: the halves of pairs are left out, and so is what comes
    after the last character. -/
theorem Spells.isValidChar (h : Spells n b bs) : n.isValidChar := by
  have hbounds : n < 0xD800 ∨ 0xDFFF < n ∧ n < 0x110000 := by
    cases h with
    | one ha hn =>
      simp only [UInt8.lt_iff_toNat_lt, UInt8.reduceToNat] at ha
      omega
    | two h1 h2 hb hn =>
      simp only [UInt8.le_iff_toNat_le, UInt8.reduceToNat] at h1 h2
      simp only [payload] at hn
      omega
    | three h1 h2 hb hc hn =>
      simp only [UInt8.le_iff_toNat_le, UInt8.reduceToNat] at h1 h2
      rw [allowsSecond_iff] at hb
      simp only [payload] at hn
      omega
    | four h1 h2 hb hc hd hn =>
      simp only [UInt8.le_iff_toNat_le, UInt8.reduceToNat] at h1 h2
      rw [allowsSecond_iff] at hb
      simp only [payload] at hn
      omega
  exact hbounds

/-- What `Spells` a character are its bytes, so the spelling is unique. -/
theorem encode_of_spells (h : Spells n b bs) : String.utf8EncodeChar (Char.ofNat n) = b :: bs := by
  have hval : (Char.ofNat n).val.toNat = n := by
    rw [Char.ofNat, dif_pos h.isValidChar]
    rfl
  unfold String.utf8EncodeChar
  rw [hval]
  -- in each case the number is put together from the payload of the bytes, and taken apart again
  cases h with
  | one ha hn =>
    simp only [UInt8.lt_iff_toNat_lt, UInt8.reduceToNat] at ha
    rw [if_pos (by omega), hn, UInt8.ofNat_toNat]
  | two h1 h2 hb hn =>
    simp only [UInt8.le_iff_toNat_le, UInt8.reduceToNat] at h1 h2
    rw [isContinuation_iff] at hb
    dsimp only [payload] at hn
    rw [if_neg (by omega), if_pos (by omega)]
    simp only [List.cons.injEq, ← UInt8.toNat_inj, UInt8.toNat_ofNat', and_true]
    omega
  | three h1 h2 hb hc hn =>
    simp only [UInt8.le_iff_toNat_le, UInt8.reduceToNat] at h1 h2
    rw [allowsSecond_iff] at hb
    rw [isContinuation_iff] at hc
    dsimp only [payload] at hn
    rw [if_neg (by omega), if_neg (by omega), if_pos (by omega)]
    simp only [List.cons.injEq, ← UInt8.toNat_inj, UInt8.toNat_ofNat', and_true]
    omega
  | four h1 h2 hb hc hd hn =>
    simp only [UInt8.le_iff_toNat_le, UInt8.reduceToNat] at h1 h2
    rw [allowsSecond_iff] at hb
    rw [isContinuation_iff] at hc hd
    dsimp only [payload] at hn
    rw [if_neg (by omega), if_neg (by omega), if_neg (by omega)]
    simp only [List.cons.injEq, ← UInt8.toNat_inj, UInt8.toNat_ofNat', and_true]
    omega

/-- The bytes of a character spell it: one case for each number of bytes. -/
theorem spells_encode (c : Char) :
    ∃ b bs, String.utf8EncodeChar c = b :: bs ∧ Spells c.toNat b bs := by
  have hvalid : c.toNat < 0xD800 ∨ 0xDFFF < c.toNat ∧ c.toNat < 0x110000 := c.valid
  unfold String.utf8EncodeChar
  rw [Char.toNat_val]
  generalize c.toNat = n at hvalid
  -- the bounds are those of `String.utf8EncodeChar`
  by_cases h1 : n ≤ 0x7F
  · refine ⟨_, _, if_pos h1, .one ?_ ?_⟩
    all_goals simp only [UInt8.lt_iff_toNat_lt, UInt8.toNat_ofNat', UInt8.reduceToNat]
    all_goals omega
  by_cases h2 : n ≤ 0x7FF
  · refine ⟨_, _, by rw [if_neg h1, if_pos h2], .two ?_ ?_ ?_ ?_⟩
    all_goals simp only [UInt8.le_iff_toNat_le, isContinuation_iff, payload, UInt8.toNat_ofNat',
      UInt8.reduceToNat]
    all_goals omega
  by_cases h3 : n ≤ 0xFFFF
  · refine ⟨_, _, by rw [if_neg h1, if_neg h2, if_pos h3], .three ?_ ?_ ?_ ?_ ?_⟩
    all_goals simp only [UInt8.le_iff_toNat_le, isContinuation_iff, allowsSecond_iff, payload,
      UInt8.toNat_ofNat', UInt8.reduceToNat]
    all_goals omega
  · refine ⟨_, _, by rw [if_neg h1, if_neg h2, if_neg h3], .four ?_ ?_ ?_ ?_ ?_ ?_⟩
    all_goals simp only [UInt8.le_iff_toNat_le, isContinuation_iff, allowsSecond_iff, payload,
      UInt8.toNat_ofNat', UInt8.reduceToNat]
    all_goals omega

/-! ### Texts -/

theorem units_append (bs rest : List UInt8) : units bs.length (bs ++ rest) = units 0 rest := by
  induction bs with
  | nil => rfl
  | cons b bs ih => exact ih

/-- The first unit of some bytes and those that it takes: a spelling is read as one of `units`. -/
theorem units_spells (h : Spells n b bs) (rest : List UInt8) :
    units 0 (b :: bs ++ rest) = some (Char.ofNat n) :: units 0 rest := by
  rw [List.cons_append, units, readUnit_of_spells h]
  exact congrArg _ (units_append bs rest)

theorem units_encode (t : Text) : units 0 (encode t) = t.map some := by
  induction t with
  | nil => rfl
  | cons c t ih =>
    obtain ⟨b, bs, hbytes, hspells⟩ := spells_encode c
    unfold encode at ih ⊢
    rw [List.flatMap_cons, hbytes, units_spells hspells, ih, Char.ofNat_toNat, List.map_cons]

/-- Bytes whose `units` are characters alone are those of the characters, by induction on the
    text. -/
theorem eq_encode_of_units (h : units 0 bs = t.map some) : bs = encode t := by
  induction t generalizing bs with
  | nil =>
    cases bs with
    | nil => rfl
    | cons b bs => cases h
  | cons c t ih =>
    cases bs with
    | nil => cases h
    | cons b rest =>
      cases hunit : readUnit b rest with
      | mk found more =>
        rw [units, hunit] at h
        obtain ⟨rfl, hrest⟩ := List.cons.inj h
        obtain ⟨n, bs, after, rfl, rfl, hspells, rfl⟩ := spells_of_readUnit hunit
        rw [units_append] at hrest
        unfold encode at ih ⊢
        rw [List.flatMap_cons, ← ih hrest, encode_of_spells hspells, List.cons_append]

theorem mapM_id_eq_some_iff {cs : List (Option Char)} : cs.mapM id = some t ↔ cs = t.map some := by
  induction cs generalizing t with
  | nil => cases t <;> simp
  | cons c cs ih =>
    cases c with
    | none => cases t <;> simp
    | some c =>
      simp only [List.mapM_cons, id, Option.bind_eq_bind, Option.bind_some, Option.bind_eq_some_iff,
        Option.pure_def, Option.some.injEq, ih]
      constructor
      · rintro ⟨a, rfl, rfl⟩
        rfl
      · intro h
        cases t with
        | nil => cases h
        | cons d t =>
          obtain ⟨hd, hcs⟩ := List.cons.inj h
          exact ⟨t, hcs, by rw [Option.some.inj hd]⟩

/-- **A text is decoded** by `decode?` from its own bytes, and from no others. -/
theorem decode?_eq_some_iff {bytes : List UInt8} : decode? bytes = some t ↔ bytes = encode t := by
  rw [decode?, mapM_id_eq_some_iff]
  constructor
  · exact eq_encode_of_units
  · rintro rfl
    exact units_encode t

/-- What is decoded strictly is decoded alike with replacement characters: there is nothing to
    replace. -/
theorem decodeLossy_of_decode? {bytes : List UInt8} (h : decode? bytes = some t) :
    decodeLossy bytes = t := by
  rw [decode?, mapM_id_eq_some_iff] at h
  rw [decodeLossy, h, List.map_map]
  exact List.map_id t

/-- **Both decoders agree** where they both give a text, so `decodeLossy` alone gives the same as
    trying `decode?` first. -/
theorem decode_eq_decodeLossy (bytes : List UInt8) : decode bytes = decodeLossy bytes := by
  unfold decode
  split
  · next t h => exact (decodeLossy_of_decode? h).symm
  · rfl

end AccessLint.Text
