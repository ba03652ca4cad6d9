import AccessLint.Proofs.Text.Utf8

namespace AccessLint.Text

/-!
# Bytes between characters

An offset counts the bytes of a text, so it can be between two characters or inside one. The bytes
tell which: inside a character, the byte at the offset continues it.

* `isBoundary`, `isBoundary_iff` — an offset between two characters, as the bytes tell it and as the
  text does;
* `boundaryBefore` — the last such offset up to another one;
* `count_take_boundaryBefore` — no line feed stands between the two;
* `slice?`, `slice?_eq_some_iff` — the text between two offsets, unless one is inside a character or
  behind the end.
-/

variable {t : Text} {c : Char} {n offset : Nat} {first : UInt8} {rest : List UInt8}

/-! ### The bytes of a character -/

theorem encode_cons (c : Char) (t : Text) :
    encode (c :: t) = String.utf8EncodeChar c ++ encode t := rfl

theorem encode_append (a b : Text) : encode (a ++ b) = encode a ++ encode b :=
  List.flatMap_append

/-- `utf8Size` counts the bytes that `encode` gives. -/
@[simp] theorem length_encode (t : Text) : (encode t).length = utf8Size t := by
  induction t with
  | nil => rfl
  | cons c t ih =>
    rw [encode_cons, List.length_append, ih, String.length_utf8EncodeChar, utf8Size]

/-- The first byte of a character continues none, and all others continue it, which is what
    `isContinuation` tests. -/
theorem Spells.continues (h : Spells n first rest) :
    isContinuation first = false ∧ ∀ x ∈ rest, isContinuation x = true := by
  have hsecond : ∀ {lead second : UInt8}, allowsSecond lead second = true →
      isContinuation second = true := by
    intro lead second hallows
    obtain ⟨hle, hge, -⟩ := allowsSecond_iff.mp hallows
    exact isContinuation_iff.mpr ⟨hle, hge⟩
  rw [← Bool.not_eq_true, isContinuation_iff]
  cases h with
  | one ha hn =>
    simp only [UInt8.lt_iff_toNat_lt, UInt8.reduceToNat] at ha
    exact ⟨by omega, by simp⟩
  | two h1 h2 hb hn =>
    simp only [UInt8.le_iff_toNat_le, UInt8.reduceToNat] at h1
    exact ⟨by omega, by simpa using hb⟩
  | three h1 h2 hb hc hn =>
    simp only [UInt8.le_iff_toNat_le, UInt8.reduceToNat] at h1
    exact ⟨by omega, by simpa using ⟨hsecond hb, hc⟩⟩
  | four h1 h2 hb hc hd hn =>
    simp only [UInt8.le_iff_toNat_le, UInt8.reduceToNat] at h1
    exact ⟨by omega, by simpa using ⟨hsecond hb, hc, hd⟩⟩

/-- The characters of ASCII are spelled by their own bytes (`Spells`), and no others begin with such
    a byte: so a byte like that is a character. -/
theorem Spells.ascii (h : Spells n first rest) :
    n = first.toNat ∧ n < 0x80 ∨ 0x80 ≤ n ∧ 0x80 ≤ first.toNat := by
  cases h with
  | one ha hn =>
    simp only [UInt8.lt_iff_toNat_lt, UInt8.reduceToNat] at ha
    omega
  | two h1 h2 hb hn =>
    simp only [UInt8.le_iff_toNat_le, UInt8.reduceToNat] at h1 h2
    omega
  | three h1 h2 hb hc hn =>
    simp only [UInt8.le_iff_toNat_le, UInt8.reduceToNat] at h1 h2
    rw [allowsSecond_iff] at hb
    simp only [payload] at hn
    omega
  | four h1 h2 hb hc hd hn =>
    simp only [UInt8.le_iff_toNat_le, UInt8.reduceToNat] at h1 h2
    rw [allowsSecond_iff] at hb
    simp only [payload] at hn
    omega

/-- The first byte of `encode` behind a text, if there is one, is that of the next character, which
    it spells with the bytes behind it. -/
theorem exists_getElem?_encode (a : Text) (c : Char) (b : Text) : ∃ first rest,
    (encode (a ++ c :: b))[utf8Size a]? = some first ∧ Spells c.toNat first rest := by
  obtain ⟨first, rest, hbytes, hspells⟩ := spells_encode c
  refine ⟨first, rest, ?_, hspells⟩
  rw [encode_append, encode_cons, hbytes, ← length_encode]
  simp

/-- A line feed has one byte, and this byte is in no other character. -/
theorem count_newline_encodeChar (c : Char) :
    (String.utf8EncodeChar c).count 0x0A = if c = '\n' then 1 else 0 := by
  obtain ⟨first, rest, hbytes, hspells⟩ := spells_encode c
  have hrest : rest.count 0x0A = 0 := by
    rw [List.count_eq_zero]
    intro hmem
    have hcontinues := hspells.continues.2 _ hmem
    exact absurd hcontinues (by decide)
  have hnewline : c = '\n' ↔ first = 0x0A := by
    rw [← Char.toNat_inj, ← UInt8.toNat_inj]
    show c.toNat = 10 ↔ first.toNat = 10
    rcases hspells.ascii with h | h <;> omega
  rw [hbytes, List.count_cons, hrest]
  simp [hnewline]

/-! ### Offsets between characters -/

/-- Whether an offset is between two characters: it is the start or the end, or the byte there
    continues no character. -/
def isBoundary (bytes : List UInt8) (offset : Nat) : Bool :=
  offset == 0 ||
    match bytes[offset]? with
    | none => offset == bytes.length
    | some byte => !isContinuation byte

/-- The offset `utf8Size` behind a text is between characters, whatever follows. -/
theorem isBoundary_utf8Size (a b : Text) : isBoundary (encode (a ++ b)) (utf8Size a) = true := by
  cases b with
  | nil => simp [isBoundary, ← length_encode]
  | cons c b =>
    obtain ⟨first, rest, hbyte, hspells⟩ := exists_getElem?_encode a c b
    simp [isBoundary, hbyte, hspells.continues.1]

/-- The bytes of a character but the first are not between characters, so the next boundary is
    behind all of them. -/
theorem le_of_isBoundary_cons (h : isBoundary (encode (c :: t)) offset = true) (hne : offset ≠ 0) :
    c.utf8Size ≤ offset := by
  obtain ⟨first, rest, hbytes, hspells⟩ := spells_encode c
  apply Nat.le_of_not_lt
  intro hlt
  obtain ⟨k, rfl⟩ : ∃ k, offset = k + 1 := ⟨offset - 1, by omega⟩
  have hk : k < rest.length := by
    have hlength : (String.utf8EncodeChar c).length = rest.length + 1 := by rw [hbytes]; rfl
    rw [String.length_utf8EncodeChar] at hlength
    omega
  have hbyte : (encode (c :: t))[k + 1]? = some rest[k] := by
    rw [encode_cons, hbytes, List.cons_append, List.getElem?_cons_succ,
      List.getElem?_append_left hk, List.getElem?_eq_getElem hk]
  have hcontinues := hspells.continues.2 rest[k] (List.getElem_mem hk)
  simp [isBoundary, hbyte, hcontinues] at h

/-- A boundary behind the first character is one of the rest of the text. -/
theorem isBoundary_of_cons (h : isBoundary (encode (c :: t)) (c.utf8Size + offset) = true) :
    isBoundary (encode t) offset = true := by
  have hpos := c.utf8Size_pos
  have hbyte : (encode (c :: t))[c.utf8Size + offset]? = (encode t)[offset]? := by
    rw [encode_cons, ← String.length_utf8EncodeChar, List.getElem?_append_right (by omega)]
    simp
  simp only [isBoundary, hbyte, length_encode, utf8Size] at h ⊢
  cases hoffset : (encode t)[offset]? with
  | none =>
    simp only [hoffset, Bool.or_eq_true, beq_iff_eq] at h ⊢
    omega
  | some byte =>
    simp only [hoffset, Bool.or_eq_true, beq_iff_eq] at h ⊢
    exact Or.inr (h.resolve_left (by omega))

/-- **An offset is between two characters** (`isBoundary`) exactly if it is the size of what stands
    before it: the test on one byte, and what it is for. -/
theorem isBoundary_iff :
    isBoundary (encode t) offset = true ↔ ∃ a b, t = a ++ b ∧ utf8Size a = offset := by
  constructor
  · intro h
    induction t generalizing offset with
    | nil =>
      have hzero : offset = 0 := by
        simpa [isBoundary, encode] using h
      exact ⟨[], [], rfl, hzero.symm⟩
    | cons c t ih =>
      by_cases hne : offset = 0
      · exact ⟨[], c :: t, rfl, hne.symm⟩
      · obtain ⟨k, rfl⟩ := Nat.exists_eq_add_of_le (le_of_isBoundary_cons h hne)
        obtain ⟨a, b, rfl, rfl⟩ := ih (isBoundary_of_cons h)
        exact ⟨c :: a, b, rfl, rfl⟩
  · rintro ⟨a, b, rfl, rfl⟩
    exact isBoundary_utf8Size a b

theorem le_of_isBoundary (h : isBoundary (encode t) offset = true) : offset ≤ utf8Size t := by
  obtain ⟨a, b, rfl, rfl⟩ := isBoundary_iff.mp h
  rw [utf8Size_append]
  exact Nat.le_add_right _ _

/-! ### Steps back to a boundary -/

/-- The last offset between two characters up to another offset, found by going back byte by
    byte. -/
def boundaryBefore (bytes : List UInt8) : (offset : Nat) → Nat
  | 0 => 0
  | n + 1 => if isBoundary bytes (n + 1) then n + 1 else boundaryBefore bytes n

/-- Behind a line feed is a boundary, since its one byte is all of it. -/
theorem isBoundary_succ_of_newline (h : (encode t)[n]? = some 0x0A) :
    isBoundary (encode t) (n + 1) = true := by
  -- the line feed continues nothing, so a character begins with it
  have hhere : isBoundary (encode t) n = true := by simp [isBoundary, h]; right; decide
  obtain ⟨a, b, rfl, rfl⟩ := isBoundary_iff.mp hhere
  cases b with
  | nil => simp [← length_encode] at h
  | cons c b =>
    obtain ⟨first, rest, hbyte, hspells⟩ := exists_getElem?_encode a c b
    rw [h] at hbyte
    obtain rfl := Option.some.inj hbyte
    have hsize : c.utf8Size = 1 := by
      rw [Char.utf8Size_eq_one_iff, UInt32.le_iff_toNat_le]
      show c.toNat ≤ 127
      have hnewline : (0x0A : UInt8).toNat = 10 := rfl
      rcases hspells.ascii with h | h <;> omega
    have hbehind := isBoundary_utf8Size (a ++ [c]) b
    rw [utf8Size_append, List.append_assoc] at hbehind
    simpa [utf8Size, hsize] using hbehind

/-- **No line feed is stepped over** by `boundaryBefore`. Between the last boundary up to an offset
    and the offset there are only bytes of one character. -/
theorem count_take_boundaryBefore (h : n ≤ utf8Size t) :
    ((encode t).take (boundaryBefore (encode t) n)).count 0x0A =
      ((encode t).take n).count 0x0A := by
  induction n with
  | zero => rfl
  | succ n ih =>
    rw [boundaryBefore]
    split
    · rfl
    · next hinside =>
      have hlt : n < (encode t).length := by
        rw [length_encode]
        omega
      -- a newline is a whole character, so the place behind it is a boundary
      have hne : (encode t)[n] ≠ 0x0A := by
        intro heq
        apply hinside
        apply isBoundary_succ_of_newline
        rw [List.getElem?_eq_getElem hlt, heq]
      have hlast : [(encode t)[n]].count 0x0A = 0 := by
        simp [hne]
      rw [ih (by omega), List.take_succ_eq_append_getElem hlt, List.count_append, hlast,
        Nat.add_zero]

/-! ### Slices -/

/-- The text between two byte offsets of another one. There is none if the offsets are the wrong way
    round, if one of them is inside a character, or if the text does not reach that far. -/
def slice? (t : Text) (start stop : Nat) : Option Text :=
  if start ≤ stop ∧ stop ≤ (encode t).length ∧
      isBoundary (encode t) start ∧ isBoundary (encode t) stop then
    decode? (((encode t).take stop).drop start)
  else none

/-- A text that stands between two others is the slice between them (`slice?`). -/
theorem slice?_append (a s b : Text) :
    slice? (a ++ (s ++ b)) (utf8Size a) (utf8Size a + utf8Size s) = some s := by
  have hstart := isBoundary_utf8Size a (s ++ b)
  have hstop := isBoundary_utf8Size (a ++ s) b
  rw [utf8Size_append, List.append_assoc] at hstop
  have hle : utf8Size a + utf8Size s ≤ (encode (a ++ (s ++ b))).length := by
    rw [length_encode, utf8Size_append, utf8Size_append]
    omega
  unfold slice?
  rw [if_pos ⟨Nat.le_add_right _ _, hle, hstart, hstop⟩, decode?_eq_some_iff]
  rw [encode_append, encode_append, ← List.append_assoc, ← length_encode, ← length_encode,
    ← List.length_append, List.take_left, List.drop_left]

/-- Of two ways to cut a text, the one with fewer bytes before the cut is cut earlier, and some text
    stands between the cuts. -/
theorem exists_between {a b a' b' : Text} (h : a ++ b = a' ++ b')
    (hsize : utf8Size a ≤ utf8Size a') : ∃ between, a' = a ++ between ∧ b = between ++ b' := by
  rcases List.append_eq_append_iff.mp h with hlater | ⟨m, ha, hb⟩
  · exact hlater
  · -- nothing is between the two cuts, since every character takes a byte
    have hnil : m = [] := by
      cases m with
      | nil => rfl
      | cons c m =>
        have hpos : 0 < c.utf8Size := c.utf8Size_pos
        rw [ha, utf8Size_append, utf8Size] at hsize
        omega
    subst hnil
    exact ⟨[], by simpa using ha.symm, by simpa using hb.symm⟩

/-- Between two offsets that are between characters, some text stands: what `slice?` needs to give
    it. -/
theorem exists_slice {start stop : Nat} (hle : start ≤ stop)
    (hstart : isBoundary (encode t) start = true) (hstop : isBoundary (encode t) stop = true) :
    ∃ a s b, t = a ++ (s ++ b) ∧ utf8Size a = start ∧ utf8Size a + utf8Size s = stop := by
  obtain ⟨a, r, ht, rfl⟩ := isBoundary_iff.mp hstart
  obtain ⟨upto, b, ht', rfl⟩ := isBoundary_iff.mp hstop
  obtain ⟨s, rfl, rfl⟩ := exists_between (ht.symm.trans ht') hle
  exact ⟨a, s, b, ht, rfl, (utf8Size_append a s).symm⟩

/-- **A slice** that `slice?` gives is what stands between its two offsets, and there is none where
    no text does. -/
theorem slice?_eq_some_iff {start stop : Nat} {s : Text} :
    slice? t start stop = some s ↔
      ∃ a b, t = a ++ (s ++ b) ∧ utf8Size a = start ∧ utf8Size a + utf8Size s = stop := by
  constructor
  · intro h
    by_cases hrange : start ≤ stop ∧ stop ≤ (encode t).length ∧
        isBoundary (encode t) start ∧ isBoundary (encode t) stop
    · obtain ⟨hle, -, hstart, hstop⟩ := hrange
      obtain ⟨a, s', b, rfl, rfl, rfl⟩ := exists_slice hle hstart hstop
      rw [slice?_append] at h
      obtain rfl := Option.some.inj h
      exact ⟨a, b, rfl, rfl, rfl⟩
    · rw [slice?, if_neg hrange] at h
      cases h
  · rintro ⟨a, b, rfl, rfl, rfl⟩
    exact slice?_append a s b

/-- `slice?` from an offset between characters to the end is all that stands behind the offset. -/
theorem slice?_rest (a r : Text) :
    slice? (a ++ r) (utf8Size a) (utf8Size (a ++ r)) = some r := by
  have hrest := slice?_append a r []
  rwa [List.append_nil, ← utf8Size_append] at hrest

end AccessLint.Text
