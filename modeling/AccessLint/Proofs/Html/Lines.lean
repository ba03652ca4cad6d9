import AccessLint.Html.TokenReader

namespace AccessLint

/-!
# Places of a source

A source is read with its line ends replaced and without a byte order mark. So a place in what is
read is another place in the source.

* `Text.fromByte?` — a text from a byte on;
* `Html.normalizeLines_append` — line ends are replaced piece by piece;
* `Html.unread` — the part of a source that some of the text read stands for;
* `Html.normalizeLines_unread` — that part reads as the rest.
-/

namespace Text

/-- A text from a byte on, if a character starts there. -/
def fromByte? : (offset : Nat) → Text → Option Text
  | 0, t => some t
  | _ + 1, [] => none
  | n + 1, c :: r => if c.utf8Size ≤ n + 1 then fromByte? (n + 1 - c.utf8Size) r else none

/-- From the byte where a text ends, what is appended to it follows: `fromByte?` counts as
    `utf8Size` does. -/
theorem fromByte?_utf8Size (a b : Text) : fromByte? (utf8Size a) (a ++ b) = some b := by
  induction a with
  | nil => simp only [utf8Size, List.nil_append, fromByte?]
  | cons c a ih =>
    -- a character takes at least one byte, so the count has not run out
    obtain ⟨n, hn⟩ : ∃ n, utf8Size (c :: a) = n + 1 := by
      refine ⟨utf8Size (c :: a) - 1, ?_⟩
      have hpos : 0 < utf8Size (c :: a) := Nat.add_pos_left c.utf8Size_pos _
      omega
    have hsize : n + 1 = c.utf8Size + utf8Size a := hn.symm
    have hrest : n + 1 - c.utf8Size = utf8Size a := by omega
    rw [hn, List.cons_append, fromByte?, if_pos (by omega), hrest, ih]

end Text

namespace Html

/-! ### Line ends -/

theorem normalizeLines_cons {c : Char} (h : c ≠ '\r') (r : Text) :
    normalizeLines (c :: r) = c :: normalizeLines r := by
  rw [normalizeLines]
  · rw [if_neg h]
  · intro r' hc
    exact absurd hc h

/-- `normalizeLines` replaces line ends piece by piece where no carriage return is before: only that
    one looks at the next character. -/
theorem normalizeLines_append {a : Text} (h : '\r' ∉ a) (b : Text) :
    normalizeLines (a ++ b) = a ++ normalizeLines b := by
  induction a with
  | nil => rfl
  | cons c a ih =>
    rw [List.mem_cons, not_or] at h
    rw [List.cons_append, normalizeLines_cons (Ne.symm h.1), ih h.2, List.cons_append]

/-- What `normalizeLines` gives has no carriage return, so a reader of tokens never meets one. -/
theorem not_mem_normalizeLines (t : Text) : '\r' ∉ normalizeLines t := by
  fun_induction normalizeLines t with
  | case1 => exact List.not_mem_nil
  | case2 r ih =>
    -- a carriage return and a line feed are one line feed
    simp only [List.mem_cons, not_or]
    exact ⟨by decide, ih⟩
  | case3 c r hpair ih =>
    simp only [List.mem_cons, not_or]
    refine ⟨?_, ih⟩
    split
    · decide
    · next hc => exact Ne.symm hc

theorem normalizeLines_eq_self {t : Text} (h : '\r' ∉ t) : normalizeLines t = t := by
  have hread := normalizeLines_append h []
  rw [List.append_nil] at hread
  rw [hread]
  exact List.append_nil t

/-- Only a line end is read as another character; any other one stands in the source as it is
    read. -/
theorem eq_cons_of_normalizeLines {t r : Text} {c : Char} (h : normalizeLines t = c :: r)
    (hc : c ≠ '\n') : ∃ r', t = c :: r' ∧ normalizeLines r' = r := by
  fun_cases normalizeLines t with
  | case1 => exact absurd h (by simp [normalizeLines])
  | case2 r' =>
    -- two characters are read as a line feed, which is excluded
    rw [normalizeLines] at h
    exact absurd (List.cons.inj h).1.symm hc
  | case3 d r' hpair =>
    rw [normalizeLines] at h
    · obtain ⟨hd, hr⟩ := List.cons.inj h
      -- so is a carriage return alone
      by_cases hcr : d = '\r'
      · rw [if_pos hcr] at hd
        exact absurd hd.symm hc
      · rw [if_neg hcr] at hd
        exact ⟨r', by rw [hd], hr⟩
    · exact hpair

/-! ### What is left of a source -/

/-- What is left of a text after some characters of it were read. -/
def afterReading : (read : Nat) → Text → Text
  | 0, t => t
  | _ + 1, [] => []
  | n + 1, '\r' :: '\n' :: r => afterReading n r
  | n + 1, _ :: r => afterReading n r

/-- What `afterReading` leaves is the end of the text, so it has an offset in it. -/
theorem afterReading_suffix (n : Nat) (t : Text) : afterReading n t <:+ t := by
  fun_induction afterReading n t with
  | case1 t => exact List.suffix_refl t
  | case2 n => exact List.suffix_refl _
  | case3 n r ih => exact ih.trans ((List.suffix_cons '\n' r).trans (List.suffix_cons _ _))
  | case4 n c r hpair ih => exact ih.trans (List.suffix_cons c r)

/-- What is left reads as what follows: `afterReading` counts characters as they are read, a line
    end of two characters once. -/
theorem normalizeLines_afterReading (n : Nat) (t : Text) :
    normalizeLines (afterReading n t) = (normalizeLines t).drop n := by
  fun_induction afterReading n t with
  | case1 t => rfl
  | case2 n => rfl
  | case3 n r ih =>
    -- two characters of the source are one that is read
    rw [normalizeLines, List.drop_succ_cons]
    exact ih
  | case4 n c r hpair ih =>
    rw [ih, normalizeLines, List.drop_succ_cons]
    exact fun r' hc hr => hpair r' hc hr

/-- Characters can be read in two parts, so tokens can be followed one by one. -/
theorem afterReading_add (n m : Nat) (t : Text) :
    afterReading (n + m) t = afterReading m (afterReading n t) := by
  fun_induction afterReading n t with
  | case1 t => rw [Nat.zero_add]
  | case2 n =>
    cases m with
    | zero => rfl
    | succ m => rfl
  | case3 n r ih =>
    rw [Nat.succ_add, afterReading]
    exact ih
  | case4 n c r hpair ih =>
    rw [Nat.succ_add, afterReading]
    · exact ih
    · exact hpair

/-- Without a byte order mark at its start, a source is the end of itself. -/
theorem withoutMark_suffix (t : Text) : withoutMark t <:+ t := by
  unfold withoutMark
  split
  · exact List.suffix_cons _ _
  · exact List.suffix_refl t

/-- The part of a source that is left when `rest` remains of what is read. -/
def unread (source rest : Text) : Text :=
  afterReading ((prepare source).length - rest.length) (withoutMark source)

theorem unread_suffix (source rest : Text) : unread source rest <:+ source :=
  (afterReading_suffix _ _).trans (withoutMark_suffix source)

/-- The part that `unread` gives reads as what remains, whenever that is the end of what is read. -/
theorem normalizeLines_unread {source rest : Text} (h : rest <:+ prepare source) :
    normalizeLines (unread source rest) = rest := by
  unfold unread
  rw [normalizeLines_afterReading]
  exact (List.suffix_iff_eq_drop.mp h).symm

/-- When less remains, less of the source is left: the source is read forwards only. -/
theorem unread_suffix_unread {source rest rest' : Text} (hrest : rest <:+ prepare source)
    (h : rest' <:+ rest) : unread source rest' <:+ unread source rest := by
  have hle := hrest.length_le
  have hle' := h.length_le
  have hsplit : (prepare source).length - rest'.length =
      (prepare source).length - rest.length + (rest.length - rest'.length) := by
    omega
  unfold unread
  rw [hsplit, afterReading_add]
  exact afterReading_suffix _ _

/-- The byte of a source where what remains to be read starts. -/
def offsetOf (source rest : Text) : Nat :=
  Text.utf8Size source - Text.utf8Size (unread source rest)

/-- **What remains later starts later**: with less to read, `offsetOf` is further on. A shorter rest
    leaves a shorter part of the source. -/
theorem offsetOf_lt {source rest rest' : Text} (hrest : rest <:+ prepare source)
    (h : rest' <:+ rest) (hlt : rest'.length < rest.length) :
    offsetOf source rest < offsetOf source rest' := by
  obtain ⟨between, hbetween⟩ := unread_suffix_unread hrest h
  obtain ⟨before, hbefore⟩ := unread_suffix source rest
  have hpos : 0 < Text.utf8Size between := by
    cases between with
    | nil =>
      -- the same part of the source cannot read as two rests
      have hread := normalizeLines_unread (h.trans hrest)
      rw [List.nil_append] at hbetween
      rw [hbetween, normalizeLines_unread hrest] at hread
      rw [hread] at hlt
      exact absurd hlt (Nat.lt_irrefl _)
    | cons c r => exact Nat.add_pos_left c.utf8Size_pos _
  have hsize := Text.utf8Size_append before (unread source rest)
  have hsize' := Text.utf8Size_append between (unread source rest')
  rw [hbefore] at hsize
  rw [hbetween] at hsize'
  unfold offsetOf
  omega

/-- From the byte that `offsetOf` gives, the source goes on with the part that is left. -/
theorem fromByte?_offsetOf (source rest : Text) :
    Text.fromByte? (offsetOf source rest) source = some (unread source rest) := by
  -- the offset is the size of what comes before the part that is left
  obtain ⟨before, hbefore⟩ := unread_suffix source rest
  have hsize := Text.utf8Size_append before (unread source rest)
  rw [hbefore] at hsize
  have hoffset : offsetOf source rest = Text.utf8Size before := by
    unfold offsetOf
    omega
  calc Text.fromByte? (offsetOf source rest) source
      = Text.fromByte? (Text.utf8Size before) (before ++ unread source rest) := by
        rw [hoffset, hbefore]
    _ = some (unread source rest) := Text.fromByte?_utf8Size _ _

end Html

end AccessLint
