import AccessLint.Proofs.Text.Boundary
import AccessLint.Source.Locate

namespace AccessLint.Source

/-!
# Lines and line feeds

The line of a byte is counted by the line feeds among the bytes before it. Inside a character it
makes no difference how many of the character's bytes are among them, since none is a line feed.

* `lineAt_eq_count_take` — a line is counted by the bytes before it;
* `lineAt_boundaryBefore` — and by the bytes before the character that it is in;
* `lineAt_mono` — lines go up with the bytes;
* `lineAt_append` — and are counted on from one text to the next.
-/

open Text (encode boundaryBefore)

variable {t : Text} {offset offset' : Nat}

/-- **The line of a byte** is counted by the line feeds among the bytes before it: `lineAt` goes by
    characters, but no byte of a longer character is a line feed. -/
theorem lineAt_eq_count_take (t : Text) (offset : Nat) :
    lineAt t offset = ((encode t).take offset).count 0x0A + 1 := by
  induction t generalizing offset with
  | nil => simp [lineAt, encode]
  | cons c t ih =>
    have hlength : (String.utf8EncodeChar c).length = c.utf8Size := String.length_utf8EncodeChar c
    have hcount := Text.count_newline_encodeChar c
    rw [Text.encode_cons, lineAt]
    split
    · next hinside =>
      -- fewer bytes than a character has: a line feed, which has one, is not among them
      have hle : ((String.utf8EncodeChar c).take offset).count 0x0A ≤
          (String.utf8EncodeChar c).count 0x0A := (List.take_sublist _ _).count_le _
      have hnone : ((String.utf8EncodeChar c).take offset).count 0x0A = 0 := by
        by_cases hc : c = '\n'
        · subst hc
          have hsize : ('\n' : Char).utf8Size = 1 := rfl
          obtain rfl : offset = 0 := by omega
          rfl
        · rw [hcount, if_neg hc] at hle
          omega
      rw [List.take_append_of_le_length (by omega), hnone]
    · next hbehind =>
      obtain ⟨k, rfl⟩ := Nat.exists_eq_add_of_le (Nat.le_of_not_lt hbehind)
      rw [← hlength, List.take_length_add_append, List.count_append, hcount,
        Nat.add_sub_cancel_left, ih]
      omega

/-- An offset behind the end is taken for the end by `lineAt`, as if it were clamped first. -/
theorem lineAt_min (t : Text) (offset : Nat) :
    lineAt t (min offset (encode t).length) = lineAt t offset := by
  rw [lineAt_eq_count_take, lineAt_eq_count_take, ← List.take_eq_take_min]

/-- An offset inside a character is taken for that of the character, as if `Text.boundaryBefore`
    were applied first. -/
theorem lineAt_boundaryBefore (t : Text) (offset : Nat) :
    lineAt t (boundaryBefore (encode t) (min offset (encode t).length)) = lineAt t offset := by
  have hle : min offset (encode t).length ≤ Text.utf8Size t := by
    rw [Text.length_encode]
    exact Nat.min_le_right _ _
  rw [← lineAt_min t offset, lineAt_eq_count_take, lineAt_eq_count_take,
    Text.count_take_boundaryBefore hle]

/-- Lines (`lineAt`) go up with the bytes, since more bytes have no fewer line feeds among them. -/
theorem lineAt_mono (h : offset ≤ offset') : lineAt t offset ≤ lineAt t offset' := by
  rw [lineAt_eq_count_take, lineAt_eq_count_take]
  apply Nat.succ_le_succ
  apply List.Sublist.count_le
  exact List.take_sublist_take_left h

/-- The lines of a text go on behind those of the text before it. Both values of `lineAt` count from
    one, hence the one on the left. -/
theorem lineAt_append (t s : Text) (offset : Nat) :
    lineAt (t ++ s) ((encode t).length + offset) + 1 =
      lineAt t (encode t).length + lineAt s offset := by
  rw [lineAt_eq_count_take, lineAt_eq_count_take, lineAt_eq_count_take, Text.encode_append,
    List.take_length_add_append, List.count_append, List.take_length]
  omega

/-- **Lines are counted by line feeds.** The line of a byte (`lineAt`), be it inside a character or
    behind the end, is one more than the number of line feeds among the bytes before it that the
    text has, and so it is if the bytes are counted only up to the character that it is in. So lines
    go up with the bytes, no byte is on a line behind that of the end, and the lines of a text go on
    behind those of the text before it. -/
theorem lineAt_newlines (t : Text) :
    (∀ offset, lineAt t offset =
      1 + ((encode t).take (min offset (encode t).length)).count 0x0A) ∧
      (∀ offset, lineAt t offset = 1 + ((encode t).take
        (boundaryBefore (encode t) (min offset (encode t).length))).count 0x0A) ∧
      (∀ offset offset', offset ≤ offset' → lineAt t offset ≤ lineAt t offset') ∧
      (∀ offset, lineAt t offset ≤ lineAt t (encode t).length) ∧
      ∀ s offset, lineAt (t ++ s) ((encode t).length + offset) =
        lineAt t (encode t).length + lineAt s offset - 1 := by
  refine ⟨fun offset => ?_, fun offset => ?_, fun _ _ => lineAt_mono, fun offset => ?_,
    fun s offset => ?_⟩
  · rw [← lineAt_min, lineAt_eq_count_take, Nat.add_comm]
  · rw [← lineAt_boundaryBefore, lineAt_eq_count_take, Nat.add_comm]
  · rw [← lineAt_min]
    exact lineAt_mono (Nat.min_le_right _ _)
  · have happend := lineAt_append t s offset
    omega

/-- The second byte of a character with two is on the line of the first, at byte 1 of `é`. -/
theorem lineAt_newlines_accented :
    1 ≤ 4 ∧ lineAt "é\nx" 1 = 1 ∧ lineAt "é\nx" 3 = 2 ∧ lineAt "é\nx" 1 ≤ lineAt "é\nx" 4 ∧
      boundaryBefore (encode "é\nx") 1 = 0 ∧ lineAt ("é\nx" ++ "\n\n") (4 + 9) = 4 := by
  obtain ⟨hcount, -, hmono, -, happend⟩ := lineAt_newlines "é\nx"
  refine ⟨by decide, (hcount 1).trans (by decide), (hcount 3).trans (by decide),
    hmono 1 4 (by decide), by decide, (happend "\n\n" 9).trans (by decide)⟩

end AccessLint.Source
