import AccessLint.Text.Basic
import Mathlib.Data.List.Basic
import Mathlib.Data.List.TakeWhile

namespace AccessLint.Text

/-!
# The first occurrence of a text

What is found in a text stands there, nothing comes before it, and what follows it does not matter.

* `isPrefixOf?_append` — a beginning is recognised whatever follows the text;
* `eq_append_of_findFirst?`, `exists_findFirst?` — what is found stands there, and is the first;
* `contains_iff` — whether a text occurs in another one;
* `findFirst?_append_left` — it is found whatever follows;
* `findFirst?_after_text` — text without its first character cannot hold it;
* `findFirst?_append_of_not_mem` — what is found in one of two parts, if no occurrence can reach
  from the one into the other;
* `findFirst?_append_self` — a text that is written behind another one is found there, if it is not
  found before.
-/

variable {needle t : Text}

/-! ### Beginnings -/

section Beginnings

variable {start b : Text}

/-- A text that is not too short to begin with `start` begins with it whatever follows. It is too
    short if it is a proper beginning of `start` itself. -/
theorem prefix_of_prefix_append (h : t <+: start → t = start) (hstart : start <+: t ++ b) :
    start <+: t := by
  rcases List.prefix_or_prefix_of_prefix hstart (List.prefix_append t b) with hshort | hlong
  · exact hshort
  · exact h hlong ▸ List.prefix_rfl

/-- A beginning does not reach over a character that it does not have, so what follows that
    character has no influence. -/
theorem prefix_of_prefix_append_cons {d : Char} (hd : d ∉ start) (hstart : start <+: t ++ d :: b) :
    start <+: t := by
  refine prefix_of_prefix_append (fun hlong => ?_) hstart
  obtain ⟨rest, rfl⟩ := hlong
  rw [List.prefix_append_right_inj] at hstart
  cases rest with
  | nil => rw [List.append_nil]
  | cons c rest =>
    have hc : c = d := (List.cons_prefix_cons.mp hstart).1
    exact absurd (List.mem_append_right t (hc ▸ List.mem_cons_self)) hd

/-- **What a text begins with** is recognised by `List.isPrefixOf?` with more text behind it, and so
    is what follows the beginning, if the beginning does not reach into the other text. -/
theorem isPrefixOf?_append (h : start <+: t ++ b → start <+: t) :
    start.isPrefixOf? (t ++ b) = (start.isPrefixOf? t).map (· ++ b) := by
  ext rest
  simp only [Option.map_eq_some_iff, List.isPrefixOf?_eq_some_iff_append_eq]
  constructor
  · intro heq
    obtain ⟨between, hbetween⟩ := h ⟨rest, heq⟩
    rw [← hbetween, List.append_assoc, List.append_cancel_left_eq] at heq
    exact ⟨between, hbetween, heq.symm⟩
  · rintro ⟨between, rfl, rfl⟩
    exact (List.append_assoc start between b).symm

/-- Whether a text begins with another one (`List.isPrefixOf`), likewise. -/
theorem isPrefixOf_append (h : start <+: t ++ b → start <+: t) :
    start.isPrefixOf (t ++ b) = start.isPrefixOf t := by
  rw [Bool.eq_iff_iff, List.isPrefixOf_iff_prefix, List.isPrefixOf_iff_prefix]
  exact ⟨h, fun hstart => hstart.trans (List.prefix_append t b)⟩

end Beginnings

/-! ### First occurrences -/

/-- What `findFirst?` finds stands there: the result is the text before the first occurrence. -/
theorem eq_append_of_findFirst? {needle t before : Text} (h : findFirst? needle t = some before) :
    ∃ rest, t = before ++ (needle ++ rest) := by
  induction t generalizing before with
  | nil =>
    unfold findFirst? at h
    split at h
    · next hempty =>
      rw [← Option.some.inj h, List.isEmpty_iff.mp hempty]
      exact ⟨[], rfl⟩
    · exact absurd h (by simp)
  | cons c cs ih =>
    unfold findFirst? at h
    -- found here, or further on
    split at h
    · next hstart =>
      obtain ⟨rest, hrest⟩ := List.isPrefixOf_iff_prefix.mp hstart
      rw [← Option.some.inj h]
      exact ⟨rest, hrest.symm⟩
    · obtain ⟨before', hfind, hcons⟩ := Option.map_eq_some_iff.mp h
      obtain ⟨rest, hrest⟩ := ih hfind
      refine ⟨rest, ?_⟩
      rw [← hcons, hrest, List.cons_append]

/-- A text that is found is no longer than the text that it is found in. -/
theorem length_le_of_findFirst? {before : Text} (h : findFirst? needle t = some before) :
    needle.length ≤ t.length := by
  obtain ⟨rest, ht⟩ := eq_append_of_findFirst? h
  rw [ht, List.length_append, List.length_append]
  omega

/-- **What is found does not depend on what follows.** What `findFirst?` finds lies in the first
    part already. -/
theorem findFirst?_append_left {before : Text} (h : findFirst? needle t = some before) (b : Text) :
    findFirst? needle (t ++ b) = some before := by
  induction t generalizing before with
  | nil =>
    have hneedle : needle = [] := List.eq_nil_of_length_eq_zero (by
      have hlength := length_le_of_findFirst? h
      rw [List.length_nil] at hlength
      omega)
    subst hneedle
    rw [← Option.some.inj h]
    cases b with
    | nil => rfl
    | cons d b => rfl
  | cons c t ih =>
    -- the text is long enough to hold what was found in it
    have hlength := length_le_of_findFirst? h
    have hstart : needle.isPrefixOf (c :: t ++ b) = needle.isPrefixOf (c :: t) :=
      isPrefixOf_append (prefix_of_prefix_append fun hbegin => hbegin.eq_of_length_le hlength)
    rw [List.cons_append] at hstart ⊢
    rw [findFirst?] at h ⊢
    rw [hstart]
    split
    · next hbegins =>
      rw [if_pos hbegins] at h
      exact h
    · next hbegins =>
      rw [if_neg hbegins] at h
      obtain ⟨before', hfind, hcons⟩ := Option.map_eq_some_iff.mp h
      rw [ih hfind, Option.map_some, hcons]

/-- A text that begins with what is searched for has nothing before it. -/
theorem findFirst?_self (t b : Text) : findFirst? t (t ++ b) = some [] := by
  have hstart : t.isPrefixOf (t ++ b) = true :=
    List.isPrefixOf_iff_prefix.mpr (List.prefix_append t b)
  cases ht : t ++ b with
  | nil =>
    rw [(List.append_eq_nil_iff.mp ht).1]
    rfl
  | cons c cs =>
    rw [ht] at hstart
    rw [findFirst?, if_pos hstart]

/-- **Nothing comes before the first occurrence** of a text, the one of `findFirst?`: where it
    stands, it is found, and not further on. -/
theorem exists_findFirst? (needle before after : Text) :
    ∃ first, findFirst? needle (before ++ (needle ++ after)) = some first ∧
      utf8Size first ≤ utf8Size before := by
  induction before with
  | nil => exact ⟨[], findFirst?_self needle after, Nat.le_refl _⟩
  | cons c before ih =>
    rw [List.cons_append, findFirst?]
    split
    · exact ⟨[], rfl, Nat.zero_le _⟩
    · obtain ⟨first, hfind, hsize⟩ := ih
      refine ⟨c :: first, by rw [hfind]; rfl, ?_⟩
      rw [utf8Size, utf8Size]
      omega

/-- A text contains what occurs in it: `contains` as `List.IsInfix`. -/
theorem contains_iff {needle t : Text} : contains needle t = true ↔ needle <:+: t := by
  unfold contains
  rw [Option.isSome_iff_exists]
  constructor
  · rintro ⟨before, hfind⟩
    obtain ⟨rest, rfl⟩ := eq_append_of_findFirst? hfind
    exact ⟨before, rest, List.append_assoc before needle rest⟩
  · rintro ⟨before, rest, rfl⟩
    obtain ⟨first, hfind, -⟩ := exists_findFirst? needle before rest
    rw [← List.append_assoc] at hfind
    exact ⟨first, hfind⟩

/-- A text whose first character is not in another one cannot begin there, so `findFirst?` passes
    over it. -/
theorem findFirst?_after_text {needle before : Text} {c : Char} (hneedle : needle.head? = some c)
    (hbefore : c ∉ before) (t : Text) :
    findFirst? needle (before ++ t) = (findFirst? needle t).map (before ++ ·) := by
  obtain ⟨rest, rfl⟩ := List.head?_eq_some_iff.mp hneedle
  induction before with
  | nil => simp
  | cons b before ih =>
    rw [List.mem_cons, not_or] at hbefore
    have hstart : (c :: rest).isPrefixOf (b :: (before ++ t)) = false := by
      rw [List.isPrefixOf_cons_cons, beq_false_of_ne hbefore.1, Bool.false_and]
    rw [List.cons_append, findFirst?, hstart, if_neg Bool.false_ne_true, ih hbefore.2,
      Option.map_map]
    rfl

/-- A text whose first character does not occur is not found at all. -/
theorem findFirst?_eq_none_of_head? {a : Text} {c : Char} (hneedle : needle.head? = some c)
    (ha : c ∉ a) : findFirst? needle a = none := by
  have hafter : findFirst? needle (a ++ []) = none := by
    obtain ⟨rest, rfl⟩ := List.head?_eq_some_iff.mp hneedle
    rw [findFirst?_after_text rfl ha]
    rfl
  rwa [List.append_nil] at hafter

/-- What is searched for is found in one of two parts, if they are divided by a character that it
    does not have: no occurrence lies across the division. -/
theorem findFirst?_append_of_not_mem {d : Char} (hne : needle ≠ []) (hd : d ∉ needle) (a b : Text) :
    findFirst? needle (a ++ d :: b) =
      (findFirst? needle a).or ((findFirst? needle b).map (a ++ d :: ·)) := by
  obtain ⟨n, rest, rfl⟩ := List.exists_cons_of_ne_nil hne
  induction a with
  | nil =>
    rw [List.mem_cons, not_or] at hd
    have hbegin : (n :: rest).isPrefixOf (d :: b) = false := by
      rw [List.isPrefixOf_cons_cons, beq_false_of_ne (Ne.symm hd.1), Bool.false_and]
    exact if_neg (by rw [hbegin]; exact Bool.false_ne_true)
  | cons c a ih =>
    have hbegin : (n :: rest).isPrefixOf (c :: a ++ d :: b) = (n :: rest).isPrefixOf (c :: a) :=
      isPrefixOf_append (prefix_of_prefix_append_cons hd)
    rw [List.cons_append] at hbegin ⊢
    rw [findFirst?, findFirst?, hbegin]
    split
    · rfl
    · rw [ih, Option.map_or, Option.map_map]
      rfl

/-- A text whose first character does not occur in it again cannot begin before it is written,
    across the end of `a`. -/
theorem not_prefix_append_self {c : Char} {rest a : Text} (hc : c ∉ rest) (hne : a ≠ [])
    (h : ¬ c :: rest <+: a) (b : Text) : ¬ c :: rest <+: a ++ (c :: rest ++ b) := by
  intro hstart
  refine h (prefix_of_prefix_append (fun hbegin => ?_) hstart)
  obtain ⟨x, hx⟩ := hbegin
  cases x with
  | nil => rw [← hx, List.append_nil]
  | cons d x =>
    -- it would have to go on with the character that it starts with
    have hd : d = c := by
      rw [← hx, List.prefix_append_right_inj] at hstart
      rw [hx] at hstart
      exact (List.cons_prefix_cons.mp hstart).1
    obtain ⟨e, a, rfl⟩ := List.exists_cons_of_ne_nil hne
    rw [List.cons_append, List.cons.injEq] at hx
    rw [← hx.2] at hc
    exact absurd (List.mem_append_right a (hd ▸ List.mem_cons_self)) hc

/-- **A text is found where it is written** (`findFirst?`), if it does not occur before and its
    first character does not occur in it again. -/
theorem findFirst?_append_self {c : Char} {rest a : Text} (hc : c ∉ rest)
    (h : findFirst? (c :: rest) a = none) (b : Text) :
    findFirst? (c :: rest) (a ++ (c :: rest ++ b)) = some a := by
  induction a with
  | nil => exact findFirst?_self (c :: rest) b
  | cons d a ih =>
    rw [findFirst?] at h
    split at h
    · cases h
    · next hstart =>
      rw [List.isPrefixOf_iff_prefix] at hstart
      have hlater := not_prefix_append_self hc (List.cons_ne_nil d a) hstart b
      rw [Option.map_eq_none_iff] at h
      rw [List.cons_append, ← List.isPrefixOf_iff_prefix] at hlater
      rw [List.cons_append, findFirst?, if_neg hlater, ih h]
      rfl

/-! ### Characters -/

/-- The first occurrence of a character has none before it, as `splitBefore` would cut. -/
theorem findFirst?_char {c : Char} {a : Text} (h : c ∉ a) (b : Text) :
    findFirst? [c] (a ++ c :: b) = some a := by
  have hself : findFirst? [c] (c :: b) = some [] := findFirst?_self [c] b
  rw [findFirst?_after_text rfl h, hself, Option.map_some, List.append_nil]

/-- A text is cut at the first character of its kind, which `cut` drops. -/
theorem cut_append {isCut : Char → Bool} {a : Text} (ha : ∀ x ∈ a, isCut x = false) {c : Char}
    (hc : isCut c = true) (b : Text) : cut isCut (a ++ c :: b) = (a, some b) := by
  have hall : ∀ x ∈ a, (!isCut x) = true := fun x hx => by rw [ha x hx]; rfl
  have hstop : (!isCut c) = false := by rw [hc]; rfl
  unfold cut
  rw [List.dropWhile_append_of_pos hall, List.takeWhile_append_of_pos hall,
    List.dropWhile_cons, List.takeWhile_cons, hstop]
  simp

/-- A text without such a character is not cut. -/
theorem cut_eq_none {isCut : Char → Bool} {a : Text} (ha : ∀ x ∈ a, isCut x = false) :
    cut isCut a = (a, none) := by
  have hnil : a.dropWhile (!isCut ·) = [] := by
    rw [List.dropWhile_eq_nil_iff]
    intro x hx
    rw [ha x hx]
    rfl
  unfold cut
  rw [hnil]

end AccessLint.Text
