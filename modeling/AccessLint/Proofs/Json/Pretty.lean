import AccessLint.Proofs.Json.Object
import AccessLint.Proofs.Json.Scalar
import Mathlib.Data.List.DropRight

namespace AccessLint.Json

/-!
# Reading what was written

A value that was written over several lines is read as it was, if its numbers are whole and fit a
word and no object repeats a key.

* `readValue?_skipSpace` — space in front of a value does not matter;
* `ReadsBack` — a value is read from its lines, at any level and whatever follows them;
* `readItems?_prettyItems`, `readMembers?_prettyMembers` — items and members that are read back;
* `read?_pretty` — a proper value is read back.
-/

/-! ### Space -/

theorem skipSpace_idem (t : Text) : skipSpace (skipSpace t) = skipSpace t :=
  List.dropWhile_idempotent _ _

theorem skipSpace_newline (level : Nat) (t : Text) :
    skipSpace (newline level ++ t) = skipSpace t := by
  refine List.dropWhile_append_of_pos fun c hc => ?_
  rcases List.mem_cons.mp hc with rfl | hc
  · rfl
  · rw [List.eq_of_mem_replicate hc]
    rfl

/-- **Space in front of a value** does not matter to `readValue?`, which skips it first. -/
theorem readValue?_skipSpace (fuel : Nat) (t : Text) :
    readValue? fuel (skipSpace t) = readValue? fuel t := by
  cases fuel with
  | zero => rfl
  | succ fuel => rw [readValue?, readValue?, skipSpace_idem]

theorem readItems?_skipSpace (fuel : Nat) (t : Text) :
    readItems? fuel (skipSpace t) = readItems? fuel t := by
  cases fuel with
  | zero => rfl
  | succ fuel => rw [readItems?, readItems?, readValue?_skipSpace]

theorem readMembers?_skipSpace (fuel : Nat) (t : Text) :
    readMembers? fuel (skipSpace t) = readMembers? fuel t := by
  cases fuel with
  | zero => rfl
  | succ fuel => rw [readMembers?, readMembers?, skipSpace_idem]

/-! ### Scalars -/

/-- `readValue?` takes a string up to its closing quote, whatever follows. -/
theorem readValue?_string (fuel : Nat) (s rest : Text) :
    readValue? (fuel + 1) (writeString s ++ rest) = some (.str s, rest) := by
  have hread := readString?_writeString s rest
  simp [readValue?, writeString, skipSpace, hread]

/-- What starts with a digit or a minus sign is read as a number: no other value starts like
    that. -/
theorem readValue?_number (fuel : Nat) {c : Char} {r : Text} (h : c = '-' ∨ c.isDigit = true) :
    readValue? (fuel + 1) (c :: r) = (readNumber? (c :: r)).map fun (n, rest) => (.num n, rest) := by
  have hnot (d : Char) (hd : d.isDigit = false) (hminus : d ≠ '-') : c ≠ d := by
    rintro rfl
    rw [hd] at h
    simp [hminus] at h
  have hspace : skipSpace (c :: r) = c :: r := by
    unfold skipSpace
    simp [hnot ' ' rfl (by decide), hnot '\n' rfl (by decide), hnot '\r' rfl (by decide),
      hnot '\t' rfl (by decide)]
  rw [readValue?, hspace]
  split
  · next heq => exact absurd (List.cons.inj heq).1 (hnot '"' rfl (by decide))
  · next heq => exact absurd (List.cons.inj heq).1 (hnot '[' rfl (by decide))
  · next heq => exact absurd (List.cons.inj heq).1 (hnot '\x7b' rfl (by decide))
  · next heq => exact absurd (List.cons.inj heq).1 (hnot 'n' rfl (by decide))
  · next heq => exact absurd (List.cons.inj heq).1 (hnot 't' rfl (by decide))
  · next heq => exact absurd (List.cons.inj heq).1 (hnot 'f' rfl (by decide))
  · rfl

/-- A whole number is read as it was written, if what follows ends it (`EndsNumber`). -/
theorem readValue?_int (fuel : Nat) {n : Int} (hn : FitsWord (.int n)) {rest : Text}
    (h : EndsNumber rest) :
    readValue? (fuel + 1) (Text.ofInt n ++ rest) = some (.num (.int n), rest) := by
  have hread := readNumber?_ofInt hn h
  obtain ⟨c, r, hr, hc⟩ := exists_ofInt_eq_cons n
  rw [hr, List.cons_append] at hread ⊢
  rw [readValue?_number fuel hc, hread]
  rfl

/-! ### Arrays and objects -/

/-- Whether a value is read from its lines, at any level and whatever follows them, if there is fuel
    for each of its characters. -/
def ReadsBack (v : Json) : Prop :=
  ∀ (level fuel : Nat) (rest : Text), EndsNumber rest → (prettyAt level v).length < fuel →
    readValue? fuel (prettyAt level v ++ rest) = some (v, rest)

/-- Fuel for more than the characters of a value is fuel for a step, since every value has
    characters. -/
theorem ReadsBack.of_succ {v : Json}
    (h : ∀ (level fuel : Nat) (rest : Text), EndsNumber rest →
      (prettyAt level v).length < fuel + 1 →
      readValue? (fuel + 1) (prettyAt level v ++ rest) = some (v, rest)) : ReadsBack v := by
  intro level fuel rest hrest hfuel
  cases fuel with
  | zero => exact absurd hfuel (Nat.not_lt_zero _)
  | succ fuel => exact h level fuel rest hrest hfuel

theorem endsNumber_newline (level : Nat) (t : Text) : EndsNumber (newline level ++ t) := by
  rintro c ⟨⟩
  decide

theorem endsNumber_comma (t : Text) : EndsNumber (',' :: t) := by
  rintro c ⟨⟩
  decide

theorem length_newline (level : Nat) : 0 < (newline level).length := Nat.succ_pos _

/-- **Items that are read back** (`ReadsBack`) are read by `readItems?` up to the end of their
    array, by induction on the items. The last one has no comma behind it, so it is a case of its
    own. -/
theorem readItems?_prettyItems {items : List Json} (hne : items ≠ [])
    (h : ∀ v ∈ items, ReadsBack v) (level outer : Nat) {fuel : Nat} (rest : Text)
    (hfuel : (prettyItems level items).length < fuel) :
    readItems? fuel (prettyItems level items ++ (newline outer ++ ']' :: rest)) =
      some (items, rest) := by
  induction items generalizing fuel with
  | nil => exact absurd rfl hne
  | cons v items ih =>
    have hv := h v List.mem_cons_self
    have hline := length_newline level
    obtain ⟨fuel, rfl⟩ : ∃ f, fuel = f + 1 := ⟨fuel - 1, by omega⟩
    -- the last item has the bracket behind it, any other one a comma
    cases items with
    | nil =>
      rw [prettyItems, List.length_append] at hfuel
      have hread := hv level fuel (newline outer ++ ']' :: rest) (endsNumber_newline _ _) (by omega)
      have hclose : skipSpace (newline outer ++ ']' :: rest) = ']' :: rest := skipSpace_newline _ _
      rw [prettyItems, readItems?, ← readValue?_skipSpace, List.append_assoc, skipSpace_newline,
        readValue?_skipSpace, hread]
      simp only [Option.bind_eq_bind, Option.bind_some, hclose]
    | cons w items =>
      rw [prettyItems, List.length_append, List.length_append, List.length_cons] at hfuel
      have hrest := ih (List.cons_ne_nil w items) (fun v hv => h v (List.mem_cons_of_mem _ hv))
        (show _ < fuel by omega)
      have hread := hv level fuel
        (',' :: (prettyItems level (w :: items) ++ (newline outer ++ ']' :: rest)))
        (endsNumber_comma _) (by omega)
      rw [prettyItems, readItems?, ← readValue?_skipSpace, List.append_assoc, List.append_assoc,
        skipSpace_newline, readValue?_skipSpace, List.cons_append, hread]
      show (readItems? fuel _).map _ = _
      rw [hrest]
      rfl

/-- `readMembers?` on one member and what follows it: a comma and more members, or the brace that
    closes the object. -/
theorem readMembers?_succ {fuel : Nat} {t key rest rest' : Text} {v : Json}
    (hkey : skipSpace t = writeString key ++ ':' :: rest)
    (hvalue : readValue? fuel rest = some (v, rest')) :
    readMembers? (fuel + 1) t =
      match skipSpace rest' with
      | ',' :: r => (readMembers? fuel r).map fun (ms, rest) => ((key, v) :: ms, rest)
      | '\x7d' :: rest => some ([(key, v)], rest)
      | _ => none := by
  have hread := readString?_writeString key (':' :: rest)
  have hcolon : skipSpace (':' :: rest) = ':' :: rest := rfl
  have hquote : skipSpace t = '"' :: (key.flatMap escape ++ '"' :: ':' :: rest) := by
    rw [hkey]
    simp [writeString]
  rw [readMembers?, hquote]
  simp only [hread, hcolon, Option.bind_eq_bind, Option.bind_some]
  rewrite [hvalue]
  rfl

/-- **Members that are read back** are read by `readMembers?` up to the end of their object, in the
    same way as items. -/
theorem readMembers?_prettyMembers {members : List (Text × Json)} (hne : members ≠ [])
    (h : ∀ m ∈ members, ReadsBack m.2) (level outer : Nat) {fuel : Nat} (rest : Text)
    (hfuel : (prettyMembers level members).length < fuel) :
    readMembers? fuel (prettyMembers level members ++ (newline outer ++ '\x7d' :: rest)) =
      some (members, rest) := by
  induction members generalizing fuel with
  | nil => exact absurd rfl hne
  | cons m members ih =>
    obtain ⟨k, v⟩ := m
    have hv : ReadsBack v := h (k, v) List.mem_cons_self
    have hline := length_newline level
    obtain ⟨fuel, rfl⟩ : ∃ f, fuel = f + 1 := ⟨fuel - 1, by omega⟩
    -- the key and the blank after its colon
    have hstart (r : Text) : skipSpace (newline level ++ (writeString k ++ ((": " : Text) ++ r))) =
        writeString k ++ ':' :: ' ' :: r := by
      rw [skipSpace_newline]
      rfl
    have hblank (r : Text) : readValue? fuel (' ' :: r) = readValue? fuel r := by
      rw [← readValue?_skipSpace, ← readValue?_skipSpace fuel r]
      rfl
    cases members with
    | nil =>
      simp only [prettyMembers, List.length_append] at hfuel
      have hread := hv level fuel (newline outer ++ '\x7d' :: rest) (endsNumber_newline _ _)
        (by omega)
      rw [← hblank] at hread
      simp only [prettyMembers, List.append_assoc]
      rw [readMembers?_succ (hstart _) hread, skipSpace_newline]
      rfl
    | cons m' members =>
      simp only [prettyMembers, List.length_append, List.length_cons] at hfuel
      have hrest := ih (List.cons_ne_nil m' members) (fun m hm => h m (List.mem_cons_of_mem _ hm))
        (show _ < fuel by omega)
      have hread := hv level fuel
        (',' :: (prettyMembers level (m' :: members) ++ (newline outer ++ '\x7d' :: rest)))
        (endsNumber_comma _) (by omega)
      rw [← hblank] at hread
      simp only [prettyMembers, List.append_assoc, List.cons_append]
      rw [readMembers?_succ (hstart _) hread]
      show (readMembers? fuel _).map _ = _
      rw [hrest]
      rfl

/-! ### Values -/

/-- No value starts with the bracket that closes an array, so an empty array is a case of its own in
    `readValue?`. -/
theorem readItems?_close (fuel : Nat) (t : Text) : readItems? fuel (']' :: t) = none := by
  have hvalue : readValue? fuel.pred (']' :: t) = none := by
    cases fuel.pred <;> rfl
  cases fuel with
  | zero => rfl
  | succ fuel =>
    rw [readItems?]
    exact congrArg (Option.bind · _) hvalue

/-- No key starts with the brace that closes an object, so an empty object is a case of its own. -/
theorem readMembers?_close (fuel : Nat) (t : Text) : readMembers? fuel ('\x7d' :: t) = none := by
  cases fuel <;> rfl

/-- What `readItems?` gives is an array after the bracket that opens it. -/
theorem readValue?_arr {fuel : Nat} {t rest : Text} {items : List Json}
    (h : readItems? fuel t = some (items, rest)) :
    readValue? (fuel + 1) ('[' :: t) = some (.arr items, rest) := by
  have hopen : skipSpace ('[' :: t) = '[' :: t := rfl
  rw [← readItems?_skipSpace] at h
  simp only [readValue?, hopen]
  split
  · next heq =>
    rw [heq, readItems?_close] at h
    cases h
  · rw [h]
    rfl

/-- What `readMembers?` gives is an object after the brace that opens it, if no key is repeated. -/
theorem readValue?_obj {fuel : Nat} {t rest : Text} {members : List (Text × Json)}
    (hnodup : (members.map Prod.fst).Nodup) (h : readMembers? fuel t = some (members, rest)) :
    readValue? (fuel + 1) ('\x7b' :: t) = some (.obj members, rest) := by
  have hopen : skipSpace ('\x7b' :: t) = '\x7b' :: t := rfl
  rw [← readMembers?_skipSpace] at h
  simp only [readValue?, hopen]
  split
  · next heq =>
    rw [heq, readMembers?_close] at h
    cases h
  · rw [h, ← object_eq_of_nodup hnodup]
    rfl

theorem readsBack_arr {items : List Json} (h : ∀ v ∈ items, ReadsBack v) :
    ReadsBack (.arr items) := by
  refine .of_succ fun level fuel rest _ hfuel => ?_
  cases items with
  | nil => rfl
  | cons v items =>
    simp only [prettyAt, List.length_append, List.length_cons] at hfuel
    simp only [prettyAt, List.cons_append, List.append_assoc, List.nil_append]
    exact readValue?_arr
      (readItems?_prettyItems (List.cons_ne_nil v items) h (level + 1) level rest (by omega))

/-- An object is read back (`ReadsBack`) if its members are, and no key is repeated. -/
theorem readsBack_obj {members : List (Text × Json)} (hnodup : (members.map Prod.fst).Nodup)
    (h : ∀ m ∈ members, ReadsBack m.2) : ReadsBack (.obj members) := by
  refine .of_succ fun level fuel rest _ hfuel => ?_
  cases members with
  | nil => rfl
  | cons m members =>
    simp only [prettyAt, List.length_append, List.length_cons] at hfuel
    simp only [prettyAt, List.cons_append, List.append_assoc, List.nil_append]
    exact readValue?_obj hnodup
      (readMembers?_prettyMembers (List.cons_ne_nil m members) h (level + 1) level rest (by omega))

/-- A value that is `Proper` is read back at any level, by induction on the value. -/
theorem readsBack_of_proper {v : Json} (h : Proper FitsWord v) : ReadsBack v := by
  induction h with
  | null => exact .of_succ fun _ _ _ _ _ => rfl
  | bool b => exact .of_succ fun _ _ _ _ _ => by cases b <;> rfl
  | @num n hn =>
    cases n with
    | real x => exact hn.elim
    | int n => exact .of_succ fun _ fuel _ hrest _ => readValue?_int fuel hn hrest
  | str t => exact .of_succ fun _ fuel rest _ _ => readValue?_string fuel t rest
  | arr _ ih => exact readsBack_arr ih
  | obj hnodup _ ih => exact readsBack_obj hnodup ih

/-- **A proper value is read back** from its lines: `read?` of what `pretty` writes is the value. -/
theorem read?_pretty {v : Json} (h : Proper FitsWord v) : read? (pretty v) = some v := by
  have hread := readsBack_of_proper h 0 (2 * (pretty v).length + 2) [] (by simp [EndsNumber])
    (by unfold pretty; omega)
  rw [List.append_nil] at hread
  unfold read?
  unfold pretty at hread ⊢
  rw [hread]
  rfl

end AccessLint.Json
