import AccessLint.Json.Relaxed
import AccessLint.Proofs.Json.Object

namespace AccessLint.Json.Relaxed

/-!
# Values that people write

However often a text repeats a key, no object that is read from it does.

* `ReadsProper` — what is read with some fuel is proper;
* `proper_of_read` — the value in a text is proper.
-/

/-- Proper values with any numbers. -/
abbrev IsProper (v : Json) : Prop := Proper (fun _ => True) v

/-- If two computations that run one after the other give a result, both have succeeded. The readers
    of `Relaxed` are taken apart in this way. -/
theorem exists_of_bind_eq_ok {α β ε : Type} {x : Except ε α} {f : α → Except ε β} {b : β}
    (h : (x >>= f) = .ok b) : ∃ a, x = .ok a ∧ f a = .ok b := by
  cases x with
  | error e => cases h
  | ok a => exact ⟨a, rfl, h⟩

/-- Values, members and items that are read with some fuel are proper. -/
structure ReadsProper (fuel : Nat) : Prop where
  value : ∀ {lex v rest}, readValue fuel lex = .ok (v, rest) → IsProper v
  members : ∀ {opening lex ms rest}, readMembers fuel opening lex = .ok (ms, rest) →
    ∀ m ∈ ms, IsProper m.2
  items : ∀ {opening lex vs rest}, readItems fuel opening lex = .ok (vs, rest) →
    ∀ v ∈ vs, IsProper v

/-- A number is a proper value, be it one with a value or one that is kept as a spelling. -/
theorem proper_number (source : Text) : IsProper (number source) := by
  unfold number hexNumber
  dsimp only
  split
  all_goals split
  all_goals first | exact .num trivial | exact .str _

variable {fuel : Nat}

/-- A value is proper if the items and members in it are, read with one unit of fuel less: an object
    goes through `Json.object`, which keeps one value for a key. -/
theorem ReadsProper.readValue_succ (ih : ReadsProper fuel) {lex : Lexeme} {v : Json} {rest : Text}
    (h : readValue (fuel + 1) lex = .ok (v, rest)) : IsProper v := by
  obtain ⟨token, start, after⟩ := lex
  cases token <;> simp only [readValue] at h
  case openBrace =>
    obtain ⟨first, -, h⟩ := exists_of_bind_eq_ok h
    obtain ⟨⟨ms, r⟩, hms, h⟩ := exists_of_bind_eq_ok h
    cases h
    exact proper_object (ih.members hms)
  case openBracket =>
    obtain ⟨first, -, h⟩ := exists_of_bind_eq_ok h
    obtain ⟨⟨vs, r⟩, hvs, h⟩ := exists_of_bind_eq_ok h
    cases h
    exact .arr (ih.items hvs)
  case str => cases h; exact .str _
  case number => cases h; exact proper_number _
  case bool => cases h; exact .bool _
  case null => cases h; exact .null
  all_goals cases h

/-- The members of an object are proper: the first one, and those behind the comma. -/
theorem ReadsProper.readMembers_succ (ih : ReadsProper fuel) {opening : Text} {lex : Option Lexeme}
    {ms : List (Text × Json)} {rest : Text}
    (h : readMembers (fuel + 1) opening lex = .ok (ms, rest)) : ∀ m ∈ ms, IsProper m.2 := by
  cases lex with
  | none => cases h
  | some lex =>
    rw [readMembers] at h
    split at h
    case h_1 =>
      cases h
      simp
    case h_2 => cases h
    -- a key, a colon, the value and then the later members
    case h_3 key _ _ =>
      obtain ⟨colon, -, h⟩ := exists_of_bind_eq_ok h
      split at h
      case h_1 afterColon =>
        obtain ⟨_, -, h⟩ := exists_of_bind_eq_ok h
        obtain ⟨first, -, h⟩ := exists_of_bind_eq_ok h
        split at h
        case h_1 first =>
          obtain ⟨⟨value, afterValue⟩, hvalue, h⟩ := exists_of_bind_eq_ok h
          obtain ⟨afterMember, -, h⟩ := exists_of_bind_eq_ok h
          obtain ⟨next, -, h⟩ := exists_of_bind_eq_ok h
          obtain ⟨⟨later, _⟩, hlater, h⟩ := exists_of_bind_eq_ok h
          cases h
          exact List.forall_mem_cons.mpr ⟨ih.value hvalue, ih.members hlater⟩
        case h_2 => cases h
      all_goals cases h

/-- The items of an array are proper: the first one, and those behind the comma. -/
theorem ReadsProper.readItems_succ (ih : ReadsProper fuel) {opening : Text} {lex : Option Lexeme}
    {vs : List Json} {rest : Text}
    (h : readItems (fuel + 1) opening lex = .ok (vs, rest)) : ∀ v ∈ vs, IsProper v := by
  cases lex with
  | none => cases h
  | some lex =>
    rw [readItems] at h
    split at h
    case h_1 =>
      cases h
      simp
    case h_2 =>
      obtain ⟨⟨value, afterValue⟩, hvalue, h⟩ := exists_of_bind_eq_ok h
      obtain ⟨afterItem, -, h⟩ := exists_of_bind_eq_ok h
      obtain ⟨next, -, h⟩ := exists_of_bind_eq_ok h
      obtain ⟨⟨later, _⟩, hlater, h⟩ := exists_of_bind_eq_ok h
      cases h
      exact List.forall_mem_cons.mpr ⟨ih.value hvalue, ih.items hlater⟩

/-- All that is read with some fuel is proper (`IsProper`), by induction on the fuel. -/
theorem readsProper (fuel : Nat) : ReadsProper fuel := by
  induction fuel with
  | zero => exact ⟨nofun, nofun, nofun⟩
  | succ fuel ih => exact ⟨ih.readValue_succ, ih.readMembers_succ, ih.readItems_succ⟩

/-- **No object repeats a key** in the value that `Relaxed.read` gives, even if the text does: the
    last value of a key is kept. -/
theorem proper_of_read {t : Text} {v : Json} (h : read t = .ok (some v)) : IsProper v := by
  obtain ⟨first, -, h⟩ := exists_of_bind_eq_ok h
  split at h
  case h_1 => cases h
  case h_2 lex =>
    obtain ⟨⟨value, afterValue⟩, hvalue, h⟩ := exists_of_bind_eq_ok h
    obtain ⟨last, -, h⟩ := exists_of_bind_eq_ok h
    split at h
    case h_1 =>
      cases h
      exact (readsProper _).value hvalue
    case h_2 => cases h

end AccessLint.Json.Relaxed
