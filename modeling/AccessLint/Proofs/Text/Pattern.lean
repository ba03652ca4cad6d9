import AccessLint.Proofs.Text.Search
import AccessLint.Text.Pattern

namespace AccessLint.Text.Pattern

/-!
# The phrases of a pattern

Reading a text by a pattern tries out one way after the other, and phrases may begin alike. In the end
a text satisfies the pattern exactly if it is one of finitely many phrases.

* `phrases` — the phrases of a pattern;
* `mem_rests_iff` — what may be left of a text follows a phrase, and after each phrase the rest is
  left;
* `accepts_iff` — a text is accepted if its letters make up a phrase.
-/

/-- The phrases of a pattern. -/
def phrases : Pattern → List Text
  | phrase w => [w]
  | optional p => p.phrases ++ [[]]
  | either p q => p.phrases ++ q.phrases
  | followed p q => p.phrases.flatMap fun a => q.phrases.map (a ++ ·)

/-- **What may be left of a text** is what follows a phrase in it: `Pattern.rests` against the
    `phrases` of the pattern, by induction on the pattern. -/
theorem mem_rests_iff {p : Pattern} {t r : Text} :
    r ∈ p.rests t ↔ ∃ a ∈ p.phrases, t = a ++ r := by
  induction p generalizing t r with
  | phrase w =>
    rw [rests, phrases, Option.mem_toList]
    simp only [List.mem_singleton, exists_eq_left]
    constructor
    · intro h
      exact (List.append_eq_of_isPrefixOf?_eq_some h).symm
    · rintro rfl
      exact List.isPrefixOf?_eq_some_iff_append_eq.mpr rfl
  | optional p ih =>
    rw [rests, phrases, List.mem_append, ih]
    simp [or_and_right, exists_or, eq_comm]
  | either p q ihp ihq =>
    rw [rests, phrases, List.mem_append, ihp, ihq]
    simp [or_and_right, exists_or]
  | followed p q ihp ihq =>
    rw [rests, phrases, List.mem_flatMap]
    constructor
    · rintro ⟨s, hs, hr⟩
      -- what the first pattern leaves is what the second one starts with
      obtain ⟨a, ha, rfl⟩ := ihp.mp hs
      obtain ⟨b, hb, rfl⟩ := ihq.mp hr
      exact ⟨a ++ b, List.mem_flatMap.mpr ⟨a, ha, List.mem_map_of_mem hb⟩,
        (List.append_assoc a b r).symm⟩
    · rintro ⟨w, hw, rfl⟩
      obtain ⟨a, ha, hw⟩ := List.mem_flatMap.mp hw
      obtain ⟨b, hb, rfl⟩ := List.mem_map.mp hw
      exact ⟨b ++ r, ihp.mpr ⟨a, ha, List.append_assoc a b r⟩, ihq.mpr ⟨b, hb, rfl⟩⟩

/-- **Accepted texts** are those that are read as a phrase of the pattern, letter by letter
    (`foldedLetter`). -/
theorem accepts_iff {p : Pattern} {t : Text} :
    p.accepts t = true ↔ t.map foldedLetter ∈ p.phrases := by
  unfold accepts
  rw [List.contains_iff_mem, mem_rests_iff]
  simp

end AccessLint.Text.Pattern
