import AccessLint.Html.Markup
import AccessLint.Html.Reference
import AccessLint.Proofs.Text.Search

namespace AccessLint.Html

/-!
# References in values

A value is written with references for the characters that are special in it. They are replaced
again where the value is read.

* `longestName?_append` — what follows a semicolon does not matter to a name;
* `decodeReferences_escapeValue` — a value is read as it was before it was written.
-/

/-! ### Names -/

/-- Whether a text starts with a name (`List.isPrefixOf`) does not depend on what follows the text,
    unless the name is longer. -/
theorem isPrefixOf_append_of_short {p rest n : Text} (h : (List.isPrefixOf? p n).all List.isEmpty = true) :
    List.isPrefixOf n (p ++ rest) = List.isPrefixOf n p := by
  have hshort : p <+: n → p = n := by
    rintro ⟨longer, rfl⟩
    rw [List.isPrefixOf?_eq_some_iff_append_eq.mpr rfl] at h
    rw [List.isEmpty_iff.mp h, List.append_nil]
  exact Text.isPrefixOf_append (Text.prefix_of_prefix_append hshort)

/-- The longest name that starts a text does not depend on what follows the text, unless there are
    longer names. This is checked once for each name that `escapeValue` writes. -/
theorem longestName?_append {p rest : Text} {refs : List Reference}
    (h : ∀ r ∈ refs, (List.isPrefixOf? p r.name).all List.isEmpty = true) :
    longestName? (p ++ rest) refs = longestName? p refs := by
  induction refs with
  | nil => rfl
  | cons r refs ih =>
    have hrest := ih fun r' hr' => h r' (List.mem_cons_of_mem r hr')
    unfold longestName?
    dsimp only
    rw [isPrefixOf_append_of_short (h r List.mem_cons_self), hrest]

/-- A name that ends in a semicolon stands for its characters wherever it is written: `reference?`
    takes the longest name, and none is longer. -/
theorem reference?_append (c : Char) (name : Text) (codes : List Nat) (hc : c ≠ '#')
    (hlonger : ∀ r ∈ referencesStartingWith c,
      (List.isPrefixOf? (c :: name) r.name).all List.isEmpty = true)
    (hlongest : (longestName? (c :: name) (referencesStartingWith c)).map
      (fun r => (r.name.toList, r.codePoints)) = some (c :: name, codes))
    (hend : (c :: name).getLast? = some ';') (rest : Text) :
    reference? true (c :: name ++ rest) = some (codes.map Char.ofNat, name.length + 1) := by
  obtain ⟨r, hr, heq⟩ := Option.map_eq_some_iff.mp hlongest
  obtain ⟨hname, hcodes⟩ := Prod.mk.inj heq
  -- no longer name can start here, so what follows does not matter
  have hread : longestName? (c :: name ++ rest) (referencesStartingWith c) = some r :=
    (longestName?_append hlonger).trans hr
  have hnamed : namedReference? true (c :: name ++ rest) =
      some (codes.map Char.ofNat, name.length + 1) := by
    unfold namedReference?
    dsimp only [List.cons_append]
    rw [← List.cons_append, hread]
    dsimp only
    rw [hname, hcodes, hend]
    rfl
  unfold reference?
  split
  · next heq => exact absurd (List.cons.inj heq).1 hc
  · exact hnamed

/-! ### Replacing -/

/-- The characters that belong to a reference are passed over: `decodeFrom` counts them down. -/
theorem decodeFrom_append (inAttribute : Bool) (p rest : Text) :
    decodeFrom inAttribute p.length (p ++ rest) = decodeFrom inAttribute 0 rest := by
  induction p with
  | nil => rfl
  | cons c p ih =>
    rw [List.length_cons, List.cons_append, decodeFrom]
    exact ih

/-- A written reference is replaced by its characters, and reading goes on behind it. -/
theorem decodeFrom_reference {p cs : Text} (rest : Text)
    (h : reference? true (p ++ rest) = some (cs, p.length)) :
    decodeFrom true 0 ('&' :: (p ++ rest)) = cs ++ decodeFrom true 0 rest := by
  rw [decodeFrom, if_pos rfl, h]
  dsimp only
  rw [decodeFrom_append]

/-- Each of the three special characters is read again from its reference, and any other one from
    itself. -/
theorem decodeFrom_escapeValue (c : Char) (rest : Text) :
    decodeFrom true 0 (escapeValue c ++ rest) = c :: decodeFrom true 0 rest := by
  -- the three references that are written, each looked up among the names with its first letter
  have hamp := reference?_append 'a' ['m', 'p', ';'] [0x26] (by decide) (by decide +kernel)
    (by decide +kernel) rfl rest
  have hspace := reference?_append 'n' ['b', 's', 'p', ';'] [0xA0] (by decide) (by decide +kernel)
    (by decide +kernel) rfl rest
  have hquote := reference?_append 'q' ['u', 'o', 't', ';'] [0x22] (by decide) (by decide +kernel)
    (by decide +kernel) rfl rest
  unfold escapeValue
  by_cases h1 : c = '&'
  · rw [if_pos h1, h1]
    exact decodeFrom_reference rest hamp
  rw [if_neg h1]
  by_cases h2 : c = '\u00A0'
  · rw [if_pos h2, h2]
    exact decodeFrom_reference rest hspace
  rw [if_neg h2]
  by_cases h3 : c = '"'
  · rw [if_pos h3, h3]
    exact decodeFrom_reference rest hquote
  rw [if_neg h3, List.singleton_append, decodeFrom, if_neg h1]

/-- **A value is read as it was before it was written**: `escapeValue` and `decodeReferences` are
    inverse to each other on attribute values. -/
theorem decodeReferences_escapeValue (v : Text) :
    decodeReferences true (v.flatMap escapeValue) = v := by
  unfold decodeReferences
  induction v with
  | nil => rfl
  | cons c v ih => rw [List.flatMap_cons, decodeFrom_escapeValue, ih]

end AccessLint.Html
