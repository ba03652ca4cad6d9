import AccessLint.Color.Parse
import AccessLint.Proofs.Color.Named
import AccessLint.Proofs.Decimal.Literal
import AccessLint.Proofs.Text.Lower
import AccessLint.Proofs.Text.Search

namespace AccessLint.Rgb

/-!
# Functions of colours

A colour function is a name, and arguments between parentheses. It gives a colour if there are three or
four arguments and the first three are numbers with their units; the fourth one, the alpha, is not even
looked at.

* `Calls` — the notation of a colour function;
* `Functional.ofText?_eq_some_iff` — texts in this notation are read;
* `parse?_of_calls` — they are neither names of colours nor digits;
* `IsQuantity`, `Functional.isSome_color?_iff` — the arguments that give a colour;
* `parse_functional` — which functions give a colour;
* `parse_unreadAlpha` — a colour whose alpha is no number.
-/

/-! ### Notation -/

/-- The names of the families. -/
def familyNames : List (Text × Family) :=
  [("rgb", .rgb), ("rgba", .rgb), ("hsl", .hsl), ("hsla", .hsl)]

/-- A text calls a function of a family: a name of the family, blanks, and in parentheses a text
    without parentheses. -/
def Calls (v : Text) (family : Family) (inside : Text) : Prop :=
  ∃ name blanks, (name, family) ∈ familyNames ∧ Text.isBlank blanks = true ∧
    '(' ∉ inside ∧ ')' ∉ inside ∧ v = name ++ (blanks ++ '(' :: (inside ++ [')']))

/-- `familyAt?` takes one of the names of a family from the start of a text. -/
theorem familyAt?_eq_some {v r : Text} {family : Family} (h : familyAt? v = some (family, r)) :
    ∃ name, (name, family) ∈ familyNames ∧ v = name ++ r := by
  unfold familyAt? at h
  split at h
  · cases h
    exact ⟨"rgba", by decide, rfl⟩
  · cases h
    exact ⟨"rgb", by decide, rfl⟩
  · cases h
    exact ⟨"hsla", by decide, rfl⟩
  · cases h
    exact ⟨"hsl", by decide, rfl⟩
  · cases h

/-- A name is read up to its end, unless an `a` follows it: then it may be the name with alpha. -/
theorem familyAt?_name {name r : Text} {family : Family} (hname : (name, family) ∈ familyNames)
    (hr : r.head? ≠ some 'a') : familyAt? (name ++ r) = some (family, r) := by
  have hshort : ∀ c s, r = c :: s → c ≠ 'a' := by
    rintro c s rfl rfl
    exact hr rfl
  simp only [familyNames, List.mem_cons, Prod.mk.injEq, List.not_mem_nil, or_false] at hname
  rcases hname with ⟨rfl, rfl⟩ | ⟨rfl, rfl⟩ | ⟨rfl, rfl⟩ | ⟨rfl, rfl⟩
  · cases r with
    | nil => rfl
    | cons c s => simp [familyAt?, hshort c s rfl]
  · rfl
  · cases r with
    | nil => rfl
    | cons c s => simp [familyAt?, hshort c s rfl]
  · rfl

theorem any_isParenthesis_iff {t : Text} :
    (t.any fun c => c == '(' || c == ')') = false ↔ '(' ∉ t ∧ ')' ∉ t := by
  rw [List.any_eq_false]
  simp only [Bool.or_eq_true, beq_iff_eq, not_or]
  constructor
  · intro h
    exact ⟨fun hmem => (h '(' hmem).1 rfl, fun hmem => (h ')' hmem).2 rfl⟩
  · rintro ⟨hopen, hclose⟩ c hc
    exact ⟨fun heq => hopen (heq ▸ hc), fun heq => hclose (heq ▸ hc)⟩

/-- **Calls are read**, and nothing else: `Functional.ofText?` is a description of `Calls`, with the
    arguments as the words between the parentheses. -/
theorem Functional.ofText?_eq_some_iff {v : Text} {f : Functional} :
    Functional.ofText? v = some f ↔
      ∃ inside, Calls v f.family inside ∧ f.args = Text.words separatesArgs inside := by
  unfold Functional.ofText?
  constructor
  · intro h
    obtain ⟨⟨family, r⟩, hfamily, h⟩ := Option.bind_eq_some_iff.mp h
    dsimp only at h
    split at h
    · next s hs =>
      obtain ⟨inside, hinside, h⟩ := Option.bind_eq_some_iff.mp h
      split at h
      · cases h
      · next hparentheses =>
        cases h
        rw [Bool.not_eq_true, any_isParenthesis_iff] at hparentheses
        obtain ⟨name, hname, rfl⟩ := familyAt?_eq_some hfamily
        refine ⟨inside, ⟨name, r.takeWhile Text.isBlankChar, hname, List.all_takeWhile,
          hparentheses.1, hparentheses.2, ?_⟩, rfl⟩
        have hr : r = r.takeWhile Text.isBlankChar ++ '(' :: s := by
          rw [← hs]
          exact List.takeWhile_append_dropWhile.symm
        have hs : s = inside ++ [')'] := (List.isSuffixOf?_eq_some_iff_append_eq.mp hinside).symm
        rw [← hs, ← hr]
    · cases h
  · rintro ⟨inside, ⟨name, blanks, hname, hblanks, hopen, hclose, rfl⟩, hargs⟩
    -- blanks or a parenthesis follow the name
    have hhead : (blanks ++ '(' :: (inside ++ [')'])).head? ≠ some 'a' := by
      cases blanks with
      | nil =>
        intro heq
        cases heq
      | cons c blanks =>
        intro heq
        cases heq
        exact absurd (List.all_eq_true.mp hblanks 'a' List.mem_cons_self) (by decide)
    have htrim : Text.trimStart (blanks ++ '(' :: (inside ++ [')'])) = '(' :: (inside ++ [')']) := by
      unfold Text.trimStart
      rw [List.dropWhile_append_of_pos (List.all_eq_true.mp hblanks)]
      rfl
    have hinside : List.isSuffixOf? ")" (inside ++ [')']) = some inside :=
      List.isSuffixOf?_eq_some_iff_append_eq.mpr rfl
    rw [familyAt?_name hname hhead]
    simp only [Option.bind_eq_bind, Option.bind_some, htrim, hinside,
      any_isParenthesis_iff.mpr ⟨hopen, hclose⟩, Bool.false_eq_true, if_false, ← hargs]

/-- No name of a colour has a parenthesis, so `ofName?` has no colour for a text with one, so a call
    is never taken for a name. -/
theorem ofName?_of_mem {v : Text} (h : '(' ∈ v) : ofName? v = none := by
  rw [Option.eq_none_iff_forall_ne_some]
  intro c hc
  obtain ⟨entry, hentry, rfl, -⟩ := ofName?_eq_some_iff.mp hc
  exact absurd (List.all_eq_true.mp (named_names.2 entry hentry).1 '(' h) (by decide)

/-- **A call gives what its function gives**: `parse?` tries the other forms first, and none of them
    has a parenthesis. -/
theorem parse?_of_calls {value inside : Text} {family : Family}
    (h : Calls (Text.lower (Text.trim value)) family inside) :
    parse? value = Functional.color? ⟨family, Text.words separatesArgs inside⟩ := by
  have hread : Functional.ofText? (Text.lower (Text.trim value)) =
      some ⟨family, Text.words separatesArgs inside⟩ :=
    Functional.ofText?_eq_some_iff.mpr ⟨inside, h, rfl⟩
  have hmem : '(' ∈ Text.lower (Text.trim value) := by
    obtain ⟨name, blanks, -, -, -, -, hv⟩ := h
    rw [hv]
    simp
  have hne : Text.lower (Text.trim value) ≠ [] := List.ne_nil_of_mem hmem
  have htransparent : Text.lower (Text.trim value) ≠ ("transparent" : Text) := by
    intro heq
    rw [heq] at hmem
    exact absurd hmem (by decide)
  unfold parse?
  dsimp only
  rw [if_neg (by simpa using hne), if_neg htransparent, ofName?_of_mem hmem, hread]

/-! ### Arguments -/

/-- A finite number, with or without a unit. -/
def IsQuantity (unit arg : Text) : Prop :=
  ∃ number, (Decimal.readFinite? number).isSome = true ∧ (arg = number ∨ arg = number ++ unit)

/-- What is left of an argument without its unit is a number exactly if the argument is a quantity
    (`IsQuantity`). No number ends in a unit, so the unit is taken off in one way. -/
theorem isQuantity_iff {unit arg : Text} {c : Char} (hc : c ∈ unit)
    (hunit : Decimal.isNumeric c = false) : IsQuantity unit arg ↔
      (Decimal.readFinite? ((List.isSuffixOf? unit arg).getD arg)).isSome = true := by
  constructor
  · rintro ⟨number, hnumber, rfl | rfl⟩
    · -- a number does not end in the unit
      cases hbefore : List.isSuffixOf? unit arg with
      | none => exact hnumber
      | some before =>
        rw [(List.isSuffixOf?_eq_some_iff_append_eq.mp hbefore).symm,
          Decimal.readFinite?_append_unit hc hunit before] at hnumber
        cases hnumber
    · rw [List.isSuffixOf?_eq_some_iff_append_eq.mpr rfl]
      exact hnumber
  · intro h
    cases hbefore : List.isSuffixOf? unit arg with
    | none =>
      rw [hbefore] at h
      exact ⟨arg, h, Or.inl rfl⟩
    | some before =>
      rw [hbefore] at h
      exact ⟨before, h, Or.inr ((List.isSuffixOf?_eq_some_iff_append_eq.mp hbefore).symm)⟩

theorem isSome_channel?_iff {arg : Text} : (channel? arg).isSome = true ↔ IsQuantity "%" arg := by
  rw [isQuantity_iff (c := '%') (by decide) (by decide)]
  unfold channel?
  cases List.isSuffixOf? "%" arg with
  | none => rw [Option.isSome_map, Option.getD_none]
  | some percent => rw [Option.isSome_map, Option.getD_some]

theorem isSome_fraction?_iff {arg : Text} : (fraction? arg).isSome = true ↔ IsQuantity "%" arg := by
  rw [isQuantity_iff (c := '%') (by decide) (by decide)]
  unfold fraction?
  cases List.isSuffixOf? "%" arg with
  | none => rw [Option.isSome_map, Option.getD_none]
  | some percent => rw [Option.isSome_map, Option.getD_some]

theorem isSome_hue?_iff {arg : Text} : (hue? arg).isSome = true ↔ IsQuantity "deg" arg :=
  (isQuantity_iff (c := 'd') (by decide) (by decide)).symm

/-- The unit of an argument: degrees for a hue, else percent. -/
def unitAt (family : Family) (i : Nat) : Text :=
  if family = .hsl ∧ i = 0 then "deg" else "%"

theorem isSome_ofChannels?_iff {r g b : Text} : (ofChannels? r g b).isSome = true ↔
    IsQuantity "%" r ∧ IsQuantity "%" g ∧ IsQuantity "%" b := by
  rw [← isSome_channel?_iff, ← isSome_channel?_iff, ← isSome_channel?_iff]
  unfold ofChannels?
  cases channel? r <;> cases channel? g <;> cases channel? b <;> simp

theorem isSome_ofHsl?_iff {h s l : Text} : (ofHsl? h s l).isSome = true ↔
    IsQuantity "deg" h ∧ IsQuantity "%" s ∧ IsQuantity "%" l := by
  rw [← isSome_hue?_iff, ← isSome_fraction?_iff, ← isSome_fraction?_iff]
  unfold ofHsl?
  cases hue? h <;> cases fraction? s <;> cases fraction? l <;> simp

/-- What holds of the first three members. -/
theorem forall_first_three {α : Type} {P : Nat → α → Prop} {a b c : α} {rest : List α} :
    (∀ i x, i < 3 → (a :: b :: c :: rest)[i]? = some x → P i x) ↔ P 0 a ∧ P 1 b ∧ P 2 c := by
  constructor
  · intro h
    exact ⟨h 0 a (by omega) rfl, h 1 b (by omega) rfl, h 2 c (by omega) rfl⟩
  · rintro ⟨ha, hb, hc⟩ i x hi hx
    match i with
    | 0 => exact Option.some.inj hx ▸ ha
    | 1 => exact Option.some.inj hx ▸ hb
    | 2 => exact Option.some.inj hx ▸ hc

/-- The colour of three arguments, for both families: each argument must be a quantity in the unit
    of its place (`unitAt`). -/
theorem Functional.isSome_color?_three {family : Family} {a b c : Text} :
    (Functional.color? ⟨family, [a, b, c]⟩).isSome = true ↔ IsQuantity (unitAt family 0) a ∧
      IsQuantity (unitAt family 1) b ∧ IsQuantity (unitAt family 2) c := by
  cases family with
  | rgb => exact isSome_ofChannels?_iff
  | hsl => exact isSome_ofHsl?_iff

/-- The alpha makes no difference: `Functional.color?` does not look at a fourth argument. -/
theorem Functional.color?_alpha (family : Family) (a b c alpha : Text) :
    Functional.color? ⟨family, [a, b, c, alpha]⟩ = Functional.color? ⟨family, [a, b, c]⟩ :=
  rfl

/-- **A function gives a colour** exactly if it has three or four arguments, and the first three are
    quantities in the unit of their place (`unitAt`). -/
theorem Functional.isSome_color?_iff {f : Functional} : f.color?.isSome = true ↔
    (f.args.length = 3 ∨ f.args.length = 4) ∧
      ∀ i arg, i < 3 → f.args[i]? = some arg → IsQuantity (unitAt f.family i) arg := by
  obtain ⟨family, args⟩ := f
  dsimp only
  rcases args with _ | ⟨a, _ | ⟨b, _ | ⟨c, _ | ⟨alpha, _ | ⟨e, rest⟩⟩⟩⟩⟩
  · simp [color?]
  · simp [color?]
  · simp [color?]
  · rw [isSome_color?_three, forall_first_three]
    simp
  · rw [color?_alpha, isSome_color?_three, forall_first_three]
    simp
  · simp [color?]

/-! ### Colours -/

/-- **Colour functions.** A call gives a colour exactly if it has three or four arguments, and the first
    three are finite numbers, with or without a percent sign, or `deg` behind a hue. So of a call that
    gives a colour all arguments are such numbers exactly if the alpha is one, or is left out. -/
theorem parse_functional {value inside : Text} {family : Family}
    (h : Calls (Text.lower (Text.trim value)) family inside) :
    ((parse? value).isSome = true ↔
      ((Text.words separatesArgs inside).length = 3 ∨ (Text.words separatesArgs inside).length = 4) ∧
        ∀ i arg, i < 3 → (Text.words separatesArgs inside)[i]? = some arg →
          IsQuantity (unitAt family i) arg) ∧
      ((parse? value).isSome = true →
        ((∀ i arg, (Text.words separatesArgs inside)[i]? = some arg →
            IsQuantity (unitAt family i) arg) ↔
          ∀ alpha, (Text.words separatesArgs inside)[3]? = some alpha → IsQuantity "%" alpha)) := by
  rw [parse?_of_calls h, Functional.isSome_color?_iff]
  refine ⟨Iff.rfl, ?_⟩
  rintro ⟨hlength, hfirst⟩
  dsimp only at hlength hfirst
  have hunit : unitAt family 3 = "%" := if_neg fun h => absurd h.2 (by decide)
  constructor
  · intro hall alpha halpha
    rw [← hunit]
    exact hall 3 alpha halpha
  · intro halpha i arg harg
    -- the first three, the alpha, and nothing behind it
    obtain ⟨hi, -⟩ := List.getElem?_eq_some_iff.mp harg
    by_cases hthree : i < 3
    · exact hfirst i arg hthree harg
    · have hlast : i = 3 := by omega
      subst hlast
      rw [hunit]
      exact halpha arg harg

/-- In capital letters, with blanks and a slash: the hue has its unit, and the alpha is no number. -/
theorem parse_functional_hue :
    Calls (Text.lower (Text.trim " HSL (0DEG 0%,0 / x) ")) .hsl "0deg 0%,0 / x" ∧
      (parse? " HSL (0DEG 0%,0 / x) ").isSome = true ∧
      ¬ ∀ i arg, (Text.words separatesArgs "0deg 0%,0 / x")[i]? = some arg →
        IsQuantity (unitAt .hsl i) arg := by
  have hcalls : Calls (Text.lower (Text.trim " HSL (0DEG 0%,0 / x) ")) .hsl "0deg 0%,0 / x" :=
    ⟨"hsl", " ", by decide, by decide, by decide, by decide, by decide⟩
  have hwords : Text.words separatesArgs "0deg 0%,0 / x" =
      (["0deg", "0%", "0", "x"] : List Text) := by
    decide
  have halpha : ¬ IsQuantity "%" "x" := by
    rw [isQuantity_iff (c := '%') (by decide) (by decide)]
    decide
  obtain ⟨hcolor, hall⟩ := parse_functional hcalls
  have hsome : (parse? " HSL (0DEG 0%,0 / x) ").isSome = true := by
    rw [hcolor, hwords, forall_first_three]
    exact ⟨by decide, isSome_hue?_iff.mp (by decide), isSome_fraction?_iff.mp (by decide),
      isSome_fraction?_iff.mp (by decide)⟩
  refine ⟨hcalls, hsome, fun h => halpha ?_⟩
  exact (hall hsome).mp h "x" (by rw [hwords]; rfl)

/-- Black with an alpha that is no number. -/
theorem parse_unreadAlpha :
    Calls (Text.lower (Text.trim "rgb(0, 0, 0, foo)")) .rgb "0, 0, 0, foo" ∧
      (parse? "rgb(0, 0, 0, foo)").isSome = true ∧
      (Text.words separatesArgs "0, 0, 0, foo")[3]? = some ("foo" : Text) ∧
      ¬ IsQuantity "%" "foo" := by
  have hcalls : Calls (Text.lower (Text.trim "rgb(0, 0, 0, foo)")) .rgb "0, 0, 0, foo" :=
    ⟨"rgb", [], by decide, by decide, by decide, by decide, by decide⟩
  have hsome : (parse? "rgb(0, 0, 0, foo)").isSome = true := by
    rw [parse?_of_calls hcalls]
    decide
  refine ⟨hcalls, hsome, by decide, ?_⟩
  rw [isQuantity_iff (c := '%') (by decide) (by decide)]
  decide

end AccessLint.Rgb
