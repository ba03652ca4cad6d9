import AccessLint.Proofs.Text.Pieces
import AccessLint.Proofs.Text.Search
import AccessLint.Rule.Contrast
import AccessLint.Text.Keyed
import Mathlib.Data.List.Basic

namespace AccessLint.Rule

/-!
# Declarations of a style

The rule on contrast first looks whether a style mentions the two colours at all, and reads its
declarations only then. A colour that is declared is mentioned, so nothing gets lost.

* `Declares` — what a piece of a style declares;
* `declaration?_eq_some_iff`, `styleValue?_eq_some_iff` — the value of a key is the one that is
  declared last;
* `mentionsColors_of_styleValue?` — declared colours are mentioned;
* `contrast_inlineStyle` — the values of a style, and the rule without its first look.
-/

/-! ### Declarations -/

/-- A piece of a style gives a value to a key: with blanks around them, the key stands before the first
    colon, and the value, which is not empty, between the first colon and the second one or the
    end. -/
def Declares (t key value : Text) : Prop :=
  ∃ k v, ':' ∉ k ∧ ':' ∉ v ∧ (t = k ++ ':' :: v ∨ ∃ rest, t = k ++ ':' :: (v ++ ':' :: rest)) ∧
    Text.trim k = key ∧ Text.trim v = value ∧ value ≠ []

theorem not_colon {t : Text} : (∀ c ∈ t, (c == ':') = false) ↔ ':' ∉ t := by
  simp only [beq_eq_false_iff_ne]
  exact ⟨fun h hmem => h ':' hmem rfl, fun h c hc heq => h (heq ▸ hc)⟩

/-- What stands before the first colon and what stands behind it up to the next one: the first two
    pieces of `List.splitOnP`. -/
theorem splitOnP_colon_iff {t k v : Text} : (∃ ps, List.splitOnP (· == ':') t = k :: v :: ps) ↔
    ':' ∉ k ∧ ':' ∉ v ∧ (t = k ++ ':' :: v ∨ ∃ rest, t = k ++ ':' :: (v ++ ':' :: rest)) := by
  constructor
  · rintro ⟨ps, hps⟩
    obtain ⟨k', hk, rfl | ⟨c, b, hc, rfl⟩⟩ := Text.exists_piece (· == ':') t
    · rw [List.splitOnP_eq_singleton hk] at hps
      cases hps
    · -- the second piece is the first one of what follows the colon
      obtain ⟨v', hv, rfl | ⟨c', b', hc', rfl⟩⟩ := Text.exists_piece (· == ':') b
      · rw [List.splitOnP_append_cons_of_forall_mem hk _ hc, List.splitOnP_eq_singleton hv] at hps
        cases hps
        rw [beq_iff_eq] at hc
        exact ⟨not_colon.mp hk, not_colon.mp hv, Or.inl (by rw [hc])⟩
      · rw [List.splitOnP_append_cons_of_forall_mem hk _ hc,
          List.splitOnP_append_cons_of_forall_mem hv _ hc'] at hps
        cases hps
        rw [beq_iff_eq] at hc hc'
        exact ⟨not_colon.mp hk, not_colon.mp hv, Or.inr ⟨b', by rw [hc, hc']⟩⟩
  · rintro ⟨hk, hv, rfl | ⟨rest, rfl⟩⟩
    · refine ⟨[], ?_⟩
      rw [List.splitOnP_append_cons_of_forall_mem (not_colon.mpr hk) _ rfl,
        List.splitOnP_eq_singleton (not_colon.mpr hv)]
    · refine ⟨List.splitOnP (· == ':') rest, ?_⟩
      rw [List.splitOnP_append_cons_of_forall_mem (not_colon.mpr hk) _ rfl,
        List.splitOnP_append_cons_of_forall_mem (not_colon.mpr hv) _ rfl]

/-- **A declaration** is read by `declaration?` exactly if a value is given to a key that is not
    empty. -/
theorem declaration?_eq_some_iff {t key value : Text} :
    declaration? t = some (key, value) ↔ key ≠ [] ∧ Declares t key value := by
  unfold declaration? Declares
  constructor
  · intro h
    split at h
    · -- all pieces behind the first colon are cut off but the one next to it
      next k v ps hps =>
      dsimp only at h
      split at h
      · cases h
      · next hne =>
        cases h
        rw [Bool.or_eq_true, not_or, List.isEmpty_iff, List.isEmpty_iff] at hne
        obtain ⟨hk, hv, ht⟩ := splitOnP_colon_iff.mp ⟨ps, hps⟩
        exact ⟨hne.1, k, v, hk, hv, ht, rfl, rfl, hne.2⟩
    · cases h
  · rintro ⟨hkey, k, v, hk, hv, ht, rfl, rfl, hvalue⟩
    obtain ⟨ps, hps⟩ := splitOnP_colon_iff.mpr ⟨hk, hv, ht⟩
    have hne : ¬ ((Text.trim k).isEmpty || (Text.trim v).isEmpty) = true := by
      rw [Bool.or_eq_true, not_or, List.isEmpty_iff, List.isEmpty_iff]
      exact ⟨hkey, hvalue⟩
    rw [hps]
    exact if_neg hne

/-! ### Values -/

/-- **The last declaration counts.** The value of a key (`styleValue?`) is given by the last piece
    of the style that gives it a value. An empty key has none. -/
theorem styleValue?_eq_some_iff {style key value : Text} :
    styleValue? (inlineStyle style) key = some value ↔ key ≠ [] ∧
      ∃ before t after, List.splitOnP (· == ';') style = before ++ t :: after ∧
        Declares t key value ∧ ∀ u ∈ after, ∀ v, ¬ Declares u key v := by
  unfold styleValue? inlineStyle
  rw [Keyed.lookup_reverse_eq_some_iff]
  constructor
  · rintro ⟨before, after, hsplit, hafter⟩
    obtain ⟨ts, us, hpieces, -, hus⟩ := List.filterMap_eq_append_iff.mp hsplit
    obtain ⟨skipped, t, us, rfl, -, ht, hrest⟩ := List.filterMap_eq_cons_iff.mp hus
    obtain ⟨hkey, hdeclares⟩ := declaration?_eq_some_iff.mp ht
    refine ⟨hkey, ts ++ skipped, t, us, by rw [hpieces, List.append_assoc], hdeclares, ?_⟩
    intro u hu v hv
    -- a later value of the key would be in the list
    have hmem : (key, v) ∈ us.filterMap declaration? :=
      List.mem_filterMap.mpr ⟨u, hu, declaration?_eq_some_iff.mpr ⟨hkey, hv⟩⟩
    rw [hrest] at hmem
    exact hafter (key, v) hmem rfl
  · rintro ⟨hkey, before, t, after, hpieces, hdeclares, hafter⟩
    refine ⟨before.filterMap declaration?, after.filterMap declaration?, ?_, ?_⟩
    · rw [hpieces, List.filterMap_append,
        List.filterMap_cons_some (declaration?_eq_some_iff.mpr ⟨hkey, hdeclares⟩)]
    · rintro ⟨k, v⟩ hp rfl
      obtain ⟨u, hu, hdeclared⟩ := List.mem_filterMap.mp hp
      exact hafter u hu v (declaration?_eq_some_iff.mp hdeclared).2

/-- **What is declared is mentioned**: a key with a value (`styleValue?`) occurs in the text of the
    style. -/
theorem contains_of_styleValue? {style key value : Text}
    (h : styleValue? (inlineStyle style) key = some value) : Text.contains key style = true := by
  obtain ⟨-, before, t, after, hpieces, ⟨k, v, -, -, ht, rfl, -, -⟩, -⟩ := styleValue?_eq_some_iff.mp h
  have hmem : t ∈ List.splitOnP (· == ';') style := by
    rw [hpieces]
    exact List.mem_append_right before List.mem_cons_self
  have hkey : k <:+: t := by
    rcases ht with rfl | ⟨rest, rfl⟩
    · exact (List.prefix_append k _).isInfix
    · exact (List.prefix_append k _).isInfix
  rw [Text.contains_iff]
  exact ((Text.trim_infix k).trans hkey).trans (Text.infix_of_mem_splitOnP hmem)

/-- The first look, `mentionsColors`, lets every style with both colours through. -/
theorem mentionsColors_of_styleValue? {style fg bg : Text}
    (hfg : styleValue? (inlineStyle style) "color" = some fg)
    (hbg : styleValue? (inlineStyle style) "background-color" = some bg) :
    mentionsColors style = true := by
  unfold mentionsColors
  rw [contains_of_styleValue? hfg, contains_of_styleValue? hbg]
  rfl

/-! ### The rule -/

/-- What is reported of an element with a style, without a first look at the style. -/
def contrastFinding? (d : Document) (label : Text) (e : ElementAt) (style : Text) : Option Finding :=
  (lowContrast? style).map fun (ratio, fg, bg) => d.report label e .contrast
    ("Low contrast ratio (" ++ Decimal.fixed 2 ratio ++ "): " ++ fg ++ " on " ++ bg)

/-- A style that does not mention both colours has no contrast to speak of: `lowContrast?` finds
    nothing wrong. -/
theorem lowContrast?_of_not_mentionsColors {style : Text} (h : mentionsColors style = false) :
    lowContrast? style = none := by
  unfold lowContrast?
  dsimp only
  cases hfg : styleValue? (inlineStyle style) "color" with
  | none => rfl
  | some fg =>
    cases hbg : styleValue? (inlineStyle style) "background-color" with
    | none => rfl
    | some bg =>
      rw [mentionsColors_of_styleValue? hfg hbg] at h
      cases h

/-- The rule reports the same (`contrastFinding?`) without its first look, which only saves work. -/
theorem contrast_check_eq (d : Document) (label : Text) (c : Config) :
    contrast.check d label c = d.elements.filterMap fun e =>
      (e.elem.attr? "style").bind (contrastFinding? d label e) := by
  dsimp only [contrast]
  refine List.filterMap_congr fun e _ => ?_
  cases e.elem.attr? "style" with
  | none => rfl
  | some style =>
    rw [Option.bind_some]
    unfold contrastFinding?
    cases hmentions : mentionsColors style with
    | true =>
      rw [Option.filter_some_pos hmentions]
      simp only [Option.bind_eq_bind, Option.bind_some]
      cases lowContrast? style with
      | none => rfl
      | some found => rfl
    -- a style without colours has no contrast, so the test before it changes nothing
    | false =>
      rw [Option.filter_some_neg hmentions, lowContrast?_of_not_mentionsColors hmentions]
      rfl

/-- **Styles and their contrast.** The value of a key (`styleValue?`) is given by the last piece of
    the style that gives it a value that is not empty. A style that gives values to both colours
    passes the first look (`mentionsColors`), and the rule reports the same as without it. -/
theorem contrast_inlineStyle :
    (∀ style key value, styleValue? (inlineStyle style) key = some value ↔ key ≠ [] ∧
      ∃ before t after, List.splitOnP (· == ';') style = before ++ t :: after ∧
        Declares t key value ∧ ∀ u ∈ after, ∀ v, ¬ Declares u key v) ∧
      (∀ style fg bg, styleValue? (inlineStyle style) "color" = some fg →
        styleValue? (inlineStyle style) "background-color" = some bg →
          mentionsColors style = true) ∧
      ∀ (d : Document) (label : Text) (c : Config), contrast.check d label c =
        d.elements.filterMap fun e => (e.elem.attr? "style").bind (contrastFinding? d label e) :=
  ⟨fun _ _ _ => styleValue?_eq_some_iff, fun _ _ _ => mentionsColors_of_styleValue?,
    contrast_check_eq⟩

/-- The last colour has a value in spite of a third part, the one behind it has none, and the
    background is cut off at a colon. -/
theorem contrast_inlineStyle_cut :
    styleValue? (inlineStyle "color:red; color : #777:x ;color: ;background-color:url(a:b)") "color" =
        some "#777" ∧
      styleValue? (inlineStyle "color:red; color : #777:x ;color: ;background-color:url(a:b)")
        "background-color" = some "url(a" ∧
      mentionsColors "color:red; color : #777:x ;color: ;background-color:url(a:b)" = true := by
  have hfg : styleValue? (inlineStyle "color:red; color : #777:x ;color: ;background-color:url(a:b)")
      "color" = some ("#777" : Text) := by decide
  have hbg : styleValue? (inlineStyle "color:red; color : #777:x ;color: ;background-color:url(a:b)")
      "background-color" = some ("url(a" : Text) := by decide
  exact ⟨hfg, hbg, contrast_inlineStyle.2.1 _ _ _ hfg hbg⟩

end AccessLint.Rule
