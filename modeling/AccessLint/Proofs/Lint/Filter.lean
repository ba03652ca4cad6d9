import AccessLint.Proofs.Rule.Kinds

namespace AccessLint

/-!
# A configuration filters findings

A configuration and a mode decide which findings of a page are reported, and nothing else: they
neither add findings nor change or reorder them.

* `letsThrough c mode k` — whether findings of kind `k` are reported;
* `lintKeys` — the keys that a configuration is asked for;
* `altText_check_eq_filter` — the one rule that reads the configuration drops its redundant titles
  and keeps the rest, although it looks at the first image of a line only;
* `check_eq_filter` — what is left of the findings of one rule;
* `lint_eq_filter` — what is left of all findings, and that other keys do not matter.
-/

/-- Whether findings of a kind are reported: the rule that owns the kind must be on under its name
    and under its configuration key; a missing landmark is reported for whole pages only, and a
    redundant title only if its own key is on. -/
def letsThrough (c : Config) (mode : LintMode) (k : Kind) : Bool :=
  (catalogue.any fun r => r.kinds.contains k && (c.isEnabled r.name && c.isEnabled r.configKey)) &&
    !(mode == .batch && k == .missingLandmark) &&
    !(!c.isEnabled Rule.redundantTitleKey && k == .redundantTitle)

/-- The keys that a run asks its configuration for. -/
def lintKeys : List Text :=
  Rule.redundantTitleKey :: catalogue.flatMap fun r => [r.name, r.configKey]

/-- The part of `letsThrough` that is about redundant titles alone. -/
def keepsTitles (checksTitle : Bool) (k : Kind) : Bool := !(!checksTitle && k == .redundantTitle)

/-! ### The rule on images -/

namespace Rule

/-- Without the comparison of titles, the faults of a text are the same up to redundant titles,
    which are the last of `altTextFaults`. -/
theorem altTextFaults_eq_filter (checksTitle : Bool) (alt : Text) (title : Option Text) :
    altTextFaults checksTitle alt title =
      (altTextFaults true alt title).filter fun p => keepsTitles checksTitle p.1 := by
  cases checksTitle with
  | true => exact (List.filter_eq_self.mpr fun _ _ => rfl).symm
  | false =>
    -- of the three faults only the last one is about titles
    dsimp only [altTextFaults]
    rw [List.filter_append, List.filter_append]
    congr 1
    · congr 1
      · split <;> rfl
      · split <;> rfl
    · rw [Bool.false_and, if_neg Bool.false_ne_true]
      split <;> rfl

/-- The same for the faults of an image: the other faults of `altFaults` do not look at the
    title. -/
theorem altFaults_eq_filter (d : Document) (checksTitle : Bool) (img : ElementAt) :
    altFaults d checksTitle img =
      (altFaults d true img).filter fun p => keepsTitles checksTitle p.1 := by
  unfold altFaults
  have hkept (k : Kind) (message : Text) (hk : k ≠ .redundantTitle) :
      [(k, message)].filter (fun p : Kind × Text => keepsTitles checksTitle p.1)
        = [(k, message)] := by
    refine List.filter_eq_self.mpr fun p hp => ?_
    rw [List.mem_singleton.mp hp]
    show (!(!checksTitle && decide (k = .redundantTitle))) = true
    rw [decide_eq_false hk, Bool.and_false, Bool.not_false]
  split
  · exact (hkept _ _ (by decide)).symm
  · split
    · exact (hkept _ _ (by decide)).symm
    · split
      · exact (hkept _ _ (by decide)).symm
      · exact altTextFaults_eq_filter _ _ _

/-- **The images of a page.** Turning the comparison of titles off drops the redundant titles
    (`keepsTitles`). The images that are looked at stay the same, since the choice of the first
    image of a line does not depend on what is wrong with it. -/
theorem altText_check_eq_filter (d : Document) (label : Text) (c : Config) :
    altText.check d label c = (altText.check d label .default).filter fun f =>
      keepsTitles (c.isEnabled redundantTitleKey) f.kind := by
  have hdefault : Config.default.isEnabled redundantTitleKey = true := rfl
  dsimp only [altText]
  rw [List.filter_flatMap]
  refine List.flatMap_congr fun img _ => ?_
  rw [altFaults_eq_filter, hdefault, List.filter_map]
  rfl

end Rule

/-- No rule but the first, that on images, reads the configuration in its `check`; whether a rule
    runs at all is decided before. -/
theorem check_ignores_config {r : Rule} (hr : r ∈ catalogue.tail) (d : Document) (label : Text)
    (c c' : Config) : r.check d label c = r.check d label c' := by
  simp only [catalogue, List.tail_cons, List.mem_cons, List.not_mem_nil, or_false] at hr
  rcases hr with rfl | rfl | rfl | rfl | rfl | rfl | rfl | rfl | rfl | rfl | rfl | rfl | rfl <;> rfl

/-- What a configuration changes in the findings of one rule: redundant titles may be dropped, and
    nothing else. -/
theorem check_eq_filter_keepsTitles {r : Rule} (hr : r ∈ catalogue) (d : Document) (label : Text)
    (c : Config) :
    r.check d label c = (r.check d label .default).filter fun f =>
      keepsTitles (c.isEnabled Rule.redundantTitleKey) f.kind := by
  -- the first rule reads the configuration; the others report no redundant titles
  rcases List.mem_cons.mp hr with rfl | hr'
  · exact Rule.altText_check_eq_filter d label c
  · rw [check_ignores_config hr' d label c .default]
    refine (List.filter_eq_self.mpr fun f hf => ?_).symm
    have hnone : ∀ r ∈ catalogue.tail, Kind.redundantTitle ∉ r.kinds := by decide
    have hkind := (catalogue_reportsOnly d .default hr).kind_mem label f hf
    have hne : f.kind ≠ .redundantTitle := fun h => hnone r hr' (h ▸ hkind)
    rw [keepsTitles, beq_eq_false_iff_ne.mpr hne, Bool.and_false, Bool.not_false]

/-! ### Which kinds are let through -/

/-- Some rule that declares the kind is on exactly if the given one is, since there is no other
    (`owner_unique`). -/
theorem any_owner_eq {r : Rule} (hr : r ∈ catalogue) {k : Kind} (hk : k ∈ r.kinds)
    (on : Rule → Bool) : (catalogue.any fun s => s.kinds.contains k && on s) = on r := by
  rw [Bool.eq_iff_iff, List.any_eq_true]
  constructor
  · rintro ⟨s, hs, hon⟩
    obtain ⟨hsk, hon⟩ := Bool.and_eq_true_iff.mp hon
    obtain ⟨i, hi⟩ := List.mem_iff_getElem?.mp hr
    obtain ⟨j, hj⟩ := List.mem_iff_getElem?.mp hs
    have hij : i = j := owner_unique hi hj hk (List.contains_iff_mem.mp hsk)
    rw [hij, hj] at hi
    rwa [← Option.some.inj hi]
  · intro hon
    exact ⟨r, hr, Bool.and_eq_true_iff.mpr ⟨List.contains_iff_mem.mpr hk, hon⟩⟩

/-- Whether a mode allows a rule, told by the kinds of its findings: only the missing landmark is
    for whole pages alone. -/
theorem allows_eq {r : Rule} (hr : r ∈ catalogue) {k : Kind} (hk : k ∈ r.kinds) (mode : LintMode) :
    mode.allows r.scope = !(mode == .batch && k == .missingLandmark) := by
  have hscope := wholePages_iff hr hk
  cases mode with
  | single => cases r.scope <;> rfl
  | batch =>
    -- the kind tells whether its rule is one for whole pages
    by_cases hkind : k = .missingLandmark
    · rw [hscope.mpr hkind, hkind]; rfl
    · have hne : r.scope ≠ .wholePages := fun h => hkind (hscope.mp h)
      rw [beq_eq_false_iff_ne.mpr hkind, Bool.and_false, Bool.not_false]
      cases hs : r.scope with
      | everywhere => rfl
      | wholePages => exact absurd hs hne

/-- For the kinds of a rule, `letsThrough` asks whether the rule runs, and whether titles are
    compared. -/
theorem letsThrough_eq {r : Rule} (hr : r ∈ catalogue) {k : Kind} (hk : k ∈ r.kinds) (c : Config)
    (mode : LintMode) :
    letsThrough c mode k =
      (mode.allows r.scope && r.isEnabled c && keepsTitles (c.isEnabled Rule.redundantTitleKey) k) := by
  unfold letsThrough
  rw [any_owner_eq hr hk fun s => c.isEnabled s.name && c.isEnabled s.configKey, allows_eq hr hk]
  have hboth : (c.isEnabled r.name && c.isEnabled r.configKey) = r.isEnabled c := Bool.and_comm _ _
  rw [hboth, Bool.and_comm (r.isEnabled c)]
  rfl

/-- What a configuration and a mode leave of the findings of one rule (`letsThrough`): all of them
    or none, but for the redundant titles. -/
theorem check_eq_filter {r : Rule} (hr : r ∈ catalogue) (d : Document) (label : Text) (c : Config)
    (mode : LintMode) :
    (if mode.allows r.scope && r.isEnabled c then r.check d label c else []) =
      (r.check d label .default).filter fun f => letsThrough c mode f.kind := by
  -- the findings of a rule are of its own kinds, where `letsThrough` asks for that rule
  have hkinds := (catalogue_reportsOnly d .default hr).kind_mem label
  rw [List.filter_congr fun f hf => letsThrough_eq hr (hkinds f hf) c mode]
  cases hruns : mode.allows r.scope && r.isEnabled c with
  | true =>
    rw [if_pos rfl, check_eq_filter_keepsTitles hr d label c]
    simp only [Bool.true_and]
  | false =>
    simp only [Bool.false_and, Bool.false_eq_true, if_false]
    exact (List.filter_eq_nil_iff.mpr fun _ _ => Bool.false_ne_true).symm

/-- `letsThrough` asks a configuration for the keys of `lintKeys` only, so other keys have no
    influence. -/
theorem letsThrough_congr {c c' : Config}
    (h : ∀ key ∈ lintKeys, c'.isEnabled key = c.isEnabled key) (mode : LintMode) (k : Kind) :
    letsThrough c' mode k = letsThrough c mode k := by
  have hrule : ∀ r ∈ catalogue,
      (r.kinds.contains k && (c'.isEnabled r.name && c'.isEnabled r.configKey)) =
        (r.kinds.contains k && (c.isEnabled r.name && c.isEnabled r.configKey)) := by
    intro r hr
    have hmem : ∀ key ∈ [r.name, r.configKey], key ∈ lintKeys := fun key hkey =>
      List.mem_cons_of_mem _ (List.mem_flatMap.mpr ⟨r, hr, hkey⟩)
    rw [h _ (hmem _ List.mem_cons_self),
      h _ (hmem _ (List.mem_cons_of_mem _ List.mem_cons_self))]
  unfold letsThrough
  rw [h _ List.mem_cons_self]
  congr 2
  rw [Bool.eq_iff_iff, List.any_eq_true, List.any_eq_true]
  exact exists_congr fun r => and_congr_right fun hr => by rw [hrule r hr]

/-! ### All findings -/

/-- The findings of a run, rule by rule in the order of `catalogue`: a rule runs if the mode allows
    it and the configuration has it on. -/
theorem lint_eq_flatMap (text label : Text) (c : Config) (mode : LintMode) :
    lint text label c mode = catalogue.flatMap fun r =>
      if mode.allows r.scope && r.isEnabled c then r.check (Document.parse text) label c else [] := by
  unfold lint evaluate
  induction catalogue with
  | nil => rfl
  | cons r rs ih =>
    rw [List.filter_cons, List.flatMap_cons, ← ih]
    split <;> rfl

/-- Everything is let through by default and on a whole page, so every rule runs. -/
theorem lint_default (text label : Text) :
    lint text label .default .single =
      catalogue.flatMap fun r => r.check (Document.parse text) label .default := by
  rw [lint_eq_flatMap]
  refine List.flatMap_congr fun r _ => ?_
  have hon : (LintMode.single.allows r.scope && r.isEnabled .default) = true := by
    cases r.scope <;> rfl
  rw [hon, if_pos rfl]

/-- **A configuration filters.** The findings under a configuration and in a mode are those of the
    default run that `letsThrough` keeps, in the same order and as often; and two configurations
    that agree on the keys of `lintKeys` give the same findings. -/
theorem lint_eq_filter (text label : Text) (c : Config) (mode : LintMode) :
    lint text label c mode =
        (lint text label .default .single).filter (fun f => letsThrough c mode f.kind) ∧
      ∀ c' : Config, (∀ key ∈ lintKeys, c'.isEnabled key = c.isEnabled key) →
        lint text label c' mode = lint text label c mode := by
  have hfilter (c : Config) : lint text label c mode =
      (lint text label .default .single).filter fun f => letsThrough c mode f.kind := by
    rw [lint_eq_flatMap, lint_default, List.filter_flatMap]
    exact List.flatMap_congr fun r hr => check_eq_filter hr _ label c mode
  refine ⟨hfilter c, fun c' hagree => ?_⟩
  rw [hfilter c', hfilter c]
  simp only [letsThrough_congr hagree]

/-- Turning off a key that no rule knows changes nothing, here on a page with one image, whose
    findings stay. -/
theorem lint_unknown_key :
    (∀ key ∈ lintKeys, (Config.default.set "spelling".toList false).isEnabled key =
        Config.default.isEnabled key) ∧
      lint "<img>" "p" (Config.default.set "spelling".toList false) .single =
        lint "<img>" "p" .default .single :=
  have hagree : ∀ key ∈ lintKeys, (Config.default.set "spelling".toList false).isEnabled key =
      Config.default.isEnabled key := by decide
  ⟨hagree, (lint_eq_filter "<img>" "p" .default .single).2 _ hagree⟩

end AccessLint
