import AccessLint.Proofs.Rule.Reports

namespace AccessLint

/-!
# The kinds of the catalogue

Every rule of the catalogue keeps the contract `ReportsOnly` for the kinds that it declares, and no
two rules declare the same kind. So the kind of a finding tells which rule made it.

* `catalogue_reportsOnly` — the contract, for all fourteen rules;
* `catalogue_disjoint`, `owner_unique` — a kind belongs to one rule of the catalogue;
* `rulePosition` — the place in the catalogue of the rule that owns a kind;
* `wholePages_iff` — the rules for whole pages own the missing landmarks and nothing else.
-/

namespace Rule

variable (d : Document) (c : Config)

/-! ### Texts of images -/

/-- Faults of an `alt` text are of the kinds of the rule on images, in each case of
    `altTextFaults`. -/
theorem altTextFaults_kind_mem (checksTitle : Bool) (alt : Text) (title : Option Text) :
    ∀ p ∈ altTextFaults checksTitle alt title, p.1 ∈ altText.kinds := by
  intro p hp
  unfold altTextFaults at hp
  -- the three faults come one after the other, each if its condition holds
  rcases List.mem_append.mp hp with hp | hp
  · rcases List.mem_append.mp hp with hp | hp
    · obtain ⟨-, hp⟩ := List.mem_ite_nil_right.mp hp
      rw [List.mem_singleton.mp hp]
      show Kind.altEmpty ∈ altText.kinds
      decide
    · obtain ⟨-, hp⟩ := List.mem_ite_nil_right.mp hp
      rw [List.mem_singleton.mp hp]
      show Kind.altTooLong ∈ altText.kinds
      decide
  · obtain ⟨-, hp⟩ := List.mem_ite_nil_right.mp hp
    rw [List.mem_singleton.mp hp]
    show Kind.redundantTitle ∈ altText.kinds
    decide

/-- Faults of an image are of the kinds of the rule on images, with an `alt` text or without. -/
theorem altFaults_kind_mem (checksTitle : Bool) (img : ElementAt) :
    ∀ p ∈ altFaults d checksTitle img, p.1 ∈ altText.kinds := by
  intro p hp
  unfold altFaults at hp
  -- no text, decoration, an image that does something, or a text to be looked at
  split at hp
  · rw [List.mem_singleton.mp hp]
    show Kind.missingAlt ∈ altText.kinds
    decide
  · split at hp
    · rw [List.mem_singleton.mp hp]
      show Kind.altDecorativeIncorrect ∈ altText.kinds
      decide
    · split at hp
      · rw [List.mem_singleton.mp hp]
        show Kind.altFunctionalEmpty ∈ altText.kinds
        decide
      · exact altTextFaults_kind_mem _ _ _ p hp

/-- The rule `altText` reports the faults of the images that it goes through. -/
theorem altText_reportsOnly : ReportsOnly d altText.kinds fun label => altText.check d label c :=
  ReportsOnly.flatMap fun img _ =>
    ReportsOnly.map_report (fun _ => img) (altFaults_kind_mem d _ img)

/-! ### Accessible names and roles -/

/-- The rule on `aria-label` and `aria-labelledby` reports one kind, for blank labels and for
    references that lead nowhere. -/
theorem ariaLabels_reportsOnly :
    ReportsOnly d ariaLabels.kinds fun label => ariaLabels.check d label c :=
  ReportsOnly.flatMap fun e _ =>
    ReportsOnly.map_report (fun _ => e) fun _ _ => List.mem_singleton.mpr rfl

/-- The rule `missingAria` reports one kind, at the elements that need a name and have none. -/
theorem missingAria_reportsOnly :
    ReportsOnly d missingAria.kinds fun label => missingAria.check d label c :=
  ReportsOnly.map_report _ fun _ _ => List.mem_singleton.mpr rfl

/-- The rule `ariaRoles` reports one kind, at the elements with a role that is not in the list. -/
theorem ariaRoles_reportsOnly :
    ReportsOnly d ariaRoles.kinds fun label => ariaRoles.check d label c := by
  dsimp only [ariaRoles]
  simp only [List.filterMap_eq_flatMap_toList]
  refine ReportsOnly.flatMap fun e _ => ?_
  split
  · split
    · exact ReportsOnly.nil
    · exact ReportsOnly.report (List.mem_singleton.mpr rfl) e _
  · exact ReportsOnly.nil

/-- The rule `landmarkRoles` reports at most one finding, on the first line. -/
theorem landmarkRoles_reportsOnly :
    ReportsOnly d landmarkRoles.kinds fun label => landmarkRoles.check d label c := by
  dsimp only [landmarkRoles]
  split
  · exact ReportsOnly.singleton (List.mem_singleton.mpr rfl) (Nat.le_add_right 1 _) _
  · exact ReportsOnly.nil

/-! ### Contrast, labels, links and frames -/

/-- The rule `contrast` reports one kind, where both colours of a style are known. -/
theorem contrast_reportsOnly :
    ReportsOnly d contrast.kinds fun label => contrast.check d label c := by
  dsimp only [contrast]
  simp only [List.filterMap_eq_flatMap_toList]
  refine ReportsOnly.flatMap fun e _ => ?_
  cases (e.elem.attr? "style".toList).filter mentionsColors with
  | none => exact ReportsOnly.nil
  | some style =>
    simp only [Option.bind_eq_bind, Option.bind_some]
    cases lowContrast? style with
    | none => exact ReportsOnly.nil
    | some found => exact ReportsOnly.report (List.mem_singleton.mpr rfl) e _

/-- What `labelFault?` finds wrong with a label is of the kinds of the rule on labels. -/
theorem labelFault_kind_mem (e : ElementAt) (p : Kind × Text) (hp : labelFault? d e = some p) :
    p.1 ∈ labelsWithoutFor.kinds := by
  unfold labelFault? at hp
  split at hp
  · split at hp
    · cases hp
    · rw [← Option.some.inj hp]
      show Kind.labelForMissing ∈ labelsWithoutFor.kinds
      decide
  · split at hp
    · rw [← Option.some.inj hp]
      show Kind.labelMissingFor ∈ labelsWithoutFor.kinds
      decide
    · cases hp

/-- The rule `labelsWithoutFor` reports at most one fault of each label. -/
theorem labelsWithoutFor_reportsOnly :
    ReportsOnly d labelsWithoutFor.kinds fun label => labelsWithoutFor.check d label c :=
  ReportsOnly.filterMap_report (labelFault_kind_mem d)

theorem unlabeledInputs_reportsOnly :
    ReportsOnly d unlabeledInputs.kinds fun label => unlabeledInputs.check d label c :=
  ReportsOnly.map_report _ fun _ _ => List.mem_singleton.mpr rfl

theorem emptyLinks_reportsOnly :
    ReportsOnly d emptyLinks.kinds fun label => emptyLinks.check d label c :=
  ReportsOnly.map_report _ fun _ _ => List.mem_singleton.mpr rfl

theorem iframeTitles_reportsOnly :
    ReportsOnly d iframeTitles.kinds fun label => iframeTitles.check d label c :=
  ReportsOnly.map_report _ fun _ _ => List.mem_singleton.mpr rfl

theorem newTabLinks_reportsOnly :
    ReportsOnly d newTabLinks.kinds fun label => newTabLinks.check d label c :=
  ReportsOnly.map_report _ fun _ _ => List.mem_singleton.mpr rfl

/-! ### Headings -/

theorem multipleH1_reportsOnly :
    ReportsOnly d multipleH1.kinds fun label => multipleH1.check d label c := by
  dsimp only [multipleH1]
  split
  · exact ReportsOnly.nil
  · exact ReportsOnly.map_report _ fun _ _ => List.mem_singleton.mpr rfl

/-- The rule on levels reports the headings that `skippedLevels` gives it, all of them elements of
    the document. -/
theorem headingOrder_reportsOnly :
    ReportsOnly d headingOrder.kinds fun label => headingOrder.check d label c :=
  ReportsOnly.map_report _ fun _ _ => List.mem_singleton.mpr rfl

theorem headingEmpty_reportsOnly :
    ReportsOnly d headingEmpty.kinds fun label => headingEmpty.check d label c :=
  ReportsOnly.map_report _ fun _ _ => List.mem_singleton.mpr rfl

end Rule

/-! ### The whole catalogue -/

/-- **Declared kinds.** Whatever the document, the label and the configuration, a rule of the
    catalogue keeps the contract `ReportsOnly`: it reports only kinds that it declares, on lines of
    the source and under the label. -/
theorem catalogue_reportsOnly (d : Document) (c : Config) {r : Rule} (hr : r ∈ catalogue) :
    ReportsOnly d r.kinds fun label => r.check d label c := by
  simp only [catalogue, List.mem_cons, List.not_mem_nil, or_false] at hr
  rcases hr with rfl | rfl | rfl | rfl | rfl | rfl | rfl | rfl | rfl | rfl | rfl | rfl | rfl | rfl
  · exact Rule.altText_reportsOnly d c
  · exact Rule.ariaLabels_reportsOnly d c
  · exact Rule.missingAria_reportsOnly d c
  · exact Rule.contrast_reportsOnly d c
  · exact Rule.ariaRoles_reportsOnly d c
  · exact Rule.landmarkRoles_reportsOnly d c
  · exact Rule.labelsWithoutFor_reportsOnly d c
  · exact Rule.unlabeledInputs_reportsOnly d c
  · exact Rule.emptyLinks_reportsOnly d c
  · exact Rule.iframeTitles_reportsOnly d c
  · exact Rule.multipleH1_reportsOnly d c
  · exact Rule.headingOrder_reportsOnly d c
  · exact Rule.headingEmpty_reportsOnly d c
  · exact Rule.newTabLinks_reportsOnly d c

/-- No kind is declared by two rules of `catalogue`, so a kind tells the rule. -/
theorem catalogue_disjoint : catalogue.Pairwise fun r s => ∀ k ∈ r.kinds, k ∉ s.kinds := by decide

/-- A kind belongs to one rule of the catalogue, which stands at one place, by
    `catalogue_disjoint`. -/
theorem owner_unique {i j : Nat} {r s : Rule} {k : Kind} (hi : catalogue[i]? = some r)
    (hj : catalogue[j]? = some s) (hr : k ∈ r.kinds) (hs : k ∈ s.kinds) : i = j := by
  obtain ⟨hi', rfl⟩ := List.getElem?_eq_some_iff.mp hi
  obtain ⟨hj', rfl⟩ := List.getElem?_eq_some_iff.mp hj
  have hdisjoint := List.pairwise_iff_getElem.mp catalogue_disjoint
  rcases Nat.lt_trichotomy i j with hlt | heq | hgt
  · exact absurd hs (hdisjoint i j hi' hj' hlt k hr)
  · exact heq
  · exact absurd hr (hdisjoint j i hj' hi' hgt k hs)

/-- The place in the catalogue of the rule that owns a kind. -/
def rulePosition (k : Kind) : Nat := catalogue.findIdx fun r => r.kinds.contains k

/-- The rule that stands at the place of a kind (`rulePosition`) is the one that declares it. -/
theorem rulePosition_eq {i : Nat} {r : Rule} {k : Kind} (hi : catalogue[i]? = some r)
    (hk : k ∈ r.kinds) : rulePosition k = i := by
  obtain ⟨hlt, rfl⟩ := List.getElem?_eq_some_iff.mp hi
  have hfound : rulePosition k < catalogue.length :=
    List.findIdx_lt_length_of_exists ⟨_, List.getElem_mem hlt, List.contains_iff_mem.mpr hk⟩
  -- the rule that is found first declares the kind, and only one rule does
  have hown : k ∈ (catalogue[rulePosition k]).kinds :=
    List.contains_iff_mem.mp (List.findIdx_getElem (w := hfound))
  exact owner_unique (List.getElem?_eq_getElem hfound) hi hown hk

/-- The only kind that is reported for whole pages alone is the missing landmark: of all rules only
    that one has the scope `wholePages`. -/
theorem wholePages_iff {r : Rule} (hr : r ∈ catalogue) {k : Kind} (hk : k ∈ r.kinds) :
    r.scope = .wholePages ↔ k = .missingLandmark := by
  have hall : ∀ r ∈ catalogue, ∀ k ∈ r.kinds, (r.scope = .wholePages ↔ k = .missingLandmark) := by
    decide
  exact hall r hr k hk

end AccessLint
