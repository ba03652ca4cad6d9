import AccessLint.Proofs.Lint.Filter

namespace AccessLint

/-!
# The findings of a run

Whatever the text, the label, the configuration and the mode, the findings of a run are well formed
and stand in the order of the catalogue.

* `mem_lint` — a finding comes from one of the rules that run;
* `lint_filter_kinds` — the findings of one rule in a run;
* `lint_relabel` — another label gives the same findings under that label;
* `lint_pairwise` — the places of the rules in the catalogue never decrease;
* `lint_wellFormed` — all that together.
-/

variable (text label : Text) (c : Config) (mode : LintMode)

/-- A finding of `lint` comes from a rule of the catalogue that the mode allows and that is on, in
    the document of the text. -/
theorem mem_lint {f : Finding} (hf : f ∈ lint text label c mode) :
    ∃ r ∈ catalogue, mode.allows r.scope = true ∧ r.isEnabled c = true ∧
      f ∈ r.check (Document.parse text) label c := by
  obtain ⟨r, hr, hf⟩ := List.mem_flatMap.mp hf
  obtain ⟨hr, hruns⟩ := List.mem_filter.mp hr
  obtain ⟨hallowed, hon⟩ := Bool.and_eq_true_iff.mp hruns
  exact ⟨r, hr, hallowed, hon, hf⟩

/-- Of the findings of a run, those of the kinds of a rule are what the rule finds alone, if it runs
    at all. By `catalogue_disjoint` no other rule reports these kinds. -/
theorem lint_filter_kinds {r : Rule} (hr : r ∈ catalogue) :
    (lint text label c mode).filter (fun f => r.kinds.contains f.kind) =
      if mode.allows r.scope && r.isEnabled c then r.check (Document.parse text) label c
      else [] := by
  have hkinds : ∀ s ∈ catalogue, ∀ f ∈ (if mode.allows s.scope && s.isEnabled c then
      s.check (Document.parse text) label c else []), f.kind ∈ s.kinds := by
    intro s hs f hf
    split at hf
    · exact (catalogue_reportsOnly _ c hs).kind_mem label f hf
    · simp at hf
  -- a rule that shares no kind with this one leaves nothing
  have hother : ∀ s ∈ catalogue, (∀ k ∈ r.kinds, k ∉ s.kinds) →
      (if mode.allows s.scope && s.isEnabled c then s.check (Document.parse text) label c
        else []).filter (fun f => r.kinds.contains f.kind) = [] := by
    intro s hs hdisjoint
    rw [List.filter_eq_nil_iff]
    intro f hf hmem
    exact hdisjoint f.kind (List.contains_iff_mem.mp hmem) (hkinds s hs f hf)
  -- and so do all rules before and after it
  obtain ⟨before, after, hsplit⟩ := List.append_of_mem hr
  have hdisjoint := catalogue_disjoint
  rw [hsplit, List.pairwise_append, List.pairwise_cons] at hdisjoint
  obtain ⟨-, ⟨hafter, -⟩, hbefore⟩ := hdisjoint
  rw [hsplit] at hother
  rw [lint_eq_flatMap, hsplit, List.flatMap_append, List.flatMap_cons, List.filter_append,
    List.filter_append, List.filter_flatMap, List.filter_flatMap,
    List.flatMap_eq_nil_iff.mpr, List.flatMap_eq_nil_iff.mpr, List.nil_append, List.append_nil,
    List.filter_eq_self]
  · intro f hf
    exact List.contains_iff_mem.mpr (hkinds r hr f hf)
  · intro s hs
    exact hother s (by simp [hs]) (hafter s hs)
  · intro s hs
    refine hother s (by simp [hs]) fun k hk hks => ?_
    exact hbefore s hs r List.mem_cons_self k hks hk

/-- The same for a rule of one kind, as most rules are. -/
theorem lint_filter_kind {r : Rule} (hr : r ∈ catalogue) {k : Kind} (hkinds : r.kinds = [k]) :
    (lint text label c mode).filter (fun f => f.kind == k) =
      if mode.allows r.scope && r.isEnabled c then r.check (Document.parse text) label c
      else [] := by
  rw [← lint_filter_kinds text label c mode hr]
  refine List.filter_congr fun f _ => ?_
  rw [hkinds, List.contains_cons, List.contains_nil, Bool.or_false]

/-- A rule that is not for whole pages alone runs by default, in both modes. -/
theorem lint_default_filter_kind {r : Rule} (hr : r ∈ catalogue) {k : Kind} (hkinds : r.kinds = [k])
    (hscope : r.scope = .everywhere) :
    (lint text label .default mode).filter (fun f => f.kind == k) =
      r.check (Document.parse text) label .default := by
  have hruns : (mode.allows r.scope && r.isEnabled .default) = true := by
    rw [hscope]
    cases mode <;> rfl
  rw [lint_filter_kind text label .default mode hr hkinds, hruns, if_pos rfl]

/-- Another label gives the same findings under that label, as the contract of every rule says
    (`ReportsOnly`). -/
theorem lint_relabel (label' : Text) :
    lint text label' c mode = (lint text label c mode).map (Finding.relabel label') := by
  rw [lint_eq_flatMap, lint_eq_flatMap, List.map_flatMap]
  refine List.flatMap_congr fun r hr => ?_
  split
  · exact (catalogue_reportsOnly _ c hr).relabel label label'
  · rfl

/-- The findings of the rule at a place of the catalogue are of kinds with that place
    (`rulePosition`). -/
theorem rulePosition_check {r : Rule} {i : Nat} (hi : catalogue[i]? = some r) (d : Document) :
    ∀ f ∈ r.check d label c, rulePosition f.kind = i := by
  intro f hf
  have hr : r ∈ catalogue := List.mem_of_getElem? hi
  exact rulePosition_eq hi ((catalogue_reportsOnly d c hr).kind_mem label f hf)

/-- **Catalogue order.** The places of the rules that made the findings never decrease, since `lint`
    goes through the catalogue once. -/
theorem lint_pairwise :
    (lint text label c mode).Pairwise fun f g => rulePosition f.kind ≤ rulePosition g.kind := by
  rw [lint_eq_flatMap, List.pairwise_flatMap]
  -- the findings of the rule at place `i`, if it runs at all, are all at place `i`
  have hplace : ∀ i r, catalogue[i]? = some r →
      ∀ f ∈ (if mode.allows r.scope && r.isEnabled c then r.check (Document.parse text) label c
        else []), rulePosition f.kind = i := by
    intro i r hi f hf
    split at hf
    · exact rulePosition_check label c hi _ f hf
    · exact absurd hf List.not_mem_nil
  constructor
  · intro r hr
    obtain ⟨i, hi⟩ := List.mem_iff_getElem?.mp hr
    refine List.pairwise_of_forall_mem_list fun f hf g hg => ?_
    have hsame := (hplace i r hi f hf).trans (hplace i r hi g hg).symm
    exact Nat.le_of_eq hsame
  · rw [List.pairwise_iff_getElem]
    intro i j hi hj hij f hf g hg
    rw [hplace i _ (List.getElem?_eq_getElem hi) f hf, hplace j _ (List.getElem?_eq_getElem hj) g hg]
    exact Nat.le_of_lt hij

/-- **Well-formed findings.** Every finding of `lint` names the document by its label and lies on
    one of its lines; its kind is declared by the rule at the place of the kind (`rulePosition`),
    which the mode allows and the configuration leaves on; the places never decrease; and the label
    goes nowhere but into the file fields. -/
theorem lint_wellFormed :
    (∀ f ∈ lint text label c mode,
        f.file = label ∧ 1 ≤ f.line ∧ f.line ≤ 1 + text.count '\n' ∧
        ∃ r, catalogue[rulePosition f.kind]? = some r ∧ f.kind ∈ r.kinds ∧
          r.isEnabled c = true ∧ mode.allows r.scope = true) ∧
      (lint text label c mode).Pairwise (fun f g => rulePosition f.kind ≤ rulePosition g.kind) ∧
      ∀ label', lint text label' c mode =
        (lint text label c mode).map fun f => { f with file := label' } := by
  refine ⟨fun f hf => ?_, lint_pairwise text label c mode, lint_relabel text label c mode⟩
  obtain ⟨r, hr, hallowed, hon, hf⟩ := mem_lint text label c mode hf
  have hrule := catalogue_reportsOnly (Document.parse text) c hr
  obtain ⟨i, hi⟩ := List.mem_iff_getElem?.mp hr
  have hplace : rulePosition f.kind = i := rulePosition_check label c hi _ f hf
  exact ⟨hrule.file_eq label f hf, hrule.one_le_line label f hf, hrule.line_le label f hf,
    r, hplace ▸ hi, hrule.kind_mem label f hf, hon, hallowed⟩

/-- The second finding of a page with one image, which is about its landmarks: a rule of the
    catalogue owns it. -/
theorem lint_wellFormed_image :
    ⟨"p", 1, .missingLandmark, "No landmark elements (main, nav, header, footer, aside) found"⟩ ∈
        lint "\n<img>" "p" .default .single ∧
      ∃ r, catalogue[rulePosition .missingLandmark]? = some r ∧ Kind.missingLandmark ∈ r.kinds ∧
        r.isEnabled .default = true ∧ LintMode.single.allows r.scope = true :=
  have hmem : ⟨"p", 1, .missingLandmark,
      "No landmark elements (main, nav, header, footer, aside) found"⟩ ∈
        lint "\n<img>" "p" .default .single := by decide +kernel
  ⟨hmem, ((lint_wellFormed "\n<img>" "p" .default .single).1 _ hmem).2.2.2⟩

end AccessLint
