import AccessLint.Proofs.Document.Select
import AccessLint.Proofs.Lint.Order

namespace AccessLint

/-!
# Accessible names

Two rules care for the names of controls and sections: `ariaLabels` for what is wrong with the
attributes that name an element, `missingAria` for elements without such attributes and without
text. What is missing to the one is an empty attribute, what is wrong to the other a blank label.

* `Rule.labelFindings`, `Rule.nameFindings` — what the two rules find at one element;
* `lint_ariaInvalid`, `lint_missingAria` — a run has what they find at one element after the other;
* `Html.Element.HasBlankReference` — the elements that fall between the two;
* `lint_nameless` — of the controls without a name, all others are reported;
* `lint_blankReference` — a page with such a control and without a finding.
-/

open Html (Element)

/-! ### Lists -/

/-- A text has no `words` exactly if it consists of separators, as a blank reference does. -/
theorem Text.words_eq_nil_iff {isSep : Char → Bool} {t : Text} :
    words isSep t = [] ↔ t.all isSep = true := by
  unfold words
  rw [List.filter_eq_nil_iff]
  induction t with
  | nil => simp
  | cons c cs ih =>
    simp only [Bool.not_eq_true', Bool.not_eq_false, List.isEmpty_iff] at ih
    rw [List.splitOnP_cons_eq_if_modifyHead]
    by_cases hc : isSep c
    · simp only [hc, if_true, List.mem_cons, forall_eq_or_imp, List.all_cons, Bool.true_and]
      simp [ih]
    · -- the character is in the first piece
      obtain ⟨p, ps, hps⟩ := List.exists_cons_of_ne_nil (List.splitOnP_ne_nil isSep cs)
      simp [hc, hps]

/-- Members of which nothing comes can be left in a list. -/
theorem flatMap_filter_eq {α β : Type} {l : List α} {p : α → Bool} {f : α → List β}
    (h : ∀ x ∈ l, p x = false → f x = []) : (l.filter p).flatMap f = l.flatMap f := by
  induction l with
  | nil => rfl
  | cons x l ih =>
    have ih := ih fun y hy => h y (List.mem_cons_of_mem x hy)
    cases hx : p x with
    | true => simp [hx, ih]
    | false => simp [hx, ih, h x List.mem_cons_self hx]

/-- What is made of the members that satisfy a condition is made of each member in turn. -/
theorem map_filter_eq_flatMap {α β : Type} (l : List α) (p : α → Bool) (f : α → β) :
    (l.filter p).map f = l.flatMap fun x => if p x then [f x] else [] := by
  induction l with
  | nil => rfl
  | cons x l ih => cases hx : p x <;> simp [hx, ih]

/-- What `Document.select` gives is among all elements, in the same order, so rules with different
    selections can be compared element by element. -/
theorem Document.select_eq_filter (d : Document) (p : Element → Bool) :
    d.select p = (d.select fun _ => true).filter fun e => p e.elem := by
  unfold select
  rw [List.filter_filter]
  simp

/-! ### Attributes that are not empty -/

theorem Html.Element.nonEmptyAttr?_of_none {e : Element} {name : Text} (h : e.attr? name = none) :
    e.nonEmptyAttr? name = none := by
  unfold nonEmptyAttr?
  rw [h]
  rfl

theorem Html.Element.nonEmptyAttr?_of_some {e : Element} {name v : Text}
    (h : e.attr? name = some v) : e.nonEmptyAttr? name = if v = [] then none else some v := by
  unfold nonEmptyAttr?
  rw [h]
  cases v <;> simp

/-! ### Findings at one element -/

namespace Rule

/-- What `ariaLabels` finds at an element. -/
def labelFindings (d : Document) (label : Text) (e : ElementAt) : List Finding :=
  (labelFaults d e).map (d.report label e .ariaInvalid)

/-- What `missingAria` finds at an element. -/
def nameFindings (d : Document) (label : Text) (e : ElementAt) : List Finding :=
  if needsName e.elem && isNameless d e then
    [d.report label e .missingAria
      ("<" ++ e.elem.name ++ "> element should have an aria-label or visible text")]
  else []

variable (d : Document) (label : Text) (c : Config) {e : ElementAt}

/-- Without both attributes nothing is wrong with the labels of an element, so `ariaLabels` may as
    well look at it. -/
theorem labelFaults_of_none (hlabel : e.elem.attr? "aria-label" = none)
    (hreference : e.elem.attr? "aria-labelledby" = none) : labelFaults d e = [] := by
  unfold labelFaults
  rw [hlabel, Element.nonEmptyAttr?_of_none hreference]
  rfl

/-- `ariaLabels` goes from element to element: those without either attribute have no faults. -/
theorem ariaLabels_check_eq :
    ariaLabels.check d label c = (d.select fun _ => true).flatMap (labelFindings d label) := by
  dsimp only [ariaLabels]
  rw [Document.select_eq_filter]
  refine flatMap_filter_eq fun e _ hnone => ?_
  rw [Bool.or_eq_false_iff, Option.isSome_eq_false_iff, Option.isSome_eq_false_iff,
    Option.isNone_iff_eq_none, Option.isNone_iff_eq_none] at hnone
  have hfaults := labelFaults_of_none d hnone.1 hnone.2
  simp only [hfaults, List.map_nil]

/-- `missingAria` goes from element to element: those that need no name have no findings. -/
theorem missingAria_check_eq :
    missingAria.check d label c = (d.select fun _ => true).flatMap (nameFindings d label) := by
  dsimp only [missingAria]
  rw [Document.select_eq_filter, List.filter_filter, map_filter_eq_flatMap]
  refine List.flatMap_congr fun e _ => ?_
  unfold nameFindings
  rw [Bool.and_comm]

end Rule

/-- The findings of a run about labels are those at one element after the other, since only
    `ariaLabels` reports the kind. -/
theorem lint_ariaInvalid (text label : Text) (mode : LintMode) :
    (lint text label .default mode).filter (fun f => f.kind == .ariaInvalid) =
      ((Document.parse text).select fun _ => true).flatMap
        (Rule.labelFindings (Document.parse text) label) := by
  have hmem : Rule.ariaLabels ∈ catalogue := List.mem_of_getElem? (i := 1) rfl
  rw [lint_default_filter_kind text label mode hmem rfl rfl, Rule.ariaLabels_check_eq]

/-- The findings of a run about missing names are those at one element after the other, since only
    `missingAria` reports the kind. -/
theorem lint_missingAria (text label : Text) (mode : LintMode) :
    (lint text label .default mode).filter (fun f => f.kind == .missingAria) =
      ((Document.parse text).select fun _ => true).flatMap
        (Rule.nameFindings (Document.parse text) label) := by
  have hmem : Rule.missingAria ∈ catalogue := List.mem_of_getElem? (i := 2) rfl
  rw [lint_default_filter_kind text label mode hmem rfl rfl, Rule.missingAria_check_eq]

/-! ### Controls without a name -/

/-- An element without a label whose reference to a label is not empty, but has no words. -/
def Html.Element.HasBlankReference (e : Element) : Prop :=
  e.attr? "aria-label" = none ∧
    ∃ v, e.attr? "aria-labelledby" = some v ∧ v ≠ [] ∧ Text.isBlank v = true

namespace Rule

variable {d : Document} {e : ElementAt}

/-- A blank label is a fault, whatever else is wrong with the element. -/
theorem labelFaults_ne_nil_of_blank {v : Text} (hlabel : e.elem.attr? "aria-label" = some v)
    (hblank : Text.isBlank v = true) : labelFaults d e ≠ [] := by
  unfold labelFaults
  rw [hlabel]
  simp only [hblank, if_true]
  exact List.append_ne_nil_of_left_ne_nil (List.cons_ne_nil _ _) _

/-- Without a label, a reference is at fault if one of its words is no identifier
    (`Document.hasId`). A reference without words is not at fault. -/
theorem labelFaults_eq_nil_iff {v : Text} (hlabel : e.elem.attr? "aria-label" = none)
    (hreference : e.elem.nonEmptyAttr? "aria-labelledby" = some v) :
    labelFaults d e = [] ↔ ∀ id ∈ Text.words Text.isBlankChar v, d.hasId id = true := by
  have hany : ((Text.words Text.isBlankChar v).any fun id => !d.hasId id) = false ↔
      ∀ id ∈ Text.words Text.isBlankChar v, d.hasId id = true := by
    simp
  unfold labelFaults
  rw [hlabel, hreference, ← hany]
  dsimp only
  rw [List.nil_append]
  split
  · next hdangling => simp [hdangling]
  · next hnone => simp [hnone]

/-- A reference whose words are all dangling has no fault only if it has no words, that is if it is
    blank. -/
theorem forall_hasId_iff {v : Text}
    (hids : ∀ id ∈ Text.words Text.isBlankChar v, d.hasId id = false) :
    (∀ id ∈ Text.words Text.isBlankChar v, d.hasId id = true) ↔ Text.isBlank v = true := by
  rw [Text.isBlank, ← Text.words_eq_nil_iff, List.eq_nil_iff_forall_not_mem]
  refine forall_congr' fun id => ?_
  constructor
  · intro h hid
    have hfalse := hids id hid
    rw [h hid] at hfalse
    cases hfalse
  · intro h hid
    exact absurd hid h

/-- **The two rules at a control without a name.** They find something unless the control has no
    label and a reference that is not empty, but blank: that one counts as a name for `missingAria`,
    and has no words for `ariaLabels`. -/
theorem noFindings_iff (label : Text) (hneeds : needsName e.elem = true)
    (htext : d.hasBlankText e = true)
    (hlabel : ∀ v ∈ e.elem.attr? "aria-label", Text.isBlank v = true)
    (hids : ∀ v ∈ e.elem.attr? "aria-labelledby",
      ∀ id ∈ Text.words Text.isBlankChar v, d.hasId id = false) :
    labelFindings d label e ++ nameFindings d label e = [] ↔ e.elem.HasBlankReference := by
  have hname : nameFindings d label e = [] ↔ isNameless d e = false := by
    unfold nameFindings
    rw [hneeds, Bool.true_and]
    split
    · next h => simp [h]
    · next h => simp [h]
  have hlabels : labelFindings d label e = [] ↔ labelFaults d e = [] := List.map_eq_nil_iff
  rw [List.append_eq_nil_iff, hname, hlabels]
  unfold isNameless Element.HasBlankReference
  rw [htext, Bool.and_true]
  cases ha : e.elem.attr? "aria-label" with
  | some v =>
    -- a label that is given is blank, so it is reported
    have hfault := labelFaults_ne_nil_of_blank (d := d) ha (hlabel v ha)
    constructor
    · intro h
      exact absurd h.1 hfault
    · intro h
      cases h.1
  | none =>
    rw [Element.nonEmptyAttr?_of_none ha, Option.isNone_none, Bool.true_and]
    cases hr : e.elem.attr? "aria-labelledby" with
    | none =>
      -- without any attribute the name is missing
      rw [Element.nonEmptyAttr?_of_none hr]
      simp
    | some v =>
      have hvalue := Element.nonEmptyAttr?_of_some hr
      by_cases hv : v = []
      · -- so it is with an empty reference
        rw [hvalue, if_pos hv]
        simp [hv]
      · -- a reference counts as a name, and all its words are dangling
        rw [if_neg hv] at hvalue
        rw [labelFaults_eq_nil_iff ha hvalue, hvalue]
        simp [forall_hasId_iff (hids v hr), hv]

end Rule

/-- **Nameless controls are reported.** Let a control or section (`Rule.needsName`) have no text but
    blanks, no label or a blank one, and no reference that has the identifier of an element. The
    findings of a run that are about labels and missing names are those at one element after the
    other; and at this element there are some, unless it has no label and a reference that is not
    empty, but blank. -/
theorem lint_nameless (text label : Text) (mode : LintMode) {e : ElementAt}
    (he : e ∈ (Document.parse text).select Rule.needsName)
    (htext : (Document.parse text).hasBlankText e = true)
    (hlabel : ∀ v ∈ e.elem.attr? "aria-label", Text.isBlank v = true)
    (hids : ∀ v ∈ e.elem.attr? "aria-labelledby",
      ∀ id ∈ Text.words Text.isBlankChar v, (Document.parse text).hasId id = false) :
    ((lint text label .default mode).filter (fun f => f.kind == .ariaInvalid) =
        ((Document.parse text).select fun _ => true).flatMap
          (Rule.labelFindings (Document.parse text) label)) ∧
      ((lint text label .default mode).filter (fun f => f.kind == .missingAria) =
        ((Document.parse text).select fun _ => true).flatMap
          (Rule.nameFindings (Document.parse text) label)) ∧
      ((∃ f ∈ lint text label .default mode,
          f ∈ Rule.labelFindings (Document.parse text) label e ++
            Rule.nameFindings (Document.parse text) label e) ↔
        ¬ e.elem.HasBlankReference) := by
  have hselect := lint_ariaInvalid text label mode
  have hselect' := lint_missingAria text label mode
  refine ⟨hselect, hselect', ?_⟩
  obtain ⟨⟨hcreated, helem⟩, hneeds⟩ := Document.mem_select.mp he
  have hall : e ∈ (Document.parse text).select fun _ => true :=
    Document.mem_select.mpr ⟨⟨hcreated, helem⟩, rfl⟩
  rw [← Rule.noFindings_iff label hneeds htext hlabel hids]
  -- what is found at the element is among what is found at all elements
  have hmem : ∀ f ∈ Rule.labelFindings (Document.parse text) label e ++
      Rule.nameFindings (Document.parse text) label e, f ∈ lint text label .default mode := by
    intro f hf
    rcases List.mem_append.mp hf with hf | hf
    · have hin := List.mem_flatMap.mpr ⟨e, hall, hf⟩
      rw [← hselect] at hin
      exact List.mem_of_mem_filter hin
    · have hin := List.mem_flatMap.mpr ⟨e, hall, hf⟩
      rw [← hselect'] at hin
      exact List.mem_of_mem_filter hin
  constructor
  · rintro ⟨f, -, hf⟩ hnone
    rw [hnone] at hf
    cases hf
  · intro hsome
    obtain ⟨f, hf⟩ := List.exists_mem_of_ne_nil _ hsome
    exact ⟨f, hmem f hf, hf⟩

/-- An empty button, without a label and a reference, is reported. -/
theorem lint_nameless_button :
    ∃ e ∈ (Document.parse "<button></button>").select Rule.needsName,
      (Document.parse "<button></button>").hasBlankText e = true ∧
      (∀ v ∈ e.elem.attr? "aria-label", Text.isBlank v = true) ∧
      (∀ v ∈ e.elem.attr? "aria-labelledby", ∀ id ∈ Text.words Text.isBlankChar v,
        (Document.parse "<button></button>").hasId id = false) ∧
      ∃ f ∈ lint "<button></button>" "p" .default .batch,
        f ∈ Rule.labelFindings (Document.parse "<button></button>") "p" e ++
          Rule.nameFindings (Document.parse "<button></button>") "p" e := by
  have he : (⟨4, ⟨.html, "button", []⟩⟩ : ElementAt) ∈
      (Document.parse "<button></button>").select Rule.needsName := by decide +kernel
  have htext : (Document.parse "<button></button>").hasBlankText
      ⟨4, ⟨.html, "button", []⟩⟩ = true := by
    decide +kernel
  have hlabel : ∀ v ∈ (⟨.html, "button", []⟩ : Element).attr? "aria-label",
      Text.isBlank v = true := by decide
  have hids : ∀ v ∈ (⟨.html, "button", []⟩ : Element).attr? "aria-labelledby",
      ∀ id ∈ Text.words Text.isBlankChar v,
        (Document.parse "<button></button>").hasId id = false := by
    intro v hv
    cases hv
  have hreported := (lint_nameless "<button></button>" "p" .batch he htext hlabel hids).2.2
  refine ⟨_, he, htext, hlabel, hids, hreported.mpr ?_⟩
  rintro ⟨-, v, hv, -⟩
  cases hv

/-- A button whose reference to a label is a single space is reported by neither rule: it has a
    blank reference (`HasBlankReference`). -/
theorem lint_blankReference :
    ∃ e ∈ (Document.parse "<button aria-labelledby=\" \"></button>").select Rule.needsName,
      (Document.parse "<button aria-labelledby=\" \"></button>").hasBlankText e = true ∧
      (∀ v ∈ e.elem.attr? "aria-label", Text.isBlank v = true) ∧
      (∀ v ∈ e.elem.attr? "aria-labelledby", ∀ id ∈ Text.words Text.isBlankChar v,
        (Document.parse "<button aria-labelledby=\" \"></button>").hasId id = false) ∧
      ∀ f ∈ lint "<button aria-labelledby=\" \"></button>" "p" .default .single,
        f.kind ≠ .ariaInvalid ∧ f.kind ≠ .missingAria := by
  decide +kernel

end AccessLint
