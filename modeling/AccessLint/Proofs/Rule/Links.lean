import AccessLint.Proofs.Rule.Names

namespace AccessLint

/-!
# Links without a name

Two rules report links without a text: `emptyLinks` those that lead nowhere, `missingAria` those that
have a target. A target that is empty or a single `#` counts for both, so that no link falls between
them.

* `Rule.linkFindings` — what `emptyLinks` finds at one link;
* `lint_emptyLink` — a run has what it finds at one link after the other;
* `Rule.linkFindings_ne_nil_iff`, `Rule.nameFindings_ne_nil_iff` — when either rule reports a link
  without a name;
* `lint_namelessLink` — one of them does, and when both do.
-/

open Html (Element)

namespace Rule

/-- What `emptyLinks` finds at a link. -/
def linkFindings (d : Document) (label : Text) (e : ElementAt) : List Finding :=
  if hasNoTarget e.elem && d.hasBlankText e then
    [d.report label e .emptyLink "<a> tag is empty or has no href/text"]
  else []

/-- `emptyLinks` goes from link to link, so its findings can be told apart by the link. -/
theorem emptyLinks_check_eq (d : Document) (label : Text) (c : Config) :
    emptyLinks.check d label c =
      (d.select fun e => e.name == "a").flatMap (linkFindings d label) := by
  dsimp only [emptyLinks]
  rw [map_filter_eq_flatMap]
  rfl

/-- A link leads nowhere (`hasNoTarget`) if it has no target, or one that is empty or a single
    `#`. -/
theorem hasNoTarget_iff {e : Element} :
    hasNoTarget e = true ↔ e.attr? "href" = none ∨ e.attr? "href" = some [] ∨
      e.attr? "href" = some ['#'] := by
  unfold hasNoTarget
  cases e.attr? "href" with
  | none => simp
  | some v => simp

/-- Of the links, those with a target need a name: `needsName` asks for a `href`, be it empty. -/
theorem needsName_link {e : Element} (h : e.name = "a") :
    needsName e = (e.attr? "href").isSome := by
  have hlist : (["button", "svg", "form", "section", "nav", "aside", "main", "dialog"] :
      List Text).contains "a" = false := by decide
  have hlink : (("a" : Text) == ("a" : Text)) = true := by decide
  have hinput : (("a" : Text) == ("input" : Text)) = false := by decide
  unfold needsName
  rw [h, hlist, hlink, hinput, Bool.false_or, Bool.true_and, Bool.false_and, Bool.or_false]

variable {d : Document} {e : ElementAt} (label : Text)

/-- Without a text, a link is reported by `emptyLinks` exactly if it leads nowhere. -/
theorem linkFindings_ne_nil_iff (htext : d.hasBlankText e = true) :
    linkFindings d label e ≠ [] ↔ e.elem.attr? "href" = none ∨ e.elem.attr? "href" = some [] ∨
      e.elem.attr? "href" = some ['#'] := by
  rw [← hasNoTarget_iff]
  unfold linkFindings
  rw [htext, Bool.and_true]
  cases hasNoTarget e.elem <;> simp

/-- Without a text and a name, a link is reported by `missingAria` exactly if it has a target. -/
theorem nameFindings_ne_nil_iff (hname : e.elem.name = "a") (htext : d.hasBlankText e = true)
    (hlabel : ∀ v ∈ e.elem.attr? "aria-label", v = [])
    (hreference : ∀ v ∈ e.elem.attr? "aria-labelledby", v = []) :
    nameFindings d label e ≠ [] ↔ e.elem.attr? "href" ≠ none := by
  have hempty : ∀ name : Text, (∀ v ∈ e.elem.attr? name, v = []) →
      e.elem.nonEmptyAttr? name = none := by
    intro name h
    cases hv : e.elem.attr? name with
    | none => exact Element.nonEmptyAttr?_of_none hv
    | some v => rw [Element.nonEmptyAttr?_of_some hv, if_pos (h v hv)]
  have hnameless : isNameless d e = true := by
    unfold isNameless
    rw [hempty _ hlabel, hempty _ hreference, htext]
    rfl
  unfold nameFindings
  rw [hnameless, Bool.and_true, needsName_link hname]
  cases e.elem.attr? "href" <;> simp

end Rule

/-- The findings of a run about empty links are those of `linkFindings` at one link after the other:
    no other rule reports the kind. -/
theorem lint_emptyLink (text label : Text) (mode : LintMode) :
    (lint text label .default mode).filter (fun f => f.kind == .emptyLink) =
      ((Document.parse text).select fun e => e.name == "a").flatMap
        (Rule.linkFindings (Document.parse text) label) := by
  have hmem : Rule.emptyLinks ∈ catalogue := List.mem_of_getElem? (i := 8) rfl
  rw [lint_default_filter_kind text label mode hmem rfl rfl, Rule.emptyLinks_check_eq]

/-- What is found at an element is in a run whose findings are those at one element after the other,
    as far as anything is found there. -/
theorem exists_mem_run_iff {fs : List Finding} {p : Finding → Bool} {es : List ElementAt}
    {found : ElementAt → List Finding} (hrun : fs.filter p = es.flatMap found) {e : ElementAt}
    (he : e ∈ es) : (∃ f ∈ fs, f ∈ found e) ↔ found e ≠ [] := by
  constructor
  · rintro ⟨f, -, hf⟩
    exact List.ne_nil_of_mem hf
  · intro hsome
    obtain ⟨f, hf⟩ := List.exists_mem_of_ne_nil _ hsome
    have hin : f ∈ es.flatMap found := List.mem_flatMap.mpr ⟨e, he, hf⟩
    rw [← hrun] at hin
    exact ⟨f, List.mem_of_mem_filter hin, hf⟩

/-- **No link without a name escapes.** Let a link have no text but blanks, and no label and no
    reference to one that is not empty. The findings of a run that are about empty links and missing
    names are those at one element after the other; at this link there is one of either kind, and one
    of both kinds exactly if the link has a target that is empty or a single `#`. -/
theorem lint_namelessLink (text label : Text) (mode : LintMode) {e : ElementAt}
    (he : e ∈ (Document.parse text).select fun e => e.name == "a")
    (htext : (Document.parse text).hasBlankText e = true)
    (hlabel : ∀ v ∈ e.elem.attr? "aria-label", v = [])
    (hreference : ∀ v ∈ e.elem.attr? "aria-labelledby", v = []) :
    ((lint text label .default mode).filter (fun f => f.kind == .emptyLink) =
        ((Document.parse text).select fun e => e.name == "a").flatMap
          (Rule.linkFindings (Document.parse text) label)) ∧
      ((lint text label .default mode).filter (fun f => f.kind == .missingAria) =
        ((Document.parse text).select fun _ => true).flatMap
          (Rule.nameFindings (Document.parse text) label)) ∧
      ((∃ f ∈ lint text label .default mode, f ∈ Rule.linkFindings (Document.parse text) label e) ∨
        ∃ f ∈ lint text label .default mode, f ∈ Rule.nameFindings (Document.parse text) label e) ∧
      (((∃ f ∈ lint text label .default mode, f ∈ Rule.linkFindings (Document.parse text) label e) ∧
          ∃ f ∈ lint text label .default mode, f ∈ Rule.nameFindings (Document.parse text) label e) ↔
        e.elem.attr? "href" = some [] ∨ e.elem.attr? "href" = some ['#']) := by
  have hlinks := lint_emptyLink text label mode
  have hnames := lint_missingAria text label mode
  refine ⟨hlinks, hnames, ?_⟩
  obtain ⟨hplace, hname⟩ := Document.mem_select.mp he
  have hall : e ∈ (Document.parse text).select fun _ => true :=
    Document.mem_select.mpr ⟨hplace, rfl⟩
  rw [exists_mem_run_iff hlinks he, exists_mem_run_iff hnames hall,
    Rule.linkFindings_ne_nil_iff label htext,
    Rule.nameFindings_ne_nil_iff label (beq_iff_eq.mp hname) htext hlabel hreference]
  -- what is left is about the target alone
  cases e.elem.attr? "href" with
  | none => simp
  | some v => simp

/-- A link to the top of the page without a text, in a drawing: `emptyLinks` and `missingAria` both
    report it. -/
theorem lint_namelessLink_top :
    ∃ e ∈ (Document.parse "<svg><a href=\"#\"> </a></svg>").select fun e => e.name == "a",
      (Document.parse "<svg><a href=\"#\"> </a></svg>").hasBlankText e = true ∧
      (∀ v ∈ e.elem.attr? "aria-label", v = []) ∧
      (∀ v ∈ e.elem.attr? "aria-labelledby", v = []) ∧
      (∃ f ∈ lint "<svg><a href=\"#\"> </a></svg>" "p" .default .batch,
        f ∈ Rule.linkFindings (Document.parse "<svg><a href=\"#\"> </a></svg>") "p" e) ∧
      ∃ f ∈ lint "<svg><a href=\"#\"> </a></svg>" "p" .default .batch,
        f ∈ Rule.nameFindings (Document.parse "<svg><a href=\"#\"> </a></svg>") "p" e := by
  have he : (⟨5, ⟨.svg, "a", [⟨.none, "href", ['#']⟩]⟩⟩ : ElementAt) ∈
      (Document.parse "<svg><a href=\"#\"> </a></svg>").select fun e => e.name == "a" := by
    decide +kernel
  have htext : (Document.parse "<svg><a href=\"#\"> </a></svg>").hasBlankText
      ⟨5, ⟨.svg, "a", [⟨.none, "href", ['#']⟩]⟩⟩ = true := by
    decide +kernel
  have hlabel : ∀ v ∈ (⟨.svg, "a", [⟨.none, "href", ['#']⟩]⟩ : Element).attr? "aria-label",
      v = [] := by decide
  have hreference : ∀ v ∈ (⟨.svg, "a", [⟨.none, "href", ['#']⟩]⟩ : Element).attr? "aria-labelledby",
      v = [] := by decide
  have hboth := (lint_namelessLink "<svg><a href=\"#\"> </a></svg>" "p" .batch he htext hlabel
    hreference).2.2.2.mpr (Or.inr (by decide))
  exact ⟨_, he, htext, hlabel, hreference, hboth⟩

end AccessLint
