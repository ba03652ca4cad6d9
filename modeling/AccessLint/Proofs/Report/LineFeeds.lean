import AccessLint.Proofs.Report.Group
import AccessLint.Proofs.Rule.Quotes

namespace AccessLint.Report

/-!
# The lines of the detailed report

The report has three line feeds around its title, two around the heading of each kind and one behind
each finding. Messages are printed as they are: a line feed in what they quote of the page starts
another line.

* `count_newline_findingLine`, `count_newline_groupLines` — the line feeds of a finding and of a group;
* `count_newline_detailed` — those of the whole report;
* `lint_lines` — what this means for the findings of a page;
* `lint_lines_role` — a role that starts another line.
-/

/-! ### Counting line feeds -/

/-- A finding has a line feed at its end, besides those of its name and its message: `findingLine`
    adds no other. -/
theorem count_newline_findingLine (f : Finding) :
    (findingLine false f).count '\n' = 1 + f.file.count '\n' + f.message.count '\n' := by
  have hindent : ("  " : Text).count '\n' = 0 := by decide
  have hdash : ("-" : Text).count '\n' = 0 := by decide
  have hspace : (" " : Text).count '\n' = 0 := by decide
  have hcolon : (":" : Text).count '\n' = 0 := by decide
  have hline := List.count_eq_zero.mpr (Text.newline_not_mem_ofNat f.line)
  have hgap : (" – " : Text).count '\n' = 0 := by decide
  have hend : ("\n" : Text).count '\n' = 1 := by decide
  unfold findingLine paint
  rw [if_neg Bool.false_ne_true, if_neg Bool.false_ne_true, if_neg Bool.false_ne_true]
  simp only [List.count_append]
  rw [hindent, hdash, hspace, hcolon, hline, hgap, hend]
  omega

/-- A heading stands between two line feeds, and the lines of the findings follow
    (`findingLine`). -/
theorem count_newline_groupLines (g : Group) :
    (groupLines false g).count '\n' =
      2 + (g.findings.map fun f => (findingLine false f).count '\n').sum := by
  have hheading : (heading g.kind).1.count '\n' = 0 := by
    cases g.kind <;> decide
  have hend : ("\n" : Text).count '\n' = 1 := by decide
  unfold groupLines paint
  rw [if_neg Bool.false_ne_true]
  simp only [List.count_append, List.count_flatMap]
  rw [hheading, hend]
  simp only [Function.comp_def]

/-- **The line feeds of the report** (`detailed`): three for its title, two for each group, and
    those of the findings. -/
theorem count_newline_detailed (fs : List Finding) :
    (detailed false fs).count '\n' =
      3 + 2 * (groups fs).length + (fs.map fun f => (findingLine false f).count '\n').sum := by
  have htitle : ("🚨 Accessibility Issues Found:" : Text).count '\n' = 0 := by decide
  have hstart : ("\n" : Text).count '\n' = 1 := by decide
  have hend : ("\n\n" : Text).count '\n' = 2 := by decide
  have hgroups : ∀ gs : List Group, (gs.map fun g => (groupLines false g).count '\n').sum =
      2 * gs.length +
        ((gs.flatMap Group.findings).map fun f => (findingLine false f).count '\n').sum := by
    intro gs
    induction gs with
    | nil => rfl
    | cons g gs ih =>
      rw [List.map_cons, List.sum_cons, ih, count_newline_groupLines, List.flatMap_cons,
        List.map_append, List.sum_append, List.length_cons]
      omega
  -- every finding is in a group once
  have hfindings := ((flatMap_groups_perm fs).map fun f => (findingLine false f).count '\n').sum_nat
  have hcount : (detailed false fs).count '\n' =
      3 + ((groups fs).map fun g => (groupLines false g).count '\n').sum := by
    unfold detailed paint
    rw [if_neg Bool.false_ne_true]
    simp only [List.count_append, List.count_flatMap]
    rw [htitle, hstart, hend]
    simp only [Function.comp_def]
  rw [hcount, hgroups, hfindings]
  omega

/-! ### The findings of a page -/

/-- If no name has a line feed, there is one line for each finding, and another one for each line
    feed in a message, by `count_newline_findingLine`. -/
theorem count_newline_detailed_of_files {fs : List Finding} (h : ∀ f ∈ fs, '\n' ∉ f.file) :
    (detailed false fs).count '\n' =
      3 + 2 * (fs.map Finding.kind).eraseDups.length + fs.length +
        (fs.map fun f => f.message.count '\n').sum := by
  have hlines : (fs.map fun f => (findingLine false f).count '\n').sum =
      fs.length + (fs.map fun f => f.message.count '\n').sum := by
    induction fs with
    | nil => rfl
    | cons f fs ih =>
      have hfile := List.count_eq_zero.mpr (h f List.mem_cons_self)
      have hrest := ih fun g hg => h g (List.mem_cons_of_mem f hg)
      rw [List.map_cons, List.sum_cons, hrest, count_newline_findingLine, hfile, List.map_cons,
        List.sum_cons, List.length_cons]
      omega
  rw [count_newline_detailed, hlines, ← kinds_groups, List.length_map]
  omega

/-- **The lines of the detailed report.** Let the name of a page have no line feed. Its report has
    the line feeds of the title and of the headings, one for each finding, and those of the
    messages. A message has line feeds only if it quotes an element of the page (`Rule.quoted?`),
    and then those of what it quotes. So on a page where nothing that can be quoted has a line feed,
    each finding is one line. -/
theorem lint_lines (text label : Text) (c : Config) (mode : LintMode) (hlabel : '\n' ∉ label) :
    ((detailed false (lint text label c mode)).count '\n' =
        3 + 2 * ((lint text label c mode).map Finding.kind).eraseDups.length +
          (lint text label c mode).length +
          ((lint text label c mode).map fun f => f.message.count '\n').sum) ∧
      (∀ f ∈ lint text label c mode, '\n' ∈ f.message →
        ∃ e ∈ (Document.parse text).select fun _ => true,
          f = (Document.parse text).report label e f.kind f.message ∧
          ∃ q, Rule.quoted? f.kind e.elem = some q ∧ f.message.count '\n' = q.count '\n') ∧
      ((∀ e ∈ (Document.parse text).select fun _ => true, ∀ k, ∀ q ∈ Rule.quoted? k e.elem,
          '\n' ∉ q) →
        (detailed false (lint text label c mode)).count '\n' =
          3 + 2 * ((lint text label c mode).map Finding.kind).eraseDups.length +
            (lint text label c mode).length) := by
  have hfiles : ∀ f ∈ lint text label c mode, '\n' ∉ f.file := by
    intro f hf
    obtain ⟨r, hr, -, -, hf⟩ := mem_lint text label c mode hf
    rw [(catalogue_reportsOnly _ c hr).file_eq label f hf]
    exact hlabel
  have hcount := count_newline_detailed_of_files hfiles
  have hquotes := lint_breaks text label c mode
  refine ⟨hcount, hquotes, fun hplain => ?_⟩
  have hnone : ((lint text label c mode).map fun f => f.message.count '\n').sum = 0 := by
    rw [List.sum_eq_zero_iff_forall_eq_nat]
    intro n hn
    obtain ⟨f, hf, rfl⟩ := List.mem_map.mp hn
    by_contra hne
    -- a line feed in a message would be one of what it quotes
    have hmem : '\n' ∈ f.message := List.count_pos_iff.mp (Nat.pos_of_ne_zero hne)
    obtain ⟨e, he, -, q, hq, hsame⟩ := hquotes f hf hmem
    rw [List.count_eq_zero.mpr (hplain e he f.kind q hq)] at hsame
    exact hne hsame
  rw [hcount, hnone, Nat.add_zero]

/-- The role of a paragraph goes over two lines, and so does its finding. -/
theorem lint_lines_role :
    let found := lint "<p role=\"a\nb\"></p>" "p" .default .batch
    '\n' ∉ ("p" : Text) ∧ (detailed false found).count '\n' = 7 ∧
      ∃ f ∈ found, ∃ e ∈ (Document.parse "<p role=\"a\nb\"></p>").select fun _ => true,
        ∃ q, Rule.quoted? f.kind e.elem = some q ∧ q.count '\n' = 1 := by
  intro found
  have hlabel : '\n' ∉ ("p" : Text) := by decide
  obtain ⟨hcount, hquotes, -⟩ := lint_lines "<p role=\"a\nb\"></p>" "p" .default .batch hlabel
  have hfound : found = [⟨"p", 1, .ariaRoleInvalid,
      "Unrecognized or inappropriate ARIA role: \"a\nb\""⟩] := by
    decide +kernel
  have hmem : (⟨"p", 1, .ariaRoleInvalid,
      "Unrecognized or inappropriate ARIA role: \"a\nb\""⟩ : Finding) ∈ found := by
    rw [hfound]
    exact List.mem_singleton.mpr rfl
  obtain ⟨e, he, -, q, hq, hsame⟩ := hquotes _ hmem (by decide)
  refine ⟨hlabel, hcount.trans ?_, _, hmem, e, he, q, hq, hsame.symm.trans (by decide)⟩
  show 3 + 2 * (found.map Finding.kind).eraseDups.length + found.length +
    (found.map fun f => f.message.count '\n').sum = 7
  rw [hfound]
  decide

/-- That is one line more than there are headings and findings: the role has a line feed, and the
    message of `Rule.ariaRoles` quotes it. -/
theorem detailed_lineFeedInRole :
    '\n' ∉ ("p" : Text) ∧
      (detailed false (lint "<p role=\"a\nb\"></p>" "p" .default .batch)).count '\n' ≠
        3 + 2 * ((lint "<p role=\"a\nb\"></p>" "p" .default .batch).map Finding.kind).eraseDups.length +
          (lint "<p role=\"a\nb\"></p>" "p" .default .batch).length := by
  decide +kernel

end AccessLint.Report
