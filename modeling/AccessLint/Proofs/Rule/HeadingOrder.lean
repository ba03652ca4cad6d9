import AccessLint.Proofs.Document.Select
import AccessLint.Rule.Heading

namespace AccessLint.Rule

/-!
# Levels of headings

The rule on the order of headings carries the level of the heading before along, whether that one was
reported or not. So it compares neighbours; and where it finds nothing, the headings get to a deeper
level only by way of the levels above it.

* `levelOf` — the level of a heading, which its name consists of;
* `skips` — the neighbours of which the second is more than one level deeper;
* `skippedLevels_eq` — what the rule finds are the skips;
* `exists_level_above` — without skips, a level deeper than the first one comes after the level
  above it;
* `headingOrder_skips` — what the rule reports, and what it means that it reports nothing.
-/

open Html (Element)

/-! ### Levels -/

/-- The level of a heading. -/
def levelOf (e : ElementAt) : Nat := (headingLevel? e.elem.name).getD 0

/-- A heading has a level, and its name consists of an `h` and the level: `isHeading` lists the six
    names. -/
theorem headingLevel?_of_isHeading {e : ElementAt} (h : isHeading e.elem = true) :
    headingLevel? e.elem.name = some (levelOf e) ∧ e.elem.name = 'h' :: Text.ofNat (levelOf e) := by
  have hnames : ∀ name ∈ (["h1", "h2", "h3", "h4", "h5", "h6"] : List Text),
      headingLevel? name = some ((headingLevel? name).getD 0) ∧
        name = 'h' :: Text.ofNat ((headingLevel? name).getD 0) := by
    decide
  exact hnames e.elem.name (List.contains_iff_mem.mp h)

/-! ### Skips -/

section

variable {α : Type} (level : α → Nat)

/-- The neighbours in a list of which the second is more than one level deeper than the first. -/
def skips (es : List α) : List (α × α) :=
  (es.zip es.tail).filter fun (p, e) => level p + 1 < level e

/-- Behind `p`, the rule compares each member with the one before it. The member before is general
    in the induction. -/
theorem skippedLevels_after (p : α) (es : List α) :
    skippedLevels (some (level p)) (es.map fun e => (e, level e)) =
      (skips level (p :: es)).map fun (p, e) => (e, level e, level p) := by
  induction es generalizing p with
  | nil => rfl
  | cons e es ih =>
    have hskips : skips level (p :: e :: es) =
        (if level p + 1 < level e then [(p, e)] else []) ++ skips level (e :: es) := by
      unfold skips
      rw [List.tail_cons, List.zip_cons_cons, List.filter_cons, List.tail_cons]
      by_cases hskip : level p + 1 < level e
      · simp [hskip]
      · simp [hskip]
    -- the level of `e` is the one to compare with, whether `e` is reported or not
    rw [List.map_cons, skippedLevels, ih e, hskips, List.map_append]
    by_cases hskip : level p + 1 < level e
    · rw [if_pos hskip, if_pos hskip, List.map_singleton]
    · rw [if_neg hskip, if_neg hskip, List.map_nil]

/-- **What the rule finds are the skips**: `skippedLevels` compares neighbours, and the first
    heading has none before it. -/
theorem skippedLevels_eq (es : List α) :
    skippedLevels none (es.map fun e => (e, level e)) =
      (skips level es).map fun (p, e) => (e, level e, level p) := by
  cases es with
  | nil => rfl
  | cons e es =>
    rw [List.map_cons, skippedLevels, skippedLevels_after]
    rfl

/-- There are no `skips` if no member is more than one level deeper than its neighbour. -/
theorem skips_eq_nil_iff {es : List α} :
    skips level es = [] ↔ ∀ q ∈ es.zip es.tail, level q.2 ≤ level q.1 + 1 := by
  unfold skips
  rw [List.filter_eq_nil_iff]
  refine forall₂_congr fun q _ => ?_
  rw [decide_eq_true_eq, Nat.not_lt]

variable {level}

/-- **Levels are reached one by one.** Without skips, a member that is deeper than the first one
    comes after a member exactly one level above it. The induction goes back from the member,
    through its neighbours. -/
theorem exists_level_above {first e : α} {before after : List α}
    (h : skips level (first :: (before ++ e :: after)) = []) (hdeeper : level first < level e) :
    ∃ p ∈ first :: before, level p + 1 = level e := by
  rw [skips_eq_nil_iff] at h
  -- going on from `first`, either its neighbour is still less deep, or it is deep enough already
  induction before generalizing first with
  | nil =>
    have hstep : level e ≤ level first + 1 := h (first, e) List.mem_cons_self
    exact ⟨first, List.mem_cons_self, by omega⟩
  | cons b before ih =>
    have hstep : level b ≤ level first + 1 := h (first, b) List.mem_cons_self
    by_cases hb : level b < level e
    · obtain ⟨p, hp, hlevel⟩ := ih (fun q hq => h q (List.mem_cons_of_mem _ hq)) hb
      exact ⟨p, List.mem_cons_of_mem _ hp, hlevel⟩
    · exact ⟨first, List.mem_cons_self, by omega⟩

end

/-! ### The rule -/

/-- The headings of a document with their levels (`levelOf`): none is left out for want of a
    level. -/
theorem headings_eq (d : Document) :
    ((d.select isHeading).filterMap fun e =>
      (headingLevel? e.elem.name).map fun level => (e, level)) =
        (d.select isHeading).map fun e => (e, levelOf e) := by
  rw [← List.filterMap_eq_map]
  refine List.filterMap_congr fun e he => ?_
  rw [(headingLevel?_of_isHeading (Document.mem_select.mp he).2).1]
  rfl

/-- What is reported of two neighbours of which the second skips a level. -/
def skipFinding (d : Document) (label : Text) (p e : ElementAt) : Finding :=
  d.report label e .headingOrder
    ("<h" ++ Text.ofNat (levelOf e) ++ "> follows <h" ++ Text.ofNat (levelOf p) ++ ">")

/-- The rule reports the skips among the headings of a document, as `select` lists them. -/
theorem headingOrder_check_eq (d : Document) (label : Text) (c : Config) :
    headingOrder.check d label c =
      (skips levelOf (d.select isHeading)).map fun (p, e) => skipFinding d label p e := by
  dsimp only [headingOrder]
  rw [headings_eq, skippedLevels_eq, List.map_map]
  rfl

/-- **The order of headings.** The rule `headingOrder` reports, in order, each heading that is more
    than one level deeper than the heading before it, and names the two levels. If it reports
    nothing, every heading that is deeper than the first one comes after a heading exactly one level
    above it. -/
theorem headingOrder_skips (d : Document) (label : Text) (c : Config) :
    (∀ e ∈ d.select isHeading, e.elem.name = 'h' :: Text.ofNat (levelOf e)) ∧
      (headingOrder.check d label c =
        (((d.select isHeading).zip (d.select isHeading).tail).filter fun (p, e) =>
          levelOf p + 1 < levelOf e).map fun (p, e) => skipFinding d label p e) ∧
      (headingOrder.check d label c = [] →
        ∀ first before e after, d.select isHeading = first :: (before ++ e :: after) →
          levelOf first < levelOf e → ∃ p ∈ first :: before, levelOf p + 1 = levelOf e) := by
  have hcheck := headingOrder_check_eq d label c
  refine ⟨fun e he => (headingLevel?_of_isHeading (Document.mem_select.mp he).2).2, hcheck, ?_⟩
  intro hnone first before e after hheadings hdeeper
  rw [hcheck, List.map_eq_nil_iff, hheadings] at hnone
  exact exists_level_above hnone hdeeper

/-- Headings go down one level, up again and down two: the last one comes after a heading of the
    level above it. -/
theorem headingOrder_skips_descending :
    headingOrder.check (Document.parse "<h2>a</h2><h3>b</h3><h2>c</h2><h3>d</h3><h4>e</h4>") "p"
        .default = [] ∧
      ∃ first before e after,
        (Document.parse "<h2>a</h2><h3>b</h3><h2>c</h2><h3>d</h3><h4>e</h4>").select isHeading =
          first :: (before ++ e :: after) ∧
        levelOf first < levelOf e ∧ ∃ p ∈ first :: before, levelOf p + 1 = levelOf e := by
  have hnone : headingOrder.check
      (Document.parse "<h2>a</h2><h3>b</h3><h2>c</h2><h3>d</h3><h4>e</h4>") "p" .default = [] := by
    decide +kernel
  have hheadings :
      (Document.parse "<h2>a</h2><h3>b</h3><h2>c</h2><h3>d</h3><h4>e</h4>").select isHeading =
        ⟨4, ⟨.html, "h2", []⟩⟩ :: ([⟨6, ⟨.html, "h3", []⟩⟩, ⟨8, ⟨.html, "h2", []⟩⟩,
          ⟨10, ⟨.html, "h3", []⟩⟩] ++ ⟨12, ⟨.html, "h4", []⟩⟩ :: []) := by
    decide +kernel
  have hdeeper : levelOf ⟨4, ⟨.html, "h2", []⟩⟩ < levelOf ⟨12, ⟨.html, "h4", []⟩⟩ := by decide
  obtain ⟨-, -, hreached⟩ := headingOrder_skips
    (Document.parse "<h2>a</h2><h3>b</h3><h2>c</h2><h3>d</h3><h4>e</h4>") "p" .default
  exact ⟨hnone, _, _, _, _, hheadings, hdeeper, hreached hnone _ _ _ _ hheadings hdeeper⟩

end AccessLint.Rule
