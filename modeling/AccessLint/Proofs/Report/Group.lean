import AccessLint.Proofs.Json.Scalar
import AccessLint.Report.Basic
import AccessLint.Text.Blank
import Mathlib.Algebra.GroupWithZero.Nat
import Mathlib.Data.List.Basic
import Mathlib.Data.List.Induction

namespace AccessLint.Report

/-!
# Findings in groups

A finding joins the group of its kind or starts a new one at the end. So there is one group for each
kind that occurs, in the order in which the kinds first occur, and it holds all findings of its kind
in their order. Both reports go through the groups, and each of them covers every finding once.

* `addToGroup_map` — what one finding does to the groups;
* `groups_eq` — the groups of all findings;
* `flatMap_groups_perm` — the findings in the groups are all findings;
* `printedRows_summary` — the numbers in the table;
* `groups_partition` — the groups, and what the two reports make of them.
-/

/-! ### Kinds in the order in which they first occur -/

section FirstOccurrences

variable {α : Type} [BEq α] [LawfulBEq α]

/-- With `List.eraseDups` one more member comes last, unless it is there already. -/
theorem eraseDups_concat (l : List α) (a : α) :
    (l ++ [a]).eraseDups = if a ∈ l then l.eraseDups else l.eraseDups ++ [a] := by
  rw [List.eraseDups_append]
  split
  · next h => simp [List.removeAll, h]
  · next h => simp [List.removeAll, h, List.eraseDups_cons]

/-- What `List.eraseDups` leaves stands in the order of its first occurrences, by induction from the
    end of the list. -/
theorem eraseDups_inOrder (l : List α) :
    l.eraseDups.Pairwise fun a b => l.idxOf a < l.idxOf b := by
  induction l using List.reverseRecOn with
  | nil => exact List.Pairwise.nil
  | append_singleton l a ih =>
    have hkept : l.eraseDups.Pairwise fun b c => (l ++ [a]).idxOf b < (l ++ [a]).idxOf c := by
      refine ih.imp_of_mem fun {b c} hb hc hlt => ?_
      rw [List.idxOf_append_of_mem (List.mem_eraseDups.mp hb),
        List.idxOf_append_of_mem (List.mem_eraseDups.mp hc)]
      exact hlt
    rw [eraseDups_concat]
    split
    · exact hkept
    · next hnew =>
      refine List.pairwise_append.mpr ⟨hkept, List.pairwise_singleton _ _, fun b hb c hc => ?_⟩
      -- the new member stands behind all others
      obtain rfl := List.mem_singleton.mp hc
      have hold := List.mem_eraseDups.mp hb
      rw [List.idxOf_append_of_mem hold, List.idxOf_append_of_notMem hnew]
      exact Nat.lt_add_right _ (List.idxOf_lt_length_of_mem hold)

theorem nodup_eraseDups (l : List α) : l.eraseDups.Nodup :=
  (eraseDups_inOrder l).imp fun hlt => by
    rintro rfl
    exact Nat.lt_irrefl _ hlt

end FirstOccurrences

/-! ### Groups -/

/-- **One more finding** joins the group of its kind. If there is none, it is a group of its own, at
    the end. This is the step of `groups_eq`. -/
theorem addToGroup_map {ks : List Kind} (hnodup : ks.Nodup) {f : Finding} {g : Kind → List Finding}
    (hnew : f.kind ∉ ks → g f.kind = []) :
    addToGroup f (ks.map fun k => ⟨k, g k⟩) =
      (if f.kind ∈ ks then ks else ks ++ [f.kind]).map fun k =>
        ⟨k, g k ++ if f.kind = k then [f] else []⟩ := by
  induction ks with
  | nil => simp [addToGroup, hnew List.not_mem_nil]
  | cons k ks ih =>
    obtain ⟨hk, hnodup⟩ := List.nodup_cons.mp hnodup
    rw [List.map_cons, addToGroup]
    by_cases heq : k = f.kind
    · -- no later group has the kind
      have hrest : (ks.map fun k => (⟨k, g k⟩ : Group)) =
          ks.map fun k => ⟨k, g k ++ if f.kind = k then [f] else []⟩ := by
        refine List.map_congr_left fun l hl => ?_
        rw [if_neg fun h => hk (heq.trans h ▸ hl), List.append_nil]
      rw [if_pos heq, hrest, if_pos (heq ▸ List.mem_cons_self), List.map_cons, if_pos heq.symm]
    · have hmem : f.kind ∈ k :: ks ↔ f.kind ∈ ks := by
        rw [List.mem_cons, or_iff_right fun h => heq h.symm]
      rw [if_neg heq, ih hnodup fun h => hnew fun hin => h (hmem.mp hin)]
      simp only [hmem]
      split <;> simp [Ne.symm heq]

/-- **The groups** are the kinds in the order in which they first occur, each with all findings of
    the kind in their order. The induction is on the findings from their end, as `groups` folds over
    them. -/
theorem groups_eq (fs : List Finding) :
    groups fs = (fs.map Finding.kind).eraseDups.map fun k =>
      ⟨k, fs.filter fun f => f.kind = k⟩ := by
  induction fs using List.reverseRecOn with
  | nil => rfl
  | append_singleton fs f ih =>
    have hstep : groups (fs ++ [f]) = addToGroup f (groups fs) := by
      rw [groups, List.foldl_append]
      rfl
    have hnew : f.kind ∉ (fs.map Finding.kind).eraseDups →
        fs.filter (fun e => e.kind = f.kind) = [] := by
      intro h
      rw [List.filter_eq_nil_iff]
      intro e he heq
      exact h (List.mem_eraseDups.mpr (of_decide_eq_true heq ▸ List.mem_map_of_mem he))
    rw [hstep, ih, addToGroup_map (nodup_eraseDups _) hnew, List.map_append, List.map_singleton,
      eraseDups_concat]
    simp only [List.mem_eraseDups, List.filter_append, List.filter_cons, List.filter_nil,
      decide_eq_true_eq]

theorem kinds_groups (fs : List Finding) :
    (groups fs).map Group.kind = (fs.map Finding.kind).eraseDups := by
  rw [groups_eq, List.map_map]
  exact List.map_id _

/-- The groups have the kinds that occur. -/
theorem mem_kinds_groups {fs : List Finding} {k : Kind} :
    k ∈ (groups fs).map Group.kind ↔ ∃ f ∈ fs, f.kind = k := by
  rw [kinds_groups, List.mem_eraseDups, List.mem_map]

/-- A group of `groups` holds the findings of its kind, and at least one: the finding that the group
    was made for. -/
theorem findings_of_mem_groups {fs : List Finding} {g : Group} (h : g ∈ groups fs) :
    g.findings = fs.filter (fun f => f.kind = g.kind) ∧ g.findings ≠ [] := by
  obtain ⟨f, hf, hkind⟩ := mem_kinds_groups.mp (List.mem_map_of_mem h)
  rw [groups_eq, List.mem_map] at h
  obtain ⟨k, -, rfl⟩ := h
  exact ⟨rfl, List.ne_nil_of_mem (List.mem_filter.mpr ⟨hf, decide_eq_true hkind⟩)⟩

/-- One more finding is in the groups once more, wherever `addToGroup` puts it. -/
theorem flatMap_addToGroup_perm (f : Finding) (gs : List Group) :
    ((addToGroup f gs).flatMap Group.findings).Perm (f :: gs.flatMap Group.findings) := by
  induction gs with
  | nil => exact List.Perm.refl _
  | cons g gs ih =>
    rw [addToGroup]
    split
    · rw [List.flatMap_cons, List.flatMap_cons, List.append_assoc]
      exact List.perm_middle
    · rw [List.flatMap_cons, List.flatMap_cons]
      exact (ih.append_left g.findings).trans List.perm_middle

/-- **The findings in the groups** that `groups` makes are all findings, each as often as it is
    among them, so the report loses none and doubles none. -/
theorem flatMap_groups_perm (fs : List Finding) :
    ((groups fs).flatMap Group.findings).Perm fs := by
  have hrun : ∀ (gs : List Group) (fs : List Finding),
      ((fs.foldl (fun gs f => addToGroup f gs) gs).flatMap Group.findings).Perm
        (gs.flatMap Group.findings ++ fs) := by
    intro gs fs
    induction fs generalizing gs with
    | nil =>
      rw [List.append_nil]
      exact List.Perm.refl _
    | cons f fs ih =>
      refine (ih (addToGroup f gs)).trans ?_
      exact ((flatMap_addToGroup_perm f gs).append_right fs).trans List.perm_middle.symm
  exact hrun [] fs

/-- The groups have as many findings as there are, by `flatMap_groups_perm`. -/
theorem sum_length_groups (fs : List Finding) :
    ((groups fs).map fun g => g.findings.length).sum = fs.length := by
  rw [← (flatMap_groups_perm fs).length_eq, List.length_flatMap]

/-! ### The table -/

/-- The two columns of a line with a number in the second one. -/
def printedRow? (line : Text) : Option (Text × Nat) :=
  match (line.drop 33).takeWhile Char.isDigit with
  | [] => none
  | digits => some (Text.trimEnd (line.take 30), Text.natOfDigits digits)

/-- The rows with numbers in a table. -/
def printedRows (t : Text) : List (Text × Nat) := (t.splitOn '\n').filterMap printedRow?

/-- What `printedRows` reads of two tables with a line feed between them are those of each of
    them. -/
theorem printedRows_append (t u : Text) :
    printedRows (t ++ '\n' :: u) = printedRows t ++ printedRows u := by
  unfold printedRows
  rw [List.splitOn_append_cons_self, List.filterMap_append]

/-- The text of a row without the line feed. -/
def rowText (left right : Text) : Text :=
  Text.padEnd ' ' 30 left ++ (" | " ++ Text.padEnd ' ' 10 right)

theorem summaryRow_eq (left right : Text) :
    summaryRow left right = rowText left right ++ ['\n'] := by
  simp [summaryRow, rowText]

/-- A text that fits the first column. -/
def FitsColumn (left : Text) : Prop :=
  (Text.padEnd ' ' 30 left).length = 30 ∧ Text.trimEnd (Text.padEnd ' ' 30 left) = left ∧
    '\n' ∉ Text.padEnd ' ' 30 left

/-- The digits at the front of a padded number are its own: the padding is of blanks. -/
theorem takeWhile_isDigit_padEnd (width n : Nat) :
    (Text.padEnd ' ' width (Text.ofNat n)).takeWhile Char.isDigit = Text.ofNat n := by
  unfold Text.padEnd
  rw [List.takeWhile_append_of_pos fun c => Text.isDigit_of_mem_ofNat]
  -- a number may fill its column; otherwise the digits end at the first blank
  cases width - (Text.ofNat n).length with
  | zero => rw [List.replicate_zero, List.takeWhile_nil, List.append_nil]
  | succ width =>
    rw [List.replicate_succ, List.takeWhile_cons_of_neg (by decide), List.append_nil]

/-- A row with a number is one line. -/
theorem newline_not_mem_rowText {left : Text} (h : FitsColumn left) (n : Nat) :
    '\n' ∉ rowText left (Text.ofNat n) := by
  have hright : '\n' ∉ Text.padEnd ' ' 10 (Text.ofNat n) := by
    unfold Text.padEnd
    rw [List.mem_append, not_or]
    exact ⟨fun hmem => absurd (Text.isDigit_of_mem_ofNat hmem) (by decide),
      fun hmem => absurd (List.eq_of_mem_replicate hmem) (by decide)⟩
  unfold rowText
  rw [List.mem_append, List.mem_append, not_or, not_or]
  exact ⟨h.2.2, by decide, hright⟩

/-- The second column of a row stands behind the 30 characters of the first one and the 3 of the
    bar. -/
theorem drop_rowText {left : Text} (h : FitsColumn left) (right : Text) :
    (rowText left right).drop 33 = Text.padEnd ' ' 10 right := by
  have hcolumns : rowText left right =
      (Text.padEnd ' ' 30 left ++ " | ") ++ Text.padEnd ' ' 10 right :=
    (List.append_assoc _ _ _).symm
  rw [hcolumns]
  refine List.drop_left' ?_
  rw [List.length_append, h.1]
  rfl

/-- **A row is read as it was printed**: `printedRow?` finds the name in front of the bar and the
    number behind it. -/
theorem printedRows_rowText {left : Text} (h : FitsColumn left) (n : Nat) :
    printedRows (rowText left (Text.ofNat n)) = [(left, n)] := by
  have htake : (rowText left (Text.ofNat n)).take 30 = Text.padEnd ' ' 30 left :=
    List.take_left' h.1
  have hrow : printedRow? (rowText left (Text.ofNat n)) = some (left, n) := by
    unfold printedRow?
    rw [drop_rowText h, takeWhile_isDigit_padEnd, htake, h.2.1]
    split
    · next hnil => exact absurd hnil (Text.ofNat_ne_nil n)
    · rw [Text.natOfDigits_ofNat]
  unfold printedRows
  rw [List.splitOn_eq_singleton (newline_not_mem_rowText h n), List.filterMap_cons_some hrow,
    List.filterMap_nil]

/-- The name of every kind fits the first column (`FitsColumn`), so no row is shifted. -/
theorem fitsColumn_name (k : Kind) : FitsColumn k.name := by
  unfold FitsColumn
  cases k <;> decide

/-- What `printedRows` reads of some groups in front of the rest of a table, by induction on the
    groups. -/
theorem printedRows_groupRows (gs : List Group) (rest : Text) :
    printedRows (gs.flatMap groupRow ++ rest) =
      gs.map (fun g => (g.kind.name, g.findings.length)) ++ printedRows rest := by
  induction gs with
  | nil => rfl
  | cons g gs ih =>
    rw [List.flatMap_cons, groupRow, summaryRow_eq, List.append_assoc, List.append_assoc,
      List.singleton_append, printedRows_append, printedRows_rowText (fitsColumn_name g.kind), ih]
    rfl

/-- The text of a line across the table. -/
def ruleText : Text := Text.padEnd '-' 30 [] ++ ("-+-" ++ Text.padEnd '-' 10 [])

/-- The text of the title, the names of the columns and the line below them. -/
def headText (color : Bool) : Text :=
  '\n' :: (paint color .boldOnly "📊 Accessibility Checksum Summary:" ++
    '\n' :: (rowText "Issue Type" "Count" ++ '\n' :: ruleText))

/-- The lines of a table, as `summary` puts them together. -/
theorem summary_eq (color : Bool) (fs : List Finding) :
    summary color fs = headText color ++ '\n' :: ((groups fs).flatMap groupRow ++
      (ruleText ++ '\n' :: (rowText "Total" (Text.ofNat fs.length) ++ ['\n']))) := by
  have hrule : summaryRule = ruleText ++ ['\n'] := by decide
  unfold summary
  rw [summaryRow_eq, summaryRow_eq, hrule]
  simp [headText]

/-- **The numbers in the table** of `summary` are those of the findings of each kind, and below them
    the number of all findings; the head and the lines across have no numbers. -/
theorem printedRows_summary (color : Bool) (fs : List Finding) :
    printedRows (summary color fs) =
      (groups fs).map (fun g => (g.kind.name, g.findings.length)) ++
        [("Total".toList, fs.length)] := by
  have hhead : printedRows (headText color) = [] := by
    cases color <;> decide
  have hrule : printedRows ruleText = [] := by decide
  have htotal : FitsColumn "Total" := by
    unfold FitsColumn
    decide
  rw [summary_eq, printedRows_append, hhead, printedRows_groupRows, printedRows_append, hrule,
    printedRows_append, printedRows_rowText htotal]
  rfl

/-! ### Both reports -/

/-- The report of `detailed` is the one of no findings, and behind it for each group its heading and
    the lines of its findings. -/
theorem detailed_eq (color : Bool) (fs : List Finding) :
    detailed color fs = detailed color [] ++ (groups fs).flatMap fun g =>
      groupLines color ⟨g.kind, []⟩ ++ g.findings.flatMap (findingLine color) := by
  have hgroup : ∀ g : Group, groupLines color g =
      groupLines color ⟨g.kind, []⟩ ++ g.findings.flatMap (findingLine color) := by
    intro g
    simp [groupLines]
  have hgroups : groupLines color = fun g => groupLines color ⟨g.kind, []⟩ ++
      g.findings.flatMap (findingLine color) := funext hgroup
  have hnone : (groups []).flatMap (groupLines color) = [] := rfl
  unfold detailed
  rw [hnone, List.append_nil, ← hgroups]

/-- **Groups are the findings by kind.** Each kind that occurs has one group, the groups stand in
    the order in which their kinds first occur, and a group holds the findings of its kind in their
    order, so that it is not empty. Therefore the numbers in the table (`printedRows`) add up to the
    one in its last row, and the detailed report has one line for every finding. -/
theorem groups_partition (fs : List Finding) :
    ((groups fs).map Group.kind).Nodup ∧
      ((groups fs).map Group.kind).Pairwise (fun k l =>
        (fs.map Finding.kind).idxOf k < (fs.map Finding.kind).idxOf l) ∧
      (∀ k, k ∈ (groups fs).map Group.kind ↔ ∃ f ∈ fs, f.kind = k) ∧
      (∀ g ∈ groups fs, g.findings = fs.filter (fun f => f.kind = g.kind) ∧ g.findings ≠ []) ∧
      (∀ color, ∃ rows, printedRows (summary color fs) =
          rows ++ [("Total".toList, (rows.map Prod.snd).sum)] ∧
        rows = (groups fs).map (fun g => (g.kind.name, g.findings.length)) ∧
        (rows.map Prod.snd).sum = fs.length) ∧
      (∀ color, detailed color fs = detailed color [] ++ (groups fs).flatMap fun g =>
        groupLines color ⟨g.kind, []⟩ ++ g.findings.flatMap (findingLine color)) ∧
      ((groups fs).flatMap Group.findings).Perm fs := by
  refine ⟨?_, ?_, fun k => mem_kinds_groups, fun g hg => findings_of_mem_groups hg,
    fun color => ?_, fun color => detailed_eq color fs, flatMap_groups_perm fs⟩
  · rw [kinds_groups]
    exact nodup_eraseDups _
  · rw [kinds_groups]
    exact eraseDups_inOrder _
  · have hsum : (((groups fs).map fun g => (g.kind.name, g.findings.length)).map Prod.snd).sum =
        fs.length := by
      rw [List.map_map]
      exact sum_length_groups fs
    exact ⟨_, by rw [hsum]; exact printedRows_summary color fs, rfl, hsum⟩

/-- Three findings, the first and the last of one kind: they are in the first group, in their
    order. -/
theorem groups_partition_three :
    let fs : List Finding := [⟨"a", 3, .headingOrder, "one"⟩, ⟨"a", 1, .missingAlt, "two"⟩,
      ⟨"b", 7, .headingOrder, "three"⟩]
    (⟨.headingOrder, [⟨"a", 3, .headingOrder, "one"⟩, ⟨"b", 7, .headingOrder, "three"⟩]⟩ : Group) ∈
        groups fs ∧
      fs.filter (fun f => f.kind = .headingOrder) =
        [⟨"a", 3, .headingOrder, "one"⟩, ⟨"b", 7, .headingOrder, "three"⟩] ∧
      printedRows (summary true fs) =
        [("heading-order".toList, 2), ("missing-alt".toList, 1), ("Total".toList, 3)] := by
  intro fs
  obtain ⟨-, -, -, hgroup, hrows, -, -⟩ := groups_partition fs
  have hmem : (⟨.headingOrder,
      [⟨"a", 3, .headingOrder, "one"⟩, ⟨"b", 7, .headingOrder, "three"⟩]⟩ : Group) ∈ groups fs := by
    decide
  obtain ⟨rows, hprinted, rfl, -⟩ := hrows true
  exact ⟨hmem, (hgroup _ hmem).1.symm, hprinted⟩

end AccessLint.Report
