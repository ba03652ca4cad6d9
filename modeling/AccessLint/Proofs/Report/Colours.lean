import AccessLint.Proofs.Report.Group

namespace AccessLint.Report

/-!
# Colours only decorate

Colours are switched on and off by escape sequences around single pieces of a report. What is deleted
is found in the whole report, where a piece may go on like a sequence or end like one. But every
sequence begins with an escape character, and the pieces have none, so that a report can be read piece
by piece.

* `afterSequence?` — what follows the escape sequence at the start of a text;
* `withoutSequences` — what is left of a text when all escape sequences are deleted;
* `Displays t shown` — all that is left of `t` is `shown`, whatever comes behind it;
* `Displays.append`, `Displays.flatMap`, `displays_paint` — reports are put together of such texts;
* `withoutSequences_reports` — both reports in colours leave the plain ones.
-/

/-! ### Deleting escape sequences -/

/-- Whether a character may stand in the codes of an escape sequence. -/
def isCodeChar (c : Char) : Bool := c.isDigit || c == ';'

/-- What follows the escape sequence at the start of a text: an escape character and a bracket, some
    digits and semicolons, and the letter `m`. -/
def afterSequence? (t : Text) : Option Text :=
  (List.isPrefixOf? [escapeChar, '['] t).bind fun r => List.isPrefixOf? ['m'] (r.dropWhile isCodeChar)

/-- A text begins with an escape sequence exactly if it can be written that way: `afterSequence?`
    reads what `escapeSequence` writes. -/
theorem afterSequence?_eq_some_iff {t rest : Text} :
    afterSequence? t = some rest ↔
      ∃ codes, codes.all isCodeChar = true ∧ t = escapeChar :: '[' :: (codes ++ 'm' :: rest) := by
  unfold afterSequence?
  rw [Option.bind_eq_some_iff]
  constructor
  · rintro ⟨r, hr, hrest⟩
    refine ⟨r.takeWhile isCodeChar, List.all_takeWhile, ?_⟩
    have hm : 'm' :: rest = r.dropWhile isCodeChar := List.append_eq_of_isPrefixOf?_eq_some hrest
    rw [hm, List.takeWhile_append_dropWhile]
    exact (List.append_eq_of_isPrefixOf?_eq_some hr).symm
  · rintro ⟨codes, hcodes, rfl⟩
    refine ⟨codes ++ 'm' :: rest, List.isPrefixOf?_eq_some_iff_append_eq.mpr rfl, ?_⟩
    -- the letter is the first character that is no code
    rw [List.dropWhile_append_of_pos fun c hc => List.all_eq_true.mp hcodes c hc,
      List.dropWhile_cons_of_neg (by decide)]
    exact List.isPrefixOf?_eq_some_iff_append_eq.mpr rfl

/-- A sequence takes some of the text, so `withoutSequences` comes to an end. -/
theorem length_lt_of_afterSequence? {t rest : Text} (h : afterSequence? t = some rest) :
    rest.length < t.length := by
  obtain ⟨codes, -, rfl⟩ := afterSequence?_eq_some_iff.mp h
  simp only [List.length_cons, List.length_append]
  omega

/-- What is left of a text when all escape sequences are deleted, from the first to the last. -/
def withoutSequences : Text → Text
  | [] => []
  | c :: cs =>
    match _hafter : afterSequence? (c :: cs) with
    | some rest => withoutSequences rest
    | none => c :: withoutSequences cs
termination_by t => t.length
decreasing_by
  · exact length_lt_of_afterSequence? _hafter
  · exact Nat.lt_succ_self _

theorem withoutSequences_nil : withoutSequences [] = [] := by
  simp [withoutSequences]

/-- `withoutSequences` deletes a sequence, and what follows it is read on its own. -/
theorem withoutSequences_sequence {codes : Text} (h : codes.all isCodeChar = true) (t : Text) :
    withoutSequences (escapeChar :: '[' :: (codes ++ 'm' :: t)) = withoutSequences t := by
  have hafter : afterSequence? (escapeChar :: '[' :: (codes ++ 'm' :: t)) = some t :=
    afterSequence?_eq_some_iff.mpr ⟨codes, h, rfl⟩
  rw [withoutSequences]
  split
  · next rest hrest =>
    rw [hafter] at hrest
    rw [Option.some.inj hrest]
  · next hnone =>
    rw [hafter] at hnone
    cases hnone

/-- Any other character than an escape character is kept where it stands. -/
theorem withoutSequences_cons {c : Char} (h : c ≠ escapeChar) (t : Text) :
    withoutSequences (c :: t) = c :: withoutSequences t := by
  rw [withoutSequences]
  split
  · next rest hrest =>
    obtain ⟨codes, -, heq⟩ := afterSequence?_eq_some_iff.mp hrest
    exact absurd (List.cons.inj heq).1 h
  · rfl

/-! ### Texts that display another one -/

/-- A text that displays another one: all that is left of it is that text, whatever comes behind it,
    and nothing in there can begin a sequence. -/
structure Displays (t shown : Text) : Prop where
  left : ∀ rest, withoutSequences (t ++ rest) = shown ++ withoutSequences rest
  plain : escapeChar ∉ shown

namespace Displays

variable {t t' u u' : Text}

/-- A text that `Displays` another one leaves it when its sequences are deleted. -/
theorem withoutSequences_eq (h : Displays t t') : withoutSequences t = t' := by
  have hleft := h.left []
  rwa [withoutSequences_nil, List.append_nil, List.append_nil] at hleft

/-- A text without an escape character `Displays` itself, since no sequence begins in it. -/
theorem of_not_mem (h : escapeChar ∉ t) : Displays t t where
  left := by
    intro rest
    induction t with
    | nil => rfl
    | cons c t ih =>
      have hc : c ≠ escapeChar := fun heq => h (heq ▸ List.mem_cons_self)
      have ht : escapeChar ∉ t := fun hmem => h (List.mem_cons_of_mem c hmem)
      rw [List.cons_append, withoutSequences_cons hc, ih ht, List.cons_append]
  plain := h

/-- Texts that are put together by `++` display what they display: what follows a text cannot turn
    it into a sequence. -/
theorem append (h : Displays t t') (h' : Displays u u') : Displays (t ++ u) (t' ++ u') where
  left := by
    intro rest
    rw [List.append_assoc, h.left, h'.left, List.append_assoc]
  plain := by
    intro hmem
    rcases List.mem_append.mp hmem with hmem | hmem
    · exact h.plain hmem
    · exact h'.plain hmem

/-- Texts one after the other display what each of them displays, by induction on the list. -/
theorem flatMap {α : Type} {xs : List α} {f g : α → Text} (h : ∀ x ∈ xs, Displays (f x) (g x)) :
    Displays (xs.flatMap f) (xs.flatMap g) := by
  induction xs with
  | nil => exact of_not_mem List.not_mem_nil
  | cons x xs ih =>
    have hrest := ih fun y hy => h y (List.mem_cons_of_mem x hy)
    exact (h x List.mem_cons_self).append hrest

end Displays

/-! ### Painted texts -/

/-- The codes of a sequence are written with digits and semicolons, so the first `m` ends it. -/
theorem isCodeChar_of_mem_codes {codes : List Nat} {c : Char}
    (h : c ∈ List.intercalate [';'] (codes.map Text.ofNat)) : isCodeChar c = true := by
  unfold isCodeChar
  induction codes with
  | nil => cases h
  | cons n codes ih =>
    cases codes with
    | nil =>
      rw [List.map_singleton, List.intercalate_singleton] at h
      rw [Text.isDigit_of_mem_ofNat h]
      rfl
    | cons m codes =>
      rw [List.map_cons, List.map_cons, List.intercalate_cons_cons, ← List.map_cons] at h
      simp only [List.mem_append, List.mem_singleton] at h
      rcases h with (hn | rfl) | hrest
      · rw [Text.isDigit_of_mem_ofNat hn]
        rfl
      · rfl
      · exact ih hrest

/-- An escape sequence displays nothing, whatever its codes are. -/
theorem displays_escapeSequence (codes : List Nat) : Displays (escapeSequence codes) [] where
  left := by
    intro rest
    have hcodes : (List.intercalate [';'] (codes.map Text.ofNat)).all isCodeChar = true :=
      List.all_eq_true.mpr fun c hc => isCodeChar_of_mem_codes hc
    have hsequence : escapeSequence codes ++ rest =
        escapeChar :: '[' :: (List.intercalate [';'] (codes.map Text.ofNat) ++ 'm' :: rest) := by
      simp [escapeSequence]
    rw [hsequence, withoutSequences_sequence hcodes]
    rfl
  plain := List.not_mem_nil

/-- **A painted text displays the text**: `paint` puts a sequence in front and one behind. -/
theorem displays_paint (s : Style) {t : Text} (h : escapeChar ∉ t) :
    Displays (paint true s t) (paint false s t) := by
  have hpainted := ((displays_escapeSequence s.codes).append (.of_not_mem h)).append
    (displays_escapeSequence [0])
  rw [List.nil_append, List.append_nil] at hpainted
  exact hpainted

/-! ### The two reports -/

/-- The coloured `findingLine` displays the plain one, if the name and the message have no escape
    character. -/
theorem displays_findingLine {f : Finding} (hfile : escapeChar ∉ f.file)
    (hmessage : escapeChar ∉ f.message) :
    Displays (findingLine true f) (findingLine false f) := by
  have hindent : Displays ("  " : Text) ("  " : Text) := .of_not_mem (by decide)
  have hdash := displays_paint (.plain .brightBlack) (t := "-") (by decide)
  have hspace : Displays (" " : Text) (" " : Text) := .of_not_mem (by decide)
  have hname := displays_paint (.plain .green) hfile
  have hcolon : Displays (":" : Text) (":" : Text) := .of_not_mem (by decide)
  have hline := displays_paint (.plain .yellow) (Text.not_mem_ofNat (by decide) f.line)
  have hgap : Displays (" – " : Text) (" – " : Text) := .of_not_mem (by decide)
  have hend : Displays ("\n" : Text) ("\n" : Text) := .of_not_mem (by decide)
  exact (((((((hindent.append hdash).append hspace).append hname).append hcolon).append hline).append
    hgap).append (.of_not_mem hmessage)).append hend

/-- So do the lines of a group (`groupLines`), … -/
theorem displays_groupLines {g : Group}
    (h : ∀ f ∈ g.findings, escapeChar ∉ f.file ∧ escapeChar ∉ f.message) :
    Displays (groupLines true g) (groupLines false g) := by
  have hend : Displays ("\n" : Text) ("\n" : Text) := .of_not_mem (by decide)
  have hplain : escapeChar ∉ (heading g.kind).1 := by
    cases g.kind <;> decide
  have hheading := displays_paint (heading g.kind).2 hplain
  have hlines : Displays (g.findings.flatMap (findingLine true))
      (g.findings.flatMap (findingLine false)) :=
    .flatMap fun f hf => displays_findingLine (h f hf).1 (h f hf).2
  exact ((hend.append hheading).append hend).append hlines

/-- … and the whole detailed report (`detailed`), if all findings of it have no escape character. -/
theorem displays_detailed {fs : List Finding}
    (h : ∀ f ∈ fs, escapeChar ∉ f.file ∧ escapeChar ∉ f.message) :
    Displays (detailed true fs) (detailed false fs) := by
  have hstart : Displays ("\n" : Text) ("\n" : Text) := .of_not_mem (by decide)
  have htitle := displays_paint (.plain .red) (t := "🚨 Accessibility Issues Found:") (by decide)
  have hend : Displays ("\n\n" : Text) ("\n\n" : Text) := .of_not_mem (by decide)
  have hgroups : Displays ((groups fs).flatMap (groupLines true))
      ((groups fs).flatMap (groupLines false)) := by
    refine .flatMap fun g hg => displays_groupLines fun f hf => h f ?_
    -- the findings of a group are findings
    rw [(findings_of_mem_groups hg).1] at hf
    exact List.mem_of_mem_filter hf
  exact ((hstart.append htitle).append hend).append hgroups

/-- A row has no characters but those of its columns, spaces and the bar between them, so no escape
    character. -/
theorem escapeChar_not_mem_summaryRow {left right : Text} (hleft : escapeChar ∉ left)
    (hright : escapeChar ∉ right) : escapeChar ∉ summaryRow left right := by
  have hspace : escapeChar ≠ ' ' := by decide
  have hbar : escapeChar ∉ (" | " : Text) := by decide
  have hend : escapeChar ∉ ("\n" : Text) := by decide
  unfold summaryRow Text.padEnd
  simp only [List.mem_append, List.mem_replicate]
  tauto

/-- The table of `summary` is plain but for its title, so it displays the plain table. -/
theorem displays_summary (fs : List Finding) : Displays (summary true fs) (summary false fs) := by
  have hend : Displays ("\n" : Text) ("\n" : Text) := .of_not_mem (by decide)
  have htitle := displays_paint .boldOnly (t := "📊 Accessibility Checksum Summary:") (by decide)
  have hcolumns : Displays (summaryRow "Issue Type" "Count") (summaryRow "Issue Type" "Count") :=
    .of_not_mem (escapeChar_not_mem_summaryRow (by decide) (by decide))
  have hrule : Displays summaryRule summaryRule := .of_not_mem (by decide)
  have hrows : Displays ((groups fs).flatMap groupRow) ((groups fs).flatMap groupRow) := by
    refine .flatMap fun g _ => .of_not_mem (escapeChar_not_mem_summaryRow ?_ ?_)
    · cases g.kind <;> decide
    · exact Text.not_mem_ofNat (by decide) _
  have htotal : Displays (summaryRow "Total" (Text.ofNat fs.length))
      (summaryRow "Total" (Text.ofNat fs.length)) :=
    .of_not_mem (escapeChar_not_mem_summaryRow (by decide) (Text.not_mem_ofNat (by decide) _))
  exact ((((((hend.append htitle).append hend).append hcolumns).append hrule).append hrows).append
    hrule).append htotal

/-- **Colours only decorate.** Deleting all escape sequences (`withoutSequences`) from a report in
    colours gives the plain report, which has no escape character at all, if the names and messages
    of the findings have none. -/
theorem withoutSequences_reports (fs : List Finding)
    (h : ∀ f ∈ fs, escapeChar ∉ f.file ∧ escapeChar ∉ f.message) :
    (withoutSequences (detailed true fs) = detailed false fs ∧ escapeChar ∉ detailed false fs) ∧
      withoutSequences (summary true fs) = summary false fs ∧ escapeChar ∉ summary false fs := by
  have hdetailed := displays_detailed h
  have hsummary := displays_summary fs
  exact ⟨⟨hdetailed.withoutSequences_eq, hdetailed.plain⟩,
    hsummary.withoutSequences_eq, hsummary.plain⟩

/-- A name and a message that go on like a sequence, right behind the real ones: nothing of them is
    deleted. -/
theorem withoutSequences_reports_brackets :
    let fs : List Finding := [⟨"[31m", 4, .headingOrder, "[0m;1m"⟩, ⟨"0m", 7, .contrast, "m"⟩]
    (∀ f ∈ fs, escapeChar ∉ f.file ∧ escapeChar ∉ f.message) ∧
      detailed true fs ≠ detailed false fs ∧
      withoutSequences (detailed true fs) = detailed false fs ∧
      withoutSequences (summary true fs) = summary false fs := by
  intro fs
  have hplain : ∀ f ∈ fs, escapeChar ∉ f.file ∧ escapeChar ∉ f.message := by decide
  have hpainted : detailed true fs ≠ detailed false fs := by decide
  obtain ⟨⟨hdetailed, -⟩, hsummary, -⟩ := withoutSequences_reports fs hplain
  exact ⟨hplain, hpainted, hdetailed, hsummary⟩

end AccessLint.Report
