import AccessLint.Proofs.Document.Select
import AccessLint.Proofs.Html.Parse
import AccessLint.Proofs.Text.Lowercase
import AccessLint.Proofs.Text.Pattern
import AccessLint.Rule.Link

namespace AccessLint.Rule

/-!
# Notices of a new tab

A notice is one of 32 phrases and nothing else. The rule reads it by a pattern, in lower case of all
scripts and without regard to case; that comes down to the lower case of ASCII and one letter more.

* `IsPhrase`, `IsNotice` — the phrases, and the texts that are read as one of them;
* `mem_phrases_notice`, `describesNewTab_iff` — the pattern has these phrases, so they are recognised;
* `Announces` — how a link gives notice;
* `newTabLinks_notices` — which texts are notices, and which links are reported.
-/

open Html (Element)

/-! ### Phrases -/

/-- The 32 phrases of a notice. -/
def IsPhrase (w : Text) : Prop :=
  ∃ start ∈ (["open", "opens"] : List Text), ∃ link ∈ (["", " in", " a", " in a"] : List Text),
    ∃ target ∈ (["tab", "window", "tab or window", "window or tab"] : List Text),
      w = start ++ link ++ " new " ++ target

/-- A text is a notice of a new tab, without regard to ASCII case and with a long s read as an s. -/
def IsNotice (t : Text) : Prop := IsPhrase (Text.lower (t.map Text.readLongS))

/-- The phrases of the pattern `notice` are the 32 of `IsPhrase`, checked one by one. -/
theorem mem_phrases_notice {w : Text} : w ∈ notice.phrases ↔ IsPhrase w := by
  have hcomplete : ∀ w ∈ notice.phrases, IsPhrase w := by
    unfold IsPhrase
    decide +kernel
  have hsound : ∀ start ∈ (["open", "opens"] : List Text),
      ∀ link ∈ (["", " in", " a", " in a"] : List Text),
        ∀ target ∈ (["tab", "window", "tab or window", "window or tab"] : List Text),
          start ++ link ++ " new " ++ target ∈ notice.phrases := by
    decide +kernel
  constructor
  · exact hcomplete w
  · rintro ⟨start, hstart, link, hlink, target, htarget, rfl⟩
    exact hsound start hstart link hlink target htarget

/-- No phrase has characters beyond ASCII, or a `k`; so `foldedLetter` and lower case of ASCII agree
    on them. -/
theorem ascii_of_mem_phrases : ∀ w ∈ notice.phrases, ∀ x ∈ w, x.toNat < 128 ∧ x ≠ 'k' := by
  -- a check of lists, so that not all characters there are get tried
  have hall : (notice.phrases.all fun w => w.all fun x => x.toNat < 128 && x != 'k') = true := by
    decide +kernel
  simpa using hall

/-- **Notices are recognised exactly**: `describesNewTab` matches a pattern, `IsNotice` lists the
    texts. -/
theorem describesNewTab_iff {t : Text} : describesNewTab t = true ↔ IsNotice t := by
  have hphrase : (Text.toLowercase t).map Text.foldedLetter ∈ notice.phrases ↔
      Text.lower (t.map Text.readLongS) ∈ notice.phrases := by
    constructor
    · intro hmem
      rwa [(Text.map_foldedLetter_toLowercase (ascii_of_mem_phrases _ hmem) t).mp rfl]
    · intro hmem
      rwa [(Text.map_foldedLetter_toLowercase (ascii_of_mem_phrases _ hmem) t).mpr rfl]
  unfold describesNewTab IsNotice
  rw [Text.Pattern.accepts_iff, hphrase, mem_phrases_notice]

example : describesNewTab "Open\u017F a new Window" = true := by decide +kernel

/-! ### Notes inside a link -/

/-- A note for screen readers is an element with one of the two classes, which stand between blanks
    of ASCII in its `class`. -/
theorem isScreenReaderNote_iff {e : Element} : isScreenReaderNote e = true ↔
    ∃ v, e.attr? "class" = some v ∧ (("sr-only" : Text) ∈ Text.words Text.isAsciiSpace v ∨
      ("visually-hidden" : Text) ∈ Text.words Text.isAsciiSpace v) := by
  unfold isScreenReaderNote Element.hasClass
  cases e.attr? "class" with
  | none => simp
  | some v => simp

/-- A link gives notice of a new tab by its label, or by a note for screen readers inside it, whose
    texts taken together are a notice. -/
def Announces (d : Document) (e : ElementAt) : Prop :=
  (∃ v, e.elem.attr? "aria-label" = some v ∧ IsNotice v) ∨
    ∃ note : ElementAt, (∃ n, d.tree.up (n + 1) note.id = some e.id) ∧
      d.tree.element? note.id = some note.elem ∧
      (∃ v, note.elem.attr? "class" = some v ∧
        (("sr-only" : Text) ∈ Text.words Text.isAsciiSpace v ∨
          ("visually-hidden" : Text) ∈ Text.words Text.isAsciiSpace v)) ∧
      IsNotice (d.textOf note)

/-- `announcesNewTab` looks at the label of a link and at all notes inside it, at any depth. -/
theorem announcesNewTab_iff {d : Document} (h : d.tree.Linked) {e : ElementAt} :
    announcesNewTab d e = true ↔ Announces d e := by
  unfold announcesNewTab Announces
  rw [Bool.or_eq_true, Option.any_eq_true, List.any_eq_true]
  simp only [describesNewTab_iff, Document.mem_selectWithin h, isScreenReaderNote_iff, and_assoc]

/-! ### The rule -/

/-- What is reported of a link that opens a new tab without notice. -/
def newTabFinding (d : Document) (label : Text) (e : ElementAt) : Finding :=
  d.report label e .linkNewTabWarning ("<a> with target=\"_blank\" should inform users it " ++
    "opens in a new tab (e.g., via aria-label or screen reader note)" : String).toList

/-- **Notices of a new tab.** A text is a notice exactly if it is one of the phrases (`IsNotice`).
    Of the links that open a new tab the rule reports, in order, exactly those that do not give
    notice (`Announces`): neither by a label that is a notice, nor by a note inside them whose text
    is one. -/
theorem newTabLinks_notices :
    (∀ t, describesNewTab t = true ↔ IsNotice t) ∧
      ∀ (source label : Text) (c : Config), ∃ reported : ElementAt → Bool,
        (∀ e, reported e = true ↔ ¬ Announces (Document.parse source) e) ∧
        newTabLinks.check (Document.parse source) label c =
          (((Document.parse source).select fun e =>
            e.name == "a" && e.attrIs "target" "_blank").filter reported).map
              (newTabFinding (Document.parse source) label) := by
  refine ⟨fun t => describesNewTab_iff, fun source label c =>
    ⟨fun e => !announcesNewTab (Document.parse source) e, fun e => ?_, rfl⟩⟩
  rw [Bool.not_eq_true', ← announcesNewTab_iff (Html.parse_linked source), Bool.not_eq_true]

end AccessLint.Rule
