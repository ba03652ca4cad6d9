import AccessLint.Proofs.Document.Select
import AccessLint.Rule.AltText

namespace AccessLint

/-!
# Text alternatives, image by image

The rule on images looks at the first image of each line. What it finds at an image with a text is
decided by two questions, one after the other, and by the text itself if both are answered with no.

* `Document.hasAncestor_iff` — what an element is inside of, by the links of the tree;
* `Rule.firstImages` — the images that come first on their lines;
* `Rule.IsDescribedDecoration`, `Rule.IsSilentControl` — the two questions;
* `Rule.altTextFaults_kinds`, `Rule.altFaults_cases` — the kinds of what is found at an image;
* `Rule.altText_findings` — what the rule finds in a document.
-/

open Html (Element)

/-- An element is inside another one if some number of steps up leads there: `Document.hasAncestor`
    walks up the tree. -/
theorem Document.hasAncestor_iff {d : Document} {e : ElementAt} {names : List Text} :
    d.hasAncestor e names = true ↔
      ∃ n p a, d.tree.up (n + 1) e.id = some p ∧ d.tree.element? p = some a ∧ a.name ∈ names := by
  unfold hasAncestor
  rw [List.any_eq_true]
  constructor
  · rintro ⟨⟨p, a⟩, hmem, hname⟩
    obtain ⟨habove, ha⟩ := Html.Tree.mem_elementsAmong.mp hmem
    obtain ⟨n, hn⟩ := (d.tree.mem_ancestors e.id p).mp habove
    exact ⟨n, p, a, hn, ha, List.contains_iff_mem.mp hname⟩
  · rintro ⟨n, p, a, hn, ha, hname⟩
    have habove := (d.tree.mem_ancestors e.id p).mpr ⟨n, hn⟩
    exact ⟨(p, a), Html.Tree.mem_elementsAmong.mpr ⟨habove, ha⟩, List.contains_iff_mem.mpr hname⟩

namespace Rule

/-! ### The first element of each line -/

/-- `firstOfLine` keeps an element if no earlier one is on its line. The lines that were seen before
    are general in the induction. -/
theorem firstOfLine_eq_filter (line : ElementAt → Nat) {es : List ElementAt} (h : es.Nodup)
    (seen : List Nat) :
    firstOfLine line seen es = es.filter fun e =>
      !seen.contains (line e) && es.find? (fun x => line x == line e) == some e := by
  induction es generalizing seen with
  | nil => rfl
  | cons e es ih =>
    obtain ⟨hnotin, hnodup⟩ := List.nodup_cons.mp h
    -- on another line, the first element is the same without `e`
    have hother : ∀ x, line e ≠ line x →
        (e :: es).find? (fun y => line y == line x) = es.find? fun y => line y == line x :=
      fun x hx => List.find?_cons_of_neg (by simpa using hx)
    have hself : (e :: es).find? (fun y => line y == line e) = some e :=
      List.find?_cons_of_pos (beq_self_eq_true (line e))
    rw [firstOfLine]
    by_cases hseen : seen.contains (line e) = true
    · rw [if_pos hseen, ih hnodup, List.filter_cons_of_neg (by rw [hseen]; exact Bool.false_ne_true)]
      refine List.filter_congr fun x hx => ?_
      by_cases hline : line e = line x
      · rw [← hline, hseen]
        rfl
      · rw [hother x hline]
    · rw [if_neg hseen, ih hnodup, List.filter_cons_of_pos (by rw [hself]; simpa using hseen)]
      refine congrArg (e :: ·) (List.filter_congr fun x hx => ?_)
      rw [List.contains_cons]
      by_cases hline : line e = line x
      · have hne : (some e == some x) = false :=
          beq_false_of_ne fun heq => hnotin (Option.some.inj heq ▸ hx)
        rw [← hline, hself, hne, beq_self_eq_true, Bool.true_or, Bool.and_false]
        rfl
      · rw [hother x hline, beq_false_of_ne (Ne.symm hline), Bool.false_or]

/-- The images that come first on their lines, in the order of their creation. -/
def firstImages (d : Document) : List ElementAt :=
  let images := d.select fun e => e.name == "img"
  images.filter fun img => images.find? (fun e => d.lineOf e == d.lineOf img) == some img

/-- Of the selected images `firstOfLine` keeps those of `firstImages`. -/
theorem firstOfLine_images (d : Document) :
    firstOfLine d.lineOf [] (d.select fun e => e.name == "img") = firstImages d :=
  firstOfLine_eq_filter d.lineOf (Document.nodup_select _) []

/-! ### What is found at an image -/

/-- What the rule finds at an image. -/
def altFindings (d : Document) (label : Text) (c : Config) (img : ElementAt) : List Finding :=
  (altFaults d (c.isEnabled redundantTitleKey) img).map fun (kind, message) =>
    d.report label img kind message

variable {d : Document} {img : ElementAt} {alt : Text}

/-- An image is marked as a decoration, but has a text. -/
def IsDescribedDecoration (img : ElementAt) (alt : Text) : Prop :=
  alt ≠ [] ∧ (img.elem.attr? "role" = some ("presentation" : Text) ∨
    img.elem.attr? "role" = some ("none" : Text))

/-- An image has a blank text and is inside a link or a button. -/
def IsSilentControl (d : Document) (img : ElementAt) (alt : Text) : Prop :=
  Text.isBlank alt = true ∧ ∃ n p a, d.tree.up (n + 1) img.id = some p ∧
    d.tree.element? p = some a ∧ (a.name = ("a" : Text) ∨ a.name = ("button" : Text))

/-- A title says the same as the text of its image (`repeatsAlt`): both are there, and agree but for
    blanks around them and for case. -/
theorem repeatsAlt_iff {title : Text} : repeatsAlt alt title = true ↔
    alt ≠ [] ∧ title ≠ [] ∧
      Text.toLowercase (Text.trim alt) = Text.toLowercase (Text.trim title) := by
  unfold repeatsAlt
  simp [and_assoc]

/-- The kinds of three faults, each under its own condition. -/
def textKinds (blank long redundant : Bool) : List Kind :=
  (if blank then [.altEmpty] else []) ++ (if long then [.altTooLong] else []) ++
    (if redundant then [.redundantTitle] else [])

theorem textKinds_sublist : ∀ blank long redundant,
    (textKinds blank long redundant).Sublist [.altEmpty, .altTooLong, .redundantTitle] := by
  decide

theorem mem_textKinds : ∀ blank long redundant,
    (.altEmpty ∈ textKinds blank long redundant ↔ blank = true) ∧
      (.altTooLong ∈ textKinds blank long redundant ↔ long = true) ∧
      (.redundantTitle ∈ textKinds blank long redundant ↔ redundant = true) := by
  decide

/-- **The faults of a text by itself** are reported in one order, and each under its own condition:
    `altTextFaults` asks three questions that do not depend on each other. -/
theorem altTextFaults_kinds (checksTitle : Bool) (alt : Text) (title : Option Text) :
    ((altTextFaults checksTitle alt title).map Prod.fst).Sublist
        [.altEmpty, .altTooLong, .redundantTitle] ∧
      (.altEmpty ∈ (altTextFaults checksTitle alt title).map Prod.fst ↔
        alt ≠ [] ∧ Text.isBlank alt = true) ∧
      (.altTooLong ∈ (altTextFaults checksTitle alt title).map Prod.fst ↔ 30 < alt.length) ∧
      (.redundantTitle ∈ (altTextFaults checksTitle alt title).map Prod.fst ↔
        checksTitle = true ∧ ∃ t, title = some t ∧ alt ≠ [] ∧ t ≠ [] ∧
          Text.toLowercase (Text.trim alt) = Text.toLowercase (Text.trim t)) := by
  -- which kinds there are depends on three conditions only
  have hkinds : (altTextFaults checksTitle alt title).map Prod.fst =
      textKinds (!alt.isEmpty && Text.isBlank alt) (decide (maxAltLength < alt.length))
        (checksTitle && (title.map (repeatsAlt alt)).getD false) := by
    unfold altTextFaults textKinds
    simp only [List.map_append, apply_ite (List.map Prod.fst), List.map_cons, List.map_nil,
      decide_eq_true_eq]
  rw [hkinds]
  obtain ⟨hblank, hlong, hredundant⟩ := mem_textKinds (!alt.isEmpty && Text.isBlank alt)
    (decide (maxAltLength < alt.length)) (checksTitle && (title.map (repeatsAlt alt)).getD false)
  refine ⟨textKinds_sublist _ _ _, hblank.trans (by simp), hlong.trans decide_eq_true_iff,
    hredundant.trans ?_⟩
  rw [Bool.and_eq_true]
  refine and_congr_right fun _ => ?_
  cases title with
  | none => simp
  | some t => simp [repeatsAlt_iff]

/-- **The questions about an image** with a text, one after the other: `altFaults` looks at the text
    by itself only if both are answered with no. -/
theorem altFaults_cases (d : Document) (checksTitle : Bool) (halt : img.elem.attr? "alt" = some alt) :
    (IsDescribedDecoration img alt ∧
        (altFaults d checksTitle img).map Prod.fst = [.altDecorativeIncorrect]) ∨
      (¬ IsDescribedDecoration img alt ∧ IsSilentControl d img alt ∧
        (altFaults d checksTitle img).map Prod.fst = [.altFunctionalEmpty]) ∨
      (¬ IsDescribedDecoration img alt ∧ ¬ IsSilentControl d img alt ∧
        altFaults d checksTitle img = altTextFaults checksTitle alt (img.elem.attr? "title")) := by
  have hdecoration :
      (isDecorative img.elem && !alt.isEmpty) = true ↔ IsDescribedDecoration img alt := by
    unfold isDecorative IsDescribedDecoration
    simp [and_comm]
  have hcontrol : (Text.isBlank alt && d.hasAncestor img ["a", "button"]) = true ↔
      IsSilentControl d img alt := by
    rw [Bool.and_eq_true, Document.hasAncestor_iff]
    unfold IsSilentControl
    simp
  -- the two conditions are tested in this order, and either one ends the check
  unfold altFaults
  rw [halt]
  dsimp only
  rw [← hdecoration, ← hcontrol]
  split
  · next h => exact Or.inl ⟨h, rfl⟩
  · next h =>
    split
    · next h' => exact Or.inr (Or.inl ⟨h, h', rfl⟩)
    · next h' => exact Or.inr (Or.inr ⟨h, h', rfl⟩)

/-- The kinds of what the rule finds at an image. -/
def altKinds (d : Document) (label : Text) (c : Config) (img : ElementAt) : List Kind :=
  (altFindings d label c img).map Finding.kind

section

variable (label : Text) (c : Config)

/-- `altKinds`, the kinds of the findings, are those of the faults (`altFaults`), in their order. -/
theorem altKinds_eq (d : Document) (img : ElementAt) : altKinds d label c img =
    (altFaults d (c.isEnabled redundantTitleKey) img).map Prod.fst := by
  unfold altKinds altFindings
  rw [List.map_map]
  rfl

/-- The faults of a text by itself are none of those that stand alone, so the kinds tell which case
    of `altFaults_cases` it was. -/
theorem altTextFaults_kinds_ne (checksTitle : Bool) (alt : Text) (title : Option Text) {k : Kind}
    (hk : k ∉ [Kind.altEmpty, .altTooLong, .redundantTitle]) :
    (altTextFaults checksTitle alt title).map Prod.fst ≠ [k] := by
  intro heq
  have hsub := (altTextFaults_kinds checksTitle alt title).1
  rw [heq] at hsub
  exact hk (hsub.subset List.mem_cons_self)

/-- The missing text is reported alone (`Kind.missingAlt`), and only where there is none. -/
theorem altKinds_eq_missingAlt_iff :
    altKinds d label c img = [.missingAlt] ↔ img.elem.attr? "alt" = none := by
  rw [altKinds_eq]
  cases halt : img.elem.attr? "alt" with
  | none =>
    refine iff_of_true ?_ rfl
    unfold altFaults
    rw [halt]
    rfl
  | some alt =>
    refine iff_of_false ?_ (Option.some_ne_none alt)
    rcases altFaults_cases d (c.isEnabled redundantTitleKey) halt with
      ⟨-, h⟩ | ⟨-, -, h⟩ | ⟨-, -, h⟩
    · rw [h]
      decide
    · rw [h]
      decide
    · rw [h]
      exact altTextFaults_kinds_ne _ _ _ (by decide)

/-- A described decoration (`IsDescribedDecoration`) and a silent control (`IsSilentControl`) are
    each reported alone, and nothing else is reported like that. -/
theorem altKinds_eq_iff (halt : img.elem.attr? "alt" = some alt) :
    (altKinds d label c img = [.altDecorativeIncorrect] ↔ IsDescribedDecoration img alt) ∧
      (altKinds d label c img = [.altFunctionalEmpty] ↔
        ¬ IsDescribedDecoration img alt ∧ IsSilentControl d img alt) := by
  rw [altKinds_eq]
  rcases altFaults_cases d (c.isEnabled redundantTitleKey) halt with
    ⟨hyes, h⟩ | ⟨hno, hyes, h⟩ | ⟨hno, hno', h⟩
  · rw [h]
    exact ⟨iff_of_true rfl hyes, iff_of_false (by decide) fun h => h.1 hyes⟩
  · rw [h]
    exact ⟨iff_of_false (by decide) hno, iff_of_true rfl ⟨hno, hyes⟩⟩
  · rw [h]
    exact ⟨iff_of_false (altTextFaults_kinds_ne _ _ _ (by decide)) hno,
      iff_of_false (altTextFaults_kinds_ne _ _ _ (by decide)) fun h => hno' h.2⟩

/-- If both questions are answered with no, the faults of the text (`altTextFaults`) are reported,
    with or without the comparison of titles as the configuration has it. -/
theorem altKinds_text (halt : img.elem.attr? "alt" = some alt)
    (hdecoration : ¬ IsDescribedDecoration img alt) (hcontrol : ¬ IsSilentControl d img alt) :
    altKinds d label c img = (altTextFaults (c.isEnabled redundantTitleKey) alt
      (img.elem.attr? "title")).map Prod.fst := by
  rw [altKinds_eq]
  rcases altFaults_cases d (c.isEnabled redundantTitleKey) halt with
    ⟨hyes, -⟩ | ⟨-, hyes, -⟩ | ⟨-, -, h⟩
  · exact absurd hyes hdecoration
  · exact absurd hyes hcontrol
  · rw [h]

/-- What `altFindings` has at an image is on its line, under the label of the page. -/
theorem altFindings_place {f : Finding} (hf : f ∈ altFindings d label c img) :
    f.file = label ∧ f.line = d.lineOf img := by
  obtain ⟨p, -, rfl⟩ := List.mem_map.mp hf
  exact ⟨rfl, Nat.max_eq_left (Source.one_le_lineAt _ _)⟩

end

/-! ### What is found in a document -/

/-- **Text alternatives.** The rule `altText` reports what it finds at the images that come first on
    their lines, in their order and each on its line. At an image without a text this is the missing
    text alone; at a decoration that has a text, this fault alone; otherwise, at an image with a
    blank text in a link or a button, that fault alone; and else the faults of the text by itself,
    each under its own condition. -/
theorem altText_findings (d : Document) (label : Text) (c : Config) :
    altText.check d label c = (firstImages d).flatMap (altFindings d label c) ∧
      ∀ img,
        (∀ f ∈ altFindings d label c img, f.file = label ∧ f.line = d.lineOf img) ∧
        (altKinds d label c img = [.missingAlt] ↔ img.elem.attr? "alt" = none) ∧
        ∀ alt, img.elem.attr? "alt" = some alt →
          (altKinds d label c img = [.altDecorativeIncorrect] ↔ IsDescribedDecoration img alt) ∧
          (altKinds d label c img = [.altFunctionalEmpty] ↔
            ¬ IsDescribedDecoration img alt ∧ IsSilentControl d img alt) ∧
          (¬ IsDescribedDecoration img alt → ¬ IsSilentControl d img alt →
            (altKinds d label c img).Sublist [.altEmpty, .altTooLong, .redundantTitle] ∧
            (.altEmpty ∈ altKinds d label c img ↔ alt ≠ [] ∧ Text.isBlank alt = true) ∧
            (.altTooLong ∈ altKinds d label c img ↔ 30 < alt.length) ∧
            (.redundantTitle ∈ altKinds d label c img ↔ c.isEnabled redundantTitleKey = true ∧
              ∃ title, img.elem.attr? "title" = some title ∧ alt ≠ [] ∧ title ≠ [] ∧
                Text.toLowercase (Text.trim alt) = Text.toLowercase (Text.trim title))) := by
  have hcheck : altText.check d label c = (firstImages d).flatMap (altFindings d label c) := by
    rw [← firstOfLine_images]
    rfl
  refine ⟨hcheck, fun img => ⟨fun f hf => altFindings_place label c hf,
    altKinds_eq_missingAlt_iff label c, fun alt halt => ?_⟩⟩
  obtain ⟨hdecoration, hcontrol⟩ := altKinds_eq_iff (d := d) label c halt
  refine ⟨hdecoration, hcontrol, fun hno hno' => ?_⟩
  rw [altKinds_text label c halt hno hno']
  exact altTextFaults_kinds _ _ _

/-- Of two images on one line, the first has a title that repeats its text in other letters, and the
    second is not looked at. -/
theorem altText_findings_repeated :
    ∃ img ∈ firstImages (Document.parse "<img alt=\"Ab\" title=\" aB \"><img>"),
      img.elem.attr? "alt" = some ("Ab" : Text) ∧ ¬ IsDescribedDecoration img "Ab" ∧
      ¬ IsSilentControl (Document.parse "<img alt=\"Ab\" title=\" aB \"><img>") img "Ab" ∧
      .redundantTitle ∈
        altKinds (Document.parse "<img alt=\"Ab\" title=\" aB \"><img>") "p" .default img ∧
      (altText.check (Document.parse "<img alt=\"Ab\" title=\" aB \"><img>") "p" .default).map
        (fun f => (f.line, f.kind)) = [(1, .redundantTitle)] := by
  obtain ⟨hcheck, hkinds⟩ :=
    altText_findings (Document.parse "<img alt=\"Ab\" title=\" aB \"><img>") "p" .default
  obtain ⟨-, -, htext⟩ :=
    hkinds ⟨4, ⟨.html, "img", [⟨.none, "alt", "Ab"⟩, ⟨.none, "title", " aB "⟩]⟩⟩
  have hdecoration : ¬ IsDescribedDecoration
      ⟨4, ⟨.html, "img", [⟨.none, "alt", "Ab"⟩, ⟨.none, "title", " aB "⟩]⟩⟩ "Ab" := by
    rintro ⟨-, hrole⟩
    exact absurd hrole (by decide)
  have hcontrol : ¬ IsSilentControl (Document.parse "<img alt=\"Ab\" title=\" aB \"><img>")
      ⟨4, ⟨.html, "img", [⟨.none, "alt", "Ab"⟩, ⟨.none, "title", " aB "⟩]⟩⟩ "Ab" := by
    rintro ⟨hblank, -⟩
    exact absurd hblank (by decide)
  obtain ⟨-, -, -, hredundant⟩ := (htext "Ab" (by decide)).2.2 hdecoration hcontrol
  refine ⟨⟨4, ⟨.html, "img", [⟨.none, "alt", "Ab"⟩, ⟨.none, "title", " aB "⟩]⟩⟩, by decide +kernel,
    by decide, hdecoration, hcontrol, hredundant.mpr ⟨rfl, " aB ", by decide, by decide, by decide,
      by decide +kernel⟩, ?_⟩
  rw [hcheck]
  decide +kernel

end Rule

end AccessLint
