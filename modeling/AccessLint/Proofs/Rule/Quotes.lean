import AccessLint.Proofs.Document.Select
import AccessLint.Proofs.Json.Scalar
import AccessLint.Proofs.Lint.Order
import AccessLint.Proofs.Rule.AltText
import AccessLint.Proofs.Rule.Contrast
import AccessLint.Proofs.Text.Lower

namespace AccessLint

/-!
# What messages quote

Most messages of the rules are fixed texts with numbers and names in them. Five kinds of findings quote
a value of the page as it stands there, line feeds included.

* `Rule.quoted?` — what a finding of a kind quotes of an element;
* `BreaksByQuote` — the line feeds of a message are those of what it quotes of the element where the
  finding was made;
* `Rule.altText_breaks`, … — so it is for every rule of the catalogue;
* `lint_breaks` — and for all findings of a run.
-/

open Html (Element)

/-! ### Texts without line feeds -/

theorem Text.newline_not_mem_ofNat (n : Nat) : '\n' ∉ ofNat n := not_mem_ofNat (by decide) n

/-- A number with fixed places (`Decimal.fixed`) has no line feed: digits, a sign, a point, or a
    word for what is no number. -/
theorem Decimal.newline_not_mem_fixed (places : Nat) (x : Float) : '\n' ∉ fixed places x := by
  have hpadded : ∀ width n, '\n' ∉ padded width n := by
    intro width n
    have hzero : '\n' ≠ '0' := by decide
    simp [padded, hzero, Text.newline_not_mem_ofNat]
  have hsign : ∀ negative : Bool, '\n' ∉ (if negative then ['-'] else [] : Text) := by decide
  unfold fixed
  dsimp only
  by_cases hplaces : places = 0
  · rw [if_pos hplaces, List.mem_append]
    exact not_or_intro (hsign _) (Text.newline_not_mem_ofNat _)
  · have hpoint : '\n' ≠ '.' := by decide
    rw [if_neg hplaces, List.mem_append, List.mem_append, List.mem_cons]
    exact not_or_intro (not_or_intro (hsign _) (Text.newline_not_mem_ofNat _))
      (not_or_intro hpoint (hpadded _ _))

/-- A message that is put together of texts without line feeds has none. -/
theorem Text.newline_not_mem_between {before t after : Text} (hbefore : '\n' ∉ before)
    (ht : '\n' ∉ t) (hafter : '\n' ∉ after) : '\n' ∉ before ++ t ++ after := by
  rw [List.mem_append, List.mem_append]
  exact not_or_intro (not_or_intro hbefore ht) hafter

/-- Texts without line feeds around another one add none, so a message has as many as what it
    quotes. -/
theorem Text.count_newline_between {before after : Text} (hbefore : '\n' ∉ before)
    (hafter : '\n' ∉ after) (t : Text) : (before ++ t ++ after).count '\n' = t.count '\n' := by
  rw [List.count_append, List.count_append, List.count_eq_zero.mpr hbefore,
    List.count_eq_zero.mpr hafter, Nat.zero_add, Nat.add_zero]

/-! ### Names and fixed values -/

/-- An attribute that `attrIs` compares with a value differs from it in the case of letters at most,
    so it has no line feed if the value has none. -/
theorem Html.Element.exists_of_attrIs {e : Element} {name value : Text}
    (h : e.attrIs name value = true) :
    ∃ v, e.attr? name = some v ∧ Text.lower v = Text.lower value := by
  unfold attrIs at h
  cases hv : e.attr? name with
  | none =>
    rw [hv] at h
    cases h
  | some v =>
    rw [hv] at h
    refine ⟨v, rfl, ?_⟩
    dsimp only at h
    split at h
    · exact beq_iff_eq.mp h
    · rw [beq_iff_eq.mp h]

namespace Rule

/-- The elements that need a name have names without line feeds: `needsName` lists them. -/
theorem newline_not_mem_of_needsName {e : Element} (h : needsName e = true) : '\n' ∉ e.name := by
  have hlist : ∀ name ∈ (["button", "svg", "form", "section", "nav", "aside", "main", "dialog"] :
      List Text), '\n' ∉ name := by decide
  have hlink : '\n' ∉ ("a" : Text) := by decide
  have hinput : '\n' ∉ ("input" : Text) := by decide
  unfold needsName at h
  rcases Bool.or_eq_true_iff.mp h with h | h
  · rcases Bool.or_eq_true_iff.mp h with h | h
    · exact hlist _ (List.contains_iff_mem.mp h)
    · rw [beq_iff_eq.mp (Bool.and_eq_true_iff.mp h).1]
      exact hlink
  · rw [beq_iff_eq.mp (Bool.and_eq_true_iff.mp h).1]
    exact hinput

/-- The names of headings (`isHeading`) have no line feeds, since there are six of them. -/
theorem newline_not_mem_of_isHeading {e : Element} (h : isHeading e = true) : '\n' ∉ e.name := by
  have hlist : ∀ name ∈ (["h1", "h2", "h3", "h4", "h5", "h6"] : List Text), '\n' ∉ name := by decide
  exact hlist _ (List.contains_iff_mem.mp h)

/-- The type of a checkbox or a radio button (`isToggle`) has no line feed, so a message may name
    it. -/
theorem newline_not_mem_of_isToggle {e : Element} (h : isToggle e = true) :
    '\n' ∉ (e.attr? "type").getD [] := by
  have hplain : ∀ value : Text, '\n' ∉ value → e.attrIs "type" value = true →
      '\n' ∉ (e.attr? "type").getD [] := by
    intro value hvalue htype
    obtain ⟨v, hv, hlower⟩ := Element.exists_of_attrIs htype
    rw [hv, Option.getD_some, ← Text.mem_lower (by decide), hlower, Text.mem_lower (by decide)]
    exact hvalue
  rcases Bool.or_eq_true_iff.mp (Bool.and_eq_true_iff.mp h).2 with htype | htype
  · exact hplain "checkbox" (by decide) htype
  · exact hplain "radio" (by decide) htype

/-! ### Quotations -/

/-- What a finding of a kind quotes of an element: the value of an attribute, or the two colours of a
    style. -/
def quoted? : Kind → Element → Option Text
  | .redundantTitle, e => e.attr? "alt"
  | .ariaInvalid, e => e.attr? "aria-labelledby"
  | .ariaRoleInvalid, e => e.attr? "role"
  | .labelForMissing, e => e.attr? "for"
  | .contrast, e => do
    let declarations := inlineStyle (← e.attr? "style")
    return (← styleValue? declarations "color") ++ (← styleValue? declarations "background-color")
  | _, _ => none

end Rule

/-- What is said of a finding: if its message has line feeds, the finding was made at an element, and
    the line feeds are those of what it quotes of that element. -/
def BreaksByQuote (d : Document) (label : Text) (f : Finding) : Prop :=
  '\n' ∈ f.message → ∃ e ∈ d.select fun _ => true, f = d.report label e f.kind f.message ∧
    ∃ q, Rule.quoted? f.kind e.elem = some q ∧ f.message.count '\n' = q.count '\n'

namespace Rule

variable {d : Document} {label : Text} {e : ElementAt}

/-- A message without line feeds meets `BreaksByQuote`, whatever element it is about. -/
theorem breaks_of_plain {line : Nat} {k : Kind} {message : Text} (h : '\n' ∉ message) :
    BreaksByQuote d label (Finding.of label line k message) :=
  fun hmem => absurd hmem h

/-- Findings at one element after the other, with messages without line feeds. -/
theorem breaks_of_plain_map {es : List ElementAt} {k : Kind} {message : ElementAt → Text}
    (h : ∀ e ∈ es, '\n' ∉ message e) :
    ∀ f ∈ es.map fun e => d.report label e k (message e), BreaksByQuote d label f := by
  intro f hf
  obtain ⟨e, he, rfl⟩ := List.mem_map.mp hf
  exact breaks_of_plain (h e he)

/-- A message with as many line feeds as what it quotes of an element (`quoted?`) meets
    `BreaksByQuote`. -/
theorem breaks_of_quoted (he : e ∈ d.select fun _ => true) {k : Kind} {q message : Text}
    (hq : quoted? k e.elem = some q) (hcount : message.count '\n' = q.count '\n') :
    BreaksByQuote d label (d.report label e k message) :=
  fun _ => ⟨e, he, rfl, q, hq, hcount⟩

theorem mem_select_all {p : Element → Bool} (he : e ∈ d.select p) : e ∈ d.select fun _ => true :=
  Document.mem_select.mpr ⟨(Document.mem_select.mp he).1, rfl⟩

/-! ### Images -/

/-- Of the faults of an `alt` text only the repeated title quotes it; all others have messages of
    their own. -/
theorem altTextFaults_breaks (checksTitle : Bool) {alt : Text} (title : Option Text)
    (halt : e.elem.attr? "alt" = some alt) (he : e ∈ d.select fun _ => true) :
    ∀ p ∈ altTextFaults checksTitle alt title,
      BreaksByQuote d label (d.report label e p.1 p.2) := by
  intro p hp
  unfold altTextFaults at hp
  rcases List.mem_append.mp hp with hp | hp
  · rcases List.mem_append.mp hp with hp | hp
    · obtain ⟨-, hp⟩ := List.mem_ite_nil_right.mp hp
      obtain rfl := List.mem_singleton.mp hp
      exact breaks_of_plain (by decide)
    · obtain ⟨-, hp⟩ := List.mem_ite_nil_right.mp hp
      obtain rfl := List.mem_singleton.mp hp
      exact breaks_of_plain
        (Text.newline_not_mem_between (by decide) (Text.newline_not_mem_ofNat _) (by decide))
  · obtain ⟨-, hp⟩ := List.mem_ite_nil_right.mp hp
    obtain rfl := List.mem_singleton.mp hp
    exact breaks_of_quoted he halt (Text.count_newline_between (by decide) (by decide) alt)

/-- Findings on images have the line feeds of the `alt` text that they quote. -/
theorem altText_breaks (c : Config) :
    ∀ f ∈ altText.check d label c, BreaksByQuote d label f := by
  intro f hf
  obtain ⟨img, himg, hf⟩ := List.mem_flatMap.mp hf
  obtain ⟨p, hp, rfl⟩ := List.mem_map.mp hf
  rw [firstOfLine_images] at himg
  have he := mem_select_all (List.mem_of_mem_filter himg)
  unfold altFaults at hp
  split at hp
  · obtain rfl := List.mem_singleton.mp hp
    exact breaks_of_plain (by decide)
  · next alt halt =>
    split at hp
    · obtain rfl := List.mem_singleton.mp hp
      exact breaks_of_plain (by decide)
    · split at hp
      · obtain rfl := List.mem_singleton.mp hp
        exact breaks_of_plain (by decide)
      · exact altTextFaults_breaks _ _ halt he p hp

/-! ### Accessible names and roles -/

/-- Findings on `aria-label` and `aria-labelledby` have the line feeds of the references that they
    quote. -/
theorem ariaLabels_breaks (c : Config) :
    ∀ f ∈ ariaLabels.check d label c, BreaksByQuote d label f := by
  intro f hf
  obtain ⟨e, he, hf⟩ := List.mem_flatMap.mp hf
  obtain ⟨message, hmessage, rfl⟩ := List.mem_map.mp hf
  unfold labelFaults at hmessage
  -- only the second message quotes the attribute
  rcases List.mem_append.mp hmessage with hblank | hdangling
  · split at hblank
    · obtain ⟨-, hblank⟩ := List.mem_ite_nil_right.mp hblank
      obtain rfl := List.mem_singleton.mp hblank
      exact breaks_of_plain (by decide)
    · cases hblank
  · split at hdangling
    · next ids hids =>
      obtain ⟨-, hdangling⟩ := List.mem_ite_nil_right.mp hdangling
      obtain rfl := List.mem_singleton.mp hdangling
      have hquoted : e.elem.attr? "aria-labelledby" = some ids :=
        (Option.filter_eq_some_iff.mp hids).1
      refine breaks_of_quoted (mem_select_all he) hquoted ?_
      rw [← List.append_nil (_ ++ ids)]
      exact Text.count_newline_between (by decide) List.not_mem_nil ids
    · cases hdangling

/-- Findings of `missingAria` quote the name of an element, which has no line feed. -/
theorem missingAria_breaks (c : Config) :
    ∀ f ∈ missingAria.check d label c, BreaksByQuote d label f := by
  refine breaks_of_plain_map fun e he => ?_
  have hname := newline_not_mem_of_needsName (Document.mem_select.mp (List.mem_of_mem_filter he)).2
  exact Text.newline_not_mem_between (by decide) hname (by decide)

/-- Findings of `ariaRoles` have the line feeds of the role that they quote. -/
theorem ariaRoles_breaks (c : Config) :
    ∀ f ∈ ariaRoles.check d label c, BreaksByQuote d label f := by
  intro f hf
  obtain ⟨e, he, hf⟩ := List.mem_filterMap.mp hf
  split at hf
  · next role hrole =>
    split at hf
    · cases hf
    · obtain rfl := Option.some.inj hf
      exact breaks_of_quoted (mem_select_all he) hrole
        (Text.count_newline_between (by decide) (by decide) role)
  · cases hf

theorem landmarkRoles_breaks (c : Config) :
    ∀ f ∈ landmarkRoles.check d label c, BreaksByQuote d label f := by
  intro f hf
  dsimp only [landmarkRoles] at hf
  obtain ⟨-, hf⟩ := List.mem_ite_nil_right.mp hf
  obtain rfl := List.mem_singleton.mp hf
  exact breaks_of_plain (by decide)

/-! ### Contrast -/

/-- A style for which `lowContrast?` gives a contrast gives both colours, which are the ones that
    the message quotes. -/
theorem colours_of_lowContrast? {style : Text} {ratio : Float} {fg bg : Text}
    (h : lowContrast? style = some (ratio, fg, bg)) :
    styleValue? (inlineStyle style) "color" = some fg ∧
      styleValue? (inlineStyle style) "background-color" = some bg := by
  unfold lowContrast? at h
  simp only [Option.bind_eq_bind, Option.bind_eq_some_iff] at h
  obtain ⟨fg', hfg, bg', hbg, rgb, -, rgb', -, h⟩ := h
  split at h
  · obtain ⟨-, rfl, rfl⟩ : _ ∧ fg' = fg ∧ bg' = bg := by simpa using h
    exact ⟨hfg, hbg⟩
  · cases h

/-- Findings of `contrast` have the line feeds of the two colours; the ratio between them is a
    number without any. -/
theorem contrast_breaks (hlinked : d.tree.Linked) (c : Config) :
    ∀ f ∈ contrast.check d label c, BreaksByQuote d label f := by
  intro f hf
  rw [contrast_check_eq] at hf
  obtain ⟨e, he, hf⟩ := List.mem_filterMap.mp hf
  obtain ⟨style, hstyle, hf⟩ := Option.bind_eq_some_iff.mp hf
  obtain ⟨⟨ratio, fg, bg⟩, hlow, rfl⟩ := Option.map_eq_some_iff.mp hf
  obtain ⟨hfg, hbg⟩ := colours_of_lowContrast? hlow
  have hin : e ∈ d.select fun _ => true := by
    have hmatching : e ∈ d.matching fun _ => true := List.mem_filter.mpr ⟨he, rfl⟩
    exact List.mem_of_mem_filter ((Document.mem_select_attached hlinked).mpr hmatching)
  have hquoted : quoted? .contrast e.elem = some (fg ++ bg) := by
    dsimp only [quoted?]
    rw [hstyle, Option.bind_eq_bind, Option.bind_some, hfg, hbg]
    rfl
  refine breaks_of_quoted hin hquoted ?_
  -- the message is fixed text and a number around the two colours
  have hstart : ("Low contrast ratio (" : Text).count '\n' = 0 := by decide
  have hratio := List.count_eq_zero.mpr (Decimal.newline_not_mem_fixed 2 ratio)
  have hgap : ("): " : Text).count '\n' = 0 := by decide
  have hon : (" on " : Text).count '\n' = 0 := by decide
  simp only [List.count_append, hstart, hratio, hgap, hon]
  omega

/-! ### Labels -/

/-- Findings on labels have the line feeds of the `for` that they quote. -/
theorem labelsWithoutFor_breaks (c : Config) :
    ∀ f ∈ labelsWithoutFor.check d label c, BreaksByQuote d label f := by
  intro f hf
  obtain ⟨e, he, hf⟩ := List.mem_filterMap.mp hf
  obtain ⟨p, hp, rfl⟩ := Option.map_eq_some_iff.mp hf
  unfold labelFault? at hp
  split at hp
  · next target htarget =>
    split at hp
    · cases hp
    · obtain rfl := Option.some.inj hp
      have hquoted : e.elem.attr? "for" = some target := (Option.filter_eq_some_iff.mp htarget).1
      exact breaks_of_quoted (mem_select_all he) hquoted
        (Text.count_newline_between (by decide) (by decide) target)
  · split at hp
    · obtain rfl := Option.some.inj hp
      exact breaks_of_plain (by decide)
    · cases hp

theorem unlabeledInputs_breaks (c : Config) :
    ∀ f ∈ unlabeledInputs.check d label c, BreaksByQuote d label f := by
  refine breaks_of_plain_map fun e he => ?_
  have htype := newline_not_mem_of_isToggle (Document.mem_select.mp (List.mem_of_mem_filter he)).2
  exact Text.newline_not_mem_between (by decide) htype (by decide)

/-! ### Links and frames -/

theorem emptyLinks_breaks (c : Config) :
    ∀ f ∈ emptyLinks.check d label c, BreaksByQuote d label f :=
  breaks_of_plain_map fun _ _ => by decide

theorem iframeTitles_breaks (c : Config) :
    ∀ f ∈ iframeTitles.check d label c, BreaksByQuote d label f :=
  breaks_of_plain_map fun _ _ => by decide

theorem newTabLinks_breaks (c : Config) :
    ∀ f ∈ newTabLinks.check d label c, BreaksByQuote d label f :=
  breaks_of_plain_map fun _ _ => by decide

/-! ### Headings -/

/-- Findings of `multipleH1` quote nothing but their number. -/
theorem multipleH1_breaks (c : Config) :
    ∀ f ∈ multipleH1.check d label c, BreaksByQuote d label f := by
  intro f hf
  dsimp only [multipleH1] at hf
  obtain ⟨-, hf⟩ := List.mem_ite_nil_left.mp hf
  refine breaks_of_plain_map (fun e _ => ?_) f hf
  exact Text.newline_not_mem_between (by decide) (Text.newline_not_mem_ofNat _) (by decide)

/-- Findings of `headingOrder` name levels, which are numbers. -/
theorem headingOrder_breaks (c : Config) :
    ∀ f ∈ headingOrder.check d label c, BreaksByQuote d label f := by
  intro f hf
  obtain ⟨⟨e, level, previous⟩, -, rfl⟩ := List.mem_map.mp hf
  have hfollows : '\n' ∉ ("<h" : Text) ++ Text.ofNat level ++ "> follows <h" :=
    Text.newline_not_mem_between (by decide) (Text.newline_not_mem_ofNat level) (by decide)
  exact breaks_of_plain
    (Text.newline_not_mem_between hfollows (Text.newline_not_mem_ofNat previous) (by decide))

theorem headingEmpty_breaks (c : Config) :
    ∀ f ∈ headingEmpty.check d label c, BreaksByQuote d label f := by
  refine breaks_of_plain_map fun e he => ?_
  have hname := newline_not_mem_of_isHeading (Document.mem_select.mp (List.mem_of_mem_filter he)).2
  exact Text.newline_not_mem_between (by decide) hname (by decide)

end Rule

/-! ### The whole catalogue -/

/-- **Line feeds in messages** come from the page: whatever rule of the catalogue makes a finding,
    the line feeds of its message are those of what it quotes (`BreaksByQuote`). -/
theorem catalogue_breaks {d : Document} (hlinked : d.tree.Linked) (label : Text) (c : Config)
    {r : Rule} (hr : r ∈ catalogue) : ∀ f ∈ r.check d label c, BreaksByQuote d label f := by
  simp only [catalogue, List.mem_cons, List.not_mem_nil, or_false] at hr
  rcases hr with rfl | rfl | rfl | rfl | rfl | rfl | rfl | rfl | rfl | rfl | rfl | rfl | rfl | rfl
  · exact Rule.altText_breaks c
  · exact Rule.ariaLabels_breaks c
  · exact Rule.missingAria_breaks c
  · exact Rule.contrast_breaks hlinked c
  · exact Rule.ariaRoles_breaks c
  · exact Rule.landmarkRoles_breaks c
  · exact Rule.labelsWithoutFor_breaks c
  · exact Rule.unlabeledInputs_breaks c
  · exact Rule.emptyLinks_breaks c
  · exact Rule.iframeTitles_breaks c
  · exact Rule.multipleH1_breaks c
  · exact Rule.headingOrder_breaks c
  · exact Rule.headingEmpty_breaks c
  · exact Rule.newTabLinks_breaks c

/-- `catalogue_breaks` for a whole run of `lint`: the line feeds of a message are those of what it
    quotes. -/
theorem lint_breaks (text label : Text) (c : Config) (mode : LintMode) :
    ∀ f ∈ lint text label c mode, BreaksByQuote (Document.parse text) label f := by
  intro f hf
  obtain ⟨r, hr, -, -, hf⟩ := mem_lint text label c mode hf
  exact catalogue_breaks (Html.parse_linked text) label c hr f hf

end AccessLint
