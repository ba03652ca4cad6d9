import AccessLint.Proofs.Source.Locate
import AccessLint.Proofs.Text.Lower

namespace AccessLint.Source

/-!
# What is taken at a `<`

A look at the text behind a `<` finds a comment, a start tag or nothing. What belongs to a comment,
the name of a start tag and the content of a text element are taken, and not looked at again.

* `Comment`, `RawText` — comments and the content of text elements, as they are written;
* `Looks`, `exists_looks` — what is found and taken at a `<`;
* `Looks.readTag_eq` — that is what is read there.
-/

/-! ### Comments -/

/-- A text begins with the rest of a comment: up to the next `-->` or, if there is none, the whole
    text. -/
inductive Comment : (r taken : Text) → Prop
  | closed {r inside : Text} (h : Text.findFirst? "-->" r = some inside) :
      Comment ("!--" ++ r) ("!--" ++ (inside ++ "-->"))
  | unclosed {r : Text} (h : Text.findFirst? "-->" r = none) : Comment ("!--" ++ r) ("!--" ++ r)

/-- Every text behind `<!--` begins with the rest of a comment, closed or not. -/
theorem exists_comment (r : Text) : ∃ taken, Comment ("!--" ++ r) taken := by
  cases h : Text.findFirst? "-->" r with
  | none => exact ⟨_, .unclosed h⟩
  | some inside => exact ⟨_, .closed h⟩

/-- A comment begins with `!--`. -/
theorem Comment.eq_append {r taken : Text} (h : Comment r taken) : ∃ t, r = "!--" ++ t := by
  cases h with
  | closed h => exact ⟨_, rfl⟩
  | unclosed h => exact ⟨_, rfl⟩

/-- A comment is taken as a whole by `readTag`, and no tag is found in it. -/
theorem Comment.readTag_eq {r taken : Text} (h : Comment r taken) (offset : Nat) :
    readTag offset r = (none, taken.length) ∧ taken <+: r := by
  have hread : ∀ t : Text, readTag offset ("!--" ++ t) = (none, 3 + commentLength t) := by
    intro t
    unfold readTag
    rw [List.isPrefixOf?_eq_some_iff_append_eq.mpr rfl]
  cases h with
  | @closed t inside h =>
    obtain ⟨after, ht⟩ := Text.eq_append_of_findFirst? h
    have hlength : commentLength t = inside.length + 3 := by
      unfold commentLength
      rw [h]
    have htaken : (("!--" : Text) ++ (inside ++ "-->")).length = 3 + (inside.length + 3) := by
      simp
      omega
    refine ⟨by rw [hread, hlength, htaken], after, ?_⟩
    rw [ht, List.append_assoc, List.append_assoc]
  | @unclosed t h =>
    have hlength : commentLength t = t.length := by
      unfold commentLength
      rw [h]
    have htaken : (("!--" : Text) ++ t).length = 3 + t.length := by
      simp
      omega
    exact ⟨by rw [hread, hlength, htaken], List.prefix_refl _⟩

/-! ### The content of text elements -/

/-- Behind the name of a text element comes the rest of its start tag, its content and the start of
    its closing tag up to the name, in any case of the letters. If one of these is missing, it is
    the whole text. -/
inductive RawText (name : Text) : (t taken : Text) → Prop
  | closed {attrs inside closing after : Text} (hattrs : '>' ∉ attrs)
      (hclosing : Text.lower closing = "</" ++ name)
      (hfirst : Text.findFirst? ("</" ++ name) (Text.lower (inside ++ (closing ++ after))) =
        some (Text.lower inside)) :
      RawText name (attrs ++ '>' :: (inside ++ (closing ++ after)))
        (attrs ++ '>' :: (inside ++ closing))
  | unclosed {attrs content : Text} (hattrs : '>' ∉ attrs)
      (hnone : Text.findFirst? ("</" ++ name) (Text.lower content) = none) :
      RawText name (attrs ++ '>' :: content) (attrs ++ '>' :: content)
  | unfinished {t : Text} (h : '>' ∉ t) : RawText name t t

/-- What is found in lower case is written in some case of its letters: lower case of ASCII changes
    no length. -/
theorem exists_of_findFirst?_lower {needle t before : Text}
    (h : Text.findFirst? needle (Text.lower t) = some before) :
    ∃ inside closing after, t = inside ++ (closing ++ after) ∧ Text.lower inside = before ∧
      Text.lower closing = needle := by
  obtain ⟨after, hlower⟩ := Text.eq_append_of_findFirst? h
  obtain ⟨inside, rest, rfl, hinside, hrest⟩ := List.map_eq_append_iff.mp hlower
  obtain ⟨closing, after, rfl, hclosing, -⟩ := List.map_eq_append_iff.mp hrest
  exact ⟨inside, closing, after, rfl, hinside, hclosing⟩

/-- Behind the name of a text element there always is what `RawText` speaks of, closed or not. -/
theorem exists_rawText (name t : Text) : ∃ taken, RawText name t taken := by
  by_cases hmem : '>' ∈ t
  · obtain ⟨attrs, content, rfl, hattrs⟩ := List.eq_append_cons_of_mem hmem
    cases hfirst : Text.findFirst? ("</" ++ name) (Text.lower content) with
    | none => exact ⟨_, .unclosed hattrs hfirst⟩
    | some inside =>
      obtain ⟨inside, closing, after, rfl, rfl, hclosing⟩ := exists_of_findFirst?_lower hfirst
      exact ⟨_, .closed hattrs hclosing hfirst⟩
  · exact ⟨t, .unfinished hmem⟩

/-- The content begins behind the first `>`, even if that one stands in an attribute. -/
theorem findFirst?_content {attrs : Text} (h : '>' ∉ attrs) (content : Text) :
    Text.findFirst? ">" (attrs ++ '>' :: content) = some attrs ∧
      (attrs ++ '>' :: content).drop (attrs.length + 1) = content := by
  refine ⟨Text.findFirst?_char h content, ?_⟩
  rw [List.drop_length_add_append, List.drop_one, List.tail_cons]

/-- The content of a text element is taken as a whole: `rawTextLength` counts what `RawText`
    takes. -/
theorem RawText.length_eq {name t taken : Text} (h : RawText name t taken) :
    rawTextLength name t = taken.length ∧ taken <+: t := by
  unfold rawTextLength
  cases h with
  | @closed attrs inside closing after hattrs hclosing hfirst =>
    obtain ⟨hfind, hdrop⟩ := findFirst?_content hattrs (inside ++ (closing ++ after))
    -- the closing tag is compared in lower case, which keeps its length
    have hlength : closing.length = name.length + 2 := by
      rw [← Text.length_lower closing, hclosing, List.length_append, Nat.add_comm]
      rfl
    rw [hfind]
    dsimp only
    rw [hdrop, hfirst]
    dsimp only
    constructor
    · rw [Text.length_lower, List.length_append, List.length_cons, List.length_append, hlength]
      omega
    · refine ⟨after, ?_⟩
      rw [List.append_assoc, List.cons_append, List.append_assoc]
  | @unclosed attrs content hattrs hnone =>
    obtain ⟨hfind, hdrop⟩ := findFirst?_content hattrs content
    rw [hfind]
    dsimp only
    rw [hdrop, hnone]
    exact ⟨rfl, List.prefix_refl _⟩
  | unfinished h =>
    have hfind : Text.findFirst? ">" t = none := Text.findFirst?_eq_none_of_head? rfl h
    rw [hfind]
    exact ⟨rfl, List.prefix_refl _⟩

/-! ### Names -/

/-- Whether a text begins with the name of a tag. -/
def startsName (r : Text) : Bool := r.head?.any Char.isAlpha

/-- The name that a text begins with, as it is written. -/
def writtenName (r : Text) : Text := r.takeWhile (!endsName ·)

/-- What follows the name that a text begins with. -/
def behindName (r : Text) : Text := r.dropWhile (!endsName ·)

theorem writtenName_append_behindName (r : Text) : writtenName r ++ behindName r = r :=
  List.takeWhile_append_dropWhile

theorem isPrefixOf?_of_startsName {r : Text} (h : startsName r = true) :
    List.isPrefixOf? "!--" r = none := by
  cases r with
  | nil => rfl
  | cons c r =>
    have hc : '!' ≠ c := by
      rintro rfl
      exact Bool.false_ne_true h
    show List.isPrefixOf? ('!' :: ['-', '-']) (c :: r) = none
    rw [List.isPrefixOf?, beq_false_of_ne hc]
    rfl

/-- Where a name starts, `readTag` gives a tag of that name and takes the name, with the content of
    a text element. -/
theorem readTag_of_startsName {r : Text} (h : startsName r = true) (offset : Nat) :
    readTag offset r = (some ⟨Text.lower (writtenName r), offset⟩, (writtenName r).length +
      if rawTextNames.contains (Text.lower (writtenName r)) then
        rawTextLength (Text.lower (writtenName r)) (behindName r) else 0) := by
  have hdrop : (writtenName r ++ behindName r).drop (writtenName r).length = behindName r :=
    List.drop_left
  rw [writtenName_append_behindName] at hdrop
  rw [← hdrop]
  unfold readTag
  rw [isPrefixOf?_of_startsName h]
  exact if_pos h

/-! ### What is found -/

/-- What is found and what is taken at a `<` with some text behind it. -/
inductive Looks (offset : Nat) (r : Text) : (tag : Option StartTag) → (taken : Text) → Prop
  | comment {taken : Text} (h : Comment r taken) : Looks offset r none taken
  | element (hstart : startsName r = true)
      (hname : Text.lower (writtenName r) ∉ rawTextNames) :
      Looks offset r (some ⟨Text.lower (writtenName r), offset⟩) (writtenName r)
  | textElement {taken : Text} (hstart : startsName r = true)
      (hname : Text.lower (writtenName r) ∈ rawTextNames)
      (h : RawText (Text.lower (writtenName r)) (behindName r) taken) :
      Looks offset r (some ⟨Text.lower (writtenName r), offset⟩) (writtenName r ++ taken)
  | nothing (hstart : startsName r = false) (hcomment : List.isPrefixOf? "!--" r = none) :
      Looks offset r none []

/-- At every `<` there is something to be found or not, so `Looks` is total. -/
theorem exists_looks (offset : Nat) (r : Text) : ∃ tag taken, Looks offset r tag taken := by
  cases hcomment : List.isPrefixOf? "!--" r with
  | some t =>
    rw [← List.append_eq_of_isPrefixOf?_eq_some hcomment]
    obtain ⟨taken, h⟩ := exists_comment t
    exact ⟨_, _, .comment h⟩
  | none =>
    cases hstart : startsName r with
    | false => exact ⟨_, _, .nothing hstart hcomment⟩
    | true =>
      by_cases hname : Text.lower (writtenName r) ∈ rawTextNames
      · obtain ⟨taken, h⟩ := exists_rawText (Text.lower (writtenName r)) (behindName r)
        exact ⟨_, _, .textElement hstart hname h⟩
      · exact ⟨_, _, .element hstart hname⟩

/-- **What is found and taken** at a `<` is what `readTag` reads there: `Looks` says by cases what
    the function computes. -/
theorem Looks.readTag_eq {offset : Nat} {r taken : Text} {tag : Option StartTag}
    (h : Looks offset r tag taken) : readTag offset r = (tag, taken.length) ∧ taken <+: r := by
  cases h with
  | comment h => exact h.readTag_eq offset
  | element hstart hname =>
    have hcontains : rawTextNames.contains (Text.lower (writtenName r)) = false := by
      rw [← Bool.not_eq_true, List.contains_iff_mem]
      exact hname
    rw [readTag_of_startsName hstart, hcontains]
    exact ⟨rfl, behindName r, writtenName_append_behindName r⟩
  | textElement hstart hname h =>
    obtain ⟨hlength, after, hafter⟩ := h.length_eq
    rw [readTag_of_startsName hstart, List.contains_iff_mem.mpr hname, if_pos rfl, hlength,
      List.length_append]
    refine ⟨rfl, after, ?_⟩
    rw [List.append_assoc, hafter, writtenName_append_behindName]
  | nothing hstart hcomment =>
    have hread : readTag offset r = (none, 0) := by
      unfold readTag
      rw [hcomment]
      exact if_neg (by rw [← startsName, hstart]; exact Bool.false_ne_true)
    exact ⟨hread, List.nil_prefix⟩

end AccessLint.Source
