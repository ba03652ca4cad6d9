import AccessLint.Proofs.Source.Prefix
import AccessLint.Proofs.Source.Region
import Mathlib.Data.List.Infix

namespace AccessLint.Source

/-!
# Start tags in the content of a text element

The scan leaves a text element at the first `</` with its name, in any case of the letters and
whatever follows. The content is hidden up to there, and what stands behind it is scanned.

* `hasEndTag` — whether a text holds an end tag: the name has to end there;
* `cutAtClosing?` — the text on both sides of where the scan leaves the element;
* `scan_textElement` — the start tags of a text element;
* `scan_textElement_scripty` — a content without an end tag that lets a start tag be found.
-/

/-- The end tag of a name. -/
def endTag (name : Text) : Text := '<' :: '/' :: (name ++ ">")

/-- An element of some name and content, without attributes. -/
def textElement (name content : Text) : Text :=
  '<' :: (name ++ '>' :: (content ++ endTag name))

/-- Whether an end tag of a name stands in a text: a `</` and the name, in any case of the letters,
    and a character that ends a name. -/
def hasEndTag (name t : Text) : Bool :=
  (Text.lower t).tails.any fun r =>
    (List.isPrefixOf? (("</" : Text) ++ name) r).any fun after => after.head?.any endsName

/-- A text up to its first `</` with a name, in any case of the letters, and what follows it. -/
def cutAtClosing? (name t : Text) : Option (Text × Text) :=
  (Text.findFirst? ("</" ++ name) (Text.lower t)).map fun inside =>
    t.splitAt (inside.length + (name.length + 2))

variable {name : Text}

/-! ### The place where the element is left -/

/-- A text is cut at the first `</` with the name: `cutAtClosing?` looks in lower case and cuts the
    text as it is written. -/
theorem cutAtClosing?_eq {inside closing after : Text} (hclosing : Text.lower closing = "</" ++ name)
    (hfirst : Text.findFirst? ("</" ++ name) (Text.lower (inside ++ (closing ++ after))) =
      some (Text.lower inside)) :
    cutAtClosing? name (inside ++ (closing ++ after)) = some (inside ++ closing, after) := by
  have hlength : (Text.lower inside).length + (name.length + 2) = (inside ++ closing).length := by
    rw [Text.length_lower, List.length_append, ← Text.length_lower closing, hclosing,
      List.length_append, Nat.add_comm name.length]
    rfl
  unfold cutAtClosing?
  rw [hfirst, Option.map_some, hlength, ← List.append_assoc, List.splitAt_eq, List.take_left,
    List.drop_left]

/-- The scan leaves an element at its first end tag, or before: a text that `cutAtClosing?` does not
    cut has no end tag in it. -/
theorem not_hasEndTag_of_cutAtClosing? {t : Text} (h : cutAtClosing? name t = none) :
    hasEndTag name t = false := by
  rw [cutAtClosing?, Option.map_eq_none_iff] at h
  rw [← Bool.not_eq_true]
  intro hend
  obtain ⟨r, hr, hafter⟩ := List.any_eq_true.mp hend
  obtain ⟨before, hbefore⟩ := (List.mem_tails r _).mp hr
  obtain ⟨after, hafter, -⟩ := (Option.any_eq_true _ _).mp hafter
  obtain ⟨first, hfirst, -⟩ := Text.exists_findFirst? ("</" ++ name) before after
  rw [List.append_eq_of_isPrefixOf?_eq_some hafter, hbefore, h] at hfirst
  cases hfirst

/-! ### From the start tag on -/

/-- What is taken is not scanned: `scanFrom` goes through it with its count of characters to
    skip. -/
theorem scanFrom_taken (taken rest : Text) (offset : Nat) :
    scanFrom taken.length offset (taken ++ rest) =
      scanFrom 0 (offset + Text.utf8Size taken) rest := by
  induction taken generalizing offset with
  | nil => rfl
  | cons c taken ih =>
    rw [List.length_cons, List.cons_append, scanFrom, ih, Text.utf8Size, Nat.add_assoc]

/-- From a `<` on `scanFrom` has what is found there, and what is found behind what is taken. -/
theorem Looks.scanFrom_eq {offset : Nat} {taken rest : Text} {tag : Option StartTag}
    (h : Looks offset (taken ++ rest) tag taken) :
    scanFrom 0 offset ('<' :: (taken ++ rest)) =
      tag.toList ++ scanFrom 0 (offset + Text.utf8Size ('<' :: taken)) rest := by
  rw [scanFrom, if_pos rfl, h.readTag_eq.1, Text.utf8Size, ← Nat.add_assoc]
  dsimp only
  rw [scanFrom_taken]
  rfl

/-- The same for a whole source that begins with a `<`, with the tags behind it moved by what is
    taken. -/
theorem Looks.scan_eq {taken rest : Text} {tag : Option StartTag}
    (h : Looks 0 (taken ++ rest) tag taken) :
    scan ('<' :: (taken ++ rest)) =
      tag.toList ++ (scan rest).map (StartTag.moveBy (Text.utf8Size ('<' :: taken))) := by
  unfold scan
  rw [h.scanFrom_eq, Nat.add_comm, scanFrom_add]

/-- The names of text elements are written in lower case and end where a name ends: the members of
    `rawTextNames`, checked one by one. -/
theorem rawTextNames_written : ∀ name ∈ rawTextNames,
    startsName name = true ∧ Text.lower name = name ∧ name.all (!endsName ·) = true := by
  decide

/-- What `Looks` finds at the start tag of a text element: the tag itself, and the content is taken
    with it. -/
theorem Looks.ofRawText (hname : name ∈ rawTextNames) {x taken : Text}
    (h : RawText name ('>' :: x) taken) :
    Looks 0 (name ++ '>' :: x) (some ⟨name, 0⟩) (name ++ taken) := by
  obtain ⟨hstart, hlower, hends⟩ := rawTextNames_written name hname
  have hwritten : writtenName (name ++ '>' :: x) = name := by
    unfold writtenName
    rw [List.takeWhile_append_of_pos (List.all_eq_true.mp hends)]
    exact List.append_nil name
  have hbehind : behindName (name ++ '>' :: x) = '>' :: x := by
    unfold behindName
    rw [List.dropWhile_append_of_pos (List.all_eq_true.mp hends)]
    rfl
  have hstart' : startsName (name ++ '>' :: x) = true := by
    cases name with
    | nil => cases hstart
    | cons c name => exact hstart
  have hlook := @Looks.textElement 0 (name ++ '>' :: x) taken hstart'
  rw [hwritten, hbehind, hlower] at hlook
  exact hlook hname h

/-! ### The end tag -/

/-- A tag is found at a `<` just where a name begins (`startsName`). -/
theorem Looks.isSome_eq {offset : Nat} {r taken : Text} {tag : Option StartTag}
    (h : Looks offset r tag taken) : tag.isSome = startsName r := by
  cases h with
  | comment h =>
    obtain ⟨t, rfl⟩ := h.eq_append
    rfl
  | element hstart hname => exact hstart.symm
  | textElement hstart hname h => exact hstart.symm
  | nothing hstart hcomment => exact hstart.symm

variable {s : Text}

/-- If no tag is found at a `<`, then none is found if another `<` follows, and the same is taken or
    all that there is. A comment that is not closed takes all. -/
theorem Looks.append_of_none {offset : Nat} {r taken : Text} (h : Looks offset r none taken)
    (hs : '-' ∉ s) :
    Looks offset (r ++ '<' :: s) none taken ∨
      taken = r ∧ Looks offset (r ++ '<' :: s) none (r ++ '<' :: s) := by
  cases h with
  | comment h =>
    cases h with
    | @closed t inside h =>
      rw [List.append_assoc]
      exact Or.inl (.comment (.closed (Text.findFirst?_append_left h _)))
    -- a comment that is not closed takes in what is appended, since that cannot close it
    | @unclosed t h =>
      have hnone : Text.findFirst? "-->" (t ++ '<' :: s) = none := by
        rw [Text.findFirst?_append_of_not_mem (by decide) (by decide), h,
          Text.findFirst?_eq_none_of_head? rfl hs]
        rfl
      rw [List.append_assoc]
      exact Or.inr ⟨rfl, .comment (.unclosed hnone)⟩
  | nothing hstart hcomment =>
    refine Or.inl (.nothing ?_ ?_)
    · cases r with
      | nil => rfl
      | cons c r => exact hstart
    · rw [Text.isPrefixOf?_append (Text.prefix_of_prefix_append_cons (by decide)), hcomment]
      rfl

/-- A `<` behind a text that begins no tag itself lets no tag be found, if none is found in the
    text. The induction is that of `scanFrom`, with what is skipped kept general. -/
theorem scanFrom_append_eq_nil_iff (hlt : '<' ∉ s) (hdash : '-' ∉ s) (hstart : startsName s = false)
    {t : Text} {skip : Nat} (hskip : skip ≤ t.length) (offset : Nat) :
    scanFrom skip offset (t ++ '<' :: s) = [] ↔ scanFrom skip offset t = [] := by
  induction t generalizing skip offset with
  | nil =>
    rw [Nat.le_zero.mp hskip]
    have hlook : Looks offset s none [] := by
      refine .nothing hstart ?_
      cases hafter : List.isPrefixOf? "!--" s with
      | none => rfl
      | some t =>
        rw [← List.append_eq_of_isPrefixOf?_eq_some hafter] at hdash
        exact absurd (List.mem_append_left t (by decide)) hdash
    have hscan : scanFrom 0 offset ('<' :: s) = [] := by
      have hrest := @Looks.scanFrom_eq offset [] s none hlook
      rw [scanFrom_of_not_mem hlt] at hrest
      exact hrest
    exact iff_of_true hscan rfl
  | cons c r ih =>
    rw [List.cons_append]
    cases skip with
    | succ skip => exact ih (Nat.le_of_succ_le_succ hskip) (offset + c.utf8Size)
    | zero =>
      rw [scanFrom, scanFrom]
      by_cases hc : c = '<'
      · rw [if_pos hc, if_pos hc]
        obtain ⟨tag, taken, h⟩ := exists_looks offset r
        obtain ⟨hread, hbegins⟩ := h.readTag_eq
        cases tag with
        | some s' =>
          -- a tag is found with and without what follows
          have hname : startsName r = true := h.isSome_eq.symm
          have hname' : startsName (r ++ '<' :: s) = true := by
            cases r with
            | nil => cases hname
            | cons d r => exact hname
          rw [readTag_of_startsName hname, readTag_of_startsName hname']
          exact iff_of_false (List.cons_ne_nil _ _) (List.cons_ne_nil _ _)
        | none =>
          rcases h.append_of_none hdash with h' | ⟨rfl, h'⟩
          · rw [hread, h'.readTag_eq.1]
            exact ih hbegins.length_le (offset + 1)
          · -- all that there is belongs to a comment
            have hall : ∀ t : Text, scanFrom t.length (offset + 1) t = [] := by
              intro t
              have htaken := scanFrom_taken t [] (offset + 1)
              rw [List.append_nil] at htaken
              exact htaken
            rw [hread, h'.readTag_eq.1]
            exact iff_of_true (hall _) (hall _)
      · rw [if_neg hc, if_neg hc]
        exact ih (Nat.zero_le _) (offset + c.utf8Size)

/-- The end tag of a text element lets no tag be found in what stands in front of it: it begins with
    `</`, which is no start tag. -/
theorem scan_append_endTag_eq_nil_iff (hname : name ∈ rawTextNames) (t : Text) :
    scan (t ++ endTag name) = [] ↔ scan t = [] := by
  have hplain : ∀ name ∈ rawTextNames, '<' ∉ '/' :: (name ++ ">" : Text) ∧
      '-' ∉ '/' :: (name ++ ">" : Text) := by decide
  obtain ⟨hlt, hdash⟩ := hplain name hname
  exact scanFrom_append_eq_nil_iff hlt hdash rfl (Nat.zero_le _) 0

/-! ### Text elements -/

/-- The start tags of a text element that the scan leaves behind `closing`, the first `</` with its
    name in any case of the letters. -/
theorem scan_closed (hname : name ∈ rawTextNames) {inside closing after : Text}
    (hclosing : Text.lower closing = "</" ++ name)
    (hfirst : Text.findFirst? ("</" ++ name) (Text.lower (inside ++ (closing ++ after))) =
      some (Text.lower inside)) :
    scan ('<' :: (name ++ '>' :: (inside ++ (closing ++ after)))) =
      ⟨name, 0⟩ :: (scan after).map
        (StartTag.moveBy (Text.utf8Size ('<' :: (name ++ '>' :: (inside ++ closing))))) := by
  have hraw : RawText name ('>' :: (inside ++ (closing ++ after))) ('>' :: (inside ++ closing)) := by
    show RawText name ([] ++ '>' :: (inside ++ (closing ++ after))) ([] ++ '>' :: (inside ++ closing))
    exact .closed List.not_mem_nil hclosing hfirst
  have hsplit : name ++ '>' :: (inside ++ (closing ++ after)) =
      (name ++ '>' :: (inside ++ closing)) ++ after := by
    rw [List.append_assoc, List.cons_append, List.append_assoc]
  have hlook := Looks.ofRawText hname hraw
  rw [hsplit] at hlook ⊢
  exact hlook.scan_eq

/-- The start tags of a text element, by where `cutAtClosing?` cuts its content; its own end tag
    closes it at the latest. -/
theorem scan_textElement_eq (hname : name ∈ rawTextNames) (content : Text) :
    scan (textElement name content) = ⟨name, 0⟩ ::
      match cutAtClosing? name content with
      | none => []
      | some (before, after) => (scan (after ++ endTag name)).map
          (StartTag.moveBy (Text.utf8Size ('<' :: (name ++ '>' :: before)))) := by
  unfold textElement
  cases hfirst : Text.findFirst? ("</" ++ name) (Text.lower content) with
  | none =>
    have hcut : cutAtClosing? name content = none := by
      rw [cutAtClosing?, hfirst]
      rfl
    have hlower : Text.lower ("</" ++ name) = "</" ++ name := by
      rw [Text.lower_append, (rawTextNames_written name hname).2.1]
      rfl
    -- the element is left at the name of its end tag
    have hslash : ∀ name ∈ rawTextNames, '<' ∉ '/' :: name := by decide
    have hself : Text.findFirst? ("</" ++ name)
        (Text.lower (content ++ (("</" ++ name) ++ (">" : Text)))) = some (Text.lower content) := by
      rw [Text.lower_append, Text.lower_append, hlower]
      exact Text.findFirst?_append_self (hslash name hname) hfirst _
    rw [hcut]
    exact scan_closed hname hlower hself
  | some inside =>
    obtain ⟨inside, closing, after, rfl, rfl, hclosing⟩ := exists_of_findFirst?_lower hfirst
    -- it is left in its content, whatever follows
    have hfirst' := Text.findFirst?_append_left hfirst (Text.lower (endTag name))
    rw [← Text.lower_append, List.append_assoc, List.append_assoc] at hfirst'
    rw [cutAtClosing?_eq hclosing hfirst, List.append_assoc, List.append_assoc]
    exact scan_closed hname hclosing hfirst'

/-- **The start tags of a text element** (`textElement`). The element itself is found at its place.
    Its content is hidden up to the first `</` with its name (`cutAtClosing?`), and the text between
    there and its end tag is scanned as if it stood behind the element. So nothing else is found
    exactly if nothing is found in that text. An end tag in the content is such a place, but not
    each such place is an end tag: the name does not have to end there. -/
theorem scan_textElement (hname : name ∈ rawTextNames) (content : Text) :
    (scan (textElement name content) = ⟨name, 0⟩ ::
      match cutAtClosing? name content with
      | none => []
      | some (before, after) => (scan (after ++ endTag name)).map
          (StartTag.moveBy (Text.utf8Size ('<' :: (name ++ '>' :: before))))) ∧
      (scan (textElement name content) = [⟨name, 0⟩] ↔
        ∀ before after, cutAtClosing? name content = some (before, after) → scan after = []) ∧
      (cutAtClosing? name content = none → hasEndTag name content = false) := by
  refine ⟨scan_textElement_eq hname content, ?_, not_hasEndTag_of_cutAtClosing?⟩
  rw [scan_textElement_eq hname content, List.cons.injEq]
  cases hcut : cutAtClosing? name content with
  | none => exact iff_of_true ⟨rfl, rfl⟩ fun before after h => by cases h
  | some cut =>
    obtain ⟨before, after⟩ := cut
    dsimp only
    rw [List.map_eq_nil_iff, scan_append_endTag_eq_nil_iff hname after]
    constructor
    · rintro ⟨-, hnone⟩ before' after' hsome
      cases hsome
      exact hnone
    · intro h
      exact ⟨rfl, h before after rfl⟩

/-- A comment behind the closing of a title hides what is in it, so nothing but the title is found.
    Behind the cut there is a `<` in a comment only. -/
theorem scan_textElement_commented :
    ("title" : Text) ∈ rawTextNames ∧
      scan (textElement "title" "<b></TITLES><!--<i>") = [⟨"title", 0⟩] := by
  have hname : ("title" : Text) ∈ rawTextNames := by decide
  refine ⟨hname, (scan_textElement hname "<b></TITLES><!--<i>").2.1.mpr ?_⟩
  intro before after hcut
  have hafter : (cutAtClosing? "title" "<b></TITLES><!--<i>").map Prod.snd =
      some ("S><!--<i>" : Text) := by decide
  rw [hcut, Option.map_some] at hafter
  cases hafter
  decide

/-- A content that has no end tag of its element, and lets a tag be found all the same. -/
theorem scan_textElement_scripty :
    ("script" : Text) ∈ rawTextNames ∧ hasEndTag "script" "</scripty><img>" = false ∧
      scan (textElement "script" "</scripty><img>") = [⟨"script", 0⟩, ⟨"img", 18⟩] := by
  decide

end AccessLint.Source
