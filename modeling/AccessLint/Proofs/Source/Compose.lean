import AccessLint.Proofs.Source.Prefix
import AccessLint.Proofs.Source.Visit

namespace AccessLint.Source

/-!
# A source in two parts

If the first part of a source ends with a `>` and everything that the scan looks for in it is found
in it, then the start tags of the source are those of its two parts.

* `Visit.Complete` — what the scan looks for at a visit is found;
* `Comment.append`, `RawText.append` — then a comment or a text element ends where it did, whatever
  follows;
* `Looks.append` — so what is found and taken there does not depend on what follows;
* `scan_append` — the start tags of the two parts, one after the other.
-/

/-- What the scan looks for at a visit is found: the `-->` of a comment, or the `>` of a text
    element and, behind that, its closing tag. -/
structure Visit.Complete (v : Visit) : Prop where
  comment : ∀ t ∈ List.isPrefixOf? ("!--" : Text) v.rest, Text.contains "-->" t = true
  content : ∀ s ∈ v.tag?, s.name ∈ rawTextNames →
    ∃ content ∈ (Text.cut (· == '>') (behindName v.rest)).2,
      Text.contains ("</" ++ s.name) (Text.lower content) = true

instance (v : Visit) : Decidable v.Complete :=
  decidable_of_iff ((∀ t ∈ List.isPrefixOf? ("!--" : Text) v.rest, Text.contains "-->" t = true) ∧
    ∀ s ∈ v.tag?, s.name ∈ rawTextNames →
      ∃ content ∈ (Text.cut (· == '>') (behindName v.rest)).2,
        Text.contains ("</" ++ s.name) (Text.lower content) = true)
    ⟨fun h => ⟨h.1, h.2⟩, fun h => ⟨h.comment, h.content⟩⟩

variable {r : Text}

/-! ### What follows a look -/

/-- A name that is ended by a `>` is read whatever follows: `writtenName` stops at the `>` at the
    latest, and `behindName` has the rest. -/
theorem writtenName_append (h : '>' ∈ r) (b : Text) :
    writtenName (r ++ b) = writtenName r ∧ behindName (r ++ b) = behindName r ++ b := by
  have hne : (r.takeWhile (!endsName ·)).length ≠ r.length := by
    intro hlength
    have hall : r.takeWhile (!endsName ·) = r := (List.takeWhile_prefix _).eq_of_length hlength
    have hname := List.mem_takeWhile_imp (hall.symm ▸ h)
    cases hname
  have hwritten : writtenName (r ++ b) = writtenName r := by
    unfold writtenName
    rw [List.takeWhile_append, if_neg hne]
  refine ⟨hwritten, ?_⟩
  have hwhole := writtenName_append_behindName (r ++ b)
  have hsplit : writtenName r ++ behindName (r ++ b) = writtenName r ++ (behindName r ++ b) := by
    rw [hwritten] at hwhole
    rw [hwhole, ← List.append_assoc, writtenName_append_behindName]
  exact List.append_cancel_left hsplit

/-- Whether a name starts at a `<` is decided by the first characters behind it, so by the part that
    has a `>`. -/
theorem startsName_append (h : '>' ∈ r) (b : Text) : startsName (r ++ b) = startsName r := by
  cases r with
  | nil => cases h
  | cons c r => rfl

/-- A comment whose `-->` is found is the same one whatever follows: the first `-->` stays the first
    one. -/
theorem Comment.append {taken : Text} (h : Comment r taken)
    (hclosed : ∀ t ∈ List.isPrefixOf? ("!--" : Text) r, Text.contains "-->" t = true) (b : Text) :
    Comment (r ++ b) taken := by
  cases h with
  | @closed t inside h =>
    rw [List.append_assoc]
    exact .closed (Text.findFirst?_append_left h b)
  | @unclosed t h =>
    have hfound := hclosed t (List.isPrefixOf?_eq_some_iff_append_eq.mpr rfl)
    rw [Text.contains, h] at hfound
    cases hfound

/-- A text element whose closing tag is found takes the same text whatever follows. -/
theorem RawText.append {name t taken : Text} (h : RawText name t taken)
    (hclosed : ∃ content ∈ (Text.cut (· == '>') t).2,
      Text.contains ("</" ++ name) (Text.lower content) = true) (b : Text) :
    RawText name (t ++ b) taken := by
  have hbefore : ∀ {attrs : Text}, '>' ∉ attrs → ∀ x ∈ attrs, (x == '>') = false :=
    fun hattrs x hx => beq_false_of_ne (ne_of_mem_of_not_mem hx hattrs)
  cases h with
  | @closed attrs inside closing after hattrs hlower hfirst =>
    have hfirst' := Text.findFirst?_append_left hfirst (Text.lower b)
    rw [← Text.lower_append, List.append_assoc, List.append_assoc] at hfirst'
    rw [List.append_assoc, List.cons_append, List.append_assoc, List.append_assoc]
    exact .closed hattrs hlower hfirst'
  -- an element that is not closed has no closing tag to be found, one that is not finished no `>`
  | unclosed hattrs hnone =>
    rw [Text.cut_append (hbefore hattrs) (beq_self_eq_true _)] at hclosed
    obtain ⟨content, hsome, hcontains⟩ := hclosed
    cases hsome
    rw [Text.contains, hnone] at hcontains
    cases hcontains
  | unfinished h =>
    rw [Text.cut_eq_none (hbefore h)] at hclosed
    obtain ⟨content, hsome, -⟩ := hclosed
    cases hsome

/-- **What is found and taken** at a `<` does not depend on what follows, if a `>` follows and what
    is looked for is found. The cases are those of `Looks`: a comment, a name, a text element, or
    nothing. -/
theorem Looks.append {offset : Nat} {taken : Text} {tag : Option StartTag}
    (h : Looks offset r tag taken) (hmem : '>' ∈ r) (hcomplete : (Visit.mk offset r).Complete)
    (b : Text) : Looks offset (r ++ b) tag taken := by
  obtain ⟨hwritten, hbehind⟩ := writtenName_append hmem b
  have hstart' := startsName_append hmem b
  have htag := (Visit.eq_of_looks (v := ⟨offset, r⟩) h).1
  cases h with
  | comment h => exact .comment (h.append hcomplete.comment b)
  | element hstart hname =>
    rw [← hwritten] at hname ⊢
    exact .element (hstart'.trans hstart) hname
  | textElement hstart hname h =>
    have hclosed := hcomplete.content _ htag hname
    rw [← hwritten] at hname h hclosed ⊢
    refine .textElement (hstart'.trans hstart) hname ?_
    rw [hbehind]
    exact h.append hclosed b
  | nothing hstart hcomment =>
    refine .nothing (hstart'.trans hstart) ?_
    -- a text with a `>` is no part of `!--`, so what follows makes no comment of it
    have hshort : r <+: ("!--" : Text) → r = "!--" := by
      intro hbegins
      exact absurd (hbegins.subset hmem) (by decide)
    rw [Text.isPrefixOf?_append (Text.prefix_of_prefix_append hshort), hcomment]
    rfl

/-! ### The two parts -/

/-- The scan of two parts from some byte on. The induction is that of `scanFrom`; it carries that
    the first part is empty or ends with a `>`, so a `<` in it always has one behind it. -/
theorem scanFrom_append {a : Text} {skip : Nat} (hskip : skip ≤ a.length)
    (hend : a = [] ∨ a.getLast? = some '>') {offset : Nat}
    (hcomplete : ∀ v ∈ visitsFrom skip offset a, v.Complete) (b : Text) :
    scanFrom skip offset (a ++ b) =
      scanFrom skip offset a ++ scanFrom 0 (offset + Text.utf8Size a) b := by
  induction a generalizing skip offset with
  | nil =>
    rw [Nat.le_zero.mp hskip]
    rfl
  | cons c r ih =>
    have hlast : (c :: r).getLast? = some '>' := hend.resolve_left (List.cons_ne_nil c r)
    have hrest : r = [] ∨ r.getLast? = some '>' := by
      cases r with
      | nil => exact Or.inl rfl
      | cons d r => exact Or.inr (by rwa [List.getLast?_cons_cons] at hlast)
    rw [Text.utf8Size, ← Nat.add_assoc]
    cases skip with
    | succ skip => exact ih (Nat.le_of_succ_le_succ hskip) hrest hcomplete
    | zero =>
      rw [visitsFrom] at hcomplete
      rw [List.cons_append, scanFrom, scanFrom]
      by_cases hc : c = '<'
      · subst hc
        rw [if_pos rfl] at hcomplete
        rw [if_pos rfl, if_pos rfl]
        -- the look does not reach beyond the first part
        have hmem : '>' ∈ r := by
          rcases hrest with rfl | hlast
          · exact absurd hlast (by decide)
          · exact List.mem_of_getLast? hlast
        obtain ⟨tag, taken, h⟩ := exists_looks offset r
        obtain ⟨hread, hbegins⟩ := h.readTag_eq
        obtain ⟨hread', -⟩ := (h.append hmem (hcomplete _ List.mem_cons_self) b).readTag_eq
        rw [hread] at hcomplete
        rw [hread, hread']
        dsimp only
        rw [ih hbegins.length_le hrest fun v hv => hcomplete v (List.mem_cons_of_mem _ hv),
          List.append_assoc]
        rfl
      · rw [if_neg hc] at hcomplete
        rw [if_neg hc, if_neg hc]
        exact ih (Nat.zero_le _) hrest hcomplete

/-- **The start tags of two parts.** Let the first part of a source be empty or end with a `>`, and
    let what the scan looks for in it be found in it (`Visit.Complete`): the end of each comment
    that it comes to, and the end of the start tag and the closing tag of each text element. Then
    the start tags of the source are those of the first part and those of the second one, as many
    bytes further on as the first part takes; and so are the tags of each name. -/
theorem scan_append {a : Text} (hend : a = [] ∨ a.getLast? = some '>')
    (hcomplete : ∀ v ∈ visits a, v.Complete) (b : Text) :
    scan (a ++ b) = scan a ++ (scan b).map (StartTag.moveBy (Text.utf8Size a)) ∧
      ∀ name, offsetsOf (scan (a ++ b)) name =
        offsetsOf (scan a) name ++ (offsetsOf (scan b) name).map (Text.utf8Size a + ·) := by
  have hscan : scan (a ++ b) = scan a ++ (scan b).map (StartTag.moveBy (Text.utf8Size a)) := by
    unfold scan
    rw [scanFrom_append (Nat.zero_le _) hend hcomplete, Nat.add_comm, scanFrom_add]
  refine ⟨hscan, fun name => ?_⟩
  rw [hscan, ← offsetsOf_moveBy]
  unfold offsetsOf
  rw [List.filter_append, List.map_append]

/-- A comment and a script that are closed hide nothing of what follows them: `Visit.Complete` holds
    at both. -/
theorem scan_append_closed :
    (∀ v ∈ visits "<!--<i>--><script><i></script>", v.Complete) ∧
      scan ("<!--<i>--><script><i></script>" ++ "<b>") = [⟨"script", 10⟩, ⟨"b", 30⟩] := by
  have hcomplete : ∀ v ∈ visits "<!--<i>--><script><i></script>", v.Complete := by decide
  refine ⟨hcomplete, ?_⟩
  rw [(scan_append (Or.inr (by decide)) hcomplete "<b>").1]
  decide

end AccessLint.Source
