import AccessLint.Html.TagReader
import AccessLint.Proofs.Text.Lower
import Mathlib.Data.List.TakeWhile

namespace AccessLint.Html

/-!
# What is read of a tag

* `readTag?_suffix` — what follows a tag is the end of the text;
* `Tag.Legible` — the names and values that a tag can have;
* `legible_of_readTag?` — every tag that was read is legible.
-/

/-! ### What follows -/

/-- `splitBefore` only divides a text: the two parts together are the text. -/
theorem splitBefore_eq_append (stop : Char → Bool) (t : Text) :
    (splitBefore stop t).1 ++ (splitBefore stop t).2 = t :=
  List.takeWhile_append_dropWhile

theorem splitBefore_cons {stop : Char → Bool} {c : Char} (h : stop c = false) (r : Text) :
    (splitBefore stop (c :: r)).1 = c :: (splitBefore stop r).1 := by
  unfold splitBefore
  simp [h]

/-- The second part of `splitBefore` is the end of the text. All readers of this module are made of
    such steps. -/
theorem splitBefore_suffix {stop : Char → Bool} {t a b : Text} (h : splitBefore stop t = (a, b)) :
    b <:+ t := by
  have hsplit := splitBefore_eq_append stop t
  rw [h] at hsplit
  exact ⟨a, hsplit⟩

theorem skipTagSpace_suffix (t : Text) : skipTagSpace t <:+ t := List.dropWhile_suffix _

/-- What follows the first character of the end of a text is an end of it too. -/
theorem suffix_of_cons {c : Char} {r t : Text} (h : c :: r <:+ t) : r <:+ t :=
  (List.suffix_cons c r).trans h

/-- What remains behind a quoted value is the end of the text. -/
theorem readQuoted?_suffix {quote : Char} {t v rest : Text}
    (h : readQuoted? quote t = some (v, rest)) : rest <:+ t := by
  unfold readQuoted? at h
  split at h
  · next hsplit =>
    rw [← (Prod.mk.inj (Option.some.inj h)).2]
    exact suffix_of_cons (splitBefore_suffix hsplit)
  · exact absurd h (by simp)

/-- What remains behind a value is the end of the text, for the three ways of writing one. -/
theorem readValue?_suffix {t v rest : Text} (h : readValue? t = some (v, rest)) : rest <:+ t := by
  have hskip := skipTagSpace_suffix t
  unfold readValue? at h
  -- the end of the text, two kinds of quotes, no value, and a value without quotes
  split at h
  · exact absurd h (by simp)
  · next heq =>
    rw [heq] at hskip
    exact (readQuoted?_suffix h).trans (suffix_of_cons hskip)
  · next heq =>
    rw [heq] at hskip
    exact (readQuoted?_suffix h).trans (suffix_of_cons hskip)
  · next heq =>
    rw [heq] at hskip
    rw [← (Prod.mk.inj (Option.some.inj h)).2]
    exact hskip
  · rw [← (Prod.mk.inj (Option.some.inj h)).2]
    exact (List.dropWhile_suffix _).trans hskip

/-- What remains behind an attribute is the end of the text, with a value or without. -/
theorem readAttr?_suffix {c : Char} {t rest : Text} {a : Text × Text}
    (h : readAttr? c t = some (a, rest)) : rest <:+ t := by
  unfold readAttr? at h
  dsimp only [splitBefore] at h
  have hskip := (skipTagSpace_suffix (t.dropWhile fun d =>
    !(isTagSpace d || d == '/' || d == '>' || d == '='))).trans (List.dropWhile_suffix _)
  split at h
  · next heq =>
    rw [heq] at hskip
    obtain ⟨⟨v, rest'⟩, hvalue, hrest⟩ := Option.map_eq_some_iff.mp h
    rw [← (Prod.mk.inj hrest).2]
    exact (readValue?_suffix hvalue).trans (suffix_of_cons hskip)
  · rw [← (Prod.mk.inj (Option.some.inj h)).2]
    exact hskip

/-- What remains behind the attributes is the end of the text. The induction is on the fuel, with
    the text kept general. -/
theorem readAttrs?_suffix {fuel : Nat} {t rest : Text} {attrs : List (Text × Text)}
    {closing : Bool} (h : readAttrs? fuel t = some (attrs, closing, rest)) : rest <:+ t := by
  induction fuel generalizing t attrs with
  | zero => exact absurd h (by simp [readAttrs?])
  | succ fuel ih =>
    have hskip := skipTagSpace_suffix t
    unfold readAttrs? at h
    -- the end of the text, the two ends of a tag, a stray slash, and an attribute
    split at h
    · exact absurd h (by simp)
    · next heq =>
      simp only [Option.some.injEq, Prod.mk.injEq] at h
      rw [heq] at hskip
      rw [← h.2.2]
      exact suffix_of_cons hskip
    · next heq =>
      simp only [Option.some.injEq, Prod.mk.injEq] at h
      rw [heq] at hskip
      rw [← h.2.2]
      exact suffix_of_cons (suffix_of_cons hskip)
    · next heq =>
      rw [heq] at hskip
      exact (ih h).trans (suffix_of_cons hskip)
    · next heq =>
      rw [heq] at hskip
      split at h
      · exact absurd h (by simp)
      · next a r' hattr =>
        obtain ⟨⟨attrs', closing', rest'⟩, hmore, hall⟩ := Option.map_eq_some_iff.mp h
        simp only [Prod.mk.injEq] at hall
        rw [hall.2.1, hall.2.2] at hmore
        exact ((ih hmore).trans (readAttr?_suffix hattr)).trans (suffix_of_cons hskip)

/-- **What `readTag?` leaves behind a tag** is the end of the text, so tokens are read forwards
    only. -/
theorem readTag?_suffix {t rest : Text} {tag : Tag} (h : readTag? t = some (tag, rest)) :
    rest <:+ t := by
  unfold readTag? at h
  dsimp only [splitBefore] at h
  obtain ⟨⟨attrs, closing, rest'⟩, hattrs, hall⟩ := Option.map_eq_some_iff.mp h
  rw [← (Prod.mk.inj hall).2]
  exact (readAttrs?_suffix hattrs).trans (List.dropWhile_suffix _)

/-! ### Legible names and values -/

/-- The characters that no name of a tag has: those that end it, and those that are not read. -/
def tagBreaks : Text := ['\t', '\n', '\x0c', ' ', '/', '>', '\r', '\x00']

/-- None of `tagBreaks` is a letter, so lower case makes no break of another character. -/
theorem isAlpha_tagBreaks {d : Char} (hd : d ∈ tagBreaks) : d.isAlpha = false := by
  have hall : (tagBreaks.all fun d => decide (d.isAlpha = false)) = true := by decide
  exact of_decide_eq_true (List.all_eq_true.mp hall d hd)

/-- A break ends a name, or it is one of the two characters that are never read. -/
theorem stops_of_mem_tagBreaks {d : Char} (hd : d ∈ tagBreaks) :
    (isTagSpace d || d == '/' || d == '>') = true ∨ d = '\r' ∨ d.toNat = 0 := by
  have hall : (tagBreaks.all fun d => decide
      ((isTagSpace d || d == '/' || d == '>') = true ∨ d = '\r' ∨ d.toNat = 0)) = true := by decide
  exact of_decide_eq_true (List.all_eq_true.mp hall d hd)

/-- A name that an attribute can have. Only its first character can be an equals sign. -/
structure LegibleName (n : Text) : Prop where
  chars : ∀ d ∈ tagBreaks, d ∉ n
  lower : Text.lower n = n
  start : ∃ c r, n = c :: r ∧ '=' ∉ r

/-- A tag as it can be read: its name starts with a letter, the names of its attributes are
    different, and no value has a null character. -/
structure Tag.Legible (t : Tag) : Prop where
  start : t.name.head?.any Char.isAlpha = true
  chars : ∀ d ∈ tagBreaks, d ∉ t.name
  lower : Text.lower t.name = t.name
  names : ∀ a ∈ t.attrs, LegibleName a.1
  values : ∀ a ∈ t.attrs, ∀ c ∈ a.2, c.toNat ≠ 0
  nodup : (t.attrs.map Prod.fst).Nodup

/-- Null characters are replaced, so no kept text has one. -/
theorem toNat_ne_zero_of_mem_replaceNulls {t : Text} {c : Char} (h : c ∈ replaceNulls t) :
    c.toNat ≠ 0 := by
  obtain ⟨d, -, hd⟩ := List.mem_map.mp h
  split at hd
  · rw [← hd]
    decide
  · next hne =>
    rw [← hd]
    exact hne

/-- A character of a kept name that is no letter was written there: `keptName` changes letters and
    null characters only. -/
theorem mem_of_mem_keptName {t : Text} {d : Char} (halpha : d.isAlpha = false)
    (hreplacement : d ≠ Text.replacement) (h : d ∈ keptName t) : d ∈ t ∧ d.toNat ≠ 0 := by
  have hkept : d ∈ replaceNulls t := (Text.mem_lower halpha).mp h
  refine ⟨?_, toNat_ne_zero_of_mem_replaceNulls hkept⟩
  obtain ⟨c, hc, hd⟩ := List.mem_map.mp hkept
  split at hd
  · exact absurd hd.symm hreplacement
  · rw [← hd]
    exact hc

/-- A name is read up to one of `tagBreaks`, so it has none, and lower case brings none into it. -/
theorem not_mem_keptName {t : Text} (hstop : ∀ c ∈ t, (isTagSpace c || c == '/' || c == '>') = false)
    (hcr : '\r' ∉ t) : ∀ d ∈ tagBreaks, d ∉ keptName t := by
  intro d hd hmem
  have hreplacement : Text.replacement ∉ tagBreaks := by decide
  -- a break in the kept name was written there, since it is no letter and no replacement
  obtain ⟨hwritten, hnull⟩ :=
    mem_of_mem_keptName (isAlpha_tagBreaks hd) (ne_of_mem_of_not_mem hd hreplacement) hmem
  rcases stops_of_mem_tagBreaks hd with hs | rfl | hz
  · rw [hstop d hwritten] at hs
    exact Bool.false_ne_true hs
  · exact hcr hwritten
  · exact hnull hz

theorem lower_keptName (t : Text) : Text.lower (keptName t) = keptName t :=
  Text.lower_lower _

theorem splitBefore_not_stop {stop : Char → Bool} {t : Text} :
    ∀ c ∈ (splitBefore stop t).1, stop c = false := by
  intro c hc
  have hkept := List.mem_takeWhile_imp hc
  simpa using hkept

/-- A quoted value has no null character, … -/
theorem readQuoted?_values {quote : Char} {t v rest : Text}
    (h : readQuoted? quote t = some (v, rest)) : ∀ c ∈ v, c.toNat ≠ 0 := by
  unfold readQuoted? at h
  split at h
  · rw [← (Prod.mk.inj (Option.some.inj h)).1]
    exact fun c => toNat_ne_zero_of_mem_replaceNulls
  · exact absurd h (by simp)

/-- … nor has a value that is written in another way. -/
theorem readValue?_values {t v rest : Text} (h : readValue? t = some (v, rest)) :
    ∀ c ∈ v, c.toNat ≠ 0 := by
  unfold readValue? at h
  split at h
  · exact absurd h (by simp)
  · exact readQuoted?_values h
  · exact readQuoted?_values h
  · rw [← (Prod.mk.inj (Option.some.inj h)).1]
    exact fun c hc => absurd hc List.not_mem_nil
  · rw [← (Prod.mk.inj (Option.some.inj h)).1]
    exact fun c => toNat_ne_zero_of_mem_replaceNulls

/-- An attribute that was read is legible: only the first character of its name may be an equals
    sign, since any later one starts the value. -/
theorem readAttr?_legible {c : Char} {t rest : Text} {a : Text × Text}
    (hc : (isTagSpace c || c == '/' || c == '>') = false) (hcr : '\r' ∉ c :: t)
    (h : readAttr? c t = some (a, rest)) : LegibleName a.1 ∧ ∀ d ∈ a.2, d.toNat ≠ 0 := by
  let stop := fun d => isTagSpace d || d == '/' || d == '>' || d == '='
  have hmore : ∀ d ∈ (splitBefore stop t).1, stop d = false := splitBefore_not_stop
  have hwritten : ∀ d ∈ c :: (splitBefore stop t).1,
      (isTagSpace d || d == '/' || d == '>') = false := by
    intro d hd
    rcases List.mem_cons.mp hd with rfl | hd
    · exact hc
    · exact (Bool.or_eq_false_iff.mp (hmore d hd)).1
  have hname : LegibleName (keptName (c :: (splitBefore stop t).1)) := by
    refine ⟨not_mem_keptName hwritten ?_, lower_keptName _, ?_⟩
    · intro hmem
      apply hcr
      rcases List.mem_cons.mp hmem with heq | hmem
      · rw [← heq]
        exact List.mem_cons_self
      · exact List.mem_cons_of_mem _ ((List.takeWhile_sublist _).mem hmem)
    · refine ⟨_, _, rfl, fun hmem => ?_⟩
      -- an equals sign ends the name
      have heq := (mem_of_mem_keptName (t := (splitBefore stop t).1) (by decide) (by decide) hmem).1
      have hstop := hmore '=' heq
      simp [stop] at hstop
  unfold readAttr? at h
  dsimp only at h
  split at h
  · obtain ⟨⟨v, rest'⟩, hvalue, hall⟩ := Option.map_eq_some_iff.mp h
    rw [← (Prod.mk.inj hall).1]
    exact ⟨hname, readValue?_values hvalue⟩
  · rw [← (Prod.mk.inj (Option.some.inj h)).1]
    exact ⟨hname, fun d hd => absurd hd List.not_mem_nil⟩

/-- The space between the parts of a tag is skipped entirely. -/
theorem not_isTagSpace_of_skipTagSpace {t r : Text} {c : Char} (h : skipTagSpace t = c :: r) :
    isTagSpace c = false := by
  have hhead := List.head?_dropWhile_not isTagSpace t
  unfold skipTagSpace at h
  rw [h] at hhead
  simpa using hhead

/-- All attributes that were read are legible, by the same induction as `readAttrs?_suffix`. -/
theorem readAttrs?_legible {fuel : Nat} {t rest : Text} {attrs : List (Text × Text)}
    {closing : Bool} (hcr : '\r' ∉ t) (h : readAttrs? fuel t = some (attrs, closing, rest)) :
    ∀ a ∈ attrs, LegibleName a.1 ∧ ∀ d ∈ a.2, d.toNat ≠ 0 := by
  induction fuel generalizing t attrs with
  | zero => exact absurd h (by simp [readAttrs?])
  | succ fuel ih =>
    have hskip : '\r' ∉ skipTagSpace t := fun hmem => hcr ((skipTagSpace_suffix t).mem hmem)
    unfold readAttrs? at h
    split at h
    · exact absurd h (by simp)
    · simp only [Option.some.injEq, Prod.mk.injEq] at h
      rw [← h.1]
      exact fun a ha => absurd ha List.not_mem_nil
    · simp only [Option.some.injEq, Prod.mk.injEq] at h
      rw [← h.1]
      exact fun a ha => absurd ha List.not_mem_nil
    · next heq =>
      rw [heq] at hskip
      exact ih (fun hmem => hskip (List.mem_cons_of_mem _ hmem)) h
    · next c r hend _ hslash heq =>
      have hspace := not_isTagSpace_of_skipTagSpace heq
      rw [heq] at hskip
      -- the first character of the name is none of those that were tried before
      have hc : (isTagSpace c || c == '/' || c == '>') = false := by
        simp only [Bool.or_eq_false_iff, beq_eq_false_iff_ne]
        exact ⟨⟨hspace, fun h => hslash h⟩, fun h => hend h⟩
      split at h
      · exact absurd h (by simp)
      · next a r' hattr =>
        obtain ⟨⟨attrs', closing', rest'⟩, hmore, hall⟩ := Option.map_eq_some_iff.mp h
        simp only [Prod.mk.injEq] at hall
        rw [hall.2.1, hall.2.2] at hmore
        have hrest : '\r' ∉ r' := fun hmem =>
          hskip (List.mem_cons_of_mem _ ((readAttr?_suffix hattr).mem hmem))
        intro b hb
        rw [← hall.1] at hb
        rcases List.mem_cons.mp hb with rfl | hb
        · exact readAttr?_legible hc hskip hattr
        · exact ih hrest hmore b hb

/-! ### Different names -/

/-- Keeping the first attribute of each name (`firstOfEachName`) keeps some of the attributes, with
    different names. The kept ones are general in the induction. -/
theorem foldl_firstOfEachName (attrs kept : List (Text × Text)) (h : (kept.map Prod.fst).Nodup) :
    let all := attrs.foldl (fun kept a => if kept.any fun k => k.1 == a.1 then kept
      else kept ++ [a]) kept
    (all.map Prod.fst).Nodup ∧ ∀ a ∈ all, a ∈ kept ∨ a ∈ attrs := by
  induction attrs generalizing kept with
  | nil => exact ⟨h, fun a ha => Or.inl ha⟩
  | cons a attrs ih =>
    dsimp only [List.foldl_cons]
    split
    · obtain ⟨hnodup, hmem⟩ := ih kept h
      exact ⟨hnodup, fun b hb => (hmem b hb).imp id (List.mem_cons_of_mem a)⟩
    · next hnew =>
      -- the name is new, so it can be added at the end
      have hnodup' : ((kept ++ [a]).map Prod.fst).Nodup := by
        rw [List.map_append, List.nodup_append]
        refine ⟨h, by simp, ?_⟩
        intro n hn m hm heq
        apply hnew
        obtain ⟨k, hk, rfl⟩ := List.mem_map.mp hn
        rw [List.any_eq_true]
        refine ⟨k, hk, ?_⟩
        rw [beq_iff_eq, heq]
        simpa using hm
      obtain ⟨hnodup, hmem⟩ := ih (kept ++ [a]) hnodup'
      refine ⟨hnodup, fun b hb => ?_⟩
      rcases hmem b hb with hb | hb
      · rcases List.mem_append.mp hb with hb | hb
        · exact Or.inl hb
        · rw [List.mem_singleton.mp hb]
          exact Or.inr List.mem_cons_self
      · exact Or.inr (List.mem_cons_of_mem a hb)

theorem nodup_firstOfEachName (attrs : List (Text × Text)) :
    ((firstOfEachName attrs).map Prod.fst).Nodup :=
  (foldl_firstOfEachName attrs [] List.nodup_nil).1

theorem mem_of_mem_firstOfEachName {attrs : List (Text × Text)} {a : Text × Text}
    (h : a ∈ firstOfEachName attrs) : a ∈ attrs :=
  ((foldl_firstOfEachName attrs [] List.nodup_nil).2 a h).resolve_left List.not_mem_nil

/-- A letter does not end a name, so a tag that starts with one has a name. -/
theorem not_stop_of_isAlpha {c : Char} (h : c.isAlpha = true) :
    (isTagSpace c || c == '/' || c == '>') = false := by
  have hother : ∀ d : Char, d.isAlpha = false → (c == d) = false := by
    intro d hd
    rw [beq_eq_false_iff_ne]
    rintro rfl
    rw [h] at hd
    exact Bool.false_ne_true hd.symm
  unfold isTagSpace
  simp only [hother '\t' (by decide), hother '\n' (by decide), hother '\x0c' (by decide),
    hother ' ' (by decide), hother '/' (by decide), hother '>' (by decide), Bool.or_false]

/-- A name that starts with a letter is kept as one that does, since `keptName` changes case
    only. -/
theorem isAlpha_head_keptName {t : Text} (h : t.head?.any Char.isAlpha = true) :
    (keptName (splitBefore (fun c => isTagSpace c || c == '/' || c == '>') t).1).head?.any
      Char.isAlpha = true := by
  cases t with
  | nil => simp at h
  | cons c r =>
    have halpha : c.isAlpha = true := by simpa using h
    -- a letter is no null character, so it is not replaced
    have hnull : ¬ c.toNat = 0 := by
      intro hzero
      have hc : c = '\x00' := Char.ext (UInt32.toNat_inj.mp hzero)
      rw [hc] at halpha
      exact absurd halpha (by decide)
    -- the letter is not a break, so the name has it
    rw [splitBefore_cons (not_stop_of_isAlpha halpha)]
    show (Option.some (Char.toLower (if c.toNat = 0 then _ else c))).any Char.isAlpha = true
    rw [if_neg hnull]
    exact Text.isAlpha_toLower halpha

/-- **Every tag that was read is legible** (`Tag.Legible`), if the text has lost its carriage
    returns before. -/
theorem legible_of_readTag? {t rest : Text} {tag : Tag} (hstart : t.head?.any Char.isAlpha = true)
    (hcr : '\r' ∉ t) (h : readTag? t = some (tag, rest)) : tag.Legible := by
  unfold readTag? at h
  dsimp only at h
  obtain ⟨⟨attrs, closing, rest'⟩, hattrs, hall⟩ := Option.map_eq_some_iff.mp h
  rw [← (Prod.mk.inj hall).1]
  have hrest : '\r' ∉ (splitBefore (fun c => isTagSpace c || c == '/' || c == '>') t).2 :=
    fun hmem => hcr ((List.dropWhile_suffix _).mem hmem)
  -- the attributes that are kept are among those that were read
  have hlegible := readAttrs?_legible hrest hattrs
  refine ⟨?_, ?_, lower_keptName _, ?_, ?_, nodup_firstOfEachName attrs⟩
  · exact isAlpha_head_keptName hstart
  · refine not_mem_keptName splitBefore_not_stop ?_
    exact fun hmem => hcr ((List.takeWhile_sublist _).mem hmem)
  · exact fun a ha => (hlegible a (mem_of_mem_firstOfEachName ha)).1
  · exact fun a ha => (hlegible a (mem_of_mem_firstOfEachName ha)).2

end AccessLint.Html
