import AccessLint.Proofs.Html.Origin
import AccessLint.Proofs.Html.Reference

namespace AccessLint.Html

/-!
# Reading what was written

The start tag of an element is written so that it can be read again. Only carriage returns in values
are lost, since every reader takes them for line ends.

* `normalizeLines_markup` — what reading makes of a written attribute before it looks at it;
* `readAttrs?_markup` — the written attributes are read one by one;
* `readTag?_startTag` — the start tag of an element is read as a tag with its attributes;
* `startTagAt?_append` — so it is wherever in a source the start tag is found.
-/

/-! ### Written attributes -/

/-- `Attr.markup` with its parts: a space, the name, and the escaped value between double quotes. -/
theorem Attr.markup_eq (a : Attr) :
    a.markup = ' ' :: (a.writtenName ++ '=' :: '"' :: (a.value.flatMap escapeValue ++ ['"'])) := by
  have hsign : ("=\"" : Text) = ['=', '"'] := rfl
  unfold markup writtenName
  rw [hsign]
  simp

/-- A written value has no quotes in it, so it ends at the quote that `Attr.markup` puts behind
    it. -/
theorem quote_not_mem_escaped (v : Text) : '"' ∉ v.flatMap escapeValue := by
  rw [List.mem_flatMap]
  rintro ⟨c, -, hc⟩
  unfold escapeValue at hc
  split at hc
  · exact absurd hc (by decide)
  · split at hc
    · exact absurd hc (by decide)
    · split at hc
      · exact absurd hc (by decide)
      · next hne => exact hne (List.mem_singleton.mp hc).symm

/-- Escaping brings no carriage return of its own. -/
theorem cr_not_mem_escapeValue {c : Char} (hc : c ≠ '\r') : '\r' ∉ escapeValue c := by
  unfold escapeValue
  split
  · decide
  · split
    · decide
    · split
      · decide
      · exact fun h => hc (List.mem_singleton.mp h).symm

/-- What `escapeValue` writes starts with a line feed only for a line feed, so no line end of two
    characters comes about. -/
theorem head_escapeValue {c : Char} (hc : c ≠ '\n') :
    ∃ d s, escapeValue c = d :: s ∧ d ≠ '\n' := by
  unfold escapeValue
  split
  · exact ⟨'&', ['a', 'm', 'p', ';'], rfl, by decide⟩
  · split
    · exact ⟨'&', ['n', 'b', 's', 'p', ';'], rfl, by decide⟩
    · split
      · exact ⟨'&', ['q', 'u', 'o', 't', ';'], rfl, by decide⟩
      · exact ⟨c, [], rfl, hc⟩

/-- A written value starts with a line feed only if the value does: the induction of
    `normalizeLines_escaped` needs this behind a carriage return. -/
theorem newline_not_head_escaped {v : Text} (h : ∀ r, v ≠ '\n' :: r) (rest : Text) :
    ∀ r, v.flatMap escapeValue ++ '"' :: rest ≠ '\n' :: r := by
  intro r heq
  cases v with
  | nil => exact absurd (List.cons.inj heq).1 (by decide)
  | cons c v =>
    -- the first character is written as itself or as a reference, which starts otherwise
    have hc : c ≠ '\n' := fun hc => h v (by rw [hc])
    obtain ⟨d, s, hd, hne⟩ := head_escapeValue hc
    rw [List.flatMap_cons, hd] at heq
    exact hne (List.cons.inj heq).1

/-- What `normalizeLines` makes of a written value: its line ends are replaced as they would be in
    the value itself. -/
theorem normalizeLines_escaped (v rest : Text) :
    normalizeLines (v.flatMap escapeValue ++ '"' :: rest) =
      (normalizeLines v).flatMap escapeValue ++ '"' :: normalizeLines rest := by
  have hcr : escapeValue '\r' = ['\r'] := by decide
  have hlf : escapeValue '\n' = ['\n'] := by decide
  fun_induction normalizeLines v with
  | case1 =>
    rw [List.flatMap_nil, List.nil_append, List.nil_append]
    exact normalizeLines_cons (by decide) rest
  | case2 r ih =>
    -- a carriage return with its line feed
    rw [List.flatMap_cons, List.flatMap_cons, List.flatMap_cons, hcr, hlf]
    show normalizeLines ('\r' :: '\n' :: (r.flatMap escapeValue ++ '"' :: rest)) = _
    rw [normalizeLines, ih]
    rfl
  | case3 c r hpair ih =>
    rw [List.flatMap_cons, List.flatMap_cons, List.append_assoc, List.append_assoc, ← ih]
    by_cases hc : c = '\r'
    · -- a carriage return alone
      rw [if_pos hc, hc, hcr, hlf]
      show normalizeLines ('\r' :: (r.flatMap escapeValue ++ '"' :: rest)) = _
      rw [normalizeLines, if_pos rfl]
      · rfl
      · -- no line feed follows it, so none follows where it is written
        intro r' _ heq
        exact newline_not_head_escaped (fun r'' hr => hpair r'' hc hr) rest r' heq
    · rw [if_neg hc]
      exact normalizeLines_append (cr_not_mem_escapeValue hc) _

/-- An attribute whose value has lost its carriage returns. -/
def Attr.withoutReturns (a : Attr) : Attr := { a with value := normalizeLines a.value }

/-- What `normalizeLines` makes of a written attribute: only the value loses its carriage
    returns. -/
theorem normalizeLines_markup {a : Attr} (h : '\r' ∉ a.writtenName) (rest : Text) :
    normalizeLines (a.markup ++ rest) = a.withoutReturns.markup ++ normalizeLines rest := by
  have hname : '\r' ∉ ' ' :: (a.writtenName ++ ['=', '"']) := by
    simp [h]
  have hsplit : ∀ v r : Text, ' ' :: (a.writtenName ++ '=' :: '"' :: (v ++ ['"'])) ++ r =
      (' ' :: (a.writtenName ++ ['=', '"'])) ++ (v ++ '"' :: r) := by
    simp
  rw [Attr.markup_eq, Attr.markup_eq, hsplit, normalizeLines_append hname, normalizeLines_escaped]
  exact (hsplit _ _).symm

/-- The same for attributes that are written one after the other. -/
theorem normalizeLines_attrs {attrs : List Attr} (h : ∀ a ∈ attrs, '\r' ∉ a.writtenName)
    (rest : Text) : normalizeLines (attrs.flatMap Attr.markup ++ rest) =
      (attrs.map Attr.withoutReturns).flatMap Attr.markup ++ normalizeLines rest := by
  induction attrs with
  | nil => rfl
  | cons a attrs ih =>
    rw [List.flatMap_cons, List.append_assoc, normalizeLines_markup (h a List.mem_cons_self),
      ih fun b hb => h b (List.mem_cons_of_mem a hb), List.map_cons, List.flatMap_cons,
      List.append_assoc]

/-! ### Reading attributes -/

/-- `splitBefore` splits off the characters before a break, whatever stands behind the break. -/
theorem splitBefore_append {stop : Char → Bool} {p : Text} {c : Char} (hp : ∀ d ∈ p, stop d = false)
    (hc : stop c = true) (rest : Text) : splitBefore stop (p ++ c :: rest) = (p, c :: rest) := by
  unfold splitBefore
  rw [List.takeWhile_append_of_pos (by simpa using hp), List.dropWhile_append_of_pos
    (by simpa using hp)]
  simp [hc]

theorem skipTagSpace_cons {c : Char} (h : isTagSpace c = false) (rest : Text) :
    skipTagSpace (c :: rest) = c :: rest := by
  unfold skipTagSpace
  rw [List.dropWhile_cons_of_neg]
  simp [h]

/-- No break is in a name, so the reader of tags takes all of it. -/
theorem not_stop_of_legible {n : Text} (h : ∀ d ∈ tagBreaks, d ∉ n) {c : Char} (hc : c ∈ n) :
    isTagSpace c = false ∧ (c == '/') = false ∧ (c == '>') = false := by
  have hne : ∀ d ∈ tagBreaks, (c == d) = false := by
    intro d hd
    rw [beq_eq_false_iff_ne]
    rintro rfl
    exact h c hd hc
  unfold isTagSpace
  rw [hne '\t' (by decide), hne '\n' (by decide), hne '\x0c' (by decide), hne ' ' (by decide)]
  exact ⟨rfl, hne '/' (by decide), hne '>' (by decide)⟩

theorem replaceNulls_eq_self {t : Text} (h : ∀ c ∈ t, c.toNat ≠ 0) : replaceNulls t = t := by
  unfold replaceNulls
  have hsame : ∀ c ∈ t, (if c.toNat = 0 then Text.replacement else c) = c :=
    fun c hc => if_neg (h c hc)
  exact (List.map_congr_left hsame).trans (List.map_id' _)

/-- A written value is read as the value, once the three escaped characters are read again
    (`decodeReferences_escapeValue`). -/
theorem keptValue_escaped {v : Text} (h : ∀ c ∈ v, c.toNat ≠ 0) :
    keptValue (v.flatMap escapeValue) = v := by
  unfold keptValue
  rw [decodeReferences_escapeValue, replaceNulls_eq_self h]

/-- `readValue?` reads a value between quotes, and what remains is what stands behind the second
    quote. -/
theorem readValue?_escaped {v : Text} (h : ∀ c ∈ v, c.toNat ≠ 0) (rest : Text) :
    readValue? ('"' :: (v.flatMap escapeValue ++ '"' :: rest)) = some (v, rest) := by
  have hquotes : ∀ d ∈ v.flatMap escapeValue, (d == '"') = false := by
    intro d hd
    rw [beq_eq_false_iff_ne]
    rintro rfl
    exact quote_not_mem_escaped v hd
  unfold readValue?
  rw [skipTagSpace_cons (by decide)]
  show readQuoted? '"' _ = _
  unfold readQuoted?
  rw [splitBefore_append hquotes (by decide)]
  dsimp only
  rw [keptValue_escaped h]

/-- What is said of an attribute that can be written: its name is read as a legible one, and its
    value has no null character. -/
structure Attr.Writable (a : Attr) : Prop where
  name : LegibleName (Text.lower a.writtenName)
  value : ∀ c ∈ a.value, c.toNat ≠ 0

/-- A name that is written has no break in it: one would be in the name as it is read. -/
theorem Attr.Writable.chars {a : Attr} (h : a.Writable) : ∀ d ∈ tagBreaks, d ∉ a.writtenName := by
  intro d hd hmem
  exact h.name.chars d hd ((Text.mem_lower (isAlpha_tagBreaks hd)).mpr hmem)

/-- A written name is kept in lower case, the form in which the tag had it. -/
theorem Attr.Writable.keptName {a : Attr} (h : a.Writable) :
    keptName a.writtenName = Text.lower a.writtenName := by
  unfold Html.keptName
  rw [replaceNulls_eq_self]
  intro c hc hzero
  have hnull : c = '\x00' := Char.ext (UInt32.toNat_inj.mp hzero)
  rw [hnull] at hc
  exact h.chars '\x00' (by decide) hc

/-- The name of an attribute that can be written (`Attr.Writable`) has a first character that starts
    an attribute, and goes on to the equals sign behind it. -/
theorem Attr.Writable.exists_name {a : Attr} (h : a.Writable) :
    ∃ c r, a.writtenName = c :: r ∧
      (isTagSpace c = false ∧ (c == '/') = false ∧ (c == '>') = false) ∧
      ∀ d ∈ r, (isTagSpace d || d == '/' || d == '>' || d == '=') = false := by
  obtain ⟨c', r', hlower, heq'⟩ := h.name.start
  obtain ⟨c, r, hname, hr⟩ : ∃ c r, a.writtenName = c :: r ∧ Text.lower r = r' := by
    cases hw : a.writtenName with
    | nil =>
      rw [hw] at hlower
      exact absurd hlower (by simp [Text.lower])
    | cons c r =>
      rw [hw] at hlower
      exact ⟨c, r, rfl, (List.cons.inj hlower).2⟩
  have hsign : '=' ∉ r := by
    rw [← hr] at heq'
    exact fun hmem => heq' ((Text.mem_lower (by decide)).mpr hmem)
  have hchars := h.chars
  rw [hname] at hchars
  refine ⟨c, r, hname, not_stop_of_legible hchars List.mem_cons_self, ?_⟩
  intro d hd
  obtain ⟨h1, h2, h3⟩ := not_stop_of_legible hchars (List.mem_cons_of_mem c hd)
  have h4 : (d == '=') = false := by
    rw [beq_eq_false_iff_ne]
    rintro rfl
    exact hsign hd
  rw [h1, h2, h3, h4]
  rfl

/-- `readAttrs?` reads a written attribute, and the others are read from what follows it. -/
theorem readAttrs?_cons {a : Attr} (h : a.Writable) (fuel : Nat) (rest : Text) :
    readAttrs? (fuel + 1) (a.markup ++ rest) =
      (readAttrs? fuel rest).map fun (as, r) => (a.asRead :: as, r) := by
  obtain ⟨c, r, hname, ⟨hspace, hslash, hgreater⟩, hstops⟩ := h.exists_name
  -- the rest of the name ends at the equals sign, the value at the second quote
  have hattr : readAttr? c (r ++ '=' :: '"' :: (a.value.flatMap escapeValue ++ '"' :: rest)) =
      some (a.asRead, rest) := by
    unfold readAttr?
    rw [splitBefore_append hstops (by decide)]
    dsimp only
    rw [skipTagSpace_cons (by decide)]
    show (readValue? _).map _ = _
    rw [readValue?_escaped h.value, ← hname, h.keptName]
    rfl
  have htext : skipTagSpace (a.markup ++ rest) =
      c :: (r ++ '=' :: '"' :: (a.value.flatMap escapeValue ++ '"' :: rest)) := by
    rw [Attr.markup_eq, hname]
    show skipTagSpace (' ' :: _) = _
    unfold skipTagSpace
    rw [List.dropWhile_cons_of_pos (by decide)]
    have hcons := skipTagSpace_cons hspace
      (r ++ '=' :: '"' :: (a.value.flatMap escapeValue ++ '"' :: rest))
    simpa [skipTagSpace] using hcons
  rw [readAttrs?, htext]
  -- the first character of a name is none of those that do not start an attribute
  split
  · next heq => exact absurd heq (by simp)
  · next heq =>
    rw [(List.cons.inj heq).1] at hgreater
    exact absurd hgreater (by decide)
  · next heq =>
    rw [(List.cons.inj heq).1] at hslash
    exact absurd hslash (by decide)
  · next heq =>
    rw [(List.cons.inj heq).1] at hslash
    exact absurd hslash (by decide)
  · next heq =>
    obtain ⟨rfl, rfl⟩ := List.cons.inj heq
    rw [hattr]

/-- **Written attributes are read one by one**, up to the `>` behind them. -/
theorem readAttrs?_markup {attrs : List Attr} (h : ∀ a ∈ attrs, a.Writable) (fuel : Nat)
    (rest : Text) : readAttrs? (attrs.length + fuel + 1) (attrs.flatMap Attr.markup ++ '>' :: rest) =
      some (attrs.map Attr.asRead, false, rest) := by
  induction attrs with
  | nil =>
    rw [List.flatMap_nil, List.nil_append, readAttrs?, skipTagSpace_cons (by decide)]
    rfl
  | cons a attrs ih =>
    have hfuel : (a :: attrs).length + fuel + 1 = attrs.length + fuel + 1 + 1 := by
      simp only [List.length_cons]
      omega
    rw [hfuel, List.flatMap_cons, List.append_assoc, readAttrs?_cons (h a List.mem_cons_self),
      ih fun b hb => h b (List.mem_cons_of_mem a hb)]
    rfl

/-! ### Reading start tags -/

/-- `firstOfEachName` keeps all attributes with different names, by induction with the kept ones in
    front. -/
theorem foldl_firstOfEachName_eq {attrs : List (Text × Text)} (kept : List (Text × Text))
    (h : ((kept ++ attrs).map Prod.fst).Nodup) :
    attrs.foldl (fun kept a => if kept.any fun k => k.1 == a.1 then kept else kept ++ [a]) kept =
      kept ++ attrs := by
  induction attrs generalizing kept with
  | nil => simp
  | cons a attrs ih =>
    -- the name of the next attribute was not kept before
    have hnew : (kept.any fun k => k.1 == a.1) = false := by
      rw [List.any_eq_false]
      intro k hk heq
      rw [List.map_append, List.nodup_append] at h
      exact h.2.2 k.1 (List.mem_map_of_mem hk) a.1 List.mem_cons_self (beq_iff_eq.mp heq)
    have hsplit : kept ++ a :: attrs = (kept ++ [a]) ++ attrs := by simp
    rw [List.foldl_cons, hnew, hsplit]
    rw [hsplit] at h
    exact ih _ h

theorem firstOfEachName_eq_self {attrs : List (Text × Text)} (h : (attrs.map Prod.fst).Nodup) :
    firstOfEachName attrs = attrs :=
  foldl_firstOfEachName_eq [] h

/-- Every attribute takes some characters, so the length of the text is fuel enough for
    `readAttrs?`. -/
theorem length_le_markup (attrs : List Attr) : attrs.length ≤ (attrs.flatMap Attr.markup).length := by
  induction attrs with
  | nil => exact Nat.le_refl 0
  | cons a attrs ih =>
    rw [List.flatMap_cons, List.length_append, Attr.markup_eq]
    simp only [List.length_cons]
    omega

/-- A tag whose parts can be read is read: its name up to the first space or `>`, then its
    attributes. -/
theorem readTag?_written {name : Text} {attrs : List Attr} (hname : ∀ d ∈ tagBreaks, d ∉ name)
    (hattrs : ∀ a ∈ attrs, a.Writable) (hnodup : (attrs.map fun a => a.asRead.1).Nodup)
    (rest : Text) : readTag? (name ++ (attrs.flatMap Attr.markup ++ '>' :: rest)) =
      some (⟨keptName name, attrs.map Attr.asRead, false⟩, rest) := by
  -- the name ends at the space before the first attribute, or at the end of the tag
  obtain ⟨c, r, hcons, hstop⟩ : ∃ c r, attrs.flatMap Attr.markup ++ '>' :: rest = c :: r ∧
      (isTagSpace c || c == '/' || c == '>') = true := by
    cases attrs with
    | nil => exact ⟨'>', rest, rfl, by decide⟩
    | cons a attrs =>
      rw [List.flatMap_cons, Attr.markup_eq]
      exact ⟨' ', _, rfl, by decide⟩
  have hno : ∀ d ∈ name, (isTagSpace d || d == '/' || d == '>') = false := by
    intro d hd
    obtain ⟨h1, h2, h3⟩ := not_stop_of_legible hname hd
    rw [h1, h2, h3]
    rfl
  -- there are more characters than attributes
  obtain ⟨k, hk⟩ : ∃ k, (c :: r).length = attrs.length + k := by
    apply Nat.exists_eq_add_of_le
    rw [← hcons, List.length_append]
    exact Nat.le_add_right_of_le (length_le_markup attrs)
  unfold readTag?
  rw [hcons, splitBefore_append hno hstop]
  dsimp only
  rw [hk, ← hcons, readAttrs?_markup hattrs]
  show some (_, _) = _
  rw [firstOfEachName_eq_self]
  rw [List.map_map]
  exact hnodup

/-- The attributes of an element that carries those of a legible tag are `Attr.Writable`: their
    names can be read, and no value has a null character. -/
theorem Attr.writable_of_carries {e : Element} {t : Tag} (ht : t.Legible) (h : e.Carries t) :
    ∀ a ∈ e.attrs, a.Writable := by
  intro a ha
  have hmem : a.asRead ∈ t.attrs := h.mem_iff.mp (List.mem_map_of_mem ha)
  exact ⟨ht.names _ hmem, ht.values _ hmem⟩

/-- Reading brings no character but the line feed. -/
theorem mem_normalizeLines {c : Char} {t : Text} (h : c ∈ normalizeLines t) : c ∈ t ∨ c = '\n' := by
  fun_induction normalizeLines t with
  | case1 => exact Or.inl h
  | case2 r ih =>
    rcases List.mem_cons.mp h with rfl | h
    · exact Or.inr rfl
    · rcases ih h with h | h
      · exact Or.inl (List.mem_cons_of_mem _ (List.mem_cons_of_mem _ h))
      · exact Or.inr h
  | case3 d r _ ih =>
    rcases List.mem_cons.mp h with h | h
    · split at h
      · exact Or.inr h
      · exact Or.inl (h ▸ List.mem_cons_self)
    · rcases ih h with h | h
      · exact Or.inl (List.mem_cons_of_mem _ h)
      · exact Or.inr h

/-- An attribute that can be written can be written without its carriage returns too. -/
theorem Attr.Writable.withoutReturns {a : Attr} (h : a.Writable) : a.withoutReturns.Writable := by
  refine ⟨h.name, fun c hc => ?_⟩
  rcases mem_normalizeLines hc with hc | rfl
  · exact h.value c hc
  · decide

/-- The attributes of an element as they are read where its start tag is written. -/
def Element.writtenAttrs (e : Element) : List (Text × Text) :=
  (e.attrs.map Attr.withoutReturns).map Attr.asRead

/-- `writtenAttrs` has the attributes of the element exactly if no value has a carriage return,
    which reading would replace. -/
theorem Element.perm_writtenAttrs_iff {e : Element} :
    (e.attrs.map Attr.asRead).Perm e.writtenAttrs ↔ ∀ a ∈ e.attrs, '\r' ∉ a.value := by
  constructor
  · intro hperm a ha
    -- what is read has no carriage returns
    obtain ⟨b, hb, hread⟩ := List.mem_map.mp (hperm.mem_iff.mp (List.mem_map_of_mem ha))
    obtain ⟨c, -, rfl⟩ := List.mem_map.mp hb
    have hvalue : normalizeLines c.value = a.value := congrArg Prod.snd hread
    rw [← hvalue]
    exact not_mem_normalizeLines c.value
  · intro hno
    have hsame : e.attrs.map Attr.withoutReturns = e.attrs := by
      refine (List.map_congr_left fun a ha => ?_).trans (List.map_id' _)
      show ({ a with value := normalizeLines a.value } : Attr) = a
      rw [normalizeLines_eq_self (hno a ha)]
    unfold writtenAttrs
    rw [hsame]

/-- **The start tag of an element is read** by `readTag?` as a tag with its attributes, whose values
    have lost their carriage returns. -/
theorem readTag?_startTag {e : Element} (h : Stock.legible.Makes e) (rest : Text) :
    ∃ t : Tag, t.Legible ∧ e.Carries t ∧
      readTag? (normalizeLines (e.name ++ (e.attrs.flatMap Attr.markup ++ '>' :: rest))) =
        some (⟨t.name, e.writtenAttrs, false⟩, normalizeLines rest) := by
  obtain ⟨t, ht, hcarries, hname⟩ := h.carries
  have hwritable := Attr.writable_of_carries ht hcarries
  have hchars : ∀ d ∈ tagBreaks, d ∉ e.name := by
    intro d hd hmem
    apply ht.chars d hd
    rw [← hname]
    exact (Text.mem_lower (isAlpha_tagBreaks hd)).mpr hmem
  have hcr : ∀ a ∈ e.attrs, '\r' ∉ a.writtenName :=
    fun a ha => (hwritable a ha).chars '\r' (by decide)
  -- values do not matter to the names, so these are different as those of the tag are
  have hnodup : ((e.attrs.map Attr.withoutReturns).map fun a => a.asRead.1).Nodup := by
    have hread := (hcarries.map Prod.fst).nodup_iff.mpr ht.nodup
    rw [List.map_map] at hread ⊢
    exact hread
  have hkept : keptName e.name = t.name := by
    unfold keptName
    rw [replaceNulls_eq_self, hname]
    intro c hc hzero
    have hnull : c = '\x00' := Char.ext (UInt32.toNat_inj.mp hzero)
    rw [hnull] at hc
    exact hchars '\x00' (by decide) hc
  refine ⟨t, ht, hcarries, ?_⟩
  rw [normalizeLines_append (hchars '\r' (by decide)), normalizeLines_attrs hcr,
    normalizeLines_cons (by decide), readTag?_written hchars ?_ hnodup, hkept]
  · rfl
  · intro a ha
    obtain ⟨b, hb, rfl⟩ := List.mem_map.mp ha
    exact (hwritable b hb).withoutReturns

/-- A name whose lower case starts with a letter starts with a letter, so its start tag is read as
    one. -/
theorem isAlpha_head_of_lower {t : Text} (h : (Text.lower t).head?.any Char.isAlpha = true) :
    t.head?.any Char.isAlpha = true := by
  cases t with
  | nil => simp [Text.lower] at h
  | cons c r =>
    have hlower : c.toLower.isAlpha = true := by simpa [Text.lower] using h
    by_contra hc
    have hother : c.isAlpha = false := by simpa using hc
    rw [(Text.toLower_eq_iff hother).mpr rfl, hother] at hlower
    exact Bool.false_ne_true hlower

/-- **Where the start tag of an element is found**, `startTagAt?` reads a tag with its attributes,
    whatever text is around it. -/
theorem startTagAt?_append {e : Element} (h : Stock.legible.Makes e) (before after : Text) :
    ∃ t : Tag, t.Legible ∧ e.Carries t ∧
      startTagAt? (before ++ (e.startTag ++ after)) (Text.utf8Size before) =
        some ⟨t.name, e.writtenAttrs, false⟩ := by
  obtain ⟨t, ht, hcarries, hread⟩ := readTag?_startTag h after
  obtain ⟨t', ht', -, hname⟩ := h.carries
  refine ⟨t, ht, hcarries, ?_⟩
  have hstart : e.startTag ++ after =
      '<' :: (e.name ++ (e.attrs.flatMap Attr.markup ++ '>' :: after)) := by
    unfold Element.startTag
    simp
  -- a tag starts with a letter, and so does each spelling of its name
  have halpha : (e.name ++ (e.attrs.flatMap Attr.markup ++ '>' :: after)).head?.any Char.isAlpha
      = true := by
    have hletter : e.name.head?.any Char.isAlpha = true := by
      apply isAlpha_head_of_lower
      rw [hname]
      exact ht'.start
    cases hn : e.name with
    | nil =>
      rw [hn] at hletter
      simp at hletter
    | cons c r =>
      rw [hn] at hletter
      exact hletter
  have hfrom := Text.fromByte?_utf8Size before (e.startTag ++ after)
  rw [hstart] at hfrom ⊢
  rw [startTagAt?_of_fromByte? hfrom halpha, hread]
  rfl

end AccessLint.Html
