import AccessLint.Html.TokenReader
import AccessLint.Proofs.Html.Lines
import AccessLint.Proofs.Html.TagReader
import Mathlib.Data.List.Basic

namespace AccessLint.Html

/-!
# What is read of a source

* `Reading` — what follows the next tokens is the end of the text, and a start tag is read alone,
  where a `<` and a letter stand;
* `nextTokens?_reading` — so it is with the next tokens, however text is read.
-/

/-! ### Comments and document types -/

/-- What `splitComment` leaves behind a comment that is closed is the end of the text. -/
theorem splitComment_suffix {t c rest : Text} (h : splitComment t = some (c, rest)) :
    rest <:+ t := by
  fun_induction splitComment t generalizing c with
  | case1 => exact absurd h (by simp)
  | case2 r =>
    -- the two ends of a comment, of three and of four characters
    rw [← (Prod.mk.inj (Option.some.inj h)).2]
    exact suffix_of_cons (suffix_of_cons (List.suffix_cons _ _))
  | case3 r =>
    rw [← (Prod.mk.inj (Option.some.inj h)).2]
    exact suffix_of_cons (suffix_of_cons (suffix_of_cons (List.suffix_cons _ _)))
  | case4 d r _ _ ih =>
    obtain ⟨⟨c', rest'⟩, hsplit, hall⟩ := Option.map_eq_some_iff.mp h
    rw [(Prod.mk.inj hall).2] at hsplit
    exact (ih hsplit).trans (List.suffix_cons d r)

/-- A comment that is not closed takes all of the text, so what remains is an end of it in any
    case. -/
theorem readComment_suffix (t : Text) : (readComment t).2 <:+ t := by
  unfold readComment
  split
  · exact List.suffix_cons _ _
  · exact suffix_of_cons (List.suffix_cons _ _)
  · split
    · next hsplit => exact splitComment_suffix hsplit
    · exact List.nil_suffix

theorem readBogusComment_suffix (t : Text) : (readBogusComment t).2 <:+ t :=
  (List.drop_suffix _ _).trans (List.dropWhile_suffix _)

theorem skipDoctype_suffix (d : Doctype) (t : Text) : (skipDoctype d t).2 <:+ t :=
  (List.drop_suffix _ _).trans (List.dropWhile_suffix _)

/-- What remains behind the type of a page is the end of the text; all that `skipDoctype` passes
    over is dropped. -/
theorem readDoctypeEnd_suffix (d : Doctype) (t : Text) : (readDoctypeEnd d t).2 <:+ t := by
  unfold readDoctypeEnd
  split
  · exact List.nil_suffix
  · exact (skipDoctype_suffix _ _).trans (skipTagSpace_suffix t)

/-- What remains behind a quoted identifier is the end of the text. -/
theorem readIdentifier_suffix (quote : Char) (t : Text) : (readIdentifier quote t).2.2 <:+ t := by
  unfold readIdentifier
  split
  · exact List.nil_suffix
  · next hsplit => exact suffix_of_cons (splitBefore_suffix hsplit)

/-- What `readSystemId` leaves behind the second identifier of the type is the end of the text, in
    each of the cases in which it is missing or malformed. -/
theorem readSystemId_suffix (required : Bool) (d : Doctype) (t : Text) :
    (readSystemId required d t).2 <:+ t := by
  have hskip := skipTagSpace_suffix t
  unfold readSystemId
  split
  · exact List.nil_suffix
  · next heq =>
    rw [heq] at hskip
    exact suffix_of_cons hskip
  · next c r _ heq =>
    rw [heq] at hskip
    -- a quote starts the identifier; anything else is skipped up to the end
    have hid := (readIdentifier_suffix c r).trans (suffix_of_cons hskip)
    split
    · dsimp only
      split
      · exact (readDoctypeEnd_suffix _ _).trans hid
      · exact hid
    · exact (skipDoctype_suffix _ _).trans hskip

/-- What `readPublicId` leaves behind the first identifier is the end of the text, in the same
    way. -/
theorem readPublicId_suffix (d : Doctype) (t : Text) : (readPublicId d t).2 <:+ t := by
  have hskip := skipTagSpace_suffix t
  unfold readPublicId
  split
  · exact List.nil_suffix
  · next heq =>
    rw [heq] at hskip
    exact suffix_of_cons hskip
  · next c r _ heq =>
    rw [heq] at hskip
    have hid := (readIdentifier_suffix c r).trans (suffix_of_cons hskip)
    split
    · dsimp only
      split
      · exact (readSystemId_suffix _ _ _).trans hid
      · exact hid
    · exact (skipDoctype_suffix _ _).trans hskip

/-- What `readDoctype` leaves behind the whole type is the end of the text, with or without its
    identifiers. -/
theorem readDoctype_suffix (t : Text) : (readDoctype t).2 <:+ t := by
  have hskip := skipTagSpace_suffix t
  unfold readDoctype
  split
  · exact List.nil_suffix
  · next heq =>
    rw [heq] at hskip
    exact suffix_of_cons hskip
  · next c r _ heq =>
    rw [heq] at hskip
    dsimp only [splitBefore]
    -- what is left after the name, before the identifiers
    have hafter := (skipTagSpace_suffix (r.dropWhile fun d => !(isTagSpace d || d == '>'))).trans
      ((List.dropWhile_suffix _).trans (suffix_of_cons hskip))
    split
    · exact List.nil_suffix
    · next heq' =>
      rw [heq'] at hafter
      exact suffix_of_cons hafter
    · split
      · exact ((readPublicId_suffix _ _).trans (List.drop_suffix _ _)).trans hafter
      · split
        · exact ((readSystemId_suffix _ _ _).trans (List.drop_suffix _ _)).trans hafter
        · exact (skipDoctype_suffix _ _).trans hafter

/-! ### Text of elements without markup -/

/-- The content of a text element that `splitAtEndTag` gives, and what remains, are parts of the
    text, whether or not the end tag is found. -/
theorem splitAtEndTag_suffix (name t : Text) : (splitAtEndTag name t).2 <:+ t := by
  fun_induction splitAtEndTag name t with
  | case1 => exact List.suffix_refl _
  | case2 r _ => exact List.suffix_refl _
  | case3 r _ ts rest hrest ih =>
    rw [hrest] at ih
    exact ih.trans (List.suffix_cons _ _)
  | case4 c r _ ts rest hrest ih =>
    rw [hrest] at ih
    exact ih.trans (List.suffix_cons _ _)

/-- The same for the content of a script, whatever comments stand in it. -/
theorem splitScript_suffix (d : ScriptDepth) (t : Text) : (splitScript d t).2 <:+ t := by
  induction t generalizing d with
  | nil => exact List.suffix_refl _
  | cons c r ih =>
    unfold splitScript
    split
    · exact List.suffix_refl _
    · next d' _ => exact (ih d').trans (List.suffix_cons c r)

/-! ### The next tokens -/

/-- What is said of the tokens at the start of a text: what follows is the end of the text, and a
    start tag is alone, after a `<`. -/
structure Reading (t : Text) (tokens : List Token) (rest : Text) : Prop where
  suffix : rest <:+ t
  startTag : ∀ tag, Token.startTag tag ∈ tokens → tokens = [.startTag tag] ∧
    ∃ r, t = '<' :: r ∧ r.head?.any Char.isAlpha = true ∧ readTag? r = some (tag, rest)

/-- For tokens without a start tag `Reading` asks only that what remains is the end of the text. -/
theorem Reading.of_suffix {t rest : Text} {tokens : List Token} (h : rest <:+ t)
    (hno : ∀ tag, Token.startTag tag ∉ tokens) : Reading t tokens rest :=
  ⟨h, fun tag htag => absurd htag (hno tag)⟩

/-- Text is divided at null characters, which makes no start tag, … -/
theorem startTag_not_mem_textAndNulls (t : Text) (tag : Tag) :
    Token.startTag tag ∉ textAndNulls t := by
  induction t with
  | nil => exact List.not_mem_nil
  | cons c r ih =>
    unfold textAndNulls
    split
    · simp [ih]
    · split
      · next heq =>
        rw [heq] at ih
        simpa using ih
      · simp [ih]

/-- … nor does text that is divided into tokens in another mode, … -/
theorem startTag_not_mem_textTokens (t : Text) (tag : Tag) :
    Token.startTag tag ∉ textTokens t := by
  unfold textTokens
  split <;> simp

/-- … nor the text in front of markup that is malformed. -/
theorem startTag_not_mem_afterFlaw {run : Text} {ts : List Token} {tag : Tag}
    (h : Token.startTag tag ∉ ts) : Token.startTag tag ∉ afterFlaw run ts := by
  unfold afterFlaw
  split
  · simpa using h
  · exact h

/-- What `readDeclaration` reads, a comment, a type or a section of plain text, is no start tag, and
    what remains is the end of the text. -/
theorem readDeclaration_no_startTag (inForeign : Bool) (t : Text) :
    (readDeclaration inForeign t).2 <:+ t ∧
      ∀ tag, Token.startTag tag ∉ (readDeclaration inForeign t).1 := by
  unfold readDeclaration
  split
  · next r =>
    have htwo : r <:+ '-' :: '-' :: r := (List.suffix_cons _ _).trans (List.suffix_cons _ _)
    exact ⟨(readComment_suffix r).trans htwo, by simp⟩
  · split
    · exact ⟨(readDoctype_suffix _).trans (List.drop_suffix _ _), by simp⟩
    · split
      · next r hcdata =>
        -- a section of plain text, which only foreign content has
        have hr : r <:+ t := by
          split at hcdata
          · exact ⟨_, List.append_eq_of_isPrefixOf?_eq_some hcdata⟩
          · exact absurd hcdata (by simp)
        split
        · exact ⟨(List.drop_suffix _ _).trans hr, startTag_not_mem_textAndNulls _⟩
        · exact ⟨List.nil_suffix, startTag_not_mem_textAndNulls _⟩
      · exact ⟨readBogusComment_suffix _, by simp⟩

/-- What is read at a `<` is a start tag alone, or tokens without one: an end tag, a declaration or
    plain text. -/
theorem readMarkup?_reading {inForeign : Bool} {t rest : Text} {tokens : List Token}
    (h : readMarkup? inForeign t = some (tokens, rest)) : Reading ('<' :: t) tokens rest := by
  have hcons : ∀ {s : Text}, s <:+ t → s <:+ '<' :: t := fun hs => hs.trans (List.suffix_cons _ _)
  unfold readMarkup? at h
  split at h
  · obtain ⟨rfl, rfl⟩ := Prod.mk.inj (Option.some.inj h)
    exact .of_suffix List.nil_suffix (by simp)
  · next r =>
    obtain ⟨hsuffix, hno⟩ := readDeclaration_no_startTag inForeign r
    rw [Option.some.inj h] at hsuffix hno
    exact .of_suffix (hcons (hsuffix.trans (List.suffix_cons _ _))) hno
  · obtain ⟨rfl, rfl⟩ := Prod.mk.inj (Option.some.inj h)
    exact .of_suffix (hcons (readBogusComment_suffix _)) (by simp)
  · -- an end tag, or what looks like one
    split at h
    · obtain ⟨rfl, rfl⟩ := Prod.mk.inj (Option.some.inj h)
      exact .of_suffix List.nil_suffix (by simp)
    · obtain ⟨rfl, rfl⟩ := Prod.mk.inj (Option.some.inj h)
      exact .of_suffix (hcons ((List.suffix_cons _ _).trans (List.suffix_cons _ _))) (by simp)
    · next c r _ =>
      split at h
      · obtain ⟨⟨tag, rest'⟩, htag, hall⟩ := Option.map_eq_some_iff.mp h
        obtain ⟨rfl, rfl⟩ := Prod.mk.inj hall
        exact .of_suffix (hcons ((readTag?_suffix htag).trans (List.suffix_cons _ _))) (by simp)
      · obtain ⟨rfl, rfl⟩ := Prod.mk.inj (Option.some.inj h)
        exact .of_suffix (hcons ((readBogusComment_suffix _).trans (List.suffix_cons _ _)))
          (by simp)
  · next c r _ _ _ =>
    -- a start tag if a letter follows, else text
    split at h
    · next halpha =>
      obtain ⟨⟨tag, rest'⟩, htag, hall⟩ := Option.map_eq_some_iff.mp h
      obtain ⟨rfl, rfl⟩ := Prod.mk.inj hall
      refine ⟨hcons (readTag?_suffix htag), fun tag' htag' => ?_⟩
      have hsame : tag' = tag := by simpa using htag'
      rw [hsame]
      exact ⟨rfl, c :: r, rfl, by simpa using halpha, htag⟩
    · obtain ⟨rfl, rfl⟩ := Prod.mk.inj (Option.some.inj h)
      exact .of_suffix (List.suffix_cons _ _) (by simp)

/-- An end tag that ends the text of an element is no start tag, and what remains behind it is the
    end of the text. -/
theorem reading_endTag {t t' rest : Text} {tokens : List Token} (ht : t' <:+ t)
    (h : (readTag? (t'.drop 2)).map (fun p => ([Token.endTag p.1], p.2)) = some (tokens, rest)) :
    Reading t tokens rest := by
  obtain ⟨⟨tag, rest'⟩, htag, hall⟩ := Option.map_eq_some_iff.mp h
  obtain ⟨rfl, rfl⟩ := Prod.mk.inj hall
  exact .of_suffix (((readTag?_suffix htag).trans (List.drop_suffix _ _)).trans ht) (by simp)

/-- **The next tokens**, in every mode of reading: what remains is the end of the text, and a start
    tag is alone, behind its `<`. -/
theorem nextTokens?_reading {mode : TextMode} {inForeign : Bool} {t rest : Text}
    {tokens : List Token} (h : nextTokens? mode inForeign t = some (tokens, rest)) :
    Reading t tokens rest := by
  unfold nextTokens? at h
  split at h
  · exact absurd h (by simp)
  · cases mode with
    | markup =>
      dsimp only at h
      split at h
      · exact readMarkup?_reading h
      · obtain ⟨rfl, rfl⟩ := Prod.mk.inj (Option.some.inj h)
        exact .of_suffix (List.dropWhile_suffix _)
          fun tag => startTag_not_mem_afterFlaw (startTag_not_mem_textAndNulls _ tag)
    | escapable name =>
      have hsuffix := splitAtEndTag_suffix name t
      dsimp only at h
      split at h
      · next hsplit =>
        rw [hsplit] at hsuffix
        exact reading_endTag hsuffix h
      · next hsplit =>
        rw [hsplit] at hsuffix
        obtain ⟨rfl, rfl⟩ := Prod.mk.inj (Option.some.inj h)
        exact .of_suffix hsuffix
          fun tag => startTag_not_mem_afterFlaw (startTag_not_mem_textTokens _ tag)
    | raw name =>
      have hsuffix := splitAtEndTag_suffix name t
      dsimp only at h
      split at h
      · next hsplit =>
        rw [hsplit] at hsuffix
        exact reading_endTag hsuffix h
      · next hsplit =>
        rw [hsplit] at hsuffix
        obtain ⟨rfl, rfl⟩ := Prod.mk.inj (Option.some.inj h)
        exact .of_suffix hsuffix (startTag_not_mem_textTokens _)
    | script =>
      have hsuffix := splitScript_suffix .plain t
      dsimp only at h
      split at h
      · next rest' hsplit =>
        rw [hsplit] at hsuffix
        obtain ⟨⟨tag, after⟩, htag, hall⟩ := Option.map_eq_some_iff.mp h
        obtain ⟨rfl, rfl⟩ := Prod.mk.inj hall
        -- a byte order mark after the end tag of a script is passed over
        have hafter := ((readTag?_suffix htag).trans (List.drop_suffix _ _)).trans hsuffix
        exact .of_suffix ((withoutMark_suffix after).trans hafter) (by simp)
      · next hsplit =>
        rw [hsplit] at hsuffix
        obtain ⟨rfl, rfl⟩ := Prod.mk.inj (Option.some.inj h)
        exact .of_suffix hsuffix (startTag_not_mem_textTokens _)
    | plain =>
      obtain ⟨rfl, rfl⟩ := Prod.mk.inj (Option.some.inj h)
      exact .of_suffix List.nil_suffix (startTag_not_mem_textTokens _)

end AccessLint.Html
