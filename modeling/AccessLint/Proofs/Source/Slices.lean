import AccessLint.Proofs.Source.RawText
import AccessLint.Proofs.Text.Boundary
import AccessLint.Proofs.Text.Lower

namespace AccessLint

/-!
# Scanning and searching by slices

The scan for start tags and the search for markup can be made with a cursor that counts bytes. All
that is read is a slice of the source, from the cursor on or from some bytes behind it, and the
cursor is set by adding up the sizes of what is found. A slice that begins or ends inside a
character, or behind the end of the source, cannot be taken.

* `Source.round?` — a round of the scan: from the cursor to the next `<`, and over what belongs to
  it;
* `Source.Scans` — rounds until no `<` is left;
* `Source.round?_cases` — every round can be made, and moves the cursor on;
* `Source.scans_iff` — so the scan comes to its end, and finds the start tags;
* `Source.searchAt?_eq` — a search by slices comes to its end too, and finds the elements.
-/

namespace Text

/-- The byte offset of the first occurrence of a text in another one. -/
def find? (needle t : Text) : Option Nat := (findFirst? needle t).map utf8Size

/-- The byte offset of the first character with a property. -/
def findAny? (p : Char → Bool) (t : Text) : Option Nat :=
  if t.any p then some (utf8Size (t.takeWhile (!p ·))) else none

/-- Whether a byte is a letter of ASCII. -/
def isLetterByte (b : UInt8) : Bool := (0x41 ≤ b && b ≤ 0x5A) || (0x61 ≤ b && b ≤ 0x7A)

/-- A text goes on with a letter exactly if its next byte is one: all other characters begin with
    another byte (`isLetterByte`). -/
theorem any_isLetterByte (a r : Text) :
    (encode (a ++ r))[utf8Size a]?.any isLetterByte = r.head?.any Char.isAlpha := by
  cases r with
  | nil => simp [← length_encode]
  | cons c r =>
    obtain ⟨first, rest, hbyte, hspells⟩ := exists_getElem?_encode a c r
    have hletter : c.isAlpha = true ↔
        65 ≤ c.toNat ∧ c.toNat ≤ 90 ∨ 97 ≤ c.toNat ∧ c.toNat ≤ 122 := by
      unfold Char.isAlpha Char.isUpper
      rw [Bool.or_eq_true, isLower_iff, decide_eq_true_eq]
      exact Iff.rfl
    rw [hbyte, Option.any_some, List.head?_cons, Option.any_some, Bool.eq_iff_iff, hletter]
    simp only [isLetterByte, Bool.or_eq_true, Bool.and_eq_true, decide_eq_true_eq,
      UInt8.le_iff_toNat_le, UInt8.reduceToNat]
    rcases hspells.ascii with h | h <;> omega

end Text

namespace Source

open Text (slice? find? findAny? utf8Size)

variable {α : Type} {before text r taken name : Text} {tag : Option StartTag} {cursor : Nat}

/-! ### Rounds -/

/-- The byte behind the content of a text element, whose name ends at the byte `start`, and the name
    of its closing tag; the end of the source, if the element is not closed. -/
def contentEnd? (source : Text) (start : Nat) (name : Text) : Option Nat := do
  let attrs ← slice? source start (utf8Size source)
  match find? ">" attrs with
  | none => return utf8Size source
  | some i =>
    let content ← slice? source (start + i + 1) (utf8Size source)
    match find? ("</" ++ name) (Text.lower content) with
    | none => return utf8Size source
    | some j => return start + i + 1 + j + utf8Size ("</" ++ name)

/-- The byte behind a comment that begins at the byte `start`, where the text `rest` stands. -/
def commentEnd? (source : Text) (start : Nat) (rest : Text) : Option Nat := do
  let inside ← slice? rest 4 (utf8Size rest)
  match find? "-->" inside with
  | none => return utf8Size source
  | some i => return start + 4 + i + 3

/-- The start tag with a `<` at the byte `start`, and the byte behind its name and, in the case of a
    text element, its content. -/
def tagAt? (source : Text) (start : Nat) : Option (Nat × StartTag) := do
  let behind ← slice? source (start + 1) (utf8Size source)
  let nameEnd := ((findAny? endsName behind).map (start + 1 + ·)).getD (utf8Size source)
  let name := Text.lower (← slice? source (start + 1) nameEnd)
  if rawTextNames.contains name then
    return (← contentEnd? source nameEnd name, ⟨name, start⟩)
  else return (nameEnd, ⟨name, start⟩)

/-- What a round of the scan comes to: no `<` is left, or the scan goes on from another byte, with a
    start tag or without. -/
inductive Round
  | ended
  | goesOn (next : Nat) (tag : Option StartTag)
deriving DecidableEq

/-- A round of the scan, from the byte `cursor`. There is none if it takes a slice that the source
    does not have. -/
def round? (source : Text) (cursor : Nat) : Option Round := do
  let t ← slice? source cursor (utf8Size source)
  match find? "<" t with
  | none => return .ended
  | some found =>
    let start := cursor + found
    let rest ← slice? source start (utf8Size source)
    if List.isPrefixOf "<!--" rest then
      return .goesOn (← commentEnd? source start rest) none
    else if (Text.encode source)[start + 1]?.any Text.isLetterByte then
      let (next, tag) ← tagAt? source start
      return .goesOn next (some tag)
    else return .goesOn (start + 1) none

/-- Rounds of the scan that follow one another until no `<` is left, and the start tags that they
    find. -/
inductive Scans (source : Text) : (cursor : Nat) → List StartTag → Prop
  | ended {cursor : Nat} (h : round? source cursor = some .ended) : Scans source cursor []
  | goesOn {cursor next : Nat} {tag : Option StartTag} {tags : List StartTag}
      (h : round? source cursor = some (.goesOn next tag)) (hrest : Scans source next tags) :
      Scans source cursor (tag.toList ++ tags)

/-! ### What is read -/

/-- `Text.slice?` to the end of a source is the text that stands there, so it is in range. -/
theorem slice?_behind {source a r : Text} {start : Nat} (hsource : source = a ++ r)
    (hstart : start = utf8Size a) : slice? source start (utf8Size source) = some r := by
  rw [hsource, hstart]
  exact Text.slice?_rest a r

theorem find?_of_findFirst? {needle t : Text} (h : Text.findFirst? needle t = some before) :
    find? needle t = some (utf8Size before) := by
  rw [find?, h]
  rfl

theorem find?_of_none {needle t : Text} (h : Text.findFirst? needle t = none) :
    find? needle t = none := by
  rw [find?, h]
  rfl

/-- The content of a text element is passed over as a whole: all slices of `contentEnd?` are in
    range. -/
theorem contentEnd?_eq {t : Text} (h : RawText name t taken) (before : Text) :
    contentEnd? (before ++ t) (utf8Size before) name =
      some (utf8Size before + utf8Size taken) := by
  unfold contentEnd?
  rw [Text.slice?_rest, Option.bind_eq_bind, Option.bind_some]
  -- the content is the slice behind the first `>`
  have hcontent : ∀ attrs content : Text,
      slice? (before ++ (attrs ++ '>' :: content)) (utf8Size before + utf8Size attrs + 1)
        (utf8Size (before ++ (attrs ++ '>' :: content))) = some content := by
    intro attrs content
    apply slice?_behind (a := before ++ (attrs ++ ['>']))
    · simp
    · rw [Text.utf8Size_append, Text.utf8Size_append]
      rfl
  cases h with
  | @closed attrs inside closing after hattrs hclosing hfirst =>
    rw [find?_of_findFirst? (findFirst?_content hattrs _).1]
    dsimp only
    rw [hcontent, Option.bind_some, find?_of_findFirst? hfirst]
    dsimp only
    rw [← hclosing, Text.utf8Size_lower, Text.utf8Size_lower, Text.utf8Size_append, Text.utf8Size,
      Text.utf8Size_append]
    show some _ = some _
    have hsize : ('>' : Char).utf8Size = 1 := rfl
    congr 1
    omega
  | @unclosed attrs content hattrs hnone =>
    rw [find?_of_findFirst? (findFirst?_content hattrs _).1]
    dsimp only
    rw [hcontent, Option.bind_some, find?_of_none hnone, Text.utf8Size_append]
    rfl
  | unfinished h =>
    rw [find?_of_none (Text.findFirst?_eq_none_of_head? rfl h), Text.utf8Size_append]
    rfl

theorem utf8Size_behind (before r : Text) :
    utf8Size (before ++ '<' :: r) = utf8Size before + 1 + utf8Size r := by
  have hsize : ('<' : Char).utf8Size = 1 := rfl
  rw [Text.utf8Size_append, Text.utf8Size]
  omega

/-- A comment is passed over as a whole: all slices of `commentEnd?` are in range. -/
theorem commentEnd?_eq (h : Comment r taken) (before : Text) :
    commentEnd? (before ++ '<' :: r) (utf8Size before) ('<' :: r) =
      some (utf8Size before + 1 + utf8Size taken) := by
  have hinside : ∀ t : Text, slice? ('<' :: ("!--" ++ t)) 4 (utf8Size ('<' :: ("!--" ++ t))) =
      some t := fun t => slice?_behind (a := "<!--") rfl rfl
  unfold commentEnd?
  cases h with
  | @closed t inside h =>
    have hsize : utf8Size ("!--" ++ (inside ++ "-->")) = 3 + (utf8Size inside + 3) := by
      rw [Text.utf8Size_append, Text.utf8Size_append]
      rfl
    rw [hinside, Option.bind_eq_bind, Option.bind_some, find?_of_findFirst? h, hsize]
    show some _ = some _
    congr 1
    omega
  | @unclosed t h =>
    rw [hinside, Option.bind_eq_bind, Option.bind_some, find?_of_none h, utf8Size_behind]
    rfl

/-- The byte behind a name, which may end with the source; then `findAny?` finds no character that
    ends it. -/
theorem nameEnd_eq (before r : Text) :
    ((findAny? endsName r).map (utf8Size before + 1 + ·)).getD (utf8Size (before ++ '<' :: r)) =
      utf8Size before + 1 + utf8Size (writtenName r) := by
  unfold findAny?
  split
  · rfl
  · next hnone =>
    have hwhole : writtenName r = r := by
      unfold writtenName
      rw [List.takeWhile_eq_self_iff]
      simpa using hnone
    rw [hwhole, utf8Size_behind]
    rfl

/-- A start tag is read by `tagAt?` as it is found by `Looks`, with the byte behind what is
    taken. -/
theorem tagAt?_eq {tag : StartTag} (h : Looks (utf8Size before) r (some tag) taken) :
    tagAt? (before ++ '<' :: r) (utf8Size before) =
      some (utf8Size before + 1 + utf8Size taken, tag) := by
  have hsplit : before ++ '<' :: r =
      (before ++ ['<']) ++ (writtenName r ++ behindName r) := by
    rw [writtenName_append_behindName]
    simp
  have hstart : utf8Size before + 1 = utf8Size (before ++ ['<']) := by
    rw [Text.utf8Size_append]
    rfl
  have hbehind : slice? (before ++ '<' :: r) (utf8Size before + 1) (utf8Size (before ++ '<' :: r)) =
      some r := slice?_behind (by simp) hstart
  have hname : slice? (before ++ '<' :: r) (utf8Size before + 1)
      (utf8Size before + 1 + utf8Size (writtenName r)) = some (writtenName r) := by
    rw [hsplit, hstart]
    exact Text.slice?_append _ _ _
  -- both slices are in range; the name ends where `writtenName` does
  unfold tagAt?
  rw [hbehind, Option.bind_eq_bind, Option.bind_some]
  dsimp only
  rw [nameEnd_eq, hname, Option.bind_some]
  cases h with
  | element hstart hname =>
    rw [if_neg (by rwa [List.contains_iff_mem])]
    rfl
  | @textElement taken hstart' hname h =>
    have hcontent := contentEnd?_eq h ((before ++ ['<']) ++ writtenName r)
    rw [List.append_assoc, ← hsplit, Text.utf8Size_append, ← hstart] at hcontent
    rw [if_pos (List.contains_iff_mem.mpr hname), hcontent, Text.utf8Size_append]
    show some _ = some _
    rw [Nat.add_assoc]

/-! ### Rounds of a scan -/

/-- Where no `<` is left, the scan ends: `round?` gives `Round.ended`. -/
theorem round?_of_not_mem {t : Text} (h : '<' ∉ t) (before : Text) :
    round? (before ++ t) (utf8Size before) = some .ended := by
  unfold round?
  rw [Text.slice?_rest, Option.bind_eq_bind, Option.bind_some,
    find?_of_none (Text.findFirst?_eq_none_of_head? rfl h)]
  rfl

/-- **A round** finds what a look behind the next `<` finds, and sets the cursor behind what is
    taken there. So no slice of `round?` is out of range. -/
theorem round?_of_looks (htext : '<' ∉ text)
    (h : Looks (utf8Size (before ++ text)) r tag taken) :
    round? (before ++ (text ++ '<' :: r)) (utf8Size before) =
      some (.goesOn (utf8Size (before ++ text) + 1 + utf8Size taken) tag) := by
  have hsource : before ++ (text ++ '<' :: r) = (before ++ text) ++ '<' :: r := by simp
  have hcomment : List.isPrefixOf "<!--" ('<' :: r) = (List.isPrefixOf? "!--" r).isSome := by
    rw [List.isSome_isPrefixOf?_eq_isPrefixOf]
    rfl
  have hletter : (Text.encode ((before ++ text) ++ '<' :: r))[utf8Size (before ++ text) + 1]?.any
      Text.isLetterByte = startsName r := by
    have hany := Text.any_isLetterByte ((before ++ text) ++ ['<']) r
    rw [Text.utf8Size_append, List.append_assoc] at hany
    exact hany
  have hlt : find? "<" (text ++ '<' :: r) = some (utf8Size text) :=
    find?_of_findFirst? (Text.findFirst?_char htext r)
  -- the first `<` of the rest is the one behind the text
  unfold round?
  rw [Text.slice?_rest, Option.bind_eq_bind, Option.bind_some, hlt]
  dsimp only
  rw [← Text.utf8Size_append, hsource, Text.slice?_rest, Option.bind_some, hcomment, hletter]
  cases h with
  | comment h =>
    obtain ⟨t, rfl⟩ := h.eq_append
    rw [List.isPrefixOf?_eq_some_iff_append_eq.mpr rfl, Option.isSome_some, if_pos rfl, commentEnd?_eq h]
    rfl
  | element hstart hname =>
    rw [isPrefixOf?_of_startsName hstart, Option.isSome_none, hstart, if_neg Bool.false_ne_true,
      if_pos rfl, tagAt?_eq (.element hstart hname)]
    rfl
  | textElement hstart hname h =>
    rw [isPrefixOf?_of_startsName hstart, Option.isSome_none, hstart, if_neg Bool.false_ne_true,
      if_pos rfl, tagAt?_eq (.textElement hstart hname h)]
    rfl
  | nothing hstart hnone =>
    rw [hnone, hstart]
    rfl

/-- **Every round can be made** from a byte between two characters. Either no `<` is left behind
    it, or the round sets the cursor further on, between two characters again. -/
theorem round?_cases {source : Text} (h : Text.isBoundary (Text.encode source) cursor = true) :
    (round? source cursor = some .ended ∧
      ∃ rest, slice? source cursor (utf8Size source) = some rest ∧ '<' ∉ rest) ∨
      ∃ next tag, round? source cursor = some (.goesOn next tag) ∧ cursor < next ∧
        Text.isBoundary (Text.encode source) next = true := by
  obtain ⟨before, t, rfl, rfl⟩ := Text.isBoundary_iff.mp h
  by_cases hmem : '<' ∈ t
  · obtain ⟨text, r, rfl, htext⟩ := List.eq_append_cons_of_mem hmem
    obtain ⟨tag, taken, hlooks⟩ := exists_looks (utf8Size (before ++ text)) r
    refine Or.inr ⟨_, tag, round?_of_looks htext hlooks, ?_, ?_⟩
    · rw [Text.utf8Size_append]
      omega
    · obtain ⟨rest, rfl⟩ := hlooks.readTag_eq.2
      have hboundary := Text.isBoundary_utf8Size (before ++ (text ++ '<' :: taken)) rest
      rw [← List.append_assoc before, utf8Size_behind] at hboundary
      simpa using hboundary
  · exact Or.inl ⟨round?_of_not_mem hmem before, t, Text.slice?_rest before t, hmem⟩

/-- From every place in a source the rounds (`Scans`) come to an end, and find the start tags behind
    it. The induction is on the length of what is left. -/
theorem scans_scanFrom (before t : Text) :
    Scans (before ++ t) (utf8Size before) (scanFrom 0 (utf8Size before) t) := by
  induction hn : t.length using Nat.strongRecOn generalizing before t with
  | ind n ih =>
    by_cases hmem : '<' ∈ t
    · obtain ⟨text, r, rfl, htext⟩ := List.eq_append_cons_of_mem hmem
      obtain ⟨tag, taken, hlooks⟩ := exists_looks (utf8Size (before ++ text)) r
      have hround := round?_of_looks htext hlooks
      obtain ⟨rest, rfl⟩ := hlooks.readTag_eq.2
      -- the scan goes on behind what is taken, with a shorter rest
      have hshorter : rest.length < n := by
        rw [← hn]
        simp
        omega
      have hrest := ih rest.length hshorter (before ++ (text ++ '<' :: taken)) rest rfl
      have hnext : utf8Size (before ++ (text ++ '<' :: taken)) =
          utf8Size (before ++ text) + 1 + utf8Size taken := by
        rw [← List.append_assoc, utf8Size_behind]
      have hscan : scanFrom 0 (utf8Size before) (text ++ '<' :: (taken ++ rest)) = tag.toList ++
          scanFrom 0 (utf8Size (before ++ (text ++ '<' :: taken))) rest := by
        rw [scanFrom_after_text htext, ← Text.utf8Size_append, hlooks.scanFrom_eq,
          ← Text.utf8Size_append, List.append_assoc]
      rw [hscan]
      refine .goesOn hround ?_
      rw [← hnext]
      simpa using hrest
    · rw [scanFrom_of_not_mem hmem]
      exact .ended (round?_of_not_mem hmem before)

/-- The rounds give their start tags in one way, since `round?` is a function. -/
theorem Scans.unique {source : Text} {tags tags' : List StartTag} (h : Scans source cursor tags)
    (h' : Scans source cursor tags') : tags = tags' := by
  induction h generalizing tags' with
  | ended h =>
    cases h' with
    | ended => rfl
    | goesOn h' =>
      rw [h] at h'
      cases h'
  | goesOn h hrest ih =>
    cases h' with
    | ended h' =>
      rw [h] at h'
      cases h'
    | goesOn h' hrest' =>
      rw [h] at h'
      cases h'
      rw [ih hrest']

/-- **A scan by slices** comes to its end, and what it finds are the start tags of `scan`. -/
theorem scans_iff {source : Text} {tags : List StartTag} :
    Scans source 0 tags ↔ tags = scan source := by
  have hscans : Scans source 0 (scan source) := scans_scanFrom [] source
  constructor
  · intro h
    exact h.unique hscans
  · rintro rfl
    exact hscans

/-! ### Searches -/

variable {markup : α → Text} {es : List α}

/-- A search for the markup of one element after the other, from the byte `cursor` on, by slices. -/
def searchAt? (source : Text) (markup : α → Text) :
    (cursor : Nat) → List α → Option (List (α × Nat))
  | _, [] => some []
  | cursor, e :: es => do
    let t ← slice? source cursor (utf8Size source)
    match find? (markup e) t with
    | none => searchAt? source markup cursor es
    | some found =>
      let later ← searchAt? source markup (cursor + found + 1) es
      return (e, cursor + found) :: later

/-- **A search by slices** comes to its end, and finds the elements where they are found. Behind the
    first byte of what is found, a slice can begin, since this byte is a `<`. -/
theorem searchAt?_eq (hmarkup : ∀ e ∈ es, (markup e).head? = some '<') (before t : Text) :
    searchAt? (before ++ t) markup (utf8Size before) es =
      some (searchFrom markup (utf8Size before) t es) := by
  induction es generalizing before t with
  | nil => rfl
  | cons e es ih =>
    have hlater : ∀ e ∈ es, (markup e).head? = some '<' :=
      fun e he => hmarkup e (List.mem_cons_of_mem _ he)
    rw [searchAt?, Text.slice?_rest, Option.bind_eq_bind, Option.bind_some]
    cases hfind : Text.findFirst? (markup e) t with
    | none =>
      rw [find?_of_none hfind, searchFrom_of_missed hfind]
      exact ih hlater before t
    | some first =>
      obtain ⟨rest, rfl, hstep⟩ :=
        searchFrom_of_found hfind (hmarkup e List.mem_cons_self) (utf8Size before) es
      -- the search goes on behind the first character of the markup, a `<` of one byte
      have hnext : utf8Size (before ++ (first ++ ['<'])) =
          utf8Size before + utf8Size first + 1 := by
        rw [← List.append_assoc, utf8Size_behind, Text.utf8Size_append]
        rfl
      have hrest := ih hlater (before ++ (first ++ ['<'])) rest
      rw [hnext] at hrest
      have hsource : before ++ (first ++ ['<']) ++ rest = before ++ (first ++ '<' :: rest) := by
        simp
      rw [hsource] at hrest
      rw [find?_of_findFirst? hfind, hstep]
      dsimp only
      rw [hrest]
      rfl

/-- The offsets of the elements of one name, by slices. -/
def locateNamedAt? (source : Text) (tags : List StartTag) (markup : α → Text) (name : Text)
    (elements : List α) : Option (List (α × Nat)) :=
  let offsets := offsetsOf tags name
  if offsets.length = elements.length then some (pairUp elements offsets)
  else searchAt? source markup 0 elements

/-- The elements of one name are located by slices as `locateNamed` locates them. -/
theorem locateNamedAt?_eq (hmarkup : ∀ e ∈ es, (markup e).head? = some '<') (source : Text)
    (tags : List StartTag) (name : Text) :
    locateNamedAt? source tags markup name es = some (locateNamed source tags markup name es) := by
  unfold locateNamedAt? locateNamed
  dsimp only
  split
  · rfl
  · exact searchAt?_eq hmarkup [] source

/-- The offsets of the elements with one of some names, by slices. -/
def locateAllAt? (source : Text) (tags : List StartTag) (name markup : α → Text)
    (elements : List α) (names : List Text) : Option (List (α × Nat)) :=
  (names.mapM fun n =>
    locateNamedAt? source tags markup n (elements.filter fun e => name e == n)).map List.flatten

/-- The elements of all names are located by slices as `locateAll` locates them, so no slice is ever
    out of range. -/
theorem locateAllAt?_eq (hmarkup : ∀ e ∈ es, (markup e).head? = some '<') (source : Text)
    (name : α → Text) (names : List Text) :
    locateAllAt? source (scan source) name markup es names =
      some (locateAll source name markup es names) := by
  have hnamed : (fun n => locateNamedAt? source (scan source) markup n
      (es.filter fun e => name e == n)) = fun n => pure (locateNamed source (scan source) markup n
        (es.filter fun e => name e == n)) := by
    funext n
    exact locateNamedAt?_eq (fun e he => hmarkup e (List.mem_of_mem_filter he)) _ _ _
  unfold locateAllAt? locateAll
  rw [hnamed, List.mapM_pure]
  rfl

end Source

end AccessLint
