import AccessLint.Proofs.Source.Leftmost
import AccessLint.Proofs.Source.Region

namespace AccessLint.Source

/-!
# What a scan visits and what it skips

The scan for start tags goes from one `<` to the next, over what is taken at the ones before.

* `Visit`, `visits` — each `<` that the scan comes to;
* `scan_eq_visits` — the start tags are found there;
* `visits_iff` — a `<` is visited exactly if it is not taken at an earlier visit;
* `Skipped` — a byte in a comment, in the name of a start tag or in the content of a text element;
* `scan_exact` — the scanned tags are those that are not skipped.
-/

/-! ### Visits -/

/-- A `<` that the scan comes to: its offset, and the text behind it. -/
structure Visit where
  offset : Nat
  rest : Text
deriving DecidableEq

/-- The visits in a text that begins at `offset`, of which the first `skip` characters were dealt
    with before. -/
def visitsFrom : (skip offset : Nat) → Text → List Visit
  | _, _, [] => []
  | skip + 1, offset, c :: r => visitsFrom skip (offset + c.utf8Size) r
  | 0, offset, c :: r =>
    if c = '<' then ⟨offset, r⟩ :: visitsFrom (readTag offset r).2 (offset + 1) r
    else visitsFrom 0 (offset + c.utf8Size) r

/-- Each `<` of a source that the scan comes to. -/
def visits (source : Text) : List Visit := visitsFrom 0 0 source

/-- The start tag that is scanned at a visit. -/
def Visit.tag? (v : Visit) : Option StartTag := (readTag v.offset v.rest).1

/-- What is taken at a visit. -/
def Visit.taken (v : Visit) : Text := v.rest.take (readTag v.offset v.rest).2

/-- `Visit.tag?` and `Visit.taken` are what `Looks` says of a visit. -/
theorem Visit.eq_of_looks {v : Visit} {tag : Option StartTag} {taken : Text}
    (h : Looks v.offset v.rest tag taken) : v.tag? = tag ∧ v.taken = taken := by
  obtain ⟨hread, hbegins⟩ := h.readTag_eq
  unfold tag? Visit.taken
  rw [hread]
  exact ⟨rfl, (List.prefix_iff_eq_take.mp hbegins).symm⟩

/-- The start tags of `scanFrom` are those found at its visits, by the induction that both functions
    share. -/
theorem scanFrom_eq_visits (skip offset : Nat) (t : Text) :
    scanFrom skip offset t = (visitsFrom skip offset t).filterMap Visit.tag? := by
  induction t generalizing skip offset with
  | nil => cases skip <;> rfl
  | cons c r ih =>
    cases skip with
    | succ skip => exact ih skip (offset + c.utf8Size)
    | zero =>
      unfold scanFrom visitsFrom
      split
      · dsimp only
        rw [List.filterMap_cons, ih]
        show (Visit.tag? ⟨offset, r⟩).toList ++ _ = _
        cases (Visit.tag? ⟨offset, r⟩) <;> rfl
      · exact ih 0 (offset + c.utf8Size)

/-- **The start tags are found at the visits**: `scan` is `visits` with the tag of each. -/
theorem scan_eq_visits (source : Text) : scan source = (visits source).filterMap Visit.tag? :=
  scanFrom_eq_visits 0 0 source

/-- A visit of `visitsFrom` stands behind the text before it, at the byte where that text ends. -/
theorem exists_of_mem_visitsFrom {skip offset : Nat} {t : Text} {v : Visit}
    (h : v ∈ visitsFrom skip offset t) :
    ∃ before, t = before ++ '<' :: v.rest ∧ v.offset = offset + Text.utf8Size before := by
  induction t generalizing skip offset with
  | nil => cases skip <;> cases h
  | cons c r ih =>
    -- what is visited further on, stands behind the first character too
    have hlater : ∀ {skip' : Nat}, v ∈ visitsFrom skip' (offset + c.utf8Size) r →
        ∃ before, c :: r = before ++ '<' :: v.rest ∧ v.offset = offset + Text.utf8Size before := by
      intro skip' hv
      obtain ⟨before, hr, hoffset⟩ := ih hv
      refine ⟨c :: before, by rw [hr, List.cons_append], ?_⟩
      rw [hoffset, Text.utf8Size, Nat.add_assoc]
    cases skip with
    | succ skip => exact hlater h
    | zero =>
      unfold visitsFrom at h
      by_cases hc : c = '<'
      · subst hc
        rw [if_pos rfl] at h
        rcases List.mem_cons.mp h with rfl | h
        · exact ⟨[], rfl, rfl⟩
        · exact hlater h
      · rw [if_neg hc] at h
        exact hlater h

theorem exists_of_mem_visits {source : Text} {v : Visit} (h : v ∈ visits source) :
    ∃ before, source = before ++ '<' :: v.rest ∧ v.offset = Text.utf8Size before := by
  obtain ⟨before, hsource, hoffset⟩ := exists_of_mem_visitsFrom h
  exact ⟨before, hsource, by rw [hoffset, Nat.zero_add]⟩

/-! ### From visit to visit -/

/-- A byte lies in a text that stands behind the `<` at `offset`. -/
def Behind (offset : Nat) (taken : Text) (o : Nat) : Prop :=
  offset < o ∧ o ≤ offset + Text.utf8Size taken

/-- The visits go from left to right, and each is behind what was taken before. The induction is
    that of `visitsFrom`, with the characters to skip kept general. -/
theorem visitsFrom_pairwise (skip offset : Nat) (t : Text) :
    (visitsFrom skip offset t).Pairwise (fun v w => v.offset + Text.utf8Size v.taken < w.offset) ∧
      ∀ v ∈ visitsFrom skip offset t, offset + Text.utf8Size (t.take skip) ≤ v.offset := by
  induction t generalizing skip offset with
  | nil => cases skip <;> exact ⟨List.Pairwise.nil, fun v hv => absurd hv List.not_mem_nil⟩
  | cons c r ih =>
    cases skip with
    | succ skip =>
      obtain ⟨hpairwise, hle⟩ := ih skip (offset + c.utf8Size)
      refine ⟨hpairwise, fun v hv => ?_⟩
      rw [List.take_succ_cons, Text.utf8Size, ← Nat.add_assoc]
      exact hle v hv
    | zero =>
      rw [List.take_zero]
      unfold visitsFrom
      split
      · -- later visits are behind all that this one takes
        obtain ⟨hpairwise, hle⟩ := ih (readTag offset r).2 (offset + 1)
        have hbehind : ∀ v ∈ visitsFrom (readTag offset r).2 (offset + 1) r,
            offset + Text.utf8Size (Visit.taken ⟨offset, r⟩) < v.offset := by
          intro v hv
          have htaken := hle v hv
          rw [Nat.add_right_comm] at htaken
          exact htaken
        refine ⟨List.pairwise_cons.mpr ⟨hbehind, hpairwise⟩, fun v hv => ?_⟩
        rcases List.mem_cons.mp hv with rfl | hv
        · exact Nat.le_refl _
        · have hlt := hbehind v hv
          rw [Text.utf8Size]
          omega
      · obtain ⟨hpairwise, hle⟩ := ih 0 (offset + c.utf8Size)
        exact ⟨hpairwise, fun v hv => Nat.le_trans (Nat.le_add_right offset _) (hle v hv)⟩

/-- Nothing that is taken at a visit is visited, by the order of the visits
    (`visitsFrom_pairwise`). -/
theorem not_behind_of_mem_visits {source : Text} {v w : Visit} (hv : v ∈ visits source)
    (hw : w ∈ visits source) : ¬ Behind v.offset v.taken w.offset := by
  have hpairwise : (visits source).Pairwise fun v w =>
      v.offset + Text.utf8Size v.taken < w.offset := (visitsFrom_pairwise 0 0 source).1
  -- what is taken is behind its own visit, and in front of the later ones
  have hself : ∀ x ∈ visits source, ¬ Behind x.offset x.taken x.offset :=
    fun x _ h => Nat.lt_irrefl _ h.1
  have hlater : (visits source).Pairwise fun v w => ¬ Behind v.offset v.taken w.offset :=
    hpairwise.imp fun {v w} hlt (h : Behind v.offset v.taken w.offset) => Nat.not_le_of_lt hlt h.2
  have hearlier : (visits source).Pairwise (flip fun v w => ¬ Behind v.offset v.taken w.offset) := by
    refine hpairwise.imp fun {v w} hlt (h : Behind w.offset w.taken v.offset) => ?_
    have hback := h.1
    omega
  exact List.Pairwise.forall_of_forall_of_flip hself hlater hearlier hv hw

/-- A text that is taken up to some place behind `before` has `before` in it, and more, also in
    bytes. -/
theorem utf8Size_lt_take {before : Text} {n : Nat} (h : before.length < n) (c : Char) (r : Text) :
    Text.utf8Size before < Text.utf8Size ((before ++ c :: r).take n) := by
  obtain ⟨k, rfl⟩ : ∃ k, n = before.length + (k + 1) := ⟨n - before.length - 1, by omega⟩
  have hpos : 0 < c.utf8Size := c.utf8Size_pos
  rw [List.take_length_add_append, List.take_succ_cons, Text.utf8Size_append, Text.utf8Size]
  omega

/-- A `<` that is not skipped from before is visited, or taken at a visit: the scan leaves none
    out. -/
theorem visitsFrom_covers {skip : Nat} {before r : Text} (h : skip ≤ before.length) (offset : Nat) :
    ⟨offset + Text.utf8Size before, r⟩ ∈ visitsFrom skip offset (before ++ '<' :: r) ∨
      ∃ v ∈ visitsFrom skip offset (before ++ '<' :: r),
        Behind v.offset v.taken (offset + Text.utf8Size before) := by
  induction before generalizing skip offset with
  | nil =>
    rw [Nat.le_zero.mp h]
    exact Or.inl List.mem_cons_self
  | cons c before ih =>
    rw [List.cons_append, Text.utf8Size, ← Nat.add_assoc]
    cases skip with
    | succ skip => exact ih (Nat.le_of_succ_le_succ h) (offset + c.utf8Size)
    | zero =>
      unfold visitsFrom
      by_cases hc : c = '<'
      · subst hc
        rw [if_pos rfl]
        by_cases hle : (readTag offset (before ++ '<' :: r)).2 ≤ before.length
        · rcases ih hle (offset + 1) with hvisited | ⟨v, hv, hbehind⟩
          · exact Or.inl (List.mem_cons_of_mem _ hvisited)
          · exact Or.inr ⟨v, List.mem_cons_of_mem _ hv, hbehind⟩
        · -- the `<` is among what is taken here
          have hin := utf8Size_lt_take (Nat.lt_of_not_le hle) '<' r
          have htaken : Behind offset (Visit.taken ⟨offset, before ++ '<' :: r⟩)
              (offset + 1 + Text.utf8Size before) := by
            refine ⟨by omega, ?_⟩
            show offset + 1 + Text.utf8Size before ≤ offset + Text.utf8Size
              ((before ++ '<' :: r).take (readTag offset (before ++ '<' :: r)).2)
            omega
          exact Or.inr ⟨_, List.mem_cons_self, htaken⟩
      · rw [if_neg hc]
        exact ih (Nat.zero_le _) (offset + c.utf8Size)

/-- **A `<` is visited exactly if it is not taken at a visit before it.** -/
theorem visits_iff {source before r : Text} (hsource : source = before ++ '<' :: r) :
    ⟨Text.utf8Size before, r⟩ ∈ visits source ↔
      ¬ ∃ v ∈ visits source, Behind v.offset v.taken (Text.utf8Size before) := by
  constructor
  · rintro hvisited ⟨v, hv, hbehind⟩
    exact not_behind_of_mem_visits hv hvisited hbehind
  · intro hfree
    have hcovers := visitsFrom_covers (r := r) (Nat.zero_le before.length) 0
    rw [Nat.zero_add, ← hsource] at hcovers
    exact hcovers.resolve_right hfree

/-! ### Regions that are skipped -/

/-- A byte of a source that the scan skips: it is in a comment that the scan comes to, in the name
    of a scanned start tag, or from there up to the name of the closing tag of a text element. -/
inductive Skipped (source : Text) (o : Nat) : Prop
  | comment {v : Visit} {taken : Text} (hv : v ∈ visits source) (h : Comment v.rest taken)
      (ho : Behind v.offset taken o)
  | name {s : StartTag} (hs : s ∈ scan source) (ho : Behind s.offset s.name o)
  | rawText {s : StartTag} {r taken : Text} (hs : s ∈ scan source) (hname : s.name ∈ rawTextNames)
      (hr : Text.fromByte? (s.offset + 1) source = some r)
      (h : RawText s.name (behindName r) taken) (ho : Behind s.offset (s.name ++ taken) o)

theorem mem_scan_iff {source : Text} {s : StartTag} :
    s ∈ scan source ↔ ∃ v ∈ visits source, v.tag? = some s := by
  rw [scan_eq_visits, List.mem_filterMap]

/-- Behind the `<` of a visit stands its text. -/
theorem fromByte?_of_mem_visits {source : Text} {v : Visit} (h : v ∈ visits source) :
    Text.fromByte? (v.offset + 1) source = some v.rest := by
  obtain ⟨before, hsource, hoffset⟩ := exists_of_mem_visits h
  have hfrom := Text.fromByte?_utf8Size (before ++ ['<']) v.rest
  rw [Text.utf8Size_append, List.append_assoc] at hfrom
  rw [hsource, hoffset]
  exact hfrom

/-- A tag is scanned at a visit (`Visit.tag?`) exactly if a letter follows, under the name that is
    written there; and this name is taken. -/
theorem Visit.tag?_eq (v : Visit) :
    (startsName v.rest = false ∧ v.tag? = none) ∨
      (startsName v.rest = true ∧ v.tag? = some ⟨Text.lower (writtenName v.rest), v.offset⟩ ∧
        writtenName v.rest <+: v.taken) := by
  obtain ⟨tag, taken, h⟩ := exists_looks v.offset v.rest
  obtain ⟨htag, htaken⟩ := eq_of_looks h
  rw [htag, htaken]
  cases h with
  | comment h =>
    obtain ⟨t, ht⟩ := h.eq_append
    rw [ht]
    exact Or.inl ⟨rfl, rfl⟩
  | element hstart hname => exact Or.inr ⟨hstart, rfl, List.prefix_refl _⟩
  | textElement hstart hname h => exact Or.inr ⟨hstart, rfl, List.prefix_append _ _⟩
  | nothing hstart hcomment => exact Or.inl ⟨hstart, rfl⟩

/-- A scanned tag stands behind a `<` that is visited, under the name that is written there. -/
theorem exists_of_mem_scan {source : Text} {s : StartTag} (h : s ∈ scan source) :
    ∃ v ∈ visits source, startsName v.rest = true ∧
      s = ⟨Text.lower (writtenName v.rest), v.offset⟩ ∧ writtenName v.rest <+: v.taken := by
  obtain ⟨v, hv, htag⟩ := mem_scan_iff.mp h
  rcases v.tag?_eq with ⟨-, hnone⟩ | ⟨hstart, hsome, hbegins⟩
  · rw [hnone] at htag
    cases htag
  · rw [hsome] at htag
    exact ⟨v, hv, hstart, (Option.some.inj htag).symm, hbegins⟩

/-- **The skipped regions** are what is taken at the visits: `Skipped` lists the regions by their
    marks, and `Visit.taken` computes them. -/
theorem skipped_iff {source : Text} {o : Nat} :
    Skipped source o ↔ ∃ v ∈ visits source, Behind v.offset v.taken o := by
  constructor
  · intro h
    cases h with
    | @comment v taken hv h ho =>
      rw [← (Visit.eq_of_looks (v := v) (.comment h)).2] at ho
      exact ⟨v, hv, ho⟩
    | @name s hs ho =>
      obtain ⟨v, hv, hstart, rfl, after, htaken⟩ := exists_of_mem_scan hs
      refine ⟨v, hv, ho.1, Nat.le_trans ho.2 ?_⟩
      rw [Text.utf8Size_lower, ← htaken, Text.utf8Size_append]
      exact Nat.add_le_add_left (Nat.le_add_right _ _) _
    | @rawText s r taken hs hname hr h ho =>
      obtain ⟨v, hv, hstart, rfl, -⟩ := exists_of_mem_scan hs
      rw [fromByte?_of_mem_visits hv] at hr
      cases hr
      have htaken := (Visit.eq_of_looks (v := v) (.textElement hstart hname h)).2
      refine ⟨v, hv, ho.1, ?_⟩
      have hle := ho.2
      rw [Text.utf8Size_append, Text.utf8Size_lower] at hle
      rw [htaken, Text.utf8Size_append]
      exact hle
  · rintro ⟨v, hv, ho⟩
    obtain ⟨tag, taken, h⟩ := exists_looks v.offset v.rest
    obtain ⟨htag, htaken⟩ := Visit.eq_of_looks h
    rw [htaken] at ho
    have hscan : ∀ s, tag = some s → s ∈ scan source :=
      fun s hs => mem_scan_iff.mpr ⟨v, hv, by rw [htag, hs]⟩
    cases h with
    | comment h => exact .comment hv h ho
    | element hstart hname =>
      refine .name (hscan _ rfl) ⟨ho.1, ?_⟩
      rw [Text.utf8Size_lower]
      exact ho.2
    | textElement hstart hname h =>
      refine .rawText (hscan _ rfl) hname (fromByte?_of_mem_visits hv) h ⟨ho.1, ?_⟩
      rw [Text.utf8Size_append, Text.utf8Size_lower, ← Text.utf8Size_append]
      exact ho.2
    | nothing hstart hcomment =>
      -- nothing is taken, so no byte is in it
      have hgt := ho.1
      have hle := ho.2
      rw [Text.utf8Size] at hle
      omega

/-! ### What is scanned -/

/-- `offsetsOf` has an offset under a name exactly if the scan has a tag there under the name in
    lower case. -/
theorem mem_offsetsOf {source name : Text} {o : Nat} :
    o ∈ offsetsOf (scan source) name ↔ ⟨Text.lower name, o⟩ ∈ scan source := by
  unfold offsetsOf
  rw [List.mem_map]
  constructor
  · rintro ⟨s, hs, rfl⟩
    obtain ⟨hscan, hname⟩ := List.mem_filter.mp hs
    rw [← beq_iff_eq.mp hname]
    exact hscan
  · intro h
    exact ⟨_, List.mem_filter.mpr ⟨h, beq_self_eq_true _⟩, rfl⟩

/-- A byte is visited once. -/
theorem eq_of_mem_visits {source : Text} {v w : Visit} (hv : v ∈ visits source)
    (hw : w ∈ visits source) (h : v.offset = w.offset) : v = w := by
  have hrest := fromByte?_of_mem_visits hv
  rw [h, fromByte?_of_mem_visits hw] at hrest
  cases v
  cases w
  cases h
  cases hrest
  rfl

/-- A tag stands in the index exactly if the scan comes to it: there is a visit at its `<`. -/
theorem exists_mem_offsetsOf_iff {source before r : Text} (hsource : source = before ++ '<' :: r)
    (hstart : startsName r = true) :
    (∃ name, Text.utf8Size before ∈ offsetsOf (scan source) name) ↔
      ⟨Text.utf8Size before, r⟩ ∈ visits source := by
  constructor
  · rintro ⟨name, hname⟩
    obtain ⟨v, hv, -, heq, -⟩ := exists_of_mem_scan (mem_offsetsOf.mp hname)
    have hoffset : Text.utf8Size before = v.offset := congrArg StartTag.offset heq
    -- what stands behind a byte is determined
    have hfrom := fromByte?_of_mem_visits hv
    have hhere := Text.fromByte?_utf8Size (before ++ ['<']) r
    rw [Text.utf8Size_append, List.append_assoc, hoffset] at hhere
    have hrest : some r = some v.rest := by
      rw [← hhere, ← hfrom, hsource]
      rfl
    rw [hoffset, Option.some.inj hrest]
    exact hv
  · intro hv
    rcases (Visit.mk (Text.utf8Size before) r).tag?_eq with ⟨hnone, -⟩ | ⟨-, hsome, -⟩
    · rw [hstart] at hnone
      cases hnone
    · refine ⟨Text.lower (writtenName r), mem_offsetsOf.mpr ?_⟩
      rw [Text.lower_lower]
      exact mem_scan_iff.mpr ⟨_, hv, hsome⟩

/-- **The index of start tags is exact.** The tags of each name are found from left to right. A tag
    is found under one name only, a `<` and a letter stand there, and the name is the one that is
    written from the letter on. And each `<` with a letter behind it is found, unless the scan skips
    it (`Skipped`): it is in a comment, in the name of a tag that was found, or between the name of
    a text element and the end of its closing tag's name. -/
theorem scan_exact (source : Text) :
    (∀ name, (offsetsOf (scan source) name).Pairwise (· < ·)) ∧
      (∀ name, ∀ o ∈ offsetsOf (scan source) name,
        (∀ name', o ∈ offsetsOf (scan source) name' → Text.lower name' = Text.lower name) ∧
        ∃ before c rest, source = before ++ '<' :: c :: rest ∧ o = Text.utf8Size before ∧
          c.isAlpha = true ∧ Text.lower ((c :: rest).takeWhile (!endsName ·)) = Text.lower name) ∧
      (∀ before c rest, source = before ++ '<' :: c :: rest → c.isAlpha = true →
        ((∃ name, Text.utf8Size before ∈ offsetsOf (scan source) name) ↔
          ¬ Skipped source (Text.utf8Size before))) ∧
      ∀ before rest, source = before ++ '<' :: rest →
        (⟨Text.utf8Size before, rest⟩ ∈ visits source ↔
          ¬ Skipped source (Text.utf8Size before)) := by
  have hvisited : ∀ before rest, source = before ++ '<' :: rest →
      (⟨Text.utf8Size before, rest⟩ ∈ visits source ↔ ¬ Skipped source (Text.utf8Size before)) := by
    intro before rest hsource
    rw [visits_iff hsource, skipped_iff]
  refine ⟨offsetsOf_sorted source, ?_, ?_, hvisited⟩
  · intro name o ho
    obtain ⟨v, hv, hstart, heq, -⟩ := exists_of_mem_scan (mem_offsetsOf.mp ho)
    obtain ⟨hname, hoffset⟩ := StartTag.mk.inj heq
    constructor
    · intro name' ho'
      obtain ⟨w, hw, -, heq', -⟩ := exists_of_mem_scan (mem_offsetsOf.mp ho')
      obtain ⟨hname', hoffset'⟩ := StartTag.mk.inj heq'
      rw [hname, hname', eq_of_mem_visits hv hw (hoffset.symm.trans hoffset')]
    · obtain ⟨before, hsource, hbefore⟩ := exists_of_mem_visits hv
      cases hrest : v.rest with
      | nil =>
        rw [hrest] at hstart
        cases hstart
      | cons c rest =>
        rw [hrest] at hsource hstart hname
        exact ⟨before, c, rest, hsource, hoffset.trans hbefore, hstart, hname.symm⟩
  · intro before c rest hsource halpha
    rw [exists_mem_offsetsOf_iff hsource halpha]
    exact hvisited before (c :: rest) hsource

/-- A comment, a name with a `<` in it and a script each hide a tag, and the last tag is found. -/
theorem scan_exact_hidden :
    scan "<!--<b>--><a<b><script><i></SCRIPT><p>" = [⟨"a<b", 10⟩, ⟨"script", 15⟩, ⟨"p", 35⟩] ∧
      Skipped "<!--<b>--><a<b><script><i></SCRIPT><p>" 4 ∧
      Skipped "<!--<b>--><a<b><script><i></SCRIPT><p>" 12 ∧
      Skipped "<!--<b>--><a<b><script><i></SCRIPT><p>" 23 ∧
      ¬ Skipped "<!--<b>--><a<b><script><i></SCRIPT><p>" 35 := by
  have hscan : scan "<!--<b>--><a<b><script><i></SCRIPT><p>" =
      [⟨"a<b", 10⟩, ⟨"script", 15⟩, ⟨"p", 35⟩] := by decide
  obtain ⟨-, -, hletters, -⟩ := scan_exact "<!--<b>--><a<b><script><i></SCRIPT><p>"
  -- a byte that no tag is found at
  have hskipped : ∀ o, (∀ s ∈ scan "<!--<b>--><a<b><script><i></SCRIPT><p>", s.offset ≠ o) →
      ((∃ name, o ∈ offsetsOf (scan "<!--<b>--><a<b><script><i></SCRIPT><p>") name) ↔
        ¬ Skipped "<!--<b>--><a<b><script><i></SCRIPT><p>" o) →
      Skipped "<!--<b>--><a<b><script><i></SCRIPT><p>" o := by
    intro o hnone hiff
    by_contra hfree
    obtain ⟨name, hname⟩ := hiff.mpr hfree
    exact hnone _ (mem_offsetsOf.mp hname) rfl
  refine ⟨hscan, hskipped 4 (by decide) (hletters "<!--" 'b' _ rfl (by decide)),
    hskipped 12 (by decide) (hletters "<!--<b>--><a" 'b' _ rfl (by decide)),
    hskipped 23 (by decide) (hletters "<!--<b>--><a<b><script>" 'i' _ rfl (by decide)), ?_⟩
  exact (hletters "<!--<b>--><a<b><script><i></SCRIPT>" 'p' _ rfl (by decide)).mp
    ⟨"p", by decide⟩

end AccessLint.Source
