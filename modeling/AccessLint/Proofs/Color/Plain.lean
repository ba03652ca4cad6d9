import AccessLint.Proofs.Color.Functional
import AccessLint.Proofs.Text.Pieces

namespace AccessLint.Rgb

/-!
# Colours without arguments

A text without an opening parenthesis is `transparent`, the name of a colour or digits, and never
two of them. So it does not matter in which order the three forms are tried.

* `HexColor`, `ofHex?_eq_some_iff` — the colour that hexadecimal digits write;
* `Form` — the three forms, each with the texts and colours that belong to it and with its reader;
* `Form.eq_of_writes` — no text has two forms;
* `parse?_eq_some_iff` — a text without a parenthesis is a colour exactly if it has a form;
* `parse_plain` — what such texts are read as.
-/

/-! ### Digits -/

/-- The digits with each of them twice. -/
def doubled (digits : Text) : Text := digits.flatMap fun d => [d, d]

/-- Hexadecimal digits write the colour of the number that the first six of them stand for: three or
    four digits count twice, and six or eight once. What follows is the alpha. -/
def HexColor (digits : Text) (c : Rgb) : Prop :=
  (∀ d ∈ digits, (Text.hexValue? d).isSome = true) ∧
    ((digits.length = 3 ∨ digits.length = 4) ∧
        c = ofNat (Text.natOfHex ((doubled digits).take 6)) ∨
      (digits.length = 6 ∨ digits.length = 8) ∧ c = ofNat (Text.natOfHex (digits.take 6)))

/-- A hexadecimal digit is less than sixteen. -/
theorem hexValue?_lt {d : Char} {n : Nat} (h : Text.hexValue? d = some n) : n < 16 := by
  unfold Text.hexValue? at h
  split at h
  · next hd =>
    have h57 : d.toNat ≤ 57 := hd.2
    cases h
    omega
  split at h
  · next hd =>
    have h102 : d.toNat ≤ 102 := hd.2
    cases h
    omega
  split at h
  · next hd =>
    have h70 : d.toNat ≤ 70 := hd.2
    cases h
    omega
  · cases h

/-- The bytes of six digits, which `hexByte?` reads two by two, are those of their number, the form
    in which the table has its colours. -/
theorem hexBytes_eq {r r' g g' b b' : Char}
    (h : ∀ d ∈ [r, r', g, g', b, b'], (Text.hexValue? d).isSome = true) :
    (do return Rgb.mk (← hexByte? r r') (← hexByte? g g') (← hexByte? b b')) =
      some (ofNat (Text.natOfHex [r, r', g, g', b, b'])) := by
  simp only [List.forall_mem_cons, Option.isSome_iff_exists] at h
  obtain ⟨⟨x, hx⟩, ⟨x', hx'⟩, ⟨y, hy⟩, ⟨y', hy'⟩, ⟨z, hz⟩, ⟨z', hz'⟩, -⟩ := h
  have hlt := hexValue?_lt hx'
  have hylt := hexValue?_lt hy
  have hylt' := hexValue?_lt hy'
  have hzlt := hexValue?_lt hz
  have hzlt' := hexValue?_lt hz'
  simp only [hexByte?, hx, hx', hy, hy', hz, hz', Text.natOfHex, List.foldl, Option.getD_some,
    Option.bind_eq_bind, Option.bind_some, Option.pure_def, ofNat, Option.some.injEq, Rgb.mk.injEq,
    ← UInt8.toNat_inj, UInt8.toNat_ofNat']
  omega

/-- **Digits give a colour** exactly if there are three, four, six or eight of them: `ofHex?` in
    terms of `HexColor`. -/
theorem ofHex?_eq_some_iff {t : Text} {c : Rgb} : ofHex? t = some c ↔ HexColor t c := by
  unfold ofHex? HexColor
  by_cases hall : ∀ d ∈ t, (Text.hexValue? d).isSome = true
  · rw [if_pos (List.all_eq_true.mpr hall), and_iff_right hall]
    rcases t with _ | ⟨r, _ | ⟨g, _ | ⟨b, _ | ⟨a, _ | ⟨e, _ | ⟨f, _ | ⟨i, _ | ⟨j, _ | ⟨k, t⟩⟩⟩⟩⟩⟩⟩⟩⟩
    case cons.cons.cons.nil | cons.cons.cons.cons.nil =>
      have hsix : ∀ d ∈ [r, r, g, g, b, b], (Text.hexValue? d).isSome = true := by simp_all
      dsimp only
      rw [hexBytes_eq hsix, Option.some_inj, eq_comm]
      simp [doubled]
    case cons.cons.cons.cons.cons.cons.nil | cons.cons.cons.cons.cons.cons.cons.cons.nil =>
      have hsix : ∀ d ∈ [r, g, b, a, e, f], (Text.hexValue? d).isSome = true := by simp_all
      dsimp only
      rw [hexBytes_eq hsix, Option.some_inj, eq_comm]
      simp
    all_goals simp
  · rw [if_neg fun h => hall (List.all_eq_true.mp h)]
    simp [hall]

/-! ### Forms -/

/-- The forms of a colour without arguments. -/
inductive Form where
  | transparent
  | name
  | digits

namespace Form

/-- A text in lower case writes a colour in a form: the word `transparent` is black, a name has the
    value in the table, and digits may have one number sign in front. -/
def Writes : Form → Text → Rgb → Prop
  | transparent, v, c => v = "transparent" ∧ c = black
  | name, v, c => ∃ entry ∈ named, v = entry.1.toList ∧ c = ofNat entry.2
  | digits, v, c => ∃ t, (v = t ∨ v = '#' :: t) ∧ HexColor t c

/-- Reads a colour in a form. -/
def read? : Form → Text → Option Rgb
  | transparent, v => if v = "transparent" then some black else none
  | name, v => ofName? v
  | digits, v => ofHex? ((List.isPrefixOf? "#" v).getD v)

variable {f g : Form} {v : Text} {c d : Rgb}

/-- In the form `digits` a number sign may stand in front of the digits, and without one they are
    the whole text. -/
theorem writes_digits_iff : digits.Writes v c ↔ HexColor ((List.isPrefixOf? "#" v).getD v) c := by
  constructor
  · rintro ⟨t, rfl | rfl, ht⟩
    · -- the number sign is no digit
      have hsign : List.isPrefixOf? "#" v = none := by
        rw [Option.eq_none_iff_forall_ne_some]
        intro rest hrest
        rw [← List.append_eq_of_isPrefixOf?_eq_some hrest] at ht
        exact absurd (ht.1 '#' (List.mem_append_left rest (by decide))) (by decide)
      rw [hsign]
      exact ht
    · exact ht
  · intro h
    cases hsign : List.isPrefixOf? "#" v with
    | none =>
      rw [hsign] at h
      exact ⟨v, Or.inl rfl, h⟩
    | some rest =>
      rw [hsign] at h
      exact ⟨rest, Or.inr (List.append_eq_of_isPrefixOf?_eq_some hsign).symm, h⟩

/-- **A reader accepts** what is written in its form: `Form.read?` against `Form.Writes`. -/
theorem read?_eq_some_iff : f.read? v = some c ↔ f.Writes v c := by
  cases f with
  | transparent =>
    unfold read? Writes
    rw [Option.ite_none_right_eq_some, Option.some_inj, eq_comm (a := black)]
  | name => exact ofName?_eq_some_iff
  | digits => exact ofHex?_eq_some_iff.trans writes_digits_iff.symm

/-- What is written in the form `digits` has no other characters, except for a number sign; so it is
    no name. -/
theorem isSome_hexValue?_of_writes (h : digits.Writes v c) {x : Char} (hx : x ∈ v) :
    x = '#' ∨ (Text.hexValue? x).isSome = true := by
  obtain ⟨t, rfl | rfl, hdigits, -⟩ := h
  · exact Or.inr (hdigits x hx)
  · rcases List.mem_cons.mp hx with rfl | hx
    · exact Or.inl rfl
    · exact Or.inr (hdigits x hx)

/-- **No text has two forms**: every name has a letter that is no digit, and `transparent` is none
    of the names. -/
theorem eq_of_writes (hf : f.Writes v c) (hg : g.Writes v d) : f = g := by
  -- a word is no name, and words and names have letters that are no digits
  have hword : ∀ {c d}, transparent.Writes v c → name.Writes v d → False := by
    rintro c d ⟨rfl, -⟩ ⟨entry, hentry, hname, -⟩
    exact (named_names.2 entry hentry).2.2 hname.symm
  have hwordDigits : ∀ {c d}, transparent.Writes v c → digits.Writes v d → False := by
    rintro c d ⟨rfl, -⟩ hdigits
    have ht := isSome_hexValue?_of_writes hdigits (x := 't') (by decide)
    exact absurd ht (by decide)
  have hnameDigits : ∀ {c d}, name.Writes v c → digits.Writes v d → False := by
    rintro c d ⟨entry, hentry, rfl, -⟩ hdigits
    obtain ⟨hlower, hother, -⟩ := named_names.2 entry hentry
    obtain ⟨x, hx, hnone⟩ := List.any_eq_true.mp hother
    rcases isSome_hexValue?_of_writes hdigits hx with rfl | hsome
    · exact absurd (List.all_eq_true.mp hlower '#' hx) (by decide)
    · rw [Option.isNone_iff_eq_none.mp hnone] at hsome
      cases hsome
  cases f <;> cases g
  case transparent.transparent | name.name | digits.digits => rfl
  case transparent.name => exact (hword hf hg).elim
  case name.transparent => exact (hword hg hf).elim
  case transparent.digits => exact (hwordDigits hf hg).elim
  case digits.transparent => exact (hwordDigits hg hf).elim
  case name.digits => exact (hnameDigits hf hg).elim
  case digits.name => exact (hnameDigits hg hf).elim

/-- **Any order of the forms**, tried by `Form.read?` one after the other, reads what one of them
    reads, since no text has two. -/
theorem findSome?_eq_some_iff {forms : List Form} (hforms : ∀ f, f ∈ forms) :
    forms.findSome? (fun f => f.read? v) = some c ↔ ∃ f : Form, f.Writes v c := by
  constructor
  · intro h
    obtain ⟨f, -, hf⟩ := List.exists_of_findSome?_eq_some h
    exact ⟨f, read?_eq_some_iff.mp hf⟩
  · rintro ⟨f, hf⟩
    have hread := read?_eq_some_iff.mpr hf
    have hsome : (forms.findSome? fun f => f.read? v).isSome = true :=
      List.findSome?_isSome_iff.mpr ⟨f, hforms f, by rw [hread]; rfl⟩
    obtain ⟨d, hd⟩ := Option.isSome_iff_exists.mp hsome
    -- the form that is found first is the only one
    obtain ⟨g, -, hg⟩ := List.exists_of_findSome?_eq_some hd
    rw [eq_of_writes (read?_eq_some_iff.mp hg) hf, hread] at hg
    rw [hd, ← hg]

end Form

/-! ### Colours -/

/-- Without a parenthesis no function is called, so `parse?` comes to the other forms. -/
theorem Functional.ofText?_of_not_mem {v : Text} (h : '(' ∉ v) : Functional.ofText? v = none := by
  rw [Option.eq_none_iff_forall_ne_some]
  intro f hf
  obtain ⟨inside, ⟨name, blanks, -, -, -, -, rfl⟩, -⟩ := Functional.ofText?_eq_some_iff.mp hf
  exact h (by simp)

/-- A parenthesis stays one when a text is trimmed and put in lower case, so the test may be made
    before or after. -/
theorem not_mem_lower_trim {value : Text} (h : '(' ∉ value) :
    '(' ∉ Text.lower (Text.trim value) := by
  rw [Text.mem_lower (by decide)]
  exact fun hmem => h ((Text.trim_infix value).subset hmem)

/-- A text without a parenthesis is read in the three forms, one after the other, as `parse?` has
    them. -/
theorem parse?_eq_findSome? {value : Text} (h : '(' ∉ value) :
    parse? value = [Form.transparent, .name, .digits].findSome? fun f =>
      f.read? (Text.lower (Text.trim value)) := by
  have hfunctional := Functional.ofText?_of_not_mem (not_mem_lower_trim h)
  unfold parse?
  dsimp only
  generalize Text.lower (Text.trim value) = v at hfunctional ⊢
  simp only [List.findSome?_cons, List.findSome?_nil, Form.read?, hfunctional]
  cases v with
  | nil =>
    -- the empty text has no form
    have hname : ofName? [] = none := by
      rw [Option.eq_none_iff_forall_ne_some]
      intro c hc
      obtain ⟨entry, hentry, hempty, -⟩ := ofName?_eq_some_iff.mp hc
      obtain ⟨-, hother, -⟩ := named_names.2 entry hentry
      rw [← hempty] at hother
      cases hother
    rw [hname]
    rfl
  | cons x v =>
    rw [List.isEmpty_cons, if_neg Bool.false_ne_true]
    split
    · rfl
    · cases ofName? (x :: v) with
      | some c => rfl
      | none =>
        cases ofHex? ((List.isPrefixOf? "#" (x :: v)).getD (x :: v)) <;> rfl

/-- A text without a parenthesis is a colour exactly if it has a form (`Form.Writes`), once it is
    trimmed and in lower case. -/
theorem parse?_eq_some_iff {value : Text} (h : '(' ∉ value) {c : Rgb} :
    parse? value = some c ↔ ∃ f : Form, f.Writes (Text.lower (Text.trim value)) c := by
  rw [parse?_eq_findSome? h]
  exact Form.findSome?_eq_some_iff fun f => by cases f <;> simp

/-- **Colours without arguments.** A text without an opening parenthesis is a colour exactly if it
    has one of the three forms, without regard to blanks around it and to case. No text has two
    forms, so the forms may be tried in any order. The search for a name finds the same as a look at
    one name after the other. -/
theorem parse_plain :
    (∀ value, '(' ∉ value → ∀ c,
      parse? value = some c ↔ ∃ f : Form, f.Writes (Text.lower (Text.trim value)) c) ∧
      (∀ v f g c d, Form.Writes f v c → Form.Writes g v d → f = g ∧ c = d) ∧
      (∀ value, '(' ∉ value → ∀ forms : List Form, (∀ f, f ∈ forms) →
        parse? value = forms.findSome? fun f => f.read? (Text.lower (Text.trim value))) ∧
      ∀ name, ofName? name =
        (named.find? fun entry => entry.1.toList == name).map fun entry => ofNat entry.2 := by
  refine ⟨fun value h c => parse?_eq_some_iff h, ?_, ?_, ofName?_eq_find?⟩
  · intro v f g c d hf hg
    obtain rfl := Form.eq_of_writes hf hg
    have hread := Form.read?_eq_some_iff.mpr hf
    rw [Form.read?_eq_some_iff.mpr hg] at hread
    exact ⟨rfl, (Option.some.inj hread).symm⟩
  · intro value h forms hforms
    ext c
    rw [parse?_eq_some_iff h, Form.findSome?_eq_some_iff hforms]

/-- `#0F8C` has four digits in capitals, with blanks around them. The last one is the alpha. -/
theorem parse_plain_digits :
    '(' ∉ (" #0F8C\n" : Text) ∧
      Form.Writes .digits (Text.lower (Text.trim " #0F8C\n")) ⟨0, 255, 136⟩ ∧
      parse? " #0F8C\n" = some ⟨0, 255, 136⟩ ∧
      (∀ f c, Form.Writes f (Text.lower (Text.trim " #0F8C\n")) c →
        f = .digits ∧ c = ⟨0, 255, 136⟩) ∧
      [Form.digits, .name, .transparent].findSome?
        (fun f => f.read? (Text.lower (Text.trim " #0F8C\n"))) = some ⟨0, 255, 136⟩ := by
  obtain ⟨hparse, hunique, horder, -⟩ := parse_plain
  have hplain : '(' ∉ (" #0F8C\n" : Text) := by decide
  have hdigits : Form.Writes .digits (Text.lower (Text.trim " #0F8C\n")) ⟨0, 255, 136⟩ :=
    ⟨"0f8c", Or.inr (by decide), List.all_eq_true.mp (by decide),
      Or.inl ⟨by decide, by decide⟩⟩
  have hcolor := (hparse _ hplain _).mpr ⟨.digits, hdigits⟩
  refine ⟨hplain, hdigits, hcolor, fun f c hf => hunique _ f .digits c _ hf hdigits, ?_⟩
  rw [← horder _ hplain _ fun f => by cases f <;> simp]
  exact hcolor

end AccessLint.Rgb
