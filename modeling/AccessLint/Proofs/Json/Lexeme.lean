import AccessLint.Json.Relaxed
import AccessLint.Proofs.Json.Scalar
import Mathlib.Data.List.Basic

namespace AccessLint.Json.Relaxed

/-!
# Tokens of strict JSON

Whatever is written for a string, a whole number or a keyword is one token, and what stands inside
a string never starts a comment, ends the string or is read as another escape.

* `Gap` — what may stand between tokens;
* `Lexeme.next?_gap` — it is skipped;
* `readString_flatMap_escape` — a string is read up to its closing quote;
* `FirstToken` — the first token of a text and the text after it;
* `EndsScalar` — what may follow a number or a keyword;
* `firstToken_writeString`, `firstToken_ofInt`, `firstToken_bool`, `firstToken_null` — strings,
  numbers and keywords are tokens, whatever gap stands in front of them;
* `number_ofInt` — a number that fits a word is not kept as a spelling.
-/

/-! ### Gaps -/

/-- The four blank characters of strict JSON. -/
def spaces : List Char := [' ', '\n', '\r', '\t']

/-- Blank characters and whole comments, as they may stand between two tokens. -/
inductive Gap : Text → Prop
  | none : Gap []
  | space {c : Char} {t : Text} : c ∈ spaces → Gap t → Gap (c :: t)
  | line {body t : Text} : '\n' ∉ body → Gap t → Gap ('/' :: '/' :: (body ++ '\n' :: t))
  | block {body t : Text} : Text.contains "*/" body = false → Gap t →
      Gap ('/' :: '*' :: (body ++ '*' :: '/' :: t))

/-- Whether a text starts with a character that no gap starts with. -/
def StartsToken (t : Text) : Prop := ∀ c ∈ t.head?, Text.isBlankChar c = false ∧ c ≠ '/'

variable {a t r rest : Text} {c : Char}

/-- The reader skips more characters than strict JSON allows; the four of strict JSON are among
    them. -/
theorem isBlankChar_of_mem_spaces (h : c ∈ spaces) : Text.isBlankChar c = true := by
  simp only [spaces, List.mem_cons, List.not_mem_nil, or_false] at h
  rcases h with rfl | rfl | rfl | rfl <;> rfl

theorem skipIgnored_blank (h : Text.isBlankChar c = true) (fuel : Nat) (t : Text) :
    skipIgnored (fuel + 1) (c :: t) = skipIgnored (fuel + 1) t := by
  rw [skipIgnored, skipIgnored, List.dropWhile_cons_of_pos h]

/-- `skipIgnored` skips nothing where a token starts, even without fuel. -/
theorem skipIgnored_of_startsToken (h : StartsToken t) (fuel : Nat) :
    skipIgnored fuel t = .ok t := by
  cases fuel with
  | zero => rfl
  | succ fuel =>
    cases t with
    | nil => rfl
    | cons c t =>
      obtain ⟨hblank, hslash⟩ := h c rfl
      have hstay : (c :: t).dropWhile Text.isBlankChar = c :: t := by simp [hblank]
      rw [skipIgnored, hstay]
      split
      · next heq => exact absurd (List.cons.inj heq).1 hslash
      · next heq => exact absurd (List.cons.inj heq).1 hslash
      · rfl

/-- A comment ends at the first place that can end it, since its body holds no `*/`. -/
theorem findFirst?_endOfComment {body : Text} (h : Text.contains "*/" body = false) (t : Text) :
    Text.findFirst? "*/" (body ++ '*' :: '/' :: t) = some body := by
  induction body with
  | nil => rfl
  | cons c body ih =>
    obtain ⟨hstart, hbody⟩ : List.isPrefixOf "*/" (c :: body) = false ∧
        Text.contains "*/" body = false := by
      rw [Text.contains, Text.findFirst?] at h
      split at h
      · cases h
      · next hstart => exact ⟨Bool.eq_false_iff.mpr hstart, by simpa [Text.contains] using h⟩
    -- two characters decide, and a star is no slash
    have hlater : List.isPrefixOf "*/" (c :: (body ++ '*' :: '/' :: t)) = false := by
      cases body with
      | nil => simp [List.isPrefixOf]
      | cons d body => simpa [List.isPrefixOf] using hstart
    rw [List.cons_append, Text.findFirst?, hlater, ih hbody]
    rfl

/-- A comment up to the end of its line is skipped; the line feed is left as a blank. -/
theorem skipIgnored_line (fuel : Nat) (r : Text) :
    skipIgnored (fuel + 1) ('/' :: '/' :: r) = skipIgnored fuel (r.dropWhile (· != '\n')) := rfl

/-- A comment between its two marks is skipped with both. -/
theorem skipIgnored_block {inside : Text} (h : Text.findFirst? "*/" r = some inside) {fuel : Nat} :
    skipIgnored (fuel + 1) ('/' :: '*' :: r) = skipIgnored fuel (r.drop (inside.length + 2)) := by
  have hstay : ('/' :: '*' :: r).dropWhile Text.isBlankChar = '/' :: '*' :: r := rfl
  rw [skipIgnored, hstay]
  simp only [h]

/-- **A gap is skipped** by `skipIgnored` up to the token after it, if there is fuel for each of its
    characters. The induction is on the gap. -/
theorem skipIgnored_gap (ha : Gap a) (ht : StartsToken t) {fuel : Nat}
    (hfuel : a.length < fuel) : skipIgnored fuel (a ++ t) = .ok t := by
  induction ha generalizing fuel with
  | none => exact skipIgnored_of_startsToken ht fuel
  | space hc _ ih =>
    obtain ⟨fuel, rfl⟩ : ∃ f, fuel = f + 1 := ⟨fuel - 1, by omega⟩
    rw [List.length_cons] at hfuel
    rw [List.cons_append, skipIgnored_blank (isBlankChar_of_mem_spaces hc), ih (by omega)]
  | @line body a hbody _ ih =>
    simp only [List.length_cons, List.length_append] at hfuel
    obtain ⟨fuel, rfl⟩ : ∃ f, fuel = f + 1 + 1 := ⟨fuel - 2, by omega⟩
    have hall : ∀ c ∈ body, (c != '\n') = true := by
      intro c hc
      simp only [bne_iff_ne]
      rintro rfl
      exact hbody hc
    -- the rest of the line is dropped, and the line feed is blank
    have hline : (body ++ '\n' :: (a ++ t)).dropWhile (· != '\n') = '\n' :: (a ++ t) := by
      rw [List.dropWhile_append_of_pos hall]
      rfl
    simp only [List.cons_append, List.append_assoc]
    rw [skipIgnored_line, hline, skipIgnored_blank rfl, ih (by omega)]
  | @block body a hbody _ ih =>
    simp only [List.length_cons, List.length_append] at hfuel
    obtain ⟨fuel, rfl⟩ : ∃ f, fuel = f + 1 := ⟨fuel - 1, by omega⟩
    have hdrop : (body ++ '*' :: '/' :: (a ++ t)).drop (body.length + 2) = a ++ t := by
      rw [List.drop_append]
      simp
    simp only [List.cons_append, List.append_assoc]
    rw [skipIgnored_block (findFirst?_endOfComment hbody _), hdrop, ih (by omega)]

/-- The first token after a gap is the one that starts there: `Lexeme.next?` takes the length of the
    text as its fuel. -/
theorem Lexeme.next?_gap (ha : Gap a) (hblank : Text.isBlankChar c = false) (hslash : c ≠ '/') :
    Lexeme.next? (a ++ c :: r) = (lexeme c r).map some := by
  have hstart : StartsToken (c :: r) := by
    rintro _ ⟨⟩
    exact ⟨hblank, hslash⟩
  have hlength : a.length < (a ++ c :: r).length + 1 := by
    rw [List.length_append]
    omega
  have hskip := skipIgnored_gap ha hstart hlength
  unfold Lexeme.next?
  rw [hskip]
  rfl

/-- There is no token in a gap, so a text that is one has no value. -/
theorem Lexeme.next?_gap_end (ha : Gap a) : Lexeme.next? a = .ok none := by
  have hskip := skipIgnored_gap ha (t := []) (by simp [StartsToken]) (Nat.lt_succ_self _)
  rw [List.append_nil] at hskip
  unfold Lexeme.next?
  rw [hskip]
  rfl

/-- A token, the first one of a text, and the text after it. -/
def FirstToken (t : Text) (token : Token) (rest : Text) : Prop :=
  ∃ start, Lexeme.next? t = .ok (some ⟨token, start, rest⟩)

/-- What `lexeme` reads where a gap ends is the first token of the text with the gap. -/
theorem FirstToken.of_lexeme (ha : Gap a) {token : Token}
    (hblank : Text.isBlankChar c = false) (hslash : c ≠ '/')
    (h : lexeme c r = .ok ⟨token, c :: r, rest⟩) : FirstToken (a ++ c :: r) token rest := by
  refine ⟨c :: r, ?_⟩
  rw [Lexeme.next?_gap ha hblank hslash, h]
  rfl

/-! ### Strings -/

/-- A control character by number, after its `\u`: `escape` writes two zeros and two digits. -/
theorem numberedChar_hexPair {a b : Char}
    (h : hexQuad? '0' '0' a b = some c.toNat) :
    numberedChar ('0' :: '0' :: a :: b :: r) = .ok (c, 4) := by
  obtain ⟨hhigh, hlow⟩ := Text.not_half c
  simp [numberedChar, hexQuadAt?, h, hhigh, hlow, Char.ofNat_toNat]

/-- **One character of a string** is read as itself, whatever is written for it: a letter behind a
    backslash, a number, or the character (`escape_cases`). -/
theorem readString_escape (opening : Text) (c : Char) {s : Text}
    (h : readString '"' opening 0 r = .ok (s, rest)) :
    readString '"' opening 0 (escape c ++ r) = .ok (c :: s, rest) := by
  rcases escape_cases c with ⟨e, hescape, he, hc⟩ | ⟨hescape, hcontrol⟩ | ⟨hescape, h1, h2, -⟩
  · have hsingle : e ≠ '\'' := by
      rintro rfl
      cases hc
    -- the rest of an escape is skipped
    have hskip : readString '"' opening 1 (e :: r) = .ok (s, rest) := h
    rw [hescape]
    show readString '"' opening 0 ('\\' :: e :: r) = _
    rw [readString, if_neg he, if_neg (by simp), if_neg (by simpa using hsingle), if_neg hsingle,
      hc, hskip]
    rfl
  · obtain ⟨a, b, hpair, hquad⟩ := hexQuad?_hexPair hcontrol
    have hskip : readString '"' opening 5 ('u' :: '0' :: '0' :: a :: b :: r) = .ok (s, rest) := h
    rw [hescape, hpair]
    show readString '"' opening 0 ('\\' :: 'u' :: '0' :: '0' :: a :: b :: r) = _
    rw [readString, if_pos rfl, numberedChar_hexPair hquad]
    dsimp only
    rw [hskip]
    rfl
  · rw [hescape, List.singleton_append, readString.eq_5 _ _ _ _ h2, if_neg h1, h]
    rfl

/-- **A string is read as it was before it was written** by `escape`, after its opening quote, by
    induction on its characters. -/
theorem readString_flatMap_escape (opening s rest : Text) :
    readString '"' opening 0 (s.flatMap escape ++ '"' :: rest) = .ok (s, rest) := by
  induction s with
  | nil => rfl
  | cons c s ih =>
    rw [List.flatMap_cons, List.append_assoc]
    exact readString_escape opening c ih

/-- **A string that was written** by `writeString` is one token, whatever follows it. -/
theorem firstToken_writeString (ha : Gap a) (s rest : Text) :
    FirstToken (a ++ (writeString s ++ rest)) (.str s) rest := by
  have hread := readString_flatMap_escape ('"' :: (s.flatMap escape ++ '"' :: rest)) s rest
  have hlexeme (r : Text) : lexeme '"' r = (readString '"' ('"' :: r) 0 r).map fun p =>
      ⟨.str p.1, '"' :: r, p.2⟩ := by
    show (readString '"' ('"' :: r) 0 r >>= _) = _
    cases readString '"' ('"' :: r) 0 r <;> rfl
  have htext : writeString s ++ rest = '"' :: (s.flatMap escape ++ '"' :: rest) := by
    simp [writeString]
  rw [htext]
  refine .of_lexeme ha rfl (by decide) ?_
  rw [hlexeme, hread]
  rfl

/-! ### Numbers and keywords -/

/-- Whether a text that follows a number or a keyword ends it. -/
def EndsScalar (rest : Text) : Prop := ∀ c ∈ rest.head?, c ∈ spaces ++ ['/', ',', ']', '\x7d']

/-- Nothing that ends a number or a keyword continues one: no digit, no point, no exponent, no
    letter. -/
theorem EndsScalar.stops (h : EndsScalar rest) (hc : c ∈ rest.head?) :
    (c.isDigit = false ∧ c ≠ '.' ∧ c ≠ 'e' ∧ c ≠ 'E') ∧ c ≠ 'x' ∧ c ≠ 'X' ∧
      Text.isAlphanumeric c = false := by
  have hmem := h c hc
  simp only [spaces, List.cons_append, List.nil_append, List.mem_cons, List.not_mem_nil, or_false]
    at hmem
  rcases hmem with rfl | rfl | rfl | rfl | rfl | rfl | rfl | rfl <;> decide

theorem EndsScalar.endsNumber (h : EndsScalar rest) : EndsNumber rest :=
  fun _ hc => (h.stops hc).1

/-- `afterKeyword?` reads a keyword up to its end, where the next character must be no part of a
    word. -/
theorem afterKeyword?_append (keyword : Text) (h : EndsScalar rest) :
    afterKeyword? keyword (keyword ++ rest) = some rest := by
  have hstop : (rest.head?.any Text.isAlphanumeric) = false := by
    cases hhead : rest.head? with
    | none => rfl
    | some c => exact (h.stops hhead).2.2.2
  rw [afterKeyword?, List.isPrefixOf?_eq_some_iff_append_eq.mpr rfl, Option.filter_some, hstop]
  rfl

theorem skipFraction_end (h : EndsNumber rest) : skipFraction rest = .ok rest := by
  cases rest with
  | nil => rfl
  | cons c rest =>
    rw [skipFraction]
    rintro r ⟨⟩
    exact (h '.' rfl).2.1 rfl

theorem skipExponent_end (h : EndsNumber rest) : skipExponent rest = .ok rest := by
  cases rest with
  | nil => rfl
  | cons c rest =>
    obtain ⟨-, -, he, hE⟩ := h c rfl
    simp [skipExponent, he, hE]

/-- The digits of a number are skipped up to its end; a single zero starts no hexadecimal one,
    because no `x` follows. -/
theorem skipNumber_of_sign {n : Nat} (h : EndsScalar rest)
    (hsign : (Decimal.readSign t).2 = Text.ofNat n ++ rest) : skipNumber t = .ok rest := by
  have hend := h.endsNumber
  have htail : (skipFraction rest >>= skipExponent) = .ok rest := by
    rw [skipFraction_end hend]
    exact skipExponent_end hend
  unfold skipNumber
  rw [hsign]
  by_cases hn : n = 0
  · -- behind a zero there must be no `x`, since that would begin a number to the base 16
    subst hn
    cases rest with
    | nil => rfl
    | cons x rest =>
      obtain ⟨-, hx, hX, -⟩ := h.stops (c := x) rfl
      show (if x = 'x' || x = 'X' then _ else skipFraction (x :: rest) >>= skipExponent) = _
      rw [if_neg (by simp [hx, hX]), htail]
  · -- any other number does not begin with a zero, so all its digits are taken
    obtain ⟨d, ds, hds⟩ := List.exists_cons_of_ne_nil (Text.ofNat_ne_nil n)
    have hd : d ≠ '0' := by
      rintro rfl
      exact Text.head?_ofNat (Nat.pos_of_ne_zero hn) (by rw [hds]; rfl)
    have hdigits := digits_ofNat n hend
    rw [hds] at hdigits ⊢
    dsimp only
    split
    · next heq => exact absurd (List.cons.inj heq).1 hd
    · next heq => exact absurd (List.cons.inj heq).1 hd
    · rw [hdigits]
      exact htail

/-- A sign is read off a number, and its digits are left: `Text.ofInt` writes a minus sign for
    negative numbers only. -/
theorem readSign_ofInt (n : Int) (rest : Text) :
    Decimal.readSign (Text.ofInt n ++ rest) = (decide (n < 0), Text.ofNat n.natAbs ++ rest) := by
  cases n with
  | ofNat n =>
    have hnonneg : ¬ Int.ofNat n < 0 := Int.not_lt.mpr (Int.natCast_nonneg n)
    rw [Text.ofInt, decide_eq_false hnonneg]
    show _ = (false, Text.ofNat n ++ rest)
    obtain ⟨d, ds, hds⟩ := List.exists_cons_of_ne_nil (Text.ofNat_ne_nil n)
    have hdigit : d.isDigit = true := Text.isDigit_of_mem_ofNat (hds ▸ List.mem_cons_self)
    rw [hds, List.cons_append, Decimal.readSign.eq_3]
    · rintro _ ⟨⟩
      cases hdigit
    · rintro _ ⟨⟩
      cases hdigit
  | negSucc n =>
    rw [decide_eq_true (Int.negSucc_lt_zero n)]
    rfl

/-- **A number that fits a word** is not kept as a spelling: `number` has its value. -/
theorem number_ofInt {n : Int} (hn : FitsWord (.int n)) : number (Text.ofInt n) = .num (.int n) := by
  have hend : EndsNumber [] := by simp [EndsNumber]
  have hread := readNumber?_ofInt hn hend
  have hsign := readSign_ofInt n []
  rw [List.append_nil] at hread
  rw [List.append_nil, List.append_nil] at hsign
  have hsource : (if decide (n < 0) then Text.ofInt n else Text.ofNat n.natAbs) = Text.ofInt n := by
    cases n with
    | ofNat n => rw [if_neg (by simp)]; rfl
    | negSucc n => rw [if_pos (by simp)]
  -- no digit is the letter of a hexadecimal number
  have hplain (x : Char) (hx : x.isDigit = false) (r : Text) :
      Text.ofNat n.natAbs ≠ '0' :: x :: r := by
    intro heq
    have hdigit : x.isDigit = true := Text.isDigit_of_mem_ofNat (n := n.natAbs) (by simp [heq])
    rw [hx] at hdigit
    cases hdigit
  unfold number
  rw [hsign]
  dsimp only
  split
  · next heq => exact absurd heq (hplain 'x' rfl _)
  · next heq => exact absurd heq (hplain 'X' rfl _)
  · rw [hsource, hread]

/-- The characters that are tokens, that start a string or that start a comment. -/
def marks : List Char := ['\x7b', '\x7d', '[', ']', ',', ':', '/', '"', '\'']

/-- What starts with no mark is a number, a keyword or a bare word: the cases of `lexeme` that look
    further than one character. -/
theorem lexeme_of_not_mark (h : c ∉ marks) (r : Text) :
    lexeme c r =
      if c = '-' || c = '+' || c.isDigit then
        (skipNumber (c :: r)).map fun rest =>
          ⟨.number ((c :: r).take ((c :: r).length - rest.length)), c :: r, rest⟩
      else
        match afterKeyword? "true" (c :: r), afterKeyword? "false" (c :: r),
          afterKeyword? "null" (c :: r) with
        | some rest, _, _ => .ok ⟨.bool true, c :: r, rest⟩
        | _, some rest, _ => .ok ⟨.bool false, c :: r, rest⟩
        | _, _, some rest => .ok ⟨.null, c :: r, rest⟩
        | none, none, none => word (c :: r) := by
  have hnot (d : Char) (hd : d ∈ marks) : c ≠ d := by
    rintro rfl
    exact h hd
  rw [lexeme.eq_8 c r (hnot _ (by decide)) (hnot _ (by decide)) (hnot _ (by decide))
    (hnot _ (by decide)) (hnot _ (by decide)) (hnot _ (by decide)) (hnot _ (by decide)),
    if_neg (by simp [hnot '"' (by decide), hnot '\'' (by decide)])]
  cases skipNumber (c :: r) <;> rfl

theorem isBlankChar_of_isDigit (h : c.isDigit = true) : Text.isBlankChar c = false := by
  have hrange : 48 ≤ c.toNat ∧ c.toNat ≤ 57 := by
    simp only [Char.isDigit, Bool.and_eq_true, decide_eq_true_eq] at h
    exact ⟨h.1, h.2⟩
  unfold Text.isBlankChar
  dsimp only
  simp only [Bool.or_eq_false_iff, Bool.and_eq_false_iff, decide_eq_false_iff_not,
    beq_eq_false_iff_ne]
  omega

/-- **A whole number that was written** by `Text.ofInt` is one token, with its spelling, wherever it
    is followed by what ends it. -/
theorem firstToken_ofInt (ha : Gap a) (n : Int) (h : EndsScalar rest) :
    FirstToken (a ++ (Text.ofInt n ++ rest)) (.number (Text.ofInt n)) rest := by
  have hskip : skipNumber (Text.ofInt n ++ rest) = .ok rest :=
    skipNumber_of_sign h (n := n.natAbs) (by rw [readSign_ofInt])
  have hspelling : (Text.ofInt n ++ rest).take ((Text.ofInt n ++ rest).length - rest.length) =
      Text.ofInt n := by
    rw [List.length_append, Nat.add_sub_cancel, List.take_left]
  -- the first character, a digit or the minus sign, already tells that it is a number
  obtain ⟨c, r, hr, hc⟩ := exists_ofInt_eq_cons n
  obtain ⟨hblank, hmark⟩ : Text.isBlankChar c = false ∧ c ∉ marks := by
    rcases hc with rfl | hdigit
    · decide
    · refine ⟨isBlankChar_of_isDigit hdigit, fun hmem => ?_⟩
      have hnone : marks.any Char.isDigit = false := by decide
      exact Bool.false_ne_true (hnone.symm.trans (List.any_eq_true.mpr ⟨c, hmem, hdigit⟩))
  have hslash : c ≠ '/' := by
    rintro rfl
    exact hmark (by decide)
  have hnumber : (decide (c = '-') || decide (c = '+') || c.isDigit) = true := by
    rcases hc with rfl | hdigit
    · rfl
    · rw [hdigit, Bool.or_true]
  rw [hr, List.cons_append] at hskip hspelling ⊢
  refine .of_lexeme ha hblank hslash ?_
  rw [lexeme_of_not_mark hmark, if_pos hnumber, hskip]
  dsimp only [Except.map]
  rw [hspelling]

theorem firstToken_null (ha : Gap a) (h : EndsScalar rest) :
    FirstToken (a ++ ("null" ++ rest)) .null rest := by
  have htrue : afterKeyword? "true" ('n' :: ("ull" ++ rest)) = none := rfl
  have hfalse : afterKeyword? "false" ('n' :: ("ull" ++ rest)) = none := rfl
  have hnull : afterKeyword? "null" ('n' :: ("ull" ++ rest)) = some rest :=
    afterKeyword?_append "null" h
  have hlexeme : lexeme 'n' ("ull" ++ rest) = .ok ⟨.null, 'n' :: ("ull" ++ rest), rest⟩ := by
    rw [lexeme_of_not_mark (by decide), if_neg (by decide), htrue, hfalse, hnull]
  exact .of_lexeme ha rfl (by decide) hlexeme

theorem firstToken_bool (ha : Gap a) (b : Bool) (h : EndsScalar rest) :
    FirstToken (a ++ (write (.bool b) ++ rest)) (.bool b) rest := by
  cases b with
  | true =>
    have htrue : afterKeyword? "true" ('t' :: ("rue" ++ rest)) = some rest :=
      afterKeyword?_append "true" h
    have hlexeme : lexeme 't' ("rue" ++ rest) =
        .ok ⟨.bool true, 't' :: ("rue" ++ rest), rest⟩ := by
      rw [lexeme_of_not_mark (by decide), if_neg (by decide), htrue]
    exact .of_lexeme ha rfl (by decide) hlexeme
  | false =>
    have htrue : afterKeyword? "true" ('f' :: ("alse" ++ rest)) = none := rfl
    have hfalse : afterKeyword? "false" ('f' :: ("alse" ++ rest)) = some rest :=
      afterKeyword?_append "false" h
    have hlexeme : lexeme 'f' ("alse" ++ rest) =
        .ok ⟨.bool false, 'f' :: ("alse" ++ rest), rest⟩ := by
      rw [lexeme_of_not_mark (by decide), if_neg (by decide), htrue, hfalse]
    exact .of_lexeme ha rfl (by decide) hlexeme

end AccessLint.Json.Relaxed
