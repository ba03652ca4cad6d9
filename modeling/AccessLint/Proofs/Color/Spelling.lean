import AccessLint.Proofs.Color.Functional
import AccessLint.Proofs.Text.Pieces

namespace AccessLint.Rgb

/-!
# Spellings of a colour function

A colour function can be called with other separators between its arguments, with blanks around it,
in another case, and by the other name of its family. None of this makes a difference.

* `IsArgument` — what can stand between separators;
* `Spelling` — a way to write a call of a function with some arguments;
* `Spelling.calls`, `Spelling.words_inside` — how it is read;
* `parse_spelling` — all spellings give the same.
-/

/-- Whether a character can be in an argument: it is no separator and no parenthesis. -/
def isArgumentChar (c : Char) : Bool := !separatesArgs c && c != '(' && c != ')'

/-- A text that can be an argument. -/
def IsArgument (arg : Text) : Prop := arg ≠ [] ∧ arg.all isArgumentChar = true

/-- A way to write a call of a function with some arguments. There may be blanks around the call and
    in front of its parenthesis, and separators before the first argument and behind every argument;
    all arguments but the last one have some behind them. The letters have any case. -/
structure Spelling (family : Family) (args : List Text) where
  before : Text
  name : Text
  blanks : Text
  first : Text
  list : List (Text × Text)
  after : Text
  before_blank : Text.isBlank before = true
  name_mem : (Text.lower name, family) ∈ familyNames
  blanks_blank : Text.isBlank blanks = true
  first_separates : first.all separatesArgs = true
  list_args : list.map (fun a => Text.lower a.1) = args.map Text.lower
  list_separates : ∀ a ∈ list, a.2.all separatesArgs = true
  list_separated : ∀ a ∈ list.dropLast, a.2 ≠ []
  after_blank : Text.isBlank after = true

theorem separatesArgs_toLower (c : Char) : separatesArgs c.toLower = separatesArgs c := by
  refine Text.apply_toLower (fun d hd => ?_) c
  have hother : ∀ s : Char, s.isAlpha = false → (d == s) = false := by
    intro s hs
    rw [beq_eq_false_iff_ne]
    rintro rfl
    rw [hd] at hs
    cases hs
  unfold separatesArgs
  rw [hother ',' (by decide), hother '/' (by decide), Text.isBlankChar_of_isAlpha hd]
  rfl

theorem isArgumentChar_iff {c : Char} :
    isArgumentChar c = true ↔ separatesArgs c = false ∧ c ≠ '(' ∧ c ≠ ')' := by
  unfold isArgumentChar
  rw [Bool.and_eq_true, Bool.and_eq_true, Bool.not_eq_true', bne_iff_ne, bne_iff_ne, and_assoc]

theorem isArgumentChar_toLower (c : Char) : isArgumentChar c.toLower = isArgumentChar c := by
  have hother : ∀ d : Char, d.isAlpha = false → (c.toLower != d) = (c != d) := by
    intro d hd
    rw [Bool.eq_iff_iff, bne_iff_ne, bne_iff_ne, ne_eq, Text.toLower_eq_iff hd]
  unfold isArgumentChar
  rw [separatesArgs_toLower, hother '(' (by decide), hother ')' (by decide)]

/-- A text that is an argument (`IsArgument`) in another case is one: separators and parentheses
    have no case. -/
theorem isArgument_of_lower {arg written : Text} (harg : IsArgument arg)
    (h : Text.lower written = Text.lower arg) : IsArgument written := by
  have hall : ∀ t : Text, (Text.lower t).all isArgumentChar = t.all isArgumentChar := by
    intro t
    unfold Text.lower
    rw [List.all_map]
    exact congrArg t.all (funext isArgumentChar_toLower)
  refine ⟨?_, ?_⟩
  · rintro rfl
    exact harg.1 (List.map_eq_nil_iff.mp h.symm)
  · rw [← hall, h, hall]
    exact harg.2

namespace Spelling

variable {family : Family} {args : List Text}

/-- What stands between the parentheses. -/
def inside (s : Spelling family args) : Text := s.first ++ s.list.flatMap fun a => a.1 ++ a.2

/-- The text of a spelling. -/
def text (s : Spelling family args) : Text :=
  s.before ++ ((s.name ++ (s.blanks ++ '(' :: (s.inside ++ [')']))) ++ s.after)

/-- The arguments as they are written in a `Spelling` are arguments, in the case that the spelling
    has. -/
theorem isArgument (hargs : ∀ arg ∈ args, IsArgument arg) (s : Spelling family args) :
    ∀ a ∈ s.list, IsArgument a.1 := by
  intro a ha
  have hmem : Text.lower a.1 ∈ args.map Text.lower := by
    rw [← s.list_args]
    exact List.mem_map_of_mem ha
  obtain ⟨arg, harg, heq⟩ := List.mem_map.mp hmem
  exact isArgument_of_lower (hargs arg harg) heq.symm

/-- **The words between the parentheses** are the arguments in lower case, whatever separators a
    `Spelling` has. -/
theorem words_inside (hargs : ∀ arg ∈ args, IsArgument arg) (s : Spelling family args) :
    Text.words separatesArgs (Text.lower s.inside) = args.map Text.lower := by
  have hwords : Text.words separatesArgs s.inside = s.list.map Prod.fst := by
    unfold inside
    rw [Text.words_gap (List.all_eq_true.mp s.first_separates)]
    refine Text.words_flatMap (fun a ha => ?_)
      (fun a ha => List.all_eq_true.mp (s.list_separates a ha)) s.list_separated
    have harg := isArgument hargs s a ha
    exact ⟨harg.1, fun c hc => (isArgumentChar_iff.mp (List.all_eq_true.mp harg.2 c hc)).1⟩
  have hlower : Text.words separatesArgs (Text.lower s.inside) =
      (Text.words separatesArgs s.inside).map Text.lower :=
    Text.words_map separatesArgs_toLower s.inside
  rw [hlower, hwords, List.map_map, ← s.list_args]
  rfl

/-- No parenthesis stands between the two of a `Spelling`, so the first one opens the call and the
    other closes it. -/
theorem not_mem_inside (hargs : ∀ arg ∈ args, IsArgument arg) (s : Spelling family args) {p : Char}
    (hp : p = '(' ∨ p = ')') : p ∉ s.inside := by
  have hseparates : separatesArgs p = false := by
    rcases hp with rfl | rfl <;> decide
  have hgap : ∀ {gap : Text}, gap.all separatesArgs = true → p ∉ gap := by
    intro gap h hmem
    rw [List.all_eq_true.mp h p hmem] at hseparates
    cases hseparates
  unfold inside
  rw [List.mem_append, List.mem_flatMap]
  rintro (hfirst | ⟨a, ha, hmem⟩)
  · exact hgap s.first_separates hfirst
  · rcases List.mem_append.mp hmem with harg | hafter
    · have hchar := List.all_eq_true.mp (isArgument hargs s a ha).2 p harg
      obtain ⟨-, hopen, hclose⟩ := isArgumentChar_iff.mp hchar
      exact hp.elim hopen hclose
    · exact hgap (s.list_separates a ha) hafter

/-- A name of a family (`familyNames`) does not start with a blank, so `Text.trim` stops there. -/
theorem isBlankChar_head?_name {name t : Text} (h : (name, family) ∈ familyNames) {c : Char}
    (hc : c ∈ (name ++ t).head?) : Text.isBlankChar c = false := by
  simp only [familyNames, List.mem_cons, Prod.mk.injEq, List.not_mem_nil, or_false] at h
  rcases h with ⟨rfl, -⟩ | ⟨rfl, -⟩ | ⟨rfl, -⟩ | ⟨rfl, -⟩
  all_goals
    cases hc
    decide

/-- **A spelling calls the function** in the sense of `Calls`: blanks around it are trimmed, and its
    name is one of the family in lower case. -/
theorem calls (hargs : ∀ arg ∈ args, IsArgument arg) (s : Spelling family args) :
    Calls (Text.lower (Text.trim s.text)) family (Text.lower s.inside) := by
  have htext : Text.lower s.text = Text.lower s.before ++ ((Text.lower s.name ++
      (Text.lower s.blanks ++ '(' :: (Text.lower s.inside ++ [')']))) ++ Text.lower s.after) := by
    simp [text, Text.lower]
  -- the call ends in its closing parenthesis, so trimming takes no more than the blanks after it
  have hlast : ∀ c ∈ (Text.lower s.name ++
      (Text.lower s.blanks ++ '(' :: (Text.lower s.inside ++ [')']))).getLast?,
      Text.isBlankChar c = false := by
    intro c hc
    rw [← List.cons_append, ← List.append_assoc, ← List.append_assoc, List.getLast?_concat] at hc
    cases hc
    decide
  refine ⟨Text.lower s.name, Text.lower s.blanks, s.name_mem, ?_, ?_, ?_, ?_⟩
  · rw [Text.isBlank_lower, s.blanks_blank]
  · rw [Text.mem_lower (by decide)]
    exact not_mem_inside hargs s (Or.inl rfl)
  · rw [Text.mem_lower (by decide)]
    exact not_mem_inside hargs s (Or.inr rfl)
  · rw [Text.lower_trim, htext]
    exact Text.trim_append (by rw [Text.isBlank_lower, s.before_blank])
      (by rw [Text.isBlank_lower, s.after_blank])
      (fun _ => isBlankChar_head?_name s.name_mem) hlast

/-- `parse?` of a spelling is what the function of its family (`Functional.color?`) gives for the
    arguments in lower case. -/
theorem parse?_text (hargs : ∀ arg ∈ args, IsArgument arg) (s : Spelling family args) :
    parse? s.text = Functional.color? ⟨family, args.map Text.lower⟩ := by
  rw [parse?_of_calls (calls hargs s), words_inside hargs s]

end Spelling

/-- **Only the family and the arguments count.** All values of `Spelling` for some arguments are
    read alike by `parse?`, which is what the function of the family gives for the arguments in
    lower case. -/
theorem parse_spelling {family : Family} {args : List Text} (hargs : ∀ arg ∈ args, IsArgument arg)
    (s s' : Spelling family args) :
    parse? s.text = parse? s'.text ∧
      parse? s.text = Functional.color? ⟨family, args.map Text.lower⟩ := by
  rw [s.parse?_text hargs, s'.parse?_text hargs]
  exact ⟨rfl, rfl⟩

/-- Commas, and no blanks. -/
def Spelling.commas : Spelling .hsl ["120DEG", "100%", ".25"] where
  before := []
  name := "hsl"
  blanks := []
  first := []
  list := [("120deg", ","), ("100%", ","), (".25", [])]
  after := []
  before_blank := rfl
  name_mem := by decide
  blanks_blank := rfl
  first_separates := by decide
  list_args := by decide
  list_separates := by decide
  list_separated := by decide
  after_blank := rfl

/-- The other name in capitals, blanks of all sorts, and slashes at both ends. -/
def Spelling.slashes : Spelling .hsl ["120DEG", "100%", ".25"] where
  before := "\n\u3000"
  name := "HSLA"
  blanks := "\t"
  first := "/ "
  list := [("120Deg", "\u2028"), ("100%", " ,/ "), (".25", " ,/")]
  after := "\u00a0"
  before_blank := by decide
  name_mem := by decide
  blanks_blank := by decide
  first_separates := by decide
  list_args := by decide
  list_separates := by decide
  list_separated := by decide
  after_blank := by decide

/-- Both `Spelling.commas` and `Spelling.slashes` spell the same dark green. -/
theorem parse_spelling_slashes :
    (∀ arg ∈ (["120DEG", "100%", ".25"] : List Text), IsArgument arg) ∧
      Spelling.commas.text = "hsl(120deg,100%,.25)" ∧
      Spelling.slashes.text = "\n\u3000HSLA\t(/ 120Deg\u2028100% ,/ .25 ,/)\u00a0" ∧
      parse? "\n\u3000HSLA\t(/ 120Deg\u2028100% ,/ .25 ,/)\u00a0" =
        parse? "hsl(120deg,100%,.25)" := by
  have hargs : ∀ arg ∈ (["120DEG", "100%", ".25"] : List Text), IsArgument arg := by
    unfold IsArgument
    decide
  have hcommas : Spelling.commas.text = "hsl(120deg,100%,.25)" := by decide
  have hslashes : Spelling.slashes.text = "\n\u3000HSLA\t(/ 120Deg\u2028100% ,/ .25 ,/)\u00a0" := by
    decide
  refine ⟨hargs, hcommas, hslashes, ?_⟩
  rw [← hcommas, ← hslashes]
  exact (parse_spelling hargs .slashes .commas).1

end AccessLint.Rgb
