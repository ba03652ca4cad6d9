import AccessLint.Text.Basic
import AccessLint.Text.LowercaseTable
import AccessLint.Text.CaseContext

namespace AccessLint.Text

/-!
# Lower case of all scripts

* `lowerChar` — the lower-case form of one character, out of context;
* `toLowercase` — the lower-case form of a text, in which a capital sigma at the end of a word
  becomes a final sigma.
-/

/-- Whether a code point belongs to a run of letters. -/
def CaseRun.covers (r : CaseRun) (n : Nat) : Bool :=
  r.first ≤ n && n ≤ r.last && (n - r.first) % r.step == 0

/-- The lower-case form of a character: two characters for the dotted capital I, else one. -/
def lowerChar (c : Char) : Text :=
  if c.toNat < 128 then [c.toLower]
  else if c.toNat = 0x130 then ['i', '\u0307']
  else match caseRuns.find? (·.covers c.toNat) with
    | some r => [Char.ofNat (r.target + (c.toNat - r.first))]
    | none => [c]

/-- Whether the first character that casing does not look past is a cased one. -/
def casedNext (t : Text) : Bool :=
  match t.dropWhile isCaseIgnorable with
  | [] => false
  | c :: _ => isCased c

/-- The lower-case form of a text whose earlier characters, nearest first, are `before`. -/
def toLowercaseAfter (before : Text) : Text → Text
  | [] => []
  | c :: cs =>
    let lowered :=
      if c = '\u03A3' then
        [if casedNext before && !casedNext cs then '\u03C2' else '\u03C3']
      else lowerChar c
    lowered ++ toLowercaseAfter (c :: before) cs

/-- The lower-case form of a text. -/
def toLowercase (t : Text) : Text := toLowercaseAfter [] t

end AccessLint.Text
