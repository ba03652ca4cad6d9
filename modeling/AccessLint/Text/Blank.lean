import AccessLint.Text.Basic

namespace AccessLint

/-!
# Blank characters

Blank means the Unicode property White_Space.

* `Text.isBlankChar` — the property of one character;
* `Text.isBlank` — a text of blank characters only;
* `Text.trim` — a text without the blank characters at its two ends;
* `Text.isAsciiSpace` — the five ASCII characters that separate tokens of markup.
-/

namespace Text

/-- The Unicode property White_Space. -/
def isBlankChar (c : Char) : Bool :=
  let n := c.toNat
  (9 ≤ n && n ≤ 13) || n == 0x20 || n == 0x85 || n == 0xA0 || n == 0x1680 ||
    (0x2000 ≤ n && n ≤ 0x200A) || n == 0x2028 || n == 0x2029 || n == 0x202F || n == 0x205F ||
    n == 0x3000

/-- Whether a text is empty or consists of blank characters. -/
def isBlank (t : Text) : Bool := t.all isBlankChar

/-- A text without the blank characters at its start. -/
def trimStart (t : Text) : Text := t.dropWhile isBlankChar

/-- A text without the blank characters at its end. -/
def trimEnd (t : Text) : Text := (t.reverse.dropWhile isBlankChar).reverse

/-- A text without the blank characters at its two ends. -/
def trim (t : Text) : Text := trimEnd (trimStart t)

/-- A text is blank exactly when nothing is left of it after trimming its start. -/
theorem isBlank_iff_trimStart (t : Text) : isBlank t = true ↔ trimStart t = [] := by
  induction t with
  | nil => simp [isBlank, trimStart]
  | cons c cs ih =>
    unfold isBlank trimStart at *
    cases h : isBlankChar c
    · simp [h]
    · rw [List.all_cons, h, Bool.true_and, ih, List.dropWhile_cons_of_pos h]

/-- Tab, line feed, form feed, carriage return or space. -/
def isAsciiSpace (c : Char) : Bool :=
  c == '\t' || c == '\n' || c == '\x0c' || c == '\r' || c == ' '

end Text

end AccessLint
