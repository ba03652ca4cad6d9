import AccessLint.Text.Basic

namespace AccessLint.Text

/-!
# Patterns

A pattern stands for finitely many phrases in the letters of ASCII. Texts satisfy it without regard to
case.

* `foldedLetter` — the letter that a character counts as;
* `Pattern` — phrases, one after the other, of two or optional;
* `Pattern.rests` — what may be left of a text behind a phrase;
* `Pattern.accepts` — whether a whole text is a phrase.
-/

/-- The small letter that a character counts as without regard to case. Beyond ASCII these are the
    long s and the Kelvin sign. -/
def foldedLetter (c : Char) : Char :=
  if c = '\u017F' then 's' else if c = '\u212A' then 'k' else c.toLower

/-- A pattern of phrases in small letters. -/
inductive Pattern where
  | phrase (w : Text)
  | optional (p : Pattern)
  | either (p q : Pattern)
  | followed (p q : Pattern)

namespace Pattern

/-- What may be left of a text behind a phrase of a pattern that it starts with. -/
def rests : Pattern → Text → List Text
  | phrase w, t => (w.isPrefixOf? t).toList
  | optional p, t => p.rests t ++ [t]
  | either p q, t => p.rests t ++ q.rests t
  | followed p q, t => (p.rests t).flatMap q.rests

/-- Whether a whole text is a phrase of a pattern, without regard to case. -/
def accepts (p : Pattern) (t : Text) : Bool := (p.rests (t.map foldedLetter)).contains []

end Pattern

end AccessLint.Text
