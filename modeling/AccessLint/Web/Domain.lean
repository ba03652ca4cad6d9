import AccessLint.Text.Composition
import AccessLint.Text.Direction
import AccessLint.Text.Encoding
import AccessLint.Text.Punycode
import AccessLint.Web.DomainTable

namespace AccessLint.Web

/-!
# Domain names

A name in any characters stands for one in ASCII letters.

* `mapChar?` — what a character of a name stands for;
* `Label` — a part between dots, in characters and in ASCII letters;
* `Label.isSound` — whether the characters of a part may stand together;
* `domainOf?` — the ASCII form of a name.
-/

/-- Whether an ASCII character may stand in the name of a host. -/
def isHostChar (c : Char) : Bool :=
  0x20 < c.toNat && c.toNat < 0x7F && !("#/:<>?@[\\]^|%".toList.contains c)

/-- What replaces a character that is mapped. -/
def mapped? (c : Char) : Option Text :=
  let n := c.toNat
  match mappedRuns.find? fun r => r.first ≤ n && n ≤ r.last && (n - r.first) % r.step == 0 with
  | some r => some [Char.ofNat (r.target + (n - r.first))]
  | none => mappedRows.findSome? fun (first, replacements) =>
    if first ≤ n then
      match replacements[n - first]? with
      | some (c :: cs) => some (c :: cs)
      | _ => none
    else none

/-- What a character of a name stands for: itself, others, or nothing at all. Some characters may
    not stand in a name. -/
def mapChar? (c : Char) : Option Text :=
  if c.toNat < 0x80 then if isHostChar c then some [c.toLower] else none
  else if Text.isIn ignoredRanges c then some []
  else if Text.isIn refusedRanges c then none
  else some ((mapped? c).getD [c])

/-- Whether a character stands for itself. -/
def isPlain (c : Char) : Bool := mapChar? c == some [c]

/-- A part of a name: its ASCII form, and the characters that it stands for. -/
structure Label where
  ascii : Text
  word : Text

namespace Label

/-- What the ASCII forms of parts in other characters start with. -/
def mark : Text := "xn--"

/-- The part that is written in a text, whose characters have been mapped. -/
def ofText? (t : Text) : Option Label :=
  match List.isPrefixOf? mark t with
  | some code => do
    if code.any (0x80 ≤ ·.toNat) then none
    let word ← Text.Punycode.decode? code
    if word.all (·.toNat < 0x80) || !word.all isPlain || Text.compose word != word then none
    return ⟨t, word⟩
  | none => some ⟨if t.all (·.toNat < 0x80) then t else mark ++ Text.Punycode.encode t, t⟩

/-- Whether a character is one of the two that have no look of their own but govern how their
    neighbours join. -/
def isJoiner (c : Char) : Bool := c == '\u200C' || c == '\u200D'

/-- Whether a joiner may stand between what is before it, the nearest character first, and what is
    after it: behind a mark that takes away a vowel, or, if it keeps them apart, between two letters
    that would join. -/
def joinerFits (before : Text) (c : Char) (after : Text) : Bool :=
  let past := fun t : Text => (t.dropWhile (Text.isIn Text.nonspacingMarks)).head?
  before.head?.any (Text.combiningClass · == 9) ||
    (c == '\u200C' &&
      (past before).any (fun d => Text.isIn Text.joinBoth d || Text.isIn Text.joinNext d) &&
      (past after).any fun d => Text.isIn Text.joinBoth d || Text.isIn Text.joinPrevious d)

/-- Whether all joiners fit in a word, after what is before it. -/
def joinersFit (before : Text) : Text → Bool
  | [] => true
  | c :: r => (!isJoiner c || joinerFits before c r) && joinersFit (c :: before) r

/-- Whether the characters of a part may stand together: no mark comes first, and all joiners fit. -/
def isSound (l : Label) : Bool :=
  !l.word.head?.any (fun c => Text.isIn Text.nonspacingMarks c || Text.isIn Text.spacingMarks c) &&
    joinersFit [] l.word

end Label

/-- The ASCII form of a name in UTF-8. -/
def domainOf? (name : List UInt8) : Option Text := do
  let mapped ← (← Text.decode? name).mapM mapChar?
  let labels ← (List.splitOnP (· == '.') (Text.compose mapped.flatten)).mapM Label.ofText?
  let turns := labels.any (Text.turns ·.word)
  if labels.all fun l => l.isSound && (!turns || l.word.isEmpty || Text.keepsDirection l.word) then
    return List.intercalate ['.'] (labels.map Label.ascii)
  else none

end AccessLint.Web
