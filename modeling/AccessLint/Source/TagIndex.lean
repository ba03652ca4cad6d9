import AccessLint.Text.Blank

namespace AccessLint.Source

/-!
# Start tags of a source

A source is searched for start tags without parsing it. Comments are skipped, and so is the content
of elements whose content is text.

* `StartTag` — a start tag: its name in lower case and its byte offset;
* `scan` — the start tags of a source in order;
* `offsetsOf` — the offsets of the start tags of one name.
-/

/-- A start tag: its name in lower case and the offset of its `<` in bytes. -/
structure StartTag where
  name : Text
  offset : Nat
deriving DecidableEq

/-- The elements whose content is text. -/
def rawTextNames : List Text := [
  "script", "style", "textarea", "title", "xmp", "iframe", "noembed", "noframes", "noscript"]

/-- Whether a character ends the name of a tag. -/
def endsName (c : Char) : Bool := Text.isAsciiSpace c || c == '/' || c == '>'

/-- How many characters after `<!--` a comment takes. -/
def commentLength (t : Text) : Nat :=
  match Text.findFirst? "-->" t with
  | some inside => inside.length + 3
  | none => t.length

/-- How many characters after the name of its start tag the content of a text element takes, up to
    the name of the end tag. -/
def rawTextLength (name t : Text) : Nat :=
  match Text.findFirst? ">" t with
  | none => t.length
  | some attrs =>
    let content := t.drop (attrs.length + 1)
    match Text.findFirst? ("</" ++ name) (Text.lower content) with
    | none => t.length
    | some inside => attrs.length + 1 + inside.length + name.length + 2

/-- The start tag after a `<`, if there is one, and how many characters after the `<` belong to it
    or to what is skipped. -/
def readTag (offset : Nat) (t : Text) : Option StartTag × Nat :=
  match List.isPrefixOf? "!--" t with
  | some r => (none, 3 + commentLength r)
  | none =>
    if t.head?.any Char.isAlpha then
      let written := t.takeWhile (!endsName ·)
      let name := Text.lower written
      let content :=
        if rawTextNames.contains name then rawTextLength name (t.drop written.length) else 0
      (some ⟨name, offset⟩, written.length + content)
    else (none, 0)

/-- The start tags of a text that begins at `offset`, of which the first `skip` characters were
    dealt with before. -/
def scanFrom : (skip offset : Nat) → Text → List StartTag
  | _, _, [] => []
  | skip + 1, offset, c :: r => scanFrom skip (offset + c.utf8Size) r
  | 0, offset, c :: r =>
    if c = '<' then
      let (tag, taken) := readTag offset r
      tag.toList ++ scanFrom taken (offset + 1) r
    else scanFrom 0 (offset + c.utf8Size) r

/-- The start tags of a source in order. -/
def scan (source : Text) : List StartTag := scanFrom 0 0 source

/-- The offsets of the start tags of a name, in any case of its letters. -/
def offsetsOf (tags : List StartTag) (name : Text) : List Nat :=
  (tags.filter fun t => t.name == Text.lower name).map StartTag.offset

end AccessLint.Source
