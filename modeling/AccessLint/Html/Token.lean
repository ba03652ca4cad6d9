import AccessLint.Text.Basic

namespace AccessLint.Html

/-!
# Tokens of markup

* `Tag` — a start or end tag as written, its names in lower case;
* `Doctype` — a document type;
* `Token` — what a source consists of;
* `TextMode` — how the text that follows a start tag is read.
-/

/-- A tag: its name, its attributes with the first of each name, and whether it ends in `/>`. -/
structure Tag where
  name : Text
  attrs : List (Text × Text)
  selfClosing : Bool

/-- A tag without attributes. -/
def Tag.plain (name : Text) : Tag := ⟨name, [], false⟩

/-- A document type, and whether it is malformed. -/
structure Doctype where
  name : Text
  publicId : Option Text
  systemId : Option Text
  malformed : Bool

/-- What a source consists of. A null character is a token of its own, since most places ignore
    it. -/
inductive Token where
  | doctype (d : Doctype)
  | startTag (t : Tag)
  | endTag (t : Tag)
  | comment (t : Text)
  | text (t : Text)
  | null
  | eof

/-- How text is read: as markup, as text with character references up to an end tag, as plain text
    up to an end tag, as a script, or as plain text to the end. -/
inductive TextMode where
  | markup
  | escapable (name : Text)
  | raw (name : Text)
  | script
  | plain

end AccessLint.Html
