import AccessLint.Html.Tree

namespace AccessLint.Html

/-!
# Markup of a tree

`markup` writes an element of a tree as canonical markup: attributes in order and between double
quotes, special characters as references, and an end tag for every element that can have content.
-/

/-- The elements without content, which have no end tag. -/
def voidNames : List Text := [
  "area", "base", "basefont", "bgsound", "br", "col", "embed", "frame", "hr", "img", "input",
  "keygen", "link", "meta", "param", "source", "track", "wbr"]

/-- The elements whose text is written as it is. -/
def rawTextNames : List Text := [
  "style", "script", "xmp", "iframe", "noembed", "noframes", "plaintext"]

/-- A character of a text. -/
def escapeText (c : Char) : Text :=
  if c = '&' then "&amp;"
  else if c = '\u00A0' then "&nbsp;"
  else if c = '<' then "&lt;"
  else if c = '>' then "&gt;"
  else [c]

/-- A character of an attribute value. -/
def escapeValue (c : Char) : Text :=
  if c = '&' then "&amp;"
  else if c = '\u00A0' then "&nbsp;"
  else if c = '"' then "&quot;"
  else [c]

/-- What is written in front of the name of an attribute. -/
def AttrSpace.written : AttrSpace → Text
  | none | xmlnsItself => []
  | xlink => "xlink:"
  | xml => "xml:"
  | xmlns => "xmlns:"

/-- An attribute with the space before it. -/
def Attr.markup (a : Attr) : Text :=
  ' ' :: a.space.written ++ a.name ++ "=\"" ++ a.value.flatMap escapeValue ++ ['"']

/-- The start tag of an element. -/
def Element.startTag (e : Element) : Text :=
  '<' :: e.name ++ e.attrs.flatMap Attr.markup ++ ['>']

/-- The end tag of an element. -/
def Element.endTag (e : Element) : Text := '<' :: '/' :: e.name ++ ['>']

namespace Tree

/-- The markup of some nodes inside an element. The fuel bounds the depth. -/
def markupOf (t : Tree) : (fuel : Nat) → (raw : Bool) → List NodeId → Text
  | 0, _, _ => []
  | fuel + 1, raw, is => is.flatMap fun i =>
    let n := t.node i
    match n.content with
    | .text s => if raw then s else s.flatMap escapeText
    | .comment s => "<!--" ++ s ++ "-->"
    | .doctype name => "<!DOCTYPE " ++ name ++ ">"
    | .document | .fragment => t.markupOf fuel false n.children
    | .element e =>
      if e.isHtmlIn voidNames then e.startTag
      else e.startTag ++ t.markupOf fuel (e.isHtmlIn rawTextNames) n.children ++ e.endTag

/-- The markup of a node. -/
def markup (t : Tree) (i : NodeId) : Text := t.markupOf (t.nodes.size + 1) false [i]

end Tree

end AccessLint.Html
