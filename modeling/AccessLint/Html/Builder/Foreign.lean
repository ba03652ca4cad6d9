import AccessLint.Html.Builder.Formatting

namespace AccessLint.Html.Builder

/-!
# Drawings and formulas

Elements of the two foreign vocabularies are put into the tree under names and attributes of their
own.

* `foreignElement` — the element of a start tag in a foreign vocabulary;
* `insertForeign` — inserts it, and opens it unless its tag is self-closing;
* `isTextPoint`, `isMarkupPoint` — the foreign elements whose content is ordinary markup again.
-/

/-- The names of drawings that are not all in lower case. -/
def svgNames : List Text := List.map String.toList [
  "altGlyph", "altGlyphDef", "altGlyphItem", "animateColor", "animateMotion", "animateTransform",
  "clipPath", "feBlend", "feColorMatrix", "feComponentTransfer", "feComposite", "feConvolveMatrix",
  "feDiffuseLighting", "feDisplacementMap", "feDistantLight", "feDropShadow", "feFlood", "feFuncA",
  "feFuncB", "feFuncG", "feFuncR", "feGaussianBlur", "feImage", "feMerge", "feMergeNode",
  "feMorphology", "feOffset", "fePointLight", "feSpecularLighting", "feSpotLight", "feTile",
  "feTurbulence", "foreignObject", "glyphRef", "linearGradient", "radialGradient", "textPath"]

/-- The attributes of drawings that are not all in lower case. -/
def svgAttrs : List Text := List.map String.toList [
  "attributeName", "attributeType", "baseFrequency", "baseProfile", "calcMode", "clipPathUnits",
  "diffuseConstant", "edgeMode", "filterUnits", "glyphRef", "gradientTransform", "gradientUnits",
  "kernelMatrix", "kernelUnitLength", "keyPoints", "keySplines", "keyTimes", "lengthAdjust",
  "limitingConeAngle", "markerHeight", "markerUnits", "markerWidth", "maskContentUnits",
  "maskUnits", "numOctaves", "pathLength", "patternContentUnits", "patternTransform",
  "patternUnits", "pointsAtX", "pointsAtY", "pointsAtZ", "preserveAlpha", "preserveAspectRatio",
  "primitiveUnits", "refX", "refY", "repeatCount", "repeatDur", "requiredExtensions",
  "requiredFeatures", "specularConstant", "specularExponent", "spreadMethod", "startOffset",
  "stdDeviation", "stitchTiles", "surfaceScale", "systemLanguage", "tableValues", "targetX",
  "targetY", "textLength", "viewBox", "viewTarget", "xChannelSelector", "yChannelSelector",
  "zoomAndPan"]

/-- The attributes of formulas that are not all in lower case. -/
def mathAttrs : List Text := List.map String.toList ["definitionURL"]

/-- The spelling of a name that is written in lower case. -/
def spelling (known : List Text) (name : Text) : Text :=
  (known.find? fun k => Text.lower k == name).getD name

/-- The attributes that belong to the links vocabulary. -/
def linkAttrs : List Text := ["actuate", "arcrole", "href", "role", "show", "title", "type"]

/-- An attribute on a foreign element: some names hold the namespace of the attribute. -/
def foreignAttr (name value : Text) : Attr :=
  if name = "xmlns" then ⟨.xmlnsItself, name, value⟩
  else if name = "xmlns:xlink" then ⟨.xmlns, "xlink", value⟩
  else if name = "xml:lang" then ⟨.xml, "lang", value⟩
  else if name = "xml:space" then ⟨.xml, "space", value⟩
  else match (List.isPrefixOf? "xlink:" name).filter linkAttrs.contains with
    | some n => ⟨.xlink, n, value⟩
    | none => ⟨.none, name, value⟩

/-- The spelling of the attributes of a vocabulary. -/
def attrSpelling : Space → Text → Text
  | .svg => spelling svgAttrs
  | .mathml => spelling mathAttrs
  | .html => id

/-- The element of a start tag in a vocabulary. -/
def foreignElement (space : Space) (name : Text) (t : Tag) : Element :=
  ⟨space, name, Attr.ordered (t.attrs.map fun (n, v) => foreignAttr (attrSpelling space n) v)⟩

/-- Inserts the element of a start tag in a vocabulary. -/
def insertForeign (b : Builder) (space : Space) (name : Text) (t : Tag) : Builder :=
  let b := b.openElement (foreignElement space name t)
  if t.selfClosing then b.pop else b

/-- The elements of formulas whose text is ordinary markup. -/
def isTextPoint (e : Element) : Bool :=
  e.space == .mathml && (["mi", "mo", "mn", "ms", "mtext"] : List Text).contains e.name

/-- The elements of drawings whose content is ordinary markup. -/
def isMarkupPoint (e : Element) : Bool :=
  e.space == .svg && (["foreignObject", "desc", "title"] : List Text).contains e.name

/-- Whether a token is one of foreign content. -/
def isForeign (b : Builder) (t : Token) : Bool :=
  match b.current? with
  | none => false
  | some o =>
    let e := o.elem
    match t with
    | .eof => false
    | .text _ | .null => e.space != .html && !isTextPoint e && !isMarkupPoint e
    | .startTag t =>
      e.space != .html && !isMarkupPoint e &&
        !(isTextPoint e && !t.isIn ["mglyph", "malignmark"]) &&
        !(e.space == .mathml && e.name == "annotation-xml" && t.isIn ["svg"])
    | .doctype _ | .comment _ | .endTag _ => e.space != .html

/-- Whether the innermost open element is a foreign one. -/
def inForeign (b : Builder) : Bool := b.current?.any fun o => o.elem.space != .html

/-- The start tags that end foreign content. -/
def breakoutTags : List Text := List.map String.toList [
  "b", "big", "blockquote", "body", "br", "center", "code", "dd", "div", "dl", "dt", "em", "embed",
  "h1", "h2", "h3", "h4", "h5", "h6", "head", "hr", "i", "img", "li", "listing", "menu", "meta",
  "nobr", "ol", "p", "pre", "ruby", "s", "small", "span", "strong", "strike", "sub", "sup", "table",
  "tt", "u", "ul", "var"]

/-- Whether a start tag ends foreign content. -/
def breaksOut (t : Tag) : Bool :=
  t.isIn breakoutTags ||
    (t.isIn ["font"] && t.attrs.any fun a => (["color", "face", "size"] : List Text).contains a.1)

/-- Closes the open elements of foreign content. -/
def leaveForeign (b : Builder) : Builder :=
  let stays := fun o : Open => o.elem.space == .html || isTextPoint o.elem || isMarkupPoint o.elem
  { b with stack := b.stack.dropWhile fun o => !stays o }

/-- A start tag in foreign content that does not end it. -/
def startForeign (b : Builder) (t : Tag) : Builder :=
  match b.current? with
  | none => b
  | some o =>
    let space := o.elem.space
    let name := if space = .svg then spelling svgNames t.name else t.name
    b.insertForeign space name t

/-- The open elements that an end tag in foreign content leaves open; `none` if the tag belongs to
    the ordinary markup outside. The innermost element counts as foreign in any case. -/
def outsideForeign? (name : Text) (first : Bool) : List Open → Option (List Open)
  | [] => none
  | o :: os =>
    if !first && o.elem.space == .html then none
    else if Text.eqIgnoringCase o.elem.name name then some os
    else outsideForeign? name false os

end AccessLint.Html.Builder
