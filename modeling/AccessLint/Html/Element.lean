import AccessLint.Text.Blank

namespace AccessLint.Html

/-!
# Elements

* `Space` — the three namespaces of elements;
* `AttrSpace` — the namespaces of attributes, in the order in which attributes are kept;
* `Element` — a namespace, a local name and attributes in order;
* `Element.attr?`, `Element.id?`, `Element.hasClass` — what rules ask of an element.
-/

/-- The namespace of an element. -/
inductive Space where
  | html
  | svg
  | mathml
deriving DecidableEq

/-- The namespace of an attribute: none, or one that its name was written with. A plain `xmlns`
    has a namespace too, but nothing in front of its name. -/
inductive AttrSpace where
  | none
  | xmlnsItself
  | xlink
  | xml
  | xmlns
deriving DecidableEq

/-- The place of a namespace in the order of attributes. -/
def AttrSpace.rank : AttrSpace → Nat
  | none => 0
  | xmlnsItself => 1
  | xlink => 2
  | xml => 3
  | xmlns => 4

/-- An attribute. -/
structure Attr where
  space : AttrSpace
  name : Text
  value : Text
deriving DecidableEq

/-- The order in which the attributes of an element are kept: by namespace, then by name. -/
def Attr.precedes (a b : Attr) : Bool :=
  a.space.rank < b.space.rank || (a.space == b.space && Text.precedes a.name b.name)

/-- Inserts an attribute at its place in an ordered list, unless the list has one of that name. -/
def Attr.insertMissing (a : Attr) : List Attr → List Attr
  | [] => [a]
  | b :: bs =>
    if a.space = b.space ∧ a.name = b.name then b :: bs
    else if a.precedes b then a :: b :: bs
    else b :: insertMissing a bs

/-- The ordered list of some attributes; of two with one name the first counts. -/
def Attr.ordered (attrs : List Attr) : List Attr :=
  attrs.foldl (fun kept a => a.insertMissing kept) []

/-- An element. -/
structure Element where
  space : Space
  name : Text
  attrs : List Attr
deriving DecidableEq

namespace Element

/-- Whether an element is the named one of the markup language's own namespace. -/
def isHtml (e : Element) (name : Text) : Bool := e.space == .html && e.name == name

/-- Whether an element is one of the named ones of the markup language's own namespace. -/
def isHtmlIn (e : Element) (names : List Text) : Bool := e.space == .html && names.contains e.name

/-- The value of an attribute without a namespace. -/
def attr? (e : Element) (name : Text) : Option Text :=
  (e.attrs.find? fun a => a.space == .none && a.name == name).map Attr.value

/-- The value of an attribute, unless it is the empty text. -/
def nonEmptyAttr? (e : Element) (name : Text) : Option Text :=
  (e.attr? name).filter fun v => !v.isEmpty

/-- The identifier of an element: the first attribute whose local name is `id`. -/
def id? (e : Element) : Option Text :=
  (e.attrs.find? fun a : Attr => a.name == ("id" : Text)).map Attr.value

/-- Whether an element has a class. -/
def hasClass (e : Element) (name : Text) : Bool :=
  match e.attr? "class" with
  | some v => (Text.words Text.isAsciiSpace v).contains name
  | none => false

/-- Whether an attribute has a value, regardless of ASCII case on elements of the markup
    language's own namespace. -/
def attrIs (e : Element) (name value : Text) : Bool :=
  match e.attr? name with
  | some v => if e.space == .html then Text.eqIgnoringCase v value else v == value
  | none => false

end Element

end AccessLint.Html
