import AccessLint.Html.Markup
import AccessLint.Html.Parse
import AccessLint.Source.Locate

namespace AccessLint

/-!
# Documents

A document is a source with its tree. Its elements are located one name after the other, in any
order of the names (`locateElements`). Rules see a document through the following functions.

* `Document.select` — the elements that satisfy a condition, in the order of their creation;
* `Document.elements` — the elements of the document in tree order;
* `Document.offsetOf?`, `Document.lineOf` — where an element stands in the source;
* `Document.textOf`, `Document.hasBlankText` — the text of an element;
* `Document.hasAncestor`, `Document.selectWithin` — what is above and below an element;
* `Document.hasId` — whether an element has an identifier.
-/

open Html (Element NodeId Tree)

/-- An element and its place in the tree. -/
structure ElementAt where
  id : NodeId
  elem : Element
deriving DecidableEq

/-- The different names of the elements of a tree. -/
def elementNames (tree : Tree) : List Text := Source.namesOf (fun e => e.2.name) tree.elements

/-- The offsets of the elements of a tree in a source, located one name after the other. -/
def locateElements (source : Text) (tree : Tree) (names : List Text) : List (NodeId × Nat) :=
  (Source.locateAll source (fun e => e.2.name) (fun e => tree.markup e.1) tree.elements names).map
    fun (e, offset) => (e.1, offset)

/-- A source with its tree and the offsets of the elements, whose names were gone through in any
    order. -/
structure Document where
  source : Text
  tree : Tree
  offsets : List (NodeId × Nat)
  located : ∃ names, names.Perm (elementNames tree) ∧ offsets = locateElements source tree names

namespace Document

/-- The document of a source and a tree whose names are gone through in some order. -/
def inOrder (source : Text) (tree : Tree) (names : List Text)
    (h : names.Perm (elementNames tree)) : Document :=
  ⟨source, tree, locateElements source tree names, names, h, rfl⟩

/-- The document of a source and a tree, in the order in which the names occur first. -/
def ofTree (source : Text) (tree : Tree) : Document :=
  inOrder source tree (elementNames tree) (.refl _)

/-- The document of a source. -/
def parse (source : Text) : Document := ofTree source (Html.parse source)

/-- The elements that hang below another node and satisfy a condition, in the order of their
    creation. -/
def select (d : Document) (p : Element → Bool) : List ElementAt :=
  (d.tree.created.map fun (id, e) => ⟨id, e⟩).filter fun e => p e.elem

/-- The elements of the document in tree order. -/
def elements (d : Document) : List ElementAt := d.tree.elements.map fun (id, e) => ⟨id, e⟩

/-- The elements below an element that satisfy a condition, in tree order. -/
def selectWithin (d : Document) (e : ElementAt) (p : Element → Bool) : List ElementAt :=
  ((d.tree.elementsAmong (d.tree.descendants e.id)).map fun (id, e) => ⟨id, e⟩).filter
    fun e => p e.elem

/-- Whether an element of the document has this identifier. -/
def hasId (d : Document) (id : Text) : Bool := d.elements.any fun e => e.elem.id? == some id

/-- The offset of an element's start tag, if it was found in the source. -/
def offsetOf? (d : Document) (e : ElementAt) : Option Nat := d.offsets.lookup e.id

/-- The line of an element's start tag; an element that was not found is on the first line. -/
def lineOf (d : Document) (e : ElementAt) : Nat :=
  Source.lineAt d.source ((d.offsetOf? e).getD 0)

/-- The texts inside an element, in tree order. -/
def texts (d : Document) (e : ElementAt) : List Text := d.tree.texts e.id

/-- The text of an element. -/
def textOf (d : Document) (e : ElementAt) : Text := (d.texts e).flatten

/-- Whether all texts inside an element are blank. -/
def hasBlankText (d : Document) (e : ElementAt) : Bool := (d.texts e).all Text.isBlank

/-- Whether an element is inside one of the named ones. -/
def hasAncestor (d : Document) (e : ElementAt) (names : List Text) : Bool :=
  (d.tree.elementsAmong (d.tree.ancestors e.id)).any fun (_, a) => names.contains a.name

end Document

end AccessLint
