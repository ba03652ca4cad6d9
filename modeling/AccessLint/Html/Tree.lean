import AccessLint.Html.Element

namespace AccessLint.Html

/-!
# The tree of a document

Nodes are kept in the order of their creation, and refer to each other by their place in it. A node
can be created before it is put into the tree, moved, and removed from the tree again; it keeps its
place all the while.

* `Node`, `Tree` — nodes, and the list of all nodes ever created;
* `Tree.append`, `Tree.insertBefore`, `Tree.detach`, `Tree.moveChildren` — changes of the tree;
* `Tree.descendants` — the descendants of a node in tree order;
* `Tree.ancestors` — the nodes above a node, nearest first.
-/

/-- The place of a node in the order of creation. -/
abbrev NodeId := Nat

/-- What a node is. The contents of a template hang below a fragment, its only child. -/
inductive Content where
  | document
  | fragment
  | doctype (name : Text)
  | comment (t : Text)
  | text (t : Text)
  | element (e : Element)

/-- A node with its links. -/
structure Node where
  content : Content
  parent : Option NodeId
  children : List NodeId

instance : Inhabited Node := ⟨.document, none, []⟩

/-- All nodes ever created; the document is the first. -/
structure Tree where
  nodes : Array Node

namespace Tree

/-- The place of the document. -/
def root : NodeId := 0

/-- A tree of a document without content. -/
def empty : Tree := ⟨#[⟨.document, none, []⟩]⟩

/-- The node at a place. -/
def node (t : Tree) (i : NodeId) : Node := t.nodes[i]?.getD default

/-- The element at a place, if there is one. -/
def element? (t : Tree) (i : NodeId) : Option Element :=
  match (t.node i).content with
  | .element e => some e
  | _ => none

/-- Changes the node at a place. -/
def modify (t : Tree) (i : NodeId) (f : Node → Node) : Tree := ⟨t.nodes.modify i f⟩

/-- Creates a node outside the tree. -/
def create (t : Tree) (c : Content) : Tree × NodeId := (⟨t.nodes.push ⟨c, none, []⟩⟩, t.nodes.size)

/-- Takes a node, with all below it, out of the tree. -/
def detach (t : Tree) (i : NodeId) : Tree :=
  match (t.node i).parent with
  | none => t
  | some p =>
    (t.modify p fun n => { n with children := n.children.filter (· != i) }).modify i
      fun n => { n with parent := none }

/-- Moves a node to the end of another one's children. -/
def append (t : Tree) (parent child : NodeId) : Tree :=
  ((t.detach child).modify parent fun n => { n with children := n.children ++ [child] }).modify
    child fun n => { n with parent := some parent }

/-- Moves a node to just before another one. -/
def insertBefore (t : Tree) (sibling child : NodeId) : Tree :=
  let t := t.detach child
  match (t.node sibling).parent with
  | none => t
  | some p =>
    let place := fun i => if i = sibling then [child, sibling] else [i]
    (t.modify p fun n => { n with children := n.children.flatMap place }).modify child
      fun n => { n with parent := some p }

/-- Moves all children of a node to the end of another one's. -/
def moveChildren (t : Tree) (source target : NodeId) : Tree :=
  let children := (t.node source).children
  let t := t.modify source fun n => { n with children := [] }
  let t := t.modify target fun n => { n with children := n.children ++ children }
  children.foldl (fun t i => t.modify i fun n => { n with parent := some target }) t

/-- Adds text to a node if it is a text; says whether it was one. -/
def extendText? (t : Tree) (i : Option NodeId) (more : Text) : Option Tree :=
  match i with
  | none => none
  | some i =>
    match (t.node i).content with
    | .text old => some (t.modify i fun n => { n with content := .text (old ++ more) })
    | _ => none

/-- Adds text at the end of a node's children, to the text there if there is one. -/
def appendText (t : Tree) (parent : NodeId) (more : Text) : Tree :=
  match t.extendText? (t.node parent).children.getLast? more with
  | some t => t
  | none =>
    let (t, i) := t.create (.text more)
    t.append parent i

/-- The child just before another one. -/
def previousSibling? (t : Tree) (i : NodeId) : Option NodeId :=
  match (t.node i).parent with
  | none => none
  | some p => ((t.node p).children.takeWhile (· != i)).getLast?

/-- Adds text just before a node, to the text there if there is one. -/
def insertTextBefore (t : Tree) (sibling : NodeId) (more : Text) : Tree :=
  match t.extendText? (t.previousSibling? sibling) more with
  | some t => t
  | none =>
    let (t, i) := t.create (.text more)
    t.insertBefore sibling i

/-- Gives an element the attributes that it does not have yet. -/
def addMissingAttrs (t : Tree) (i : NodeId) (attrs : List Attr) : Tree :=
  t.modify i fun n =>
    match n.content with
    | .element e =>
      { n with
        content := .element { e with attrs := attrs.foldl (fun kept a => a.insertMissing kept) e.attrs } }
    | _ => n

/-! ### Walks -/

/-- The nodes from some places down, in tree order. The fuel bounds the depth. -/
def preorderFrom (t : Tree) : (fuel : Nat) → List NodeId → List NodeId
  | 0, _ => []
  | fuel + 1, is => is.flatMap fun i => i :: t.preorderFrom fuel (t.node i).children

/-- The nodes below a node, in tree order. No path is longer than the number of nodes. -/
def descendants (t : Tree) (i : NodeId) : List NodeId :=
  t.preorderFrom t.nodes.size (t.node i).children

/-- The nodes above a node, nearest first. -/
def ancestorsFrom (t : Tree) : (fuel : Nat) → NodeId → List NodeId
  | 0, _ => []
  | fuel + 1, i =>
    match (t.node i).parent with
    | none => []
    | some p => p :: t.ancestorsFrom fuel p

/-- The nodes above a node, nearest first. -/
def ancestors (t : Tree) (i : NodeId) : List NodeId := t.ancestorsFrom t.nodes.size i

/-- The elements among some nodes, with their places. -/
def elementsAmong (t : Tree) (is : List NodeId) : List (NodeId × Element) :=
  is.filterMap fun i => (t.element? i).map fun e => (i, e)

/-- The elements of the document in tree order. -/
def elements (t : Tree) : List (NodeId × Element) := t.elementsAmong (t.descendants root)

/-- The elements that hang below another node, in the order of their creation. An element whose
    ancestor was taken out of the document is among them. -/
def created (t : Tree) : List (NodeId × Element) :=
  t.elementsAmong ((List.range t.nodes.size).filter fun i => (t.node i).parent.isSome)

/-- The texts below a node, in tree order. -/
def texts (t : Tree) (i : NodeId) : List Text :=
  (t.descendants i).filterMap fun j =>
    match (t.node j).content with
    | .text s => some s
    | _ => none

end Tree

end AccessLint.Html
