import AccessLint.Html.Builder.Basic

namespace AccessLint.Html.Builder

/-!
# Formatting elements

Bold text and the like may be closed in another order than it was opened in, and goes on in the
next paragraph.

* `reopenFormatting` — reopens the formatting elements that were closed too early;
* `insertFormatting` — opens a formatting element;
* `endOther` — the end tag of an ordinary element;
* `endFormatting` — the end tag of a formatting element, which moves what stands inside it to
  where it belongs.
-/

/-- The elements that an end tag of another ordinary element does not close. -/
def specialNames : List Text := List.map String.toList [
  "address", "applet", "area", "article", "aside", "base", "basefont", "bgsound", "blockquote",
  "body", "br", "button", "caption", "center", "col", "colgroup", "dd", "details", "dir", "div",
  "dl", "dt", "embed", "fieldset", "figcaption", "figure", "footer", "form", "frame", "frameset",
  "h1", "h2", "h3", "h4", "h5", "h6", "head", "header", "hgroup", "hr", "html", "iframe", "img",
  "input", "isindex", "li", "link", "listing", "main", "marquee", "menu", "meta", "nav",
  "noembed", "noframes", "noscript", "object", "ol", "p", "param", "plaintext", "pre", "script",
  "section", "select", "source", "style", "summary", "table", "tbody", "td", "template",
  "textarea", "tfoot", "th", "thead", "title", "tr", "track", "ul", "wbr", "xmp"]

/-- Whether an element is a special one. Those of formulas and drawings never are. -/
def isSpecial (e : Element) : Bool :=
  e.space == .html && specialNames.contains e.name

/-- Whether an entry is the one of an element. -/
def isOf (id : NodeId) : Formatting → Bool
  | .marker => false
  | .element i _ => i == id

/-- The entries before the first marker. -/
def untilMarker : List Formatting → List (NodeId × Tag)
  | [] => []
  | .marker :: _ => []
  | .element i t :: fs => (i, t) :: untilMarker fs

/-- The entries after the first marker. -/
def afterMarker : List Formatting → List Formatting
  | [] => []
  | .marker :: fs => fs
  | .element _ _ :: fs => afterMarker fs

/-- Adds a marker. -/
def mark (b : Builder) : Builder := { b with formatting := .marker :: b.formatting }

/-- Forgets the formatting elements since the last marker, and the marker. -/
def clearToMarker (b : Builder) : Builder :=
  { b with formatting := afterMarker b.formatting }

/-- Forgets one formatting element. -/
def forget (b : Builder) (id : NodeId) : Builder :=
  { b with formatting := b.formatting.filter fun f => !isOf id f }

/-- Whether an element is open. -/
def isOpen (b : Builder) (id : NodeId) : Bool := b.stack.any fun o => o.id == id

/-- Whether an entry is a marker or stands for an open element. -/
def needsNoReopening (b : Builder) : Formatting → Bool
  | .marker => true
  | .element id _ => b.isOpen id

/-- Reopens formatting elements, the first of them first, before the entries that stay. -/
def reopen (b : Builder) : (tags : List Tag) → (kept : List Formatting) → Builder
  | [], kept => { b with formatting := kept }
  | t :: ts, kept =>
    (b.insertElement t).reopen ts (.element b.nextId t :: kept)

/-- The tag of an entry. -/
def tagOf? : Formatting → Option Tag
  | .marker => none
  | .element _ t => some t

/-- Reopens the formatting elements that were closed since the last marker or open one. -/
def reopenFormatting (b : Builder) : Builder :=
  let closed := b.formatting.takeWhile fun f => !b.needsNoReopening f
  let kept := b.formatting.drop closed.length
  b.reopen (closed.filterMap tagOf?).reverse kept

/-- Whether two lists of attributes are equal up to order; no name occurs twice in one of them. -/
def sameAttrs (xs ys : List (Text × Text)) : Bool :=
  xs.length == ys.length && xs.all fun x => ys.contains x

/-- Opens a formatting element. Of more than three equal ones in a row the earliest is forgotten. -/
def insertFormatting (b : Builder) (t : Tag) : Builder :=
  let equal := (untilMarker b.formatting).filter fun (_, u) =>
    u.name == t.name && sameAttrs u.attrs t.attrs
  let b := match equal.getLast? with
    | some (id, _) => if 3 ≤ equal.length then b.forget id else b
    | none => b
  { b.insertElement t with formatting := .element b.nextId t :: b.formatting }

/-- The open elements outside the innermost one of that name, unless a special one is in between. -/
def outsideOrdinary? (name : Text) : List Open → Option (List Open)
  | [] => none
  | o :: os =>
    if o.elem.isHtml name then some os
    else if isSpecial o.elem then none
    else outsideOrdinary? name os

/-- The end tag of an ordinary element. -/
def endOther (b : Builder) (name : Text) : Builder :=
  match outsideOrdinary? name b.stack with
  | none => b
  | some os => { b with stack := os }

/-! ### Ends in the wrong order -/

/-- The open elements around a formatting element: those inside it beyond the outermost block, the
    block, those between the block and the formatting element, and those outside. -/
structure Nesting where
  inner : List Open
  block : Open
  between : List Open
  outer : List Open

/-- The parts of the open elements around a formatting element with a block in it. -/
def Nesting.of? (inside outer : List Open) : Option Nesting :=
  let between := (inside.reverse.takeWhile fun o => !isSpecial o.elem).reverse
  match (inside.take (inside.length - between.length)).reverse with
  | [] => none
  | block :: inner => some ⟨inner.reverse, block, between, outer⟩

/-- Where the new formatting element goes in the list: in place of the old one, or after another
    element. -/
inductive Bookmark where
  | replace
  | after (id : NodeId)

/-- The builder while the elements between block and formatting element are copied: what was moved
    last, the copies that are open, and the bookmark. -/
structure Copying where
  builder : Builder
  last : NodeId
  copies : List Open
  bookmark : Bookmark

/-- Copies one of the elements between, and moves what was moved last into the copy. An element that
    is no formatting element, or too far from the block, is only closed. -/
def Copying.next (c : Copying) (o : Open) (count : Nat) : Copying :=
  let b := c.builder
  match b.formatting.find? (isOf o.id) with
  | some (.element _ tag) =>
    if 3 < count then { c with builder := b.forget o.id }
    else
      let (b, id) := b.create (elementOf tag)
      let swap := fun f => if isOf o.id f then Formatting.element id tag else f
      let b := { b with
        formatting := b.formatting.map swap
        tree := (b.tree.detach c.last).append id c.last }
      { builder := b
        last := id
        copies := c.copies ++ [⟨id, elementOf tag⟩]
        bookmark := if c.copies.isEmpty then .after id else c.bookmark }
  | _ => c

/-- Copies the elements between, from the block outwards. -/
def Copying.run (c : Copying) (count : Nat) : List Open → Copying
  | [] => c
  | o :: os => (c.next o count).run (count + 1) os

/-- Puts the new formatting element into the list at the bookmark and takes the old one out. -/
def placeFormatting (b : Builder) (bookmark : Bookmark) (old new : NodeId) (tag : Tag) : Builder :=
  let entry := Formatting.element new tag
  match bookmark with
  | .replace =>
    { b with formatting := b.formatting.map fun f => if isOf old f then entry else f }
  | .after id =>
    let insert := fun f => if isOf id f then [entry, f] else [f]
    ({ b with formatting := b.formatting.flatMap insert }).forget old

/-- Puts what was moved last into the innermost element around the formatting element. -/
def Copying.placeLast (c : Copying) (outer : List Open) : Builder :=
  let b := { c.builder with tree := c.builder.tree.detach c.last }
  match outer.head? with
  | some ancestor => b.put (b.placeIn ancestor) c.last
  | none => b

/-- Moves the content of a block into a new formatting element, the only one in the block then. -/
def fillBlock (b : Builder) (block : NodeId) (tag : Tag) : Builder × NodeId :=
  let (b, new) := b.create (elementOf tag)
  ({ b with tree := (b.tree.moveChildren block new).append block new }, new)

/-- Moves the content of a formatting element that ends inside a block: the block goes outside, and
    its content into a new formatting element. -/
def splitAround (b : Builder) (fmt : Open) (tag : Tag) (n : Nesting) : Builder :=
  let c := Copying.run ⟨b, n.block.id, [], .replace⟩ 1 n.between
  let (b, new) := (c.placeLast n.outer).fillBlock n.block.id tag
  let b := b.placeFormatting c.bookmark fmt.id new tag
  { b with stack := n.inner ++ [⟨new, elementOf tag⟩, n.block] ++ c.copies ++ n.outer }

/-- One round of an end tag of a formatting element, and whether another one may follow. -/
def endFormattingOnce (b : Builder) (name : Text) : Builder × Bool :=
  match (untilMarker b.formatting).find? fun (_, t) => t.name == name with
  | none => (b.endOther name, false)
  | some (id, tag) =>
    let inside := b.stack.takeWhile fun o => o.id != id
    match b.stack.drop inside.length with
    | [] => (b.forget id, false)
    | fmt :: outer =>
      if !inScope isScopeBoundary (fun o => o.id == id) b.stack then (b, false)
      else match Nesting.of? inside outer with
        | none => (({ b with stack := outer }).forget id, false)
        | some n => (b.splitAround fmt tag n, true)

/-- Up to `rounds` rounds of an end tag of a formatting element. -/
def endFormattingRounds (b : Builder) (name : Text) : (rounds : Nat) → Builder
  | 0 => b
  | rounds + 1 =>
    match b.endFormattingOnce name with
    | (b, true) => b.endFormattingRounds name rounds
    | (b, false) => b

/-- The end tag of a formatting element. Blocks inside it are moved out, eight times at most. -/
def endFormatting (b : Builder) (name : Text) : Builder :=
  match b.current? with
  | some o =>
    if o.elem.isHtml name && !b.formatting.any (isOf o.id) then b.pop
    else b.endFormattingRounds name 8
  | none => b

end AccessLint.Html.Builder
