import AccessLint.Html.Builder.Table
import AccessLint.Html.Doctype
import AccessLint.Html.TokenReader

namespace AccessLint.Html

/-!
# From source to tree

Every text is the source of a tree: misplaced and missing tags are mended by the rules of the modes.

* `Builder.step` — one look at a token, in the current mode or in foreign content;
* `Builder.accept` — a token, looked at as often as needed;
* `parse` — the tree of a source.
-/

namespace Builder

/-- The content of an element that holds text only. -/
def inText (b : Builder) : Token → Step
  | .text t => .done (b.insertText t)
  | .endTag _ => .done { b.pop with mode := b.returnMode, textMode := .markup }
  | .eof => b.pop.againIn b.returnMode
  | .startTag _ | .comment _ | .doctype _ | .null => .done b

/-- One look at a token in the current mode. -/
def stepInMode (b : Builder) (t : Token) : Step :=
  match b.mode with
  | .initial => b.inInitial t
  | .beforeHtml => b.inBeforeHtml t
  | .beforeHead => b.inBeforeHead t
  | .inHead => b.inHead t
  | .afterHead => b.inAfterHead t
  | .inBody => b.inBody t
  | .inText => b.inText t
  | .inTable => b.inTable t
  | .inTableText => b.inTableText t
  | .inCaption => b.inCaption t
  | .inColumnGroup => b.inColumnGroup t
  | .inTableBody => b.inTableBody t
  | .inRow => b.inRow t
  | .inCell => b.inCell t
  | .inSelect => b.inSelect t
  | .inSelectInTable => b.inSelectInTable t
  | .inTemplate => b.inTemplate t
  | .afterBody => b.inAfterBody t
  | .inFrameset => b.inFrameset t
  | .afterFrameset => b.inAfterFrameset t
  | .afterAfterBody => b.inAfterAfterBody t
  | .afterAfterFrameset => b.inAfterAfterFrameset t

/-- One look at a token of foreign content. -/
def stepInForeign (b : Builder) (token : Token) : Step :=
  match token with
  | .null => .done (b.insertText [Text.replacement])
  | .text t => .done ((if isSpace t then b else b.keepsBody).insertText t)
  | .comment t => .done (b.insertComment t)
  | .doctype _ | .eof => .done b
  | .startTag t =>
    if breaksOut t then b.leaveForeign.stepInMode token else .done (b.startForeign t)
  | .endTag t =>
    if t.isIn ["br", "p"] then b.leaveForeign.stepInMode token
    else match outsideForeign? t.name true b.stack with
      | some os => .done { b with stack := os }
      | none => b.stepInMode token

/-- One look at a token. -/
def step (b : Builder) (t : Token) : Step :=
  if b.isForeign t then b.stepInForeign t else b.stepInMode t

/-- Looks at a token until it is dealt with. The fuel bounds how often. -/
def process (b : Builder) (t : Token) : (fuel : Nat) → Builder
  | 0 => b
  | fuel + 1 =>
    match b.step t with
    | .done b => b
    | .again b => b.process t fuel

/-- Deals with a token. Each look but a few closes an element. -/
def settle (b : Builder) (t : Token) : Builder := b.process t (2 * b.stack.length + 16)

/-- Whether space and other text are told apart in a mode. -/
def tellsSpace (b : Builder) : Bool :=
  match b.mode with
  | .initial | .beforeHtml | .beforeHead | .inHead | .afterHead | .inColumnGroup | .afterBody
  | .inFrameset | .afterFrameset | .afterAfterBody | .afterAfterFrameset => true
  | _ => false

/-- Deals with text; where space is told apart, in runs of space and of other text. -/
def acceptText (b : Builder) : (fuel : Nat) → Text → Builder
  | 0, _ => b
  | _, [] => b
  | fuel + 1, c :: r =>
    if b.tellsSpace && !b.isForeign (.text (c :: r)) then
      let alike := fun d => Text.isAsciiSpace d == Text.isAsciiSpace c
      (b.settle (.text (c :: r.takeWhile alike))).acceptText fuel (r.dropWhile alike)
    else b.settle (.text (c :: r))

/-- The document type of a page; only the first thing on a page can be one. -/
def acceptDoctype (b : Builder) (d : Doctype) : Builder :=
  if b.mode = .initial then
    let (tree, id) := b.tree.create (.doctype d.name)
    { b with tree := tree.append Tree.root id, outdated := d.isOutdated, mode := .beforeHtml }
  else b

/-- Deals with a token of the source. -/
def accept (b : Builder) (token : Token) : Builder :=
  let skips := b.skipsNewline
  let b := { b with skipsNewline := false }
  match token with
  | .doctype d => b.acceptDoctype d
  | .text t =>
    let t := if skips && t.head? == some '\n' then t.drop 1 else t
    b.acceptText t.length t
  | t => b.settle t

/-- Deals with all tokens of a text. The fuel bounds their number. -/
def run (b : Builder) : (fuel : Nat) → Text → Builder
  | 0, _ => b
  | fuel + 1, t =>
    match nextTokens? b.textMode b.inForeign t with
    | none => b
    | some (tokens, rest) => (tokens.foldl accept b).run fuel rest

end Builder

/-- The tree of a source. -/
def parse (source : Text) : Tree :=
  let t := prepare source
  ((Builder.start.run (t.length + 1) t).accept .eof).tree

end AccessLint.Html
