import AccessLint.Html.TagReader

namespace AccessLint.Html

/-!
# The next token of a source

* `prepare` — a source as it is read: without a byte order mark, with line feeds only;
* `splitAtEndTag`, `splitScript` — where the text of an element ends that holds no markup;
* `nextTokens?` — the tokens at the start of a text and what follows them.
-/

/-- Replaces each carriage return, with the line feed after it, by a line feed. -/
def normalizeLines : Text → Text
  | [] => []
  | '\r' :: '\n' :: r => '\n' :: normalizeLines r
  | c :: r => (if c = '\r' then '\n' else c) :: normalizeLines r

/-- A text without the byte order mark at its start. -/
def withoutMark : Text → Text
  | '\uFEFF' :: r => r
  | t => t

/-- A source as it is read. -/
def prepare (source : Text) : Text := normalizeLines (withoutMark source)

/-- Whether the text after `</` is the name of an end tag and the character that ends it. -/
def isEndTagOf (name t : Text) : Bool :=
  Text.lower (t.take name.length) == name &&
    (t.drop name.length).head?.any fun c => isTagSpace c || c == '/' || c == '>'

/-- Splits a text before the first end tag of that name. -/
def splitAtEndTag (name : Text) : Text → Text × Text
  | [] => ([], [])
  | '<' :: '/' :: r =>
    if isEndTagOf name r then ([], '<' :: '/' :: r)
    else
      let (t, rest) := splitAtEndTag name ('/' :: r)
      ('<' :: t, rest)
  | c :: r =>
    let (t, rest) := splitAtEndTag name r
    (c :: t, rest)

/-- How deep a script is in a comment: not at all, in one, or in a script inside one. The number
    counts the hyphens just before, up to two. -/
inductive ScriptDepth where
  | plain
  | escaped (hyphens : Nat)
  | doublyEscaped (hyphens : Nat)

/-- The depth after a character other than `<`. -/
def ScriptDepth.after (d : ScriptDepth) (c : Char) : ScriptDepth :=
  match d with
  | .plain => .plain
  | .escaped n =>
    if c = '-' then .escaped (min 2 (n + 1))
    else if c = '>' && n = 2 then .plain
    else .escaped 0
  | .doublyEscaped n =>
    if c = '-' then .doublyEscaped (min 2 (n + 1))
    else if c = '>' && n = 2 then .plain
    else .doublyEscaped 0

/-- Whether an end tag of a script follows a `<`. -/
def endsScript (r : Text) : Bool := List.isPrefixOf "/" r && isEndTagOf "script" (r.drop 1)

/-- The depth after `<`, given what follows it, or `none` if the script ends there. -/
def ScriptDepth.afterLess? (d : ScriptDepth) (r : Text) : Option ScriptDepth :=
  match d with
  | .plain =>
    if endsScript r then none
    else some (if List.isPrefixOf "!--" r then .escaped 0 else .plain)
  | .escaped _ =>
    if endsScript r then none
    else some (if isEndTagOf "script" r then .doublyEscaped 0 else .escaped 0)
  | .doublyEscaped _ => some (if endsScript r then .escaped 0 else .doublyEscaped 0)

/-- Splits a text before the end tag that ends its script. -/
def splitScript : ScriptDepth → Text → Text × Text
  | _, [] => ([], [])
  | d, c :: r =>
    match if c = '<' then d.afterLess? r else some (d.after c) with
    | none => ([], c :: r)
    | some d =>
      let (t, rest) := splitScript d r
      (c :: t, rest)

/-- A text token, unless the text is empty. -/
def textTokens (t : Text) : List Token := if t.isEmpty then [] else [.text t]

/-- A run of text after a token without text if the run starts with a flaw: a line feed that it
    stands for then no longer comes first. -/
def afterFlaw (run : Text) (ts : List Token) : List Token :=
  if startsUnterminated run then .text [] :: ts else ts

/-- The tokens of a text in which null characters count: texts and nulls in turn. -/
def textAndNulls : Text → List Token
  | [] => []
  | c :: r =>
    if c.toNat = 0 then .null :: textAndNulls r
    else match textAndNulls r with
      | .text t :: ts => .text (c :: t) :: ts
      | ts => .text [c] :: ts

/-- The tokens after `<!`. -/
def readDeclaration (inForeign : Bool) (t : Text) : List Token × Text :=
  match t with
  | '-' :: '-' :: r =>
    let (c, rest) := readComment r
    ([.comment c], rest)
  | _ =>
    if Text.lower (t.take 7) = "doctype" then
      let (d, rest) := readDoctype (t.drop 7)
      ([.doctype d], rest)
    else
      match if inForeign then List.isPrefixOf? "[CDATA[" t else none with
      | some r =>
        match Text.findFirst? "]]>" r with
        | some inside => (textAndNulls inside, r.drop (inside.length + 3))
        | none => (textAndNulls r, [])
      | none =>
        let (c, rest) := readBogusComment t
        ([.comment c], rest)

/-- The tokens after `<` in markup; `none` if a tag is cut off. An end tag without a name is an empty
    text. -/
def readMarkup? (inForeign : Bool) (t : Text) : Option (List Token × Text) :=
  match t with
  | [] => some ([.text ['<']], [])
  | '!' :: r => some (readDeclaration inForeign r)
  | '?' :: _ =>
    let (c, rest) := readBogusComment t
    some ([.comment c], rest)
  | '/' :: r =>
    match r with
    | [] => some ([.text ['<', '/']], [])
    | '>' :: rest => some ([.text []], rest)
    | c :: _ =>
      if c.isAlpha then (readTag? r).map fun (tag, rest) => ([.endTag tag], rest)
      else
        let (c, rest) := readBogusComment r
        some ([.comment c], rest)
  | c :: _ =>
    if c.isAlpha then (readTag? t).map fun (tag, rest) => ([.startTag tag], rest)
    else some ([.text ['<']], t)

/-- The tokens at the start of a text that is read in some mode, and what follows them; `none` at
    the end. In foreign content, markup may hold sections of plain text. Reading starts anew after a
    script, so a byte order mark there is left out too. -/
def nextTokens? (mode : TextMode) (inForeign : Bool) (t : Text) : Option (List Token × Text) :=
  if t.isEmpty then none
  else match mode with
    | .markup =>
      match t with
      | '<' :: r => readMarkup? inForeign r
      | _ =>
        let (run, rest) := splitBefore (· == '<') t
        some (afterFlaw run (textAndNulls (decodeReferences false run)), rest)
    | .escapable name =>
      match splitAtEndTag name t with
      | ([], rest) => (readTag? (rest.drop 2)).map fun (tag, rest) => ([.endTag tag], rest)
      | (run, rest) =>
        some (afterFlaw run (textTokens (replaceNulls (decodeReferences false run))), rest)
    | .raw name =>
      match splitAtEndTag name t with
      | ([], rest) => (readTag? (rest.drop 2)).map fun (tag, rest) => ([.endTag tag], rest)
      | (run, rest) => some (textTokens (replaceNulls run), rest)
    | .script =>
      match splitScript .plain t with
      | ([], rest) =>
        (readTag? (rest.drop 2)).map fun (tag, rest) => ([.endTag tag], withoutMark rest)
      | (run, rest) => some (textTokens (replaceNulls run), rest)
    | .plain => some (textTokens (replaceNulls t), [])

end AccessLint.Html
