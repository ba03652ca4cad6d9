import AccessLint.Html.Reference
import AccessLint.Html.Token
import AccessLint.Text.Blank

namespace AccessLint.Html

/-!
# Reading tags, comments and document types

Each function reads one construct after its opening characters and gives what follows it. A tag
that the end of the source cuts off is no tag at all, so its reader gives `none`.

* `readTag?` — a tag after `<` or `</`;
* `readComment`, `readBogusComment` — a comment;
* `readDoctype` — a document type.
-/

/-- A text with replacement characters for null characters. -/
def replaceNulls (t : Text) : Text := t.map fun c => if c.toNat = 0 then Text.replacement else c

/-- Whether a character separates the parts of a tag. -/
def isTagSpace (c : Char) : Bool := c == '\t' || c == '\n' || c == '\x0c' || c == ' '

/-- Skips the space between the parts of a tag. -/
def skipTagSpace (t : Text) : Text := t.dropWhile isTagSpace

/-- A name as it is kept: in lower case, without null characters. -/
def keptName (t : Text) : Text := Text.lower (replaceNulls t)

/-- A value as it is kept: with its references replaced, without null characters. -/
def keptValue (t : Text) : Text := replaceNulls (decodeReferences true t)

/-- Splits a text before the first character that satisfies `stop`. -/
def splitBefore (stop : Char → Bool) (t : Text) : Text × Text :=
  (t.takeWhile (!stop ·), t.dropWhile (!stop ·))

/-- A value between quotes after the first one. -/
def readQuoted? (quote : Char) (t : Text) : Option (Text × Text) :=
  match splitBefore (· == quote) t with
  | (v, _ :: rest) => some (keptValue v, rest)
  | (_, []) => none

/-- The value after an equals sign. -/
def readValue? (t : Text) : Option (Text × Text) :=
  match skipTagSpace t with
  | [] => none
  | '"' :: r => readQuoted? '"' r
  | '\'' :: r => readQuoted? '\'' r
  | '>' :: r => some ([], '>' :: r)
  | r =>
    let (v, rest) := splitBefore (fun c => isTagSpace c || c == '>') r
    some (keptValue v, rest)

/-- An attribute that starts with the character `c`, which may be any one. -/
def readAttr? (c : Char) (t : Text) : Option ((Text × Text) × Text) :=
  let (more, r) := splitBefore (fun d => isTagSpace d || d == '/' || d == '>' || d == '=') t
  let name := keptName (c :: more)
  match skipTagSpace r with
  | '=' :: r => (readValue? r).map fun (v, rest) => ((name, v), rest)
  | r => some ((name, []), r)

/-- The attributes of a tag in the order written, whether it ends in `/>`, and what follows. -/
def readAttrs? : (fuel : Nat) → Text → Option (List (Text × Text) × Bool × Text)
  | 0, _ => none
  | fuel + 1, t =>
    match skipTagSpace t with
    | [] => none
    | '>' :: rest => some ([], false, rest)
    | '/' :: '>' :: rest => some ([], true, rest)
    | '/' :: r => readAttrs? fuel r
    | c :: r =>
      match readAttr? c r with
      | none => none
      | some (a, r) => (readAttrs? fuel r).map fun (as, rest) => (a :: as, rest)

/-- Keeps the first attribute of each name. -/
def firstOfEachName (attrs : List (Text × Text)) : List (Text × Text) :=
  attrs.foldl (fun kept a => if kept.any fun k => k.1 == a.1 then kept else kept ++ [a]) []

/-- A tag after `<` or `</`; its name starts with a letter. -/
def readTag? (t : Text) : Option (Tag × Text) :=
  let (name, r) := splitBefore (fun c => isTagSpace c || c == '/' || c == '>') t
  (readAttrs? (r.length + 1) r).map fun (attrs, selfClosing, rest) =>
    (⟨keptName name, firstOfEachName attrs, selfClosing⟩, rest)

/-! ### Comments -/

/-- A comment that the end of the source cuts off loses what could have begun its end. -/
def cutComment (t : Text) : Text :=
  match List.isSuffixOf? "--!" t, List.isSuffixOf? "--" t, List.isSuffixOf? "-" t with
  | some s, _, _ => s
  | _, some s, _ => s
  | _, _, some s => s
  | none, none, none => t

/-- The text of a comment up to its end, and what follows. -/
def splitComment : Text → Option (Text × Text)
  | [] => none
  | '-' :: '-' :: '>' :: r => some ([], r)
  | '-' :: '-' :: '!' :: '>' :: r => some ([], r)
  | c :: r => (splitComment r).map fun (t, rest) => (c :: t, rest)

/-- A comment after `<!--`. -/
def readComment (t : Text) : Text × Text :=
  match t with
  | '>' :: r => ([], r)
  | '-' :: '>' :: r => ([], r)
  | _ =>
    match splitComment t with
    | some (c, rest) => (replaceNulls c, rest)
    | none => (replaceNulls (cutComment t), [])

/-- A comment that runs to the next `>`. -/
def readBogusComment (t : Text) : Text × Text :=
  let (c, rest) := splitBefore (· == '>') t
  (replaceNulls c, rest.drop 1)

/-! ### Document types -/

/-- The rest of a document type that is not understood any further. -/
def skipDoctype (d : Doctype) (t : Text) : Doctype × Text :=
  (d, (t.dropWhile (· != '>')).drop 1)

/-- The end of a document type after its system identifier. -/
def readDoctypeEnd (d : Doctype) (t : Text) : Doctype × Text :=
  match skipTagSpace t with
  | [] => ({ d with malformed := true }, [])
  | r => skipDoctype d r

/-- An identifier after its first quote, whether it is complete, and what follows. -/
def readIdentifier (quote : Char) (t : Text) : Text × Bool × Text :=
  match splitBefore (fun c => c == quote || c == '>') t with
  | (s, []) => (replaceNulls s, false, [])
  | (s, c :: r) => (replaceNulls s, c == quote, r)

/-- The system identifier, if there is one. If `required`, a document type without it is
    malformed. -/
def readSystemId (required : Bool) (d : Doctype) (t : Text) : Doctype × Text :=
  match skipTagSpace t with
  | [] => ({ d with malformed := true }, [])
  | '>' :: r => ({ d with malformed := d.malformed || required }, r)
  | c :: r =>
    if c = '"' || c = '\'' then
      let (s, complete, r) := readIdentifier c r
      if complete then readDoctypeEnd { d with systemId := some s } r
      else ({ d with systemId := some s, malformed := true }, r)
    else skipDoctype { d with malformed := true } (c :: r)

/-- The public identifier and, after it, the system identifier. -/
def readPublicId (d : Doctype) (t : Text) : Doctype × Text :=
  match skipTagSpace t with
  | [] => ({ d with malformed := true }, [])
  | '>' :: r => ({ d with malformed := true }, r)
  | c :: r =>
    if c = '"' || c = '\'' then
      let (s, complete, r) := readIdentifier c r
      if complete then readSystemId false { d with publicId := some s } r
      else ({ d with publicId := some s, malformed := true }, r)
    else skipDoctype { d with malformed := true } (c :: r)

/-- A document type after its keyword. -/
def readDoctype (t : Text) : Doctype × Text :=
  match skipTagSpace t with
  | [] => (⟨[], none, none, true⟩, [])
  | '>' :: r => (⟨[], none, none, true⟩, r)
  | c :: r =>
    let (more, r) := splitBefore (fun d => isTagSpace d || d == '>') r
    let d : Doctype := ⟨keptName (c :: more), none, none, false⟩
    match skipTagSpace r with
    | [] => ({ d with malformed := true }, [])
    | '>' :: r => (d, r)
    | r =>
      let keyword := Text.lower (r.take 6)
      if keyword = "public" then readPublicId d (r.drop 6)
      else if keyword = "system" then readSystemId true d (r.drop 6)
      else skipDoctype { d with malformed := true } r

end AccessLint.Html
