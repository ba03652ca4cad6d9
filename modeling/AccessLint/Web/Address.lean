import AccessLint.Web.Host

namespace AccessLint.Web

/-!
# Addresses of pages

* `Address` — an address in its normal form;
* `Address.toText` — its text, `Address.target` — what a request names;
* `Address.ofText?` — reads the address of a page.
-/

/-- The schemes with rules of their own. -/
inductive Scheme where
  | http
  | https
  | ws
  | wss
  | ftp
  | file
deriving DecidableEq

namespace Scheme

/-- The name of a scheme. -/
def name : Scheme → Text
  | http => "http"
  | https => "https"
  | ws => "ws"
  | wss => "wss"
  | ftp => "ftp"
  | file => "file"

/-- The scheme of a name in lower case. -/
def ofName? (t : Text) : Option Scheme :=
  [http, https, ws, wss, ftp, file].find? fun s => s.name == t

/-- The port that is used if none is given. -/
def usualPort : Scheme → Option Nat
  | http | ws => some 80
  | https | wss => some 443
  | ftp => some 21
  | file => none

/-- Whether pages can be requested. -/
def isWeb (s : Scheme) : Bool := s = http || s = https

end Scheme

/-- An address. The path starts with a slash; `login` is the name and the password before an `@`. -/
structure Address where
  scheme : Scheme
  login : Text
  host : Text
  port : Option Nat
  path : Text
  query : Option Text
  fragment : Option Text
deriving DecidableEq

/-! ### Characters -/

/-- Whether a character stays in a fragment. -/
def isFragmentChar (c : Char) : Bool :=
  0x20 < c.toNat && c.toNat < 0x7F && !("\"<>\x60".toList.contains c)

/-- Whether a character stays in a path. -/
def isPathChar (c : Char) : Bool :=
  isFragmentChar c && !("#?\x7b\x7d".toList.contains c)

/-- Whether a character stays in a query. -/
def isQueryChar (c : Char) : Bool :=
  0x20 < c.toNat && c.toNat < 0x7F && !("\"#<>".toList.contains c)

/-- Whether a character stays in a name or a password. -/
def isLoginChar (c : Char) : Bool := isPathChar c && !("/:;=@[\\]^|".toList.contains c)

/-- Whether a character parts the segments of a path. -/
def isSlash (c : Char) : Bool := c == '/' || c == '\\'

/-! ### Paths -/

/-- The names for one dot. -/
def isDot (segment : Text) : Bool := ([".", "%2e"] : List Text).contains (Text.lower segment)

/-- The names for two dots. -/
def isDoubleDot (segment : Text) : Bool :=
  (["..", ".%2e", "%2e.", "%2e%2e"] : List Text).contains (Text.lower segment)

/-- The segments of a path without dots; `above` holds those before, the last one first. -/
def withoutDots (above : List Text) : List Text → List Text
  | [] => above.reverse
  | s :: rest =>
    let isLast := rest.isEmpty
    if isDoubleDot s then
      withoutDots (if isLast then [] :: above.drop 1 else above.drop 1) rest
    else if isDot s then withoutDots (if isLast then [] :: above else above) rest
    else withoutDots (percentEncode isPathChar s :: above) rest

/-- The path of some segments. -/
def joinPath (segments : List Text) : Text := segments.flatMap ('/' :: ·)

/-- The normal form of a path, of which the slash at the start may be missing. -/
def pathOf (isParting : Char → Bool) (t : Text) : Text :=
  let t := match t with
    | c :: r => if isParting c then r else c :: r
    | [] => []
  joinPath (withoutDots [] (List.splitOnP isParting t))

/-- The path of segments that follow the directory of another path. -/
def pathBelow (directory : Text) (t : Text) : Text :=
  let above := (List.splitOnP (· == '/') (directory.drop 1)).dropLast
  joinPath (withoutDots above.reverse (List.splitOnP isSlash t))

/-! ### Authorities -/

/-- The port of some digits; the usual one is left out. -/
def portOf? (usual : Option Nat) (t : Text) : Option (Option Nat) :=
  if !t.all Char.isDigit then none
  else if t.isEmpty then some none
  else
    let n := Text.natOfDigits t
    if 65535 < n then none
    else some (if usual = some n then none else some n)

/-- The normal form of a name and a password. -/
def loginOf (t : Text) : Text :=
  let (name, password) := Text.cut (· == ':') t
  let encoded := percentEncode isLoginChar
  encoded name ++ match password with
    | some (c :: cs) => ':' :: encoded (c :: cs)
    | _ => []

/-- What stands before the last `@`, and what follows it. -/
def cutLogin (t : Text) : Text × Text :=
  let after := (t.reverse.takeWhile (· != '@')).reverse
  (t.take (t.length - after.length - 1), after)

/-- The host and the port of a text, given how a host is read. -/
def hostAndPort? (readHost? : Text → Option Text) (usual : Option Nat) (t : Text) :
    Option (Text × Option Nat) :=
  let host := match t with
    | '[' :: _ => t.takeWhile (· != ']') ++ ((t.dropWhile (· != ']')).takeWhile (· != ':'))
    | _ => t.takeWhile (· != ':')
  do
    let port := (t.drop host.length).drop 1
    return (← readHost? host, ← portOf? usual port)

/-- The text of a host with what belongs to it. -/
def authorityText (login host : Text) (port : Option Nat) : Text :=
  (if login.isEmpty then [] else login ++ ['@']) ++ host ++
    match port with
    | some n => ':' :: Text.ofNat n
    | none => []

/-- The text of a query after its mark. -/
def queryText : Option Text → Text
  | some q => '?' :: q
  | none => []

namespace Address

/-- The text of the host with what belongs to it. -/
def authority (a : Address) : Text := authorityText a.login a.host a.port

/-- The scheme, the host and the port. -/
def origin (a : Address) : Text := a.scheme.name ++ "://" ++ authorityText [] a.host a.port

/-- The path and the query, which a request names. -/
def target (a : Address) : Text := a.path ++ queryText a.query

/-- The text of an address. -/
def toText (a : Address) : Text :=
  a.scheme.name ++ "://" ++ a.authority ++ a.target ++ match a.fragment with
    | some f => '#' :: f
    | none => []

/-- A query in the normal form of an address. In these schemes a single quote is encoded too. -/
def encodeQuery (q : Text) : Text := percentEncode (fun c => isQueryChar c && c != '\'') q

/-- Replaces what follows the host by the path, the query and the fragment of a text, given how a path
    is read. -/
def withRest (a : Address) (readPath : Text → Text) (t : Text) : Address :=
  let (t, fragment) := Text.cut (· == '#') t
  let (path, query) := Text.cut (· == '?') t
  { a with
    path := readPath path
    query := query.map encodeQuery
    fragment := fragment.map (percentEncode isFragmentChar) }

/-- The address in a scheme whose authority starts a text. A file has a host alone. -/
def ofAuthority? (s : Scheme) (t : Text) : Option Address :=
  let authority := t.takeWhile fun c => !isSlash c && c != '?' && c != '#'
  let rest := t.drop authority.length
  if s = .file then do
    let host ← hostOf? authority
    return Address.withRest ⟨s, [], host, none, [], none, none⟩ (pathOf isSlash) rest
  else do
    let (login, t) := cutLogin authority
    let (host, port) ← hostAndPort? hostOf? s.usualPort t
    return Address.withRest ⟨s, loginOf login, host, port, [], none, none⟩ (pathOf isSlash) rest

end Address

/-! ### Texts of addresses -/

/-- A text without the blanks around it and without line ends and tabs. -/
def strip (t : Text) : Text :=
  let isJunk := fun c : Char => c.toNat ≤ 0x20
  let t := ((t.dropWhile isJunk).reverse.dropWhile isJunk).reverse
  t.filter fun c => c != '\t' && c != '\n' && c != '\r'

/-- The name of the scheme at the start of a text, in lower case, and what follows its colon. -/
def cutScheme? (t : Text) : Option (Text × Text) :=
  let name := t.takeWhile fun c => c.isAlphanum || c == '+' || c == '-' || c == '.'
  match t.drop name.length with
  | ':' :: r => if name.head?.any Char.isAlpha then some (Text.lower name, r) else none
  | _ => none

/-- Reads the address of a page. The name and the password are not part of it. -/
def Address.ofText? (t : Text) : Option Address := do
  let (name, r) ← cutScheme? (strip t)
  let s ← (Scheme.ofName? name).filter Scheme.isWeb
  let a ← ofAuthority? s (r.dropWhile isSlash)
  return { a with login := [] }

end AccessLint.Web
