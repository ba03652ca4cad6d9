import AccessLint.Web.Address

namespace AccessLint.Web

/-!
# References to other addresses

* `isAuthority` — whether a request can name a host with what belongs to it;
* `Destination` — where a reference leads;
* `Address.resolve?` — where a reference on a page leads, if a request can name it.
-/

/-- Whether a character may stand in an authority, apart from a percent sign. -/
def isAuthorityChar (c : Char) : Bool := c.isAlphanum || "-._~!$&'()*+,;=:@[]".toList.contains c

/-- Whether the rest of an authority is well formed, after some colons, perhaps a percent sign, and
    the two brackets of a numeric address. An `@` or the second bracket starts a new part: only the
    last part may not hold two colons or a percent sign. -/
def isAuthorityFrom (colons : Nat) (percent opened closed : Bool) : Text → Bool
  | [] => opened == closed && colons ≤ 1 && !percent
  | '@' :: r => !r.isEmpty && isAuthorityFrom 0 false opened closed r
  | '[' :: r => !percent && !opened && isAuthorityFrom colons percent true closed r
  | ']' :: r => opened && !closed && isAuthorityFrom 0 false opened true r
  | ':' :: r => isAuthorityFrom (colons + 1) percent opened closed r
  | '%' :: r => isAuthorityFrom colons true opened closed r
  | c :: r => isAuthorityChar c && isAuthorityFrom colons percent opened closed r

/-- Whether a request can name a host with what belongs to it. -/
def isAuthority (t : Text) : Bool := isAuthorityFrom 0 false false false t

/-- Where a reference leads: to an address in a scheme with rules of its own, or in another one. -/
inductive Destination where
  | address (a : Address)
  | other (text : Text)

/-- The text of a destination. -/
def Destination.toText : Destination → Text
  | address a => a.toText
  | other t => t

/-- The text of an address in a scheme without rules of its own: a host with a path, or the name of
    the scheme and a word. -/
def otherText? (scheme rest : Text) : Option Text :=
  match List.isPrefixOf? "//" rest with
  | some r =>
    let authority := r.takeWhile fun c => c != '/' && c != '?' && c != '#'
    let (t, _) := Text.cut (· == '#') (r.drop authority.length)
    let (path, query) := Text.cut (· == '?') t
    let (login, t) := cutLogin authority
    do
      let (host, port) ← hostAndPort? opaqueHostOf? none t
      let authority := authorityText (loginOf login) host port
      if host.isEmpty || !isAuthority authority then none
      else return scheme ++ "://" ++ authority ++ pathOf (· == '/') path ++
        queryText (query.map (percentEncode isQueryChar))
  | none =>
    let text := scheme ++ ':' :: percentEncode isVisible rest
    if isAuthority text then some text else none

namespace Address

/-- The address that a reference without a scheme leads to. A host follows two slashes, or a longer
    run of slashes that does not start with two forward ones. -/
def relative? (a : Address) (t : Text) : Option Address :=
  match t with
  | [] | '#' :: _ => some a
  | '?' :: _ => some (a.withRest (fun _ => a.path) t)
  | c :: _ =>
    let slashes := (t.takeWhile isSlash).length
    if 2 ≤ slashes then
      ofAuthority? a.scheme (t.drop (if List.isPrefixOf "//" t then 2 else slashes))
    else if isSlash c then some (a.withRest (pathOf isSlash) t)
    else some (a.withRest (pathBelow a.path) t)

/-- Whether a request can name an address. A file that is not on another host cannot be named. -/
def isNameable (a : Address) : Bool :=
  isAuthority a.authority && !(a.scheme = .file && a.host == "localhost")

/-- Where a reference on a page leads, if a request can name it. A request names no fragment. -/
def resolve? (a : Address) (reference : Text) : Option Destination :=
  let t := strip reference
  let named := fun next : Option Address =>
    (next.filter isNameable).map fun b => .address { b with fragment := none }
  match cutScheme? t with
  | none => named (a.relative? t)
  | some (name, r) =>
    match Scheme.ofName? name with
    | none => (otherText? name r).map .other
    | some .file =>
      let slashes := (r.take 2).takeWhile isSlash
      if slashes.length = 2 then named (ofAuthority? .file (r.drop 2)) else none
    | some s =>
      let slashes := (r.takeWhile isSlash).length
      if s = a.scheme && slashes < 2 then named (a.relative? r)
      else named (ofAuthority? s (r.drop slashes))

end Address

end AccessLint.Web
