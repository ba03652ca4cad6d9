import AccessLint.Web.Reference
import AccessLint.Web.Status

namespace AccessLint.Web

/-!
# Loading pages

* `Response` — what comes back from a request;
* `Network` — the responses to requests;
* `Request` — a request as it is sent;
* `fetch` — the text of the page at an address, reached through a bounded number of redirections.
-/

/-- What comes back from a request: a status code, header lines and the bytes of a page. There are
    no such bytes if the connection ends before all of them have come. -/
structure Response where
  status : Nat
  headers : List Text
  body : Option (List UInt8)

/-- What comes back from a request, given the ones before it; nothing if nobody answers. -/
abbrev Network := (earlier : List Address) → Address → Option Response

/-- A request as it is sent: where to, its first line, and how the client calls itself. -/
structure Request where
  origin : Text
  line : Text
  agent : Text
deriving DecidableEq

/-- The request of a client for the page at an address. -/
def Request.forPage (agent : Text) (a : Address) : Request where
  origin := a.origin
  line := ("GET " : Text) ++ a.target ++ " HTTP/1.1"
  agent := agent

namespace Response

/-- Whether a response can be understood: it is a final one, and all its header lines are well
    formed. -/
def isReadable (r : Response) : Bool :=
  isFinal r.status && r.headers.all fun line => (Header.ofLine? line).isSome

/-- The first header of a name. -/
def header? (r : Response) (name : Text) : Option Text :=
  ((r.headers.filterMap Header.ofLine?).find? fun h => Text.eqIgnoringCase h.name name).map
    Header.value

/-- Where the client is sent to. -/
def redirection? (r : Response) (a : Address) : Option Destination :=
  if isRedirect r.status then (r.header? "location").bind a.resolve? else none

/-- The text of the page in a response, if all of it has come; what is not UTF-8 is replaced. A
    response without content has an empty page. -/
def text? (r : Response) : Option Text :=
  if r.status = 204 then some [] else r.body.map Text.decodeLossy

end Response

/-- Why a page could not be loaded. -/
inductive FetchFailure where
  | malformed
  | unsupported (target : Text)
  | unreachable (address : Address)
  | redirectedTooOften (address : Address)
  | status (code : Nat)
  | unfinished
deriving DecidableEq

/-- The wording of a failure. -/
def FetchFailure.message : FetchFailure → Text
  | malformed => "builder error"
  | unsupported target => ("builder error for url (" : Text) ++ target ++ ")"
  | unreachable a => ("error sending request for url (" : Text) ++ a.toText ++ ")"
  | redirectedTooOften a => ("error following redirect for url (" : Text) ++ a.toText ++ ")"
  | status code => ("HTTP " : Text) ++ describeStatus code
  | unfinished => "error decoding response body"

/-- The requests that were answered, and what came of the last one. -/
structure Visit where
  requests : List Address
  result : Except FetchFailure Text

/-- The page in a response: there is one if the response is a success and all of it has come. -/
def Response.page (r : Response) : Except FetchFailure Text :=
  if isSuccess r.status then
    match r.text? with
    | some text => .ok text
    | none => .error .unfinished
  else .error (.status r.status)

/-- Requests a page after other requests, of which the first one was for `start`. -/
def visit (net : Network) (start : Address) : (redirections : Nat) → List Address → Address → Visit
  | redirections, earlier, a =>
    match net earlier a with
    | none => ⟨earlier, .error (.unreachable start)⟩
    | some r =>
      let requests := earlier ++ [a]
      if !r.isReadable then ⟨requests, .error (.unreachable start)⟩
      else match r.redirection? a with
      | none => ⟨requests, r.page⟩
      | some next =>
        match redirections with
        | 0 => ⟨requests, .error (.redirectedTooOften { a with fragment := none })⟩
        | n + 1 =>
          match next with
          | .address b =>
            if b.scheme.isWeb then visit net start n requests b
            else ⟨requests, .error (.unsupported b.toText)⟩
          | .other text => ⟨requests, .error (.unsupported text)⟩

/-- The greatest number of redirections. -/
def maxRedirections : Nat := 10

/-- Loads the page at an address. -/
def fetch (net : Network) (url : Text) : Visit :=
  match Address.ofText? url with
  | some a =>
    if a.isNameable then visit net a maxRedirections [] a
    else ⟨[], .error (.unsupported a.toText)⟩
  | none => ⟨[], .error .malformed⟩

end AccessLint.Web
