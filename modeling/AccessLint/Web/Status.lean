import AccessLint.Text.Basic

namespace AccessLint.Web

/-!
# Status codes and header lines

* `reason?` — the standard phrase of a status code;
* `describeStatus` — a code with its phrase;
* `isFinal`, `isSuccess`, `isRedirect` — what a code says;
* `Header.ofLine?` — reads a header line: a name and its value.
-/

/-! ### Status codes -/

/-- The codes with a standard phrase. -/
def reasons : List (Nat × String) := [
  (100, "Continue"), (101, "Switching Protocols"), (102, "Processing"), (103, "Early Hints"),
  (200, "OK"), (201, "Created"), (202, "Accepted"), (203, "Non Authoritative Information"),
  (204, "No Content"), (205, "Reset Content"), (206, "Partial Content"), (207, "Multi-Status"),
  (208, "Already Reported"), (226, "IM Used"), (300, "Multiple Choices"),
  (301, "Moved Permanently"), (302, "Found"), (303, "See Other"), (304, "Not Modified"),
  (305, "Use Proxy"), (307, "Temporary Redirect"), (308, "Permanent Redirect"),
  (400, "Bad Request"), (401, "Unauthorized"), (402, "Payment Required"), (403, "Forbidden"),
  (404, "Not Found"), (405, "Method Not Allowed"), (406, "Not Acceptable"),
  (407, "Proxy Authentication Required"), (408, "Request Timeout"), (409, "Conflict"),
  (410, "Gone"), (411, "Length Required"), (412, "Precondition Failed"),
  (413, "Payload Too Large"), (414, "URI Too Long"), (415, "Unsupported Media Type"),
  (416, "Range Not Satisfiable"), (417, "Expectation Failed"), (418, "I'm a teapot"),
  (421, "Misdirected Request"), (422, "Unprocessable Entity"), (423, "Locked"),
  (424, "Failed Dependency"), (425, "Too Early"), (426, "Upgrade Required"),
  (428, "Precondition Required"), (429, "Too Many Requests"),
  (431, "Request Header Fields Too Large"), (451, "Unavailable For Legal Reasons"),
  (500, "Internal Server Error"), (501, "Not Implemented"), (502, "Bad Gateway"),
  (503, "Service Unavailable"), (504, "Gateway Timeout"), (505, "HTTP Version Not Supported"),
  (506, "Variant Also Negotiates"), (507, "Insufficient Storage"), (508, "Loop Detected"),
  (510, "Not Extended"), (511, "Network Authentication Required")]

/-- The standard phrase of a code. -/
def reason? (code : Nat) : Option Text := (reasons.lookup code).map String.toList

/-- A code with its phrase. -/
def describeStatus (code : Nat) : Text :=
  Text.ofNat code ++ ' ' :: (reason? code).getD "<unknown status code>".toList

/-- Whether a code says that the request succeeded. -/
def isSuccess (code : Nat) : Bool := 200 ≤ code && code < 300

/-- Whether a code can start a response that is the last one to its request. Codes from 100 on only
    announce another response, apart from the one that leaves the protocol. -/
def isFinal (code : Nat) : Bool := code = 101 || (200 ≤ code && code < 1000)

/-- Whether a code sends the client to another address. -/
def isRedirect (code : Nat) : Bool := [301, 302, 303, 307, 308].contains code

/-! ### Header lines -/

/-- A header of a response. -/
structure Header where
  name : Text
  value : Text

/-- Whether a character may stand in the name of a header. -/
def isNameChar (c : Char) : Bool := c.isAlphanum || "!#$%&'*+-.^_\x60|~".toList.contains c

/-- Whether a character may stand in the value of a header. -/
def isValueChar (c : Char) : Bool := c == '\t' || (0x20 ≤ c.toNat && c.toNat != 0x7F)

/-- Reads a line: a name, a colon, and a value with blanks around it. -/
def Header.ofLine? (line : Text) : Option Header :=
  let (name, rest) := Text.cut (· == ':') line
  let isBlank := fun c : Char => c == ' ' || c == '\t'
  match rest with
  | some value =>
    if name.isEmpty || !name.all isNameChar || !value.all isValueChar then none
    else some ⟨name, ((value.dropWhile isBlank).reverse.dropWhile isBlank).reverse⟩
  | none => none

end AccessLint.Web
