import AccessLint.Json.Read
import AccessLint.Text.Alphanumeric
import AccessLint.Text.Blank

namespace AccessLint.Json.Relaxed

/-!
# JSON as people write it

Comments, single quotes, bare words and numbers as keys, missing and trailing commas, hexadecimal
numbers and a plus sign are all accepted.

* `Fault`, `Failure` — what is wrong, and the text from the place where it is;
* `Lexeme.next?` — the first token of a text;
* `readValue`, `readMembers`, `readItems` — values over tokens;
* `read` — a text with at most one value;
* `Failure.describe` — a failure with its line and column.
-/

/-- What is wrong with a text. -/
inductive Fault where
  | unexpectedToken
  | unexpectedCloseBrace
  | unexpectedCloseBracket
  | unexpectedColon
  | unexpectedComma
  | unexpectedWord
  | notAKey
  | missingColon
  | missingValue
  | unterminatedObject
  | unterminatedArray
  | unterminatedComment
  | unterminatedString
  | secondValue
  | missingDigit
  | missingDigitAfterSign
  | badExponent
  | badEscape
  | doubleQuoteInSingle
  | singleQuoteInDouble
  | missingHexDigits
  | unpairedHigh (digits : Text)
  | unpairedLow (digits : Text)
  | highWithoutLow (digits : Text)

/-- The message for half of a pair that stands in the wrong place. -/
def halfMessage (digits why : Text) : Text :=
  "Invalid unicode escape sequence. '" ++ digits ++ " (" ++ why ++
    ")' is not a valid UTF8 character"

/-- The wording of a fault. -/
def Fault.message : Fault → Text
  | .unexpectedToken => "Unexpected token"
  | .unexpectedCloseBrace => "Unexpected close brace"
  | .unexpectedCloseBracket => "Unexpected close bracket"
  | .unexpectedColon => "Unexpected colon"
  | .unexpectedComma => "Unexpected comma"
  | .unexpectedWord => "Unexpected word"
  | .notAKey => "Unexpected token in object"
  | .missingColon => "Expected colon after the string or word in object property"
  | .missingValue => "Expected value after colon in object property"
  | .unterminatedObject => "Unterminated object"
  | .unterminatedArray => "Unterminated array"
  | .unterminatedComment => "Unterminated comment block"
  | .unterminatedString => "Unterminated string literal"
  | .secondValue => "Text cannot contain more than one JSON value"
  | .missingDigit => "Expected digit"
  | .missingDigitAfterSign => "Expected digit following negative sign"
  | .badExponent => "Expected plus, minus, or digit in number literal"
  | .badEscape => "Invalid escape"
  | .doubleQuoteInSingle => "Invalid escape in single quote string"
  | .singleQuoteInDouble => "Invalid escape in double quote string"
  | .missingHexDigits => "Expected four hex digits"
  | .unpairedHigh digits => halfMessage digits "unpaired high surrogate"
  | .unpairedLow digits => halfMessage digits "unpaired low surrogate"
  | .highWithoutLow digits => halfMessage digits "high surrogate not followed by low surrogate"

/-- A fault and the text from its place on. -/
structure Failure where
  fault : Fault
  place : Text

/-- The line and the column, both from one, of the place where `rest` begins in `source`. -/
def position (source rest : Text) : Nat × Nat :=
  let before := source.take (source.length - rest.length)
  let lastLine := before.reverse.takeWhile (· != '\n')
  (before.count '\n' + 1, lastLine.length + 1)

/-- A failure as it is reported. -/
def Failure.describe (source : Text) (f : Failure) : Text :=
  let (line, column) := position source f.place
  f.fault.message ++ " on line " ++ Text.ofNat line ++ " column " ++ Text.ofNat column

/-! ### Tokens -/

/-- A token. A number keeps its spelling, since it may be a key. -/
inductive Token where
  | openBrace
  | closeBrace
  | openBracket
  | closeBracket
  | comma
  | colon
  | str (t : Text)
  | word (t : Text)
  | number (source : Text)
  | bool (b : Bool)
  | null

/-- A token, the text from its start on, and the text after it. -/
structure Lexeme where
  token : Token
  start : Text
  rest : Text

/-- Skips blank characters and comments. A comment to the end of the line ends at a line feed. -/
def skipIgnored : Nat → Text → Except Failure Text
  | 0, t => .ok t
  | fuel + 1, t =>
    match t.dropWhile Text.isBlankChar with
    | '/' :: '/' :: r => skipIgnored fuel (r.dropWhile (· != '\n'))
    | '/' :: '*' :: r =>
      match Text.findFirst? "*/" r with
      | some inside => skipIgnored fuel (r.drop (inside.length + 2))
      | none => .error ⟨.unterminatedComment, '/' :: '*' :: r⟩
    | r => .ok r

/-- The four hexadecimal digits at the start of a text, and what follows them. -/
def hexQuadAt? : Text → Option (Text × Nat × Text)
  | a :: b :: c :: d :: r => (hexQuad? a b c d).map fun n => ([a, b, c, d], n, r)
  | _ => none

/-- The character of an escape by number, after its `\u`, and how many characters that takes. -/
def numberedChar (t : Text) : Except Fault (Char × Nat) :=
  match hexQuadAt? t with
  | none => .error .missingHexDigits
  | some (digits, n, r) =>
    if Text.isHighHalf n then
      match r with
      | '\\' :: 'u' :: r' =>
        match hexQuadAt? r' with
        | none => .error .missingHexDigits
        | some (_, m, _) =>
          if Text.isLowHalf m then .ok (Text.ofHalves n m, 10) else .error (.highWithoutLow digits)
      | _ => .error (.unpairedHigh digits)
    else if Text.isLowHalf n then .error (.unpairedLow digits)
    else .ok (Char.ofNat n, 4)

/-- The characters of a string after its opening quote, of which the first `skip` belong to an
    escape already read, and the text after the closing quote. -/
def readString (quote : Char) (opening : Text) : (skip : Nat) → Text → Except Failure (Text × Text)
  | _, [] => .error ⟨.unterminatedString, opening⟩
  | skip + 1, _ :: r => readString quote opening skip r
  | 0, '\\' :: r =>
    match r with
    | [] => .error ⟨.unterminatedString, opening⟩
    | e :: r' =>
      if e = 'u' then
        match numberedChar r' with
        | .error f => .error ⟨f, '\\' :: r⟩
        | .ok (c, n) => do
          let (cs, rest) ← readString quote opening (n + 1) (e :: r')
          return (c :: cs, rest)
      else if e = '"' && quote = '\'' then .error ⟨.doubleQuoteInSingle, '\\' :: r⟩
      else if e = '\'' && quote = '"' then .error ⟨.singleQuoteInDouble, '\\' :: r⟩
      else
        match if e = '\'' then some '\'' else unescape? e with
        | none => .error ⟨.badEscape, '\\' :: r⟩
        | some c => do
          let (cs, rest) ← readString quote opening 1 (e :: r')
          return (c :: cs, rest)
  | 0, c :: r =>
    if c = quote then .ok ([], r)
    else do
      let (cs, rest) ← readString quote opening 0 r
      return (c :: cs, rest)

/-- Splits a text after its leading hexadecimal digits. -/
def hexDigitRun (t : Text) : Text × Text :=
  (t.takeWhile fun c => (Text.hexValue? c).isSome, t.dropWhile fun c => (Text.hexValue? c).isSome)

/-- The text after an optional fraction. -/
def skipFraction : Text → Except Failure Text
  | '.' :: r => if (digits r).1.isEmpty then .error ⟨.missingDigit, r⟩ else .ok (digits r).2
  | t => .ok t

/-- The text after an optional exponent. -/
def skipExponent : Text → Except Failure Text
  | [] => .ok []
  | e :: r =>
    if e = 'e' || e = 'E' then
      match r with
      | '+' :: r' | '-' :: r' =>
        if (digits r').1.isEmpty then .error ⟨.missingDigit, r'⟩ else .ok (digits r').2
      | _ => if (digits r).1.isEmpty then .error ⟨.badExponent, r⟩ else .ok (digits r).2
    else .ok (e :: r)

/-- The text after a number that starts here. -/
def skipNumber (t : Text) : Except Failure Text := do
  let unsigned := (Decimal.readSign t).2
  match unsigned with
  | '0' :: x :: r =>
    if x = 'x' || x = 'X' then
      if (hexDigitRun r).1.isEmpty then .error ⟨.missingDigit, r⟩ else .ok (hexDigitRun r).2
    else skipExponent (← skipFraction (x :: r))
  | ['0'] => .ok []
  | _ =>
    if (digits unsigned).1.isEmpty then .error ⟨.missingDigitAfterSign, unsigned⟩
    else skipExponent (← skipFraction (digits unsigned).2)

/-- Whether a character may stand in a bare word. -/
def isWordChar (c : Char) : Bool := Text.isAlphanumeric c || c == '-' || c == '_'

/-- The rest of a text after a keyword that no letter or number continues. -/
def afterKeyword? (keyword t : Text) : Option Text :=
  (List.isPrefixOf? keyword t).filter fun r => !(r.head?.any Text.isAlphanumeric)

/-- The lexeme of a bare word; it runs to a blank character or a colon. -/
def word (t : Text) : Except Failure Lexeme :=
  let w := t.takeWhile fun c => !Text.isBlankChar c && c != ':'
  if w.isEmpty || !w.all isWordChar then .error ⟨.unexpectedToken, t⟩
  else .ok ⟨.word w, t, t.drop w.length⟩

/-- The lexeme at the start of a non-empty text. -/
def lexeme (c : Char) (r : Text) : Except Failure Lexeme :=
  let t := c :: r
  match c with
  | '{' => .ok ⟨.openBrace, t, r⟩
  | '}' => .ok ⟨.closeBrace, t, r⟩
  | '[' => .ok ⟨.openBracket, t, r⟩
  | ']' => .ok ⟨.closeBracket, t, r⟩
  | ',' => .ok ⟨.comma, t, r⟩
  | ':' => .ok ⟨.colon, t, r⟩
  | '/' => .error ⟨.unexpectedToken, t⟩
  | _ =>
    if c = '"' || c = '\'' then do
      let (s, rest) ← readString c t 0 r
      return ⟨.str s, t, rest⟩
    else if c = '-' || c = '+' || c.isDigit then do
      let rest ← skipNumber t
      return ⟨.number (t.take (t.length - rest.length)), t, rest⟩
    else
      match afterKeyword? "true" t, afterKeyword? "false" t, afterKeyword? "null" t with
      | some rest, _, _ => .ok ⟨.bool true, t, rest⟩
      | _, some rest, _ => .ok ⟨.bool false, t, rest⟩
      | _, _, some rest => .ok ⟨.null, t, rest⟩
      | none, none, none => word t

/-- The first token of a text, or `none` at its end. -/
def Lexeme.next? (t : Text) : Except Failure (Option Lexeme) := do
  match ← skipIgnored (t.length + 1) t with
  | [] => return none
  | c :: r => return some (← lexeme c r)

/-! ### Values -/

/-- The value of a hexadecimal number, or its spelling if it does not fit a signed word. -/
def hexNumber (source : Text) (negative : Bool) (hex : Text) : Json :=
  let n : Nat := hex.foldl (fun n d => n * 16 + (Text.hexValue? d).getD 0) 0
  if n < Decimal.twoTo 63 then .num (.int (if negative then -(n : Int) else n)) else .str source

/-- The value of a number, or its spelling if it is too large for a number. -/
def number (source : Text) : Json :=
  let (negative, unsigned) := Decimal.readSign source
  match unsigned with
  | '0' :: 'x' :: hex | '0' :: 'X' :: hex => hexNumber source negative hex
  | _ =>
    match readNumber? (if negative then source else unsigned) with
    | some (n, []) => .num n
    | _ => .str source

/-- The key that a token may be. -/
def Token.key? : Token → Option Text
  | .str t | .word t | .number t => some t
  | _ => none

/-- The token after a comma, if `lex` is one. -/
def skipComma : Option Lexeme → Except Failure (Option Lexeme)
  | some ⟨.comma, _, rest⟩ => Lexeme.next? rest
  | lex => .ok lex

mutual

/-- The value that starts with a token, and the text after it. -/
def readValue : Nat → Lexeme → Except Failure (Json × Text)
  | 0, lex => .error ⟨.unexpectedToken, lex.start⟩
  | fuel + 1, ⟨token, start, rest⟩ =>
    match token with
    | .openBrace => do
      let (ms, rest) ← readMembers fuel start (← Lexeme.next? rest)
      return (object ms, rest)
    | .openBracket => do
      let (vs, rest) ← readItems fuel start (← Lexeme.next? rest)
      return (.arr vs, rest)
    | .str t => .ok (.str t, rest)
    | .number source => .ok (number source, rest)
    | .bool b => .ok (.bool b, rest)
    | .null => .ok (.null, rest)
    | .closeBrace => .error ⟨.unexpectedCloseBrace, start⟩
    | .closeBracket => .error ⟨.unexpectedCloseBracket, start⟩
    | .comma => .error ⟨.unexpectedComma, start⟩
    | .colon => .error ⟨.unexpectedColon, start⟩
    | .word _ => .error ⟨.unexpectedWord, start⟩

/-- The members from the current token on, and the text after the closing brace. -/
def readMembers : Nat → (opening : Text) → Option Lexeme →
    Except Failure (List (Text × Json) × Text)
  | 0, opening, _ => .error ⟨.unterminatedObject, opening⟩
  | _, opening, none => .error ⟨.unterminatedObject, opening⟩
  | fuel + 1, opening, some lex =>
    match lex.token, lex.token.key? with
    | .closeBrace, _ => .ok ([], lex.rest)
    | _, none => .error ⟨.notAKey, lex.start⟩
    | _, some key => do
      let afterColon ← match ← Lexeme.next? lex.rest with
        | some ⟨.colon, _, rest⟩ => pure rest
        | some other => .error ⟨.missingColon, other.start⟩
        | none => .error ⟨.missingColon, []⟩
      let (value, rest) ← match ← Lexeme.next? afterColon with
        | some first => readValue fuel first
        | none => .error ⟨.missingValue, []⟩
      let (ms, rest) ← readMembers fuel opening (← skipComma (← Lexeme.next? rest))
      return ((key, value) :: ms, rest)

/-- The items from the current token on, and the text after the closing bracket. -/
def readItems : Nat → (opening : Text) → Option Lexeme → Except Failure (List Json × Text)
  | 0, opening, _ => .error ⟨.unterminatedArray, opening⟩
  | _, opening, none => .error ⟨.unterminatedArray, opening⟩
  | fuel + 1, opening, some lex =>
    match lex.token with
    | .closeBracket => .ok ([], lex.rest)
    | _ => do
      let (value, rest) ← readValue fuel lex
      let (vs, rest) ← readItems fuel opening (← skipComma (← Lexeme.next? rest))
      return (value :: vs, rest)

end

/-- Reads a text that holds at most one value; `none` if it holds none. Each token opens at most
    two levels of reading. -/
def read (t : Text) : Except Failure (Option Json) := do
  match ← Lexeme.next? t with
  | none => return none
  | some lex =>
    let (value, rest) ← readValue (2 * t.length + 2) lex
    match ← Lexeme.next? rest with
    | none => return some value
    | some other => .error ⟨.secondValue, other.start⟩

end AccessLint.Json.Relaxed
