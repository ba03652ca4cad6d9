import AccessLint.Decimal.Write
import AccessLint.Json.Basic
import AccessLint.Text.Quoted

namespace AccessLint.Json

/-!
# Writing JSON

* `writeString` — a string between quotes;
* `write` — a value on one line, without space;
* `pretty` — a value over several lines, two blanks a level; empty arrays and objects stay closed.
-/

/-- The two hexadecimal digits of a control character. -/
def hexPair (n : Nat) : Text :=
  let ds := Text.hexDigits n
  List.replicate (2 - ds.length) '0' ++ ds

/-- The form of a character inside quotes. -/
def escape (c : Char) : Text :=
  if c = '"' then ['\\', '"']
  else if c = '\\' then ['\\', '\\']
  else if c = '\n' then ['\\', 'n']
  else if c = '\r' then ['\\', 'r']
  else if c = '\t' then ['\\', 't']
  else if c = '\x08' then ['\\', 'b']
  else if c = '\x0c' then ['\\', 'f']
  else if c.toNat < 0x20 then ['\\', 'u', '0', '0'] ++ hexPair c.toNat
  else [c]

/-- A string between quotes. -/
def writeString (t : Text) : Text := '"' :: t.flatMap escape ++ ['"']

/-- A number; one that is not whole always shows a decimal point or an exponent. -/
def writeNumber : Number → Text
  | .int n => Text.ofInt n
  | .real x => Decimal.shortest x

mutual

/-- A value on one line. -/
def write : Json → Text
  | .null => "null"
  | .bool true => "true"
  | .bool false => "false"
  | .num n => writeNumber n
  | .str t => writeString t
  | .arr items => '[' :: writeItems items ++ [']']
  | .obj members => '{' :: writeMembers members ++ ['}']

/-- Items with commas between them. -/
def writeItems : List Json → Text
  | [] => []
  | [v] => write v
  | v :: w :: vs => write v ++ ',' :: writeItems (w :: vs)

/-- Members with commas between them. -/
def writeMembers : List (Text × Json) → Text
  | [] => []
  | [(k, v)] => writeString k ++ ':' :: write v
  | (k, v) :: m :: ms => writeString k ++ ':' :: write v ++ ',' :: writeMembers (m :: ms)

end

/-- A new line at a level of nesting. -/
def newline (level : Nat) : Text := '\n' :: List.replicate (2 * level) ' '

mutual

/-- A value over several lines, as it stands inside `level` arrays and objects. -/
def prettyAt (level : Nat) : Json → Text
  | .null => "null"
  | .bool true => "true"
  | .bool false => "false"
  | .num n => writeNumber n
  | .str t => writeString t
  | .arr [] => "[]"
  | .arr (v :: vs) => '[' :: prettyItems (level + 1) (v :: vs) ++ newline level ++ [']']
  | .obj [] => ['{', '}']
  | .obj (m :: ms) => '{' :: prettyMembers (level + 1) (m :: ms) ++ newline level ++ ['}']

/-- Items on lines of their own. -/
def prettyItems (level : Nat) : List Json → Text
  | [] => []
  | [v] => newline level ++ prettyAt level v
  | v :: w :: vs => newline level ++ prettyAt level v ++ ',' :: prettyItems level (w :: vs)

/-- Members on lines of their own. -/
def prettyMembers (level : Nat) : List (Text × Json) → Text
  | [] => []
  | [(k, v)] => newline level ++ writeString k ++ ": " ++ prettyAt level v
  | (k, v) :: m :: ms =>
    newline level ++ writeString k ++ ": " ++ prettyAt level v ++
      ',' :: prettyMembers level (m :: ms)

end

/-- A value over several lines, without a line end at its end. -/
def pretty (v : Json) : Text := prettyAt 0 v

end AccessLint.Json
