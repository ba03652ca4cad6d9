import AccessLint.Text.Basic

namespace AccessLint.Command

/-!
# The log

* `Part` — the parts of the program that write messages;
* `LogEntry` — a message with its level and its part;
* `LogEntry.written` — an entry as it is written, without control characters.
-/

/-- The levels of messages. -/
inductive Level where
  | error
  | warn
  | info
deriving DecidableEq

namespace Level

/-- The name of a level in the log. -/
def name : Level → Text
  | error => "ERROR"
  | warn => "WARN"
  | info => "INFO"

/-- The rank of a level. -/
def rank : Level → Nat
  | error => 1
  | warn => 2
  | info => 3

end Level

/-- The name of this program. -/
def programName : Text := "a11ylint"

/-- The version of this program. -/
def programVersion : Text := "0.1.0"

/-- The parts of the program that write messages. -/
inductive Part where
  | program
  | linting
  | configuration
  | discovery
deriving DecidableEq

/-- The name of a part, which filters refer to. -/
def Part.name : Part → Text
  | program => programName
  | linting => programName ++ "::commands::lint"
  | configuration => programName ++ "_core::config"
  | discovery => programName ++ "_core::file_finder"

/-- A message of the log. -/
structure LogEntry where
  part : Part
  level : Level
  message : Text
deriving DecidableEq

/-- A character of a message as it is written: those that a terminal obeys are written by their
    number. -/
def writtenChar (c : Char) : Text :=
  if c = '\x07' then "\\x07"
  else if c = '\x08' then "\\x08"
  else if c = '\x0c' then "\\x0c"
  else if c = '\x1b' then "\\x1b"
  else if c = '\x7f' then "\\x7f"
  else if 0x80 ≤ c.toNat && c.toNat < 0xA0 then
    ['\\', 'u', '{'] ++ Nat.toDigits 16 c.toNat ++ ['}']
  else [c]

/-- An entry as it is written. -/
def LogEntry.written (e : LogEntry) : LogEntry := { e with message := e.message.flatMap writtenChar }

end AccessLint.Command
