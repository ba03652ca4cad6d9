import AccessLint.Text.Basic

namespace AccessLint

/-!
# Paths

A path is a text with slashes.

* `FileFault` — why a path could not be opened, read or written;
* `Files.steps` — the names on a path, with an empty one at the end if a slash is there;
* `Files.fileName?`, `Files.extension?` — the last name of a path and what follows its last dot;
* `Files.join` — the path of an entry of a directory.
-/

/-- Why a path could not be used. -/
inductive FileFault where
  | notFound
  | permissionDenied
  | notADirectory
  | isADirectory
  | nameTooLong
  | tooManyLinks
  | nulInName
  | notUtf8
deriving DecidableEq

/-- The wording of a failure, with the system's number where it has one. -/
def FileFault.message : FileFault → Text
  | .notFound => "No such file or directory (os error 2)"
  | .permissionDenied => "Permission denied (os error 13)"
  | .notADirectory => "Not a directory (os error 20)"
  | .isADirectory => "Is a directory (os error 21)"
  | .nameTooLong => "File name too long (os error 36)"
  | .tooManyLinks => "Too many levels of symbolic links (os error 40)"
  | .nulInName => "file name contained an unexpected NUL byte"
  | .notUtf8 => "stream did not contain valid UTF-8"

namespace Files

/-- Whether a path starts at the root. -/
def isAbsolute (path : Text) : Bool := path.head? == some '/'

/-- Whether a step leads nowhere else: nothing or a single dot. -/
def staysHere (step : Text) : Bool := step == [] || step == ['.']

/-- Whether a step leads to the directory above. -/
def leadsUp (step : Text) : Bool := step == ['.', '.']

/-- The pieces of a path between its slashes. Of the empty ones only one at the end is kept. -/
def steps (path : Text) : List Text :=
  let ps := List.splitOnP (· == '/') path
  ps.dropLast.filter (!·.isEmpty) ++ ps.getLast?.toList

/-- The last name of a path, if it does not lead up. -/
def fileName? (path : Text) : Option Text :=
  match ((steps path).filter (!staysHere ·)).getLast? with
  | some name => if leadsUp name then none else some name
  | none => none

/-- What follows the last dot of a name; a dot at its start does not count. -/
def extensionOf? (name : Text) : Option Text :=
  let after := (name.reverse.takeWhile (· != '.')).reverse
  if after.length + 1 < name.length then some after else none

/-- The extension of the last name of a path. -/
def extension? (path : Text) : Option Text := (fileName? path).bind extensionOf?

/-- The path of an entry of a directory. -/
def join (dir name : Text) : Text :=
  if List.isSuffixOf "/" dir then dir ++ name else dir ++ '/' :: name

end Files

end AccessLint
