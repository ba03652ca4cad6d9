import AccessLint.Files.Selection
import AccessLint.Text.Encoding
import AccessLint.Web.Fetch

namespace AccessLint

/-!
# What there is to lint

* `Target` — a page on the web or a directory of files;
* `Page` — a text to lint and the label of its findings;
* `InputFailure` — why there is no text to lint;
* `readPage`, `readPages` — the pages in files;
* `loadPage` — the page at an address.
-/

open Files (FileTree Selection DiscoverFailure)
open Web (Network Address FetchFailure)

/-- A page on the web or a directory of files. -/
inductive Target where
  | url (address : Text)
  | directory (path : Text)
deriving DecidableEq

/-- What an input names: an address if it starts with one of the two schemes, else a directory. -/
def Target.ofText (t : Text) : Target :=
  if List.isPrefixOf "http://" t || List.isPrefixOf "https://" t then url t else directory t

/-- A text to lint; its findings carry the label. -/
structure Page where
  label : Text
  text : Text
deriving DecidableEq

/-- Why there is no text to lint. -/
inductive InputFailure where
  | missing
  | notADirectory (path : Text)
  | undiscovered (failure : DiscoverFailure)
  | unreadable (path : Text) (fault : FileFault)
  | unloaded (url : Text) (failure : FetchFailure)
deriving DecidableEq

/-- The wording of a failure. -/
def InputFailure.message : InputFailure → Text
  | missing => "Please provide a directory path or URL as the first argument."
  | notADirectory path => path ++ " is not a directory"
  | undiscovered failure => failure.message
  | unreadable path fault => ("Failed to read " : Text) ++ path ++ ": " ++ fault.message
  | unloaded url failure => ("Failed to load URL " : Text) ++ url ++ ": " ++ failure.message

/-- Requires a path to lead to a directory. -/
def requireDirectory (files : FileTree) (path : Text) : Except InputFailure Unit :=
  if files.isDirectory path then .ok () else .error (.notADirectory path)

/-- The page in a file. Bytes that are not UTF-8 are replaced. -/
def readPage (files : FileTree) (path : Text) : Except InputFailure Page :=
  match files.read path with
  | .ok bytes => .ok ⟨path, Text.decode bytes⟩
  | .error fault => .error (.unreadable path fault)

/-- The pages in some files; the first file that cannot be read is a failure. -/
def readPages (files : FileTree) : List Text → Except InputFailure (List Page)
  | [] => .ok []
  | path :: paths => do
    let page ← readPage files path
    return page :: (← readPages files paths)

/-- The requests for the page at an address, and the page. -/
def loadPage (net : Network) (url : Text) : List Address × Except InputFailure Page :=
  let v := Web.fetch net url
  (v.requests, match v.result with
    | .ok text => .ok ⟨url, text⟩
    | .error failure => .error (.unloaded url failure))

end AccessLint
