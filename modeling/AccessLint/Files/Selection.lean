import AccessLint.Files.Tree

namespace AccessLint.Files

/-!
# Selecting files

A selection says which files below a directory are looked at: those with some extensions, except in
directories with some names. Links are not followed, and directories that cannot be listed are left
out, unless it is the one that the search starts from.

* `Selection.admits` — whether a file has one of the extensions;
* `FileTree.filesIn`, `FileTree.filesAt` — the paths of the files in a directory, and at one entry;
* `FileTree.discover` — the paths of the files below the directory that a path leads to.
-/

/-- The extensions of the files to look at, and the names of the directories to leave out. -/
structure Selection where
  extensions : List Text
  excluded : List Text
deriving DecidableEq

namespace Selection

/-- Pages and templates, except in directories that tools fill. -/
def default : Selection where
  extensions := ["latte", "html", "php", "twig", "edge", "tsx", "jsx"]
  excluded := ["node_modules", "vendor", "dist", "build", "temp", ".idea", ".git", "log", "bin"]

/-- Whether the file of a path has one of the extensions, in the same case. -/
def admits (s : Selection) (path : Text) : Bool :=
  (extension? path).any fun e : Text => s.extensions.contains e

end Selection

/-- Why there is nothing to look through: the path leads to no directory, or to one that cannot be
    listed. -/
inductive DiscoverFailure where
  | notADirectory (path : Text)
  | unlistable (path : Text) (fault : FileFault)
deriving DecidableEq

/-- The wording of a failure. -/
def DiscoverFailure.message : DiscoverFailure → Text
  | .notADirectory path => ("I/O error: " : Text) ++ path ++ " is not a directory"
  | .unlistable path fault =>
    ("Failed to walk " : Text) ++ path ++ ": IO error for operation on " ++ path ++ ": " ++
      fault.message

namespace FileTree

mutual

/-- The paths of the files in the entries of a directory. -/
def filesIn (t : FileTree) (s : Selection) (dir : Text) : List (Text × Node) → List Text
  | [] => []
  | (name, n) :: es => t.filesAt s (join dir name) name n ++ t.filesIn s dir es

/-- The paths of the files in one entry, which has a path and a name. -/
def filesAt (t : FileTree) (s : Selection) (path name : Text) : Node → List Text
  | .file _ _ => if s.admits path then [path] else []
  | .link _ => []
  | .dir es _ =>
    if s.excluded.contains name then []
    -- what is listed are the entries of the node, and the recursion goes along those
    else match t.list path with
    | .ok _ => t.filesIn s path es
    | .error _ => []

end

/-- The paths of the files below the directory that a path leads to, which itself may have any
    name. -/
def discover (t : FileTree) (s : Selection) (path : Text) : Except DiscoverFailure (List Text) :=
  if !t.isDirectory path then .error (.notADirectory path)
  else match t.list path with
  | .ok es => .ok (t.filesIn s path es)
  | .error fault => .error (.unlistable path fault)

end FileTree

end AccessLint.Files
