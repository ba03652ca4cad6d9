import AccessLint.Files.Path
import AccessLint.Text.Keyed

namespace AccessLint.Files

/-!
# Trees of files

A file tree is a root directory with a current directory in it. Paths are resolved step by step:
every step needs a directory that may be searched, and links are followed.

* `Access` — what may be done with a file or a directory;
* `Node` — a file, a link or a directory;
* `Node.at?`, `Node.put` — the node at a location, and a tree with another one there;
* `FileTree.resolve` — the location that a path leads to;
* `FileTree.isDirectory`, `FileTree.list`, `FileTree.read`, `FileTree.write` — the use of a path.
-/

/-- What may be done with a node. A file can be read and written; of a directory the entries can be
    listed (`reads`), entries can be made in it (`writes`), and paths can lead through it
    (`searches`). -/
structure Access where
  reads : Bool
  writes : Bool
  searches : Bool
deriving DecidableEq

/-- All may be done. -/
def Access.full : Access := ⟨true, true, true⟩

/-- What a name in a directory stands for. -/
inductive Node where
  | file (content : List UInt8) (access : Access)
  | link (target : Text)
  | dir (entries : List (Text × Node)) (access : Access)

instance : Inhabited Node := ⟨.dir [] .full⟩

/-- The names that lead from the root to a node. -/
abbrev Location := List Text

namespace Node

/-- The entries of a directory; other nodes have none. -/
def entries : Node → List (Text × Node)
  | dir es _ => es
  | _ => []

/-- What may be done with a node. A link does not restrict what is done with its target. -/
def access : Node → Access
  | file _ a => a
  | link _ => .full
  | dir _ a => a

/-- The node at a location, without following links. -/
def at? (n : Node) : Location → Option Node
  | [] => some n
  | name :: rest =>
    match n.entries.lookup name with
    | some m => m.at? rest
    | none => none

/-- A tree with another node at a location; missing directories above it are made. -/
def put : Node → Location → (new : Node) → Node
  | _, [], new => new
  | n, name :: rest, new =>
    dir (Keyed.put name (put ((n.entries.lookup name).getD default) rest new) n.entries) n.access

end Node

/-- The greatest number of bytes of a name. -/
def maxNameSize : Nat := 255

/-- The least number of bytes of a path that is too long. -/
def pathSizeLimit : Nat := 4096

/-- The greatest number of links that one path may lead through. -/
def maxLinks : Nat := 40

/-- Where a path leads: to a node, or to a free name in a directory. -/
inductive Place where
  | occupied (location : Location)
  | free (dir : Location) (name : Text)
deriving DecidableEq

/-- How far a path leads without following a link. -/
inductive Progress where
  | arrived (place : Place)
  | followLink (start : Location) (steps : List Text)

/-- Takes the steps of a path up to the first link. Where a file may be made, a slash after the last
    name is refused. -/
def walk (root : Node) (makesFile : Bool) : Location → List Text → Except FileFault Progress
  | here, [] => .ok (.arrived (.occupied here))
  | here, step :: rest =>
    match root.at? here with
    | some (.dir es access) =>
      -- a slash after the last name is no step that needs a search
      if !step.isEmpty && !access.searches then .error .permissionDenied
      else if staysHere step then walk root makesFile here rest
      else if leadsUp step then walk root makesFile here.dropLast rest
      else if makesFile && rest == [[]] then .error .isADirectory
      else if maxNameSize < Text.utf8Size step then .error .nameTooLong
      else match es.lookup step with
        | some (.link target) =>
          .ok (.followLink (if isAbsolute target then [] else here) (Files.steps target ++ rest))
        | some _ => walk root makesFile (here ++ [step]) rest
        | none => if rest.isEmpty then .ok (.arrived (.free here step)) else .error .notFound
    | _ => .error .notADirectory

/-- Takes the steps of a path and follows at most `links` links. -/
def follow (root : Node) (makesFile : Bool) : (links : Nat) → Location → List Text →
    Except FileFault Place
  | links, here, todo =>
    match walk root makesFile here todo with
    | .error fault => .error fault
    | .ok (.arrived place) => .ok place
    | .ok (.followLink start todo) =>
      match links with
      | 0 => .error .tooManyLinks
      | n + 1 => follow root makesFile n start todo

/-- The files of a system, and the directory that relative paths start from. -/
structure FileTree where
  root : Node
  current : Location

namespace FileTree

/-- Where a path leads. -/
def resolve (t : FileTree) (makesFile : Bool) (path : Text) : Except FileFault Place :=
  if path.any (· == '\x00') then .error .nulInName
  else if path.isEmpty then .error .notFound
  else if pathSizeLimit ≤ Text.utf8Size path then .error .nameTooLong
  else follow t.root makesFile maxLinks (if isAbsolute path then [] else t.current) (steps path)

/-- The node that a path leads to. -/
def node? (t : FileTree) (path : Text) : Except FileFault Node :=
  match t.resolve false path with
  | .error fault => .error fault
  | .ok (.free _ _) => .error .notFound
  | .ok (.occupied location) =>
    match t.root.at? location with
    | some n => .ok n
    | none => .error .notFound

/-- Whether a path leads to a directory. -/
def isDirectory (t : FileTree) (path : Text) : Bool :=
  match t.node? path with
  | .ok (.dir _ _) => true
  | _ => false

/-- The entries of the directory that a path leads to. -/
def list (t : FileTree) (path : Text) : Except FileFault (List (Text × Node)) :=
  match t.node? path with
  | .error fault => .error fault
  | .ok (.dir es access) => if access.reads then .ok es else .error .permissionDenied
  | .ok _ => .error .notADirectory

/-- The content of the file that a path leads to. -/
def read (t : FileTree) (path : Text) : Except FileFault (List UInt8) :=
  match t.node? path with
  | .error fault => .error fault
  | .ok n =>
    if !n.access.reads then .error .permissionDenied
    else match n with
    | .file content _ => .ok content
    | _ => .error .isADirectory

/-- Puts a file with some content where a path leads, in the place of a file that is there. -/
def write (t : FileTree) (path : Text) (content : List UInt8) : Except FileFault FileTree :=
  match t.resolve true path with
  | .error fault => .error fault
  | .ok (.free dir name) =>
    if (t.root.at? dir).any fun n => n.access.writes then
      .ok { t with root := t.root.put (dir ++ [name]) (.file content .full) }
    else .error .permissionDenied
  | .ok (.occupied location) =>
    match t.root.at? location with
    | some (.file _ access) =>
      if access.writes then .ok { t with root := t.root.put location (.file content access) }
      else .error .permissionDenied
    | _ => .error .isADirectory

end FileTree

end AccessLint.Files
