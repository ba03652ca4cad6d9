import AccessLint.Command.Run

namespace AccessLint.Command

/-!
# The program

A run is a pure function, so `main` first copies what the run may look at from disk, and afterwards
writes what the run has left. There is no web client here: nobody answers a request.

* `DiskWalk` — a way along a path, on disk and in a file tree;
* `snapshot` — the files that a run with some options may look at;
* `main` — the program.
-/

open Files (FileTree Node Access Location Selection)

/-- The place on disk that a path leads to. -/
def onDisk (path : Text) : IO.FS.DirEntry := { root := ".", fileName := String.ofList path }

/-- Whether an action on disk succeeds. -/
def succeeds {α : Type} (act : IO α) : IO Bool := do
  match ← act.toBaseIO with
  | .ok _ => return true
  | .error _ => return false

/-- A file with its content and its rights. Opening it does not change it. -/
def copyFile (e : IO.FS.DirEntry) : IO Node := do
  let writes ← succeeds (IO.FS.Handle.mk e.path .readWrite)
  match ← (IO.FS.readBinFile e.path).toBaseIO with
  | .ok content => return .file content.toList { reads := true, writes, searches := false }
  | .error _ => return .file [] { reads := false, writes, searches := false }

mutual

/-- What stands in a directory; nothing, and without the right to list it, if that fails. -/
partial def copyEntries (s : Selection) (e : IO.FS.DirEntry) : IO Node := do
  match ← e.path.readDir.toBaseIO with
  | .ok entries =>
    return .dir (← entries.toList.mapM fun d => return (d.fileName.toList, ← copyEntry s d)) .full
  | .error _ => return .dir [] { Access.full with reads := false }

/-- What stands at an entry of a directory. Files and directories that the selection leaves out are
    empty, and a link leads nowhere, since none is followed there. What cannot be looked at is a file
    that cannot be read. -/
partial def copyEntry (s : Selection) (e : IO.FS.DirEntry) : IO Node := do
  let name := e.fileName.toList
  let .ok found ← e.path.symlinkMetadata.toBaseIO | return .file [] ⟨false, false, false⟩
  match found.type with
  | .dir => if s.excluded.contains name then return .dir [] .full else copyEntries s e
  | .file => if s.admits name then copyFile e else return .file [] .full
  | _ => return .link []

end

/-- A place on disk and in a tree at the same time. -/
structure DiskWalk where
  files : FileTree
  here : Location
  disk : Text

namespace DiskWalk

/-- Puts a node where the walk is. -/
def put (w : DiskWalk) (n : Node) : DiskWalk :=
  { w with files := { w.files with root := w.files.root.put w.here n } }

/-- Takes from the directory where the walk is the right to be searched. -/
def denySearch (w : DiskWalk) : DiskWalk :=
  match w.files.root.at? w.here with
  | some (.dir es access) => w.put (.dir es { access with searches := false })
  | _ => w

/-- Takes a step of a path. What stands there on disk is put into the tree; a directory that is not
    in the tree yet is put there without its entries. -/
def enter (w : DiskWalk) (step : Text) : IO DiskWalk := do
  let next := { w with
    disk := Files.join w.disk step
    here := if Files.staysHere step then w.here
      else if Files.leadsUp step then w.here.dropLast
      else w.here ++ [step] }
  match ← (onDisk next.disk).path.metadata.toBaseIO with
  | .error (.permissionDenied ..) => return { next with files := w.denySearch.files }
  | .error _ => return next
  | .ok found =>
    match found.type, next.files.root.at? next.here with
    | .dir, some _ => return next
    | .dir, none => return next.put (.dir [] .full)
    | _, _ => return next.put (← copyFile (onDisk next.disk))

/-- Takes all steps of a path. -/
def along (files : FileTree) (path : Text) : IO DiskWalk :=
  (Files.steps path).foldlM enter
    (if Files.isAbsolute path then ⟨files, [], ['/']⟩ else ⟨files, files.current, ['.']⟩)

/-- Copies the directory where the walk is, if there is one. -/
def copyHere (w : DiskWalk) : IO DiskWalk := do
  if let some (.dir _ _) := w.files.root.at? w.here then
    return w.put (← copyEntries .default (onDisk w.disk))
  return w

end DiskWalk

/-- The tree of the current directory alone. -/
def emptySnapshot : IO FileTree := do
  let current := (Files.steps (← IO.currentDir).toString.toList).filter (!Files.staysHere ·)
  return ⟨Node.put (.dir [] .full) current (.dir [] .full), current⟩

/-- The files that a run with some options may look at. -/
def snapshot (o : Options) (env : Environment) : IO FileTree := do
  let files ← emptySnapshot
  let files ← match (o.inputIn env).map Target.ofText with
    | some (.directory path) =>
      if o.listRules then pure files
      else pure (← (← DiskWalk.along files path).copyHere).files
    | _ => pure files
  let w ← DiskWalk.along files o.configPath
  return (← DiskWalk.along w.files ((o.reportIn env).getD [])).files

/-- The variables that a run may look at. -/
def environment : IO Environment := do
  let names := ["INPUT_URL", "INPUT_INPUT", "INPUT_REPORT", "RUST_LOG", "NO_COLOR"]
  names.filterMapM fun name => do
    return (← IO.getEnv name).map fun v => (name.toList, v.toList)

/-- Writes the file of a path to disk if a run has changed it. -/
def writeBack (before after : FileTree) (path : Text) : IO Unit :=
  match after.node? path with
  | .ok (.file content _) =>
    match before.node? path with
    | .ok (.file old _) => if content = old then return else write content
    | _ => write content
  | _ => return
where
  write (content : List UInt8) : IO Unit :=
    IO.FS.writeBinFile (onDisk path).path ⟨content.toArray⟩

/-- The same files, in which no file can be made where a path leads. -/
def denyWriting (files : FileTree) (path : Text) : FileTree :=
  match files.resolve true path with
  | .ok (.free dir _) =>
    match files.root.at? dir with
    | some (.dir es access) =>
      { files with root := files.root.put dir (.dir es { access with writes := false }) }
    | _ => files
  | _ => files

end AccessLint.Command

open AccessLint.Command in
/-- The program: its exit status is that of the run. -/
def main (args : List String) : IO UInt32 := do
  let args := args.map String.toList
  let env ← environment
  let (files, report) ← match Invocation.ofArgs? args with
    | some (.run o) => pure (← snapshot o env, o.reportIn env)
    | some _ => pure (← emptySnapshot, none)
    | none =>
      IO.eprint (String.ofList usage)
      pure (← emptySnapshot, none)
  let terminal ← (← IO.getStdout).isTty
  let outcome := run args env terminal files fun _ _ => none
  let written ← succeeds (report.forM (writeBack files outcome.files))
  -- the right to make a file is not known before, so a run whose file cannot be made is made again
  let outcome := if written then outcome
    else run args env terminal (denyWriting files (report.getD [])) fun _ _ => none
  IO.print (String.ofList outcome.output)
  outcome.log.forM fun e => IO.eprintln (String.ofList (e.level.name ++ ' ' :: e.message))
  return outcome.status.toUInt32
