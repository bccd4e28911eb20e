import EnvInject.Elapsed
import EnvInject.FileTree.Edit
import EnvInject.Log.Plain
import EnvInject.Pattern.Basic
import EnvInject.Program

/-!
# Command line program

Reads the directory that the arguments name into a file tree, executes the program on it, writes
back the files that have other contents after it, and prints what the program prints. All that is
decided is decided by `Program.execute`.
-/

namespace EnvInject.Main

/-- A file of the directory as it was read. -/
structure Loaded where
  /-- The path under which it was read. -/
  path : Path
  /-- Its path without links. -/
  real : String
  /-- What the system tells about it. -/
  metadata : IO.FS.Metadata
  contents : Bytes

/-- A tree that is being read from a directory. -/
structure Loading where
  tree : FileTree
  files : List Loaded

/-- Whether two paths lead to one file: a lock under one path is in the way of a lock under the
other. A file that cannot be opened, or that another process has locked, is no other file. -/
def isOneFile (path other : String) : IO Bool := do
  try
    let handle ← IO.FS.Handle.mk path .read
    let otherHandle ← IO.FS.Handle.mk other .read
    if !(← handle.tryLock) then return false
    let free ← otherHandle.tryLock
    if free then otherHandle.unlock
    handle.unlock
    return !free
  catch _ => return false

/-- Whether two files are one: they have one path without links, or they are hard links. The system
does not number files here. What it tells about them rules most pairs out, and a lock decides. -/
def Loaded.isSame (a b : Loaded) : IO Bool := do
  if a.real == b.real then return true
  let mayBeLinks := a.metadata.numLinks > 1 && a.metadata.numLinks == b.metadata.numLinks
    && a.metadata.byteSize == b.metadata.byteSize && a.metadata.modified == b.metadata.modified
  if mayBeLinks then isOneFile a.real b.real else return false

/-- The contents of a file. -/
def readBytes (path : String) : IO Bytes := do
  return (← IO.FS.readBinFile path).toList

/-- Whether an action succeeds. -/
def succeeds (action : IO Unit) : IO Bool :=
  try
    action
    return true
  catch _ => return false

/-- Reads a regular file. -/
def loadFile (loading : Loading) (path : Path) (real : String) (metadata : IO.FS.Metadata) :
    IO Loading := do
  let isReadable ← succeeds do discard <| IO.FS.Handle.mk real .read
  let isWritable ← succeeds do discard <| IO.FS.Handle.mk real .readWrite
  let contents ← if isReadable then readBytes real else pure []
  let file : Loaded := ⟨path, real, metadata, contents⟩
  match ← loading.files.findM? (·.isSame file) with
  | some first => return { loading with tree := loading.tree.hardlink path first.path }
  | none =>
    let mode := (if isReadable then 0o444 else 0) + (if isWritable then 0o200 else 0)
    return ⟨(loading.tree.write path contents).chmod path (.ofMode mode), file :: loading.files⟩

/-- Reads one entry of the directory. An entry that leads nowhere becomes a link to itself. -/
def loadEntry (loading : Loading) (path : Path) : IO Loading := do
  try
    let real ← IO.FS.realPath (Utf8.lossy path)
    let metadata ← real.metadata
    match metadata.type with
    | .dir => return { loading with tree := loading.tree.mkdir path }
    | .file => loadFile loading path real.toString metadata
    | _ => return { loading with tree := loading.tree.special path }
  catch _ => return { loading with tree := loading.tree.symlink path path }

/-- Reads the entries of a directory, which may refuse to list them. -/
def loadEntries (directory : Path) (loading : Loading) : IO Loading := do
  try
    let entries ← (← IO.FS.realPath (Utf8.lossy directory)).readDir
    entries.foldlM (fun loading entry =>
      loadEntry loading (directory.entry (Utf8.encode entry.fileName))) loading
  catch _ => return { loading with tree := loading.tree.chmod directory (.ofMode 0o311) }

/-- Reads a directory, or whatever else a path leads to. -/
def load (directory : Path) : IO Loading := do
  let start : Loading := ⟨.empty, []⟩
  try
    let real ← IO.FS.realPath (Utf8.lossy directory)
    if !(← real.pathExists) then return start
    if ← real.isDir then
      loadEntries directory { start with tree := start.tree.mkdir directory }
    else return { start with tree := start.tree.write directory [] }
  catch _ => return start

/-- Writes back a file, if it has other contents now. -/
def store (tree : FileTree) (file : Loaded) : IO Unit := do
  match tree.read file.path with
  | .ok contents =>
    if contents != file.contents then
      IO.FS.writeBinFile file.real ⟨contents.toArray⟩
  | .error _ => pure ()

/-- The libraries of this program. -/
def libraries : Program.Libraries :=
  ⟨.regular, .plain⟩

/-- The variables of this process. -/
def processVariables : IO Variables := do
  try
    return .ofBlock (← readBytes "/proc/self/environ")
  catch _ => return ⟨[]⟩

/-- Executes the program. -/
def execute (arguments : List String) : IO UInt32 := do
  let started ← IO.monoNanosNow
  let vars ← processVariables
  let arguments := arguments.map Utf8.encode
  let loading ←
    match CommandLine.parse vars arguments with
    | .ok config => load config.directory
    | .error _ => pure ⟨.empty, []⟩
  let elapsed := (← IO.monoNanosNow) - started
  let clock : Program.Clock := ⟨elapsedText started, elapsedText elapsed⟩
  let execution := Program.execute libraries clock vars arguments loading.tree
  loading.files.forM (store execution.tree)
  (← IO.getStdout).putStr execution.output
  (← IO.getStderr).putStr execution.errors
  return execution.status.toUInt32

end EnvInject.Main

/-- Fills in the placeholders of a directory. -/
def main (arguments : List String) : IO UInt32 :=
  EnvInject.Main.execute arguments
