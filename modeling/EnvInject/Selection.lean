import EnvInject.Failure
import EnvInject.FileTree.Access
import EnvInject.Log.Event
import EnvInject.Placeholder.Basic

/-!
# Selecting files

`select` lists the regular files directly inside a directory whose names are wanted, in ascending
order of their names. A symbolic link counts as the file it leads to; one that leads nowhere does
not count. A file with several wanted names is selected once, under the first of them.

Names are judged and ordered by the text that a reader sees.
-/

namespace EnvInject

/-- A file to work on and the placeholders known to stand in it. -/
structure FileRecord where
  path : Path
  /-- Its placeholders, in ascending order; none before it was scanned. -/
  tokens : List Token
  deriving DecidableEq, Repr

/-- A file that has not been scanned. -/
def FileRecord.ofPath (path : Path) : FileRecord :=
  ⟨path, []⟩

/-- What reports call the file. -/
def FileRecord.displayName (record : FileRecord) : String :=
  Path.displayName record.path

namespace Selection

/-- An entry of the directory that is a wanted file. -/
structure Candidate where
  name : String
  path : Path
  /-- The file that it leads to. -/
  file : NodeId
  deriving DecidableEq, Repr

/-- The paths of the entries whose names are wanted, in the order of the directory, each with its
name as text. -/
def wantedEntries (isWanted : String → Bool) (directory : Path)
    (entries : List (Bytes × NodeId)) : List (String × Path) :=
  (entries.map fun (name, _) => (Utf8.lossy name, directory.entry name)).filter (isWanted ·.1)

/-- The wanted entries that lead to regular files. -/
def candidates (tree : FileTree) (wanted : List (String × Path)) : List Candidate :=
  wanted.filterMap fun (name, path) => (tree.regularFile? path).map (⟨name, path, ·⟩)

/-- Candidates in ascending order of the bytes of their names; those with equal names keep their
order. -/
def inNameOrder (found : List Candidate) : List Candidate :=
  found.mergeSort fun a b => decide (Utf8.encode a.name ≤ Utf8.encode b.name)

/-- The first candidate of each file, where those of `seen` had theirs before. -/
def firstNames (seen : List NodeId) : List Candidate → List Candidate
  | [] => []
  | candidate :: rest =>
    if seen.contains candidate.file then firstNames seen rest
    else candidate :: firstNames (candidate.file :: seen) rest

/-- The candidates whose file has an earlier name. -/
def furtherNames (seen : List NodeId) : List Candidate → List Candidate
  | [] => []
  | candidate :: rest =>
    if seen.contains candidate.file then candidate :: furtherNames seen rest
    else furtherNames (candidate.file :: seen) rest

/-- The entries of the directory to select from, or why there are none. -/
def entriesOf (tree : FileTree) (directory : Path) :
    Except Failure (List (Bytes × NodeId)) :=
  match tree.find? directory with
  | .error cause => .error (.io directory cause)
  | .ok (_, ⟨.directory _, _⟩) =>
    match tree.list directory with
    | .error cause => .error (.io directory cause)
    | .ok entries => .ok entries
  | .ok _ => .error (.notADirectory directory)

end Selection

open Selection in
/-- The wanted files of a directory. -/
def select (tree : FileTree) (directory : Path) (isWanted : String → Bool) :
    Except Failure (List FileRecord) := do
  let entries ← entriesOf tree directory
  let found := inNameOrder (candidates tree (wantedEntries isWanted directory entries))
  return (firstNames [] found).map (FileRecord.ofPath ·.path)

open Selection in
/-- The log of a selection. -/
def selectionEvents (tree : FileTree) (directory : Path) (isWanted : String → Bool) :
    List Log.Event :=
  match entriesOf tree directory with
  | .error _ => []
  | .ok entries =>
    let wanted := wantedEntries isWanted directory entries
    let found := inNameOrder (candidates tree wanted)
    let others := wanted.filter fun (_, path) => (tree.regularFile? path).isNone
    others.map (.skippedEntry ·.2)
      ++ (furtherNames [] found).map (.skippedAlias ·.path)
      ++ [.selected directory (firstNames [] found).length]

end EnvInject
