import EnvInject.FileTree.Resolve

/-!
# Reading, listing and writing

The uses of a tree that respect permission bits. Writing is in place: the file keeps its number,
its bits and all its names.
-/

namespace EnvInject

namespace FileTree

/-- The number of the regular file that a path leads to; none if it leads to something else or
nowhere, or cannot be followed. -/
def regularFile? (tree : FileTree) (path : Path) : Option NodeId :=
  match tree.find? path with
  | .ok (id, ⟨.file _, _⟩) => some id
  | _ => none

/-- The contents of a file. -/
def read (tree : FileTree) (path : Path) : Except FileError Bytes :=
  match tree.find? path with
  | .error cause => .error cause
  | .ok (_, node) =>
    if !node.readable then .error .denied
    else
      match node.kind with
      | .file contents => .ok contents
      | .directory _ => .error .isADirectory
      | .link _ | .special => .error .noDevice

/-- The names in a directory and the nodes behind them, in the order of the directory. -/
def list (tree : FileTree) (path : Path) : Except FileError (List (Bytes × NodeId)) :=
  match tree.find? path with
  | .error cause => .error cause
  | .ok (_, node) =>
    match node.kind with
    | .directory entries => if node.readable then .ok entries else .error .denied
    | _ => .error .notADirectory

/-- The tree with other contents in a file that exists. -/
def overwrite (tree : FileTree) (path : Path) (contents : Bytes) : Except FileError FileTree :=
  match tree.find? path with
  | .error cause => .error cause
  | .ok (id, node) =>
    match node.kind with
    | .directory _ => .error .isADirectory
    | .file _ =>
      if node.writable then .ok (tree.setNode id { node with kind := .file contents })
      else .error .denied
    | .link _ | .special => if node.writable then .error .noDevice else .error .denied

end FileTree

end EnvInject
