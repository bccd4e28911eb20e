import EnvInject.FileTree.Resolve

/-!
# Building and changing trees

What the owner of a tree does to it from outside: making, linking, moving and removing entries and
setting permission bits. Where a path names an entry to be made, missing directories above it are
made first. An edit that has nothing to work on leaves the tree as it is.
-/

namespace EnvInject

namespace FileTree

/-- The directory at a place: its number and entries. -/
def directoryAt? (tree : FileTree) (path : Path) : Option (NodeId × List (Bytes × NodeId)) :=
  match tree.find? path with
  | .ok (id, ⟨.directory entries, _⟩) => some (id, entries)
  | _ => none

/-- Entries with a name bound to a node, at the place of its old entry or else at the end. -/
def bindEntry (name : Bytes) (id : NodeId) : List (Bytes × NodeId) → List (Bytes × NodeId)
  | [] => [(name, id)]
  | entry :: rest =>
    if entry.1 = name then (name, id) :: rest else entry :: bindEntry name id rest

/-- The node that the entry at a path names; a symbolic link at its end is not followed. -/
def entry? (tree : FileTree) (path : Path) : Option NodeId :=
  let (directory, name) := path.parent
  (tree.directoryAt? directory).bind (·.2.lookup name)

/-- The tree with the entry at a path bound to a node. -/
def bind (tree : FileTree) (path : Path) (id : NodeId) : FileTree :=
  let (directory, name) := path.parent
  match tree.directoryAt? directory with
  | none => tree
  | some (holder, entries) => tree.setKind holder (.directory (bindEntry name id entries))

/-- The tree without the entry at a path. -/
def unbind (tree : FileTree) (path : Path) : FileTree :=
  let (directory, name) := path.parent
  match tree.directoryAt? directory with
  | none => tree
  | some (holder, entries) =>
    tree.setKind holder (.directory (entries.filter (·.1 != name)))

/-- The tree with a new node at a path. -/
def place (tree : FileTree) (path : Path) (node : Node) : FileTree :=
  let (grown, id) := tree.addNode node
  grown.bind path id

/-- The paths of the directories that lead to a path, the outermost first, and the path itself. -/
def pathsTo (path : Path) : List Path :=
  let ends := (List.range (path.length + 1)).filter fun n =>
    n > 0 && path[n - 1]? != some Path.separator
      && (n == path.length || path[n]? == some Path.separator)
  ends.map path.take

/-- The tree with a directory at a path and all directories above it. -/
def mkdir (tree : FileTree) (path : Path) : FileTree :=
  (pathsTo path).foldl (fun tree path =>
    match tree.resolve path with
    | .ok _ => tree
    | .error _ => tree.place path ⟨.directory [], Node.directoryMode⟩) tree

/-- The tree with all directories above the entry at a path. -/
def mkdirAbove (tree : FileTree) (path : Path) : FileTree :=
  tree.mkdir path.parent.1

/-- The path of the entry that a write to a path goes to, through at most `links` symbolic links
that lead nowhere yet. -/
def writeTarget (tree : FileTree) (path : Path) : (links : Nat) → Path
  | 0 => path
  | links + 1 =>
    match (tree.entry? path).bind tree.node? with
    | some ⟨.link target, _⟩ =>
      tree.writeTarget (if target.isAbsolute then target else path.parent.1.entry target) links
    | _ => path

/-- The tree with a file of these contents at a path. A file that is there keeps its number. -/
def write (tree : FileTree) (path : Path) (contents : Bytes) : FileTree :=
  let tree := tree.mkdirAbove path
  match tree.find? path with
  | .ok (id, ⟨.file _, _⟩) => tree.setKind id (.file contents)
  | .ok _ => tree
  | .error _ =>
    let target := tree.writeTarget path linkLimit
    match tree.entry? target with
    | some _ => tree
    | none => tree.place target ⟨.file contents, Node.fileMode⟩

/-- The tree with a symbolic link at a path. -/
def symlink (tree : FileTree) (path target : Path) : FileTree :=
  let tree := tree.mkdirAbove path
  match tree.entry? path with
  | some _ => tree
  | none => tree.place path ⟨.link target, Node.linkMode⟩

/-- The tree with a special file at a path. -/
def special (tree : FileTree) (path : Path) : FileTree :=
  let tree := tree.mkdirAbove path
  match tree.entry? path with
  | some _ => tree
  | none => tree.place path ⟨.special, Node.directoryMode⟩

/-- The tree with one more name for the node that another path names. -/
def hardlink (tree : FileTree) (path existing : Path) : FileTree :=
  let tree := tree.mkdirAbove path
  match tree.entry? existing, tree.entry? path with
  | some id, none => tree.bind path id
  | _, _ => tree

/-- The tree with an entry moved to a path, in place of what was there. Two names of one node both
stay. -/
def rename (tree : FileTree) (source path : Path) : FileTree :=
  let tree := tree.mkdirAbove path
  match tree.entry? source with
  | none => tree
  | some id => if tree.entry? path = some id then tree else (tree.unbind source).bind path id

/-- The tree without an entry, and all below it. -/
def remove (tree : FileTree) (path : Path) : FileTree :=
  tree.unbind path

/-- The tree with other permission bits on the node that a path leads to. -/
def chmod (tree : FileTree) (path : Path) (mode : Permissions) : FileTree :=
  match tree.find? path with
  | .ok (id, node) => tree.setNode id { node with mode }
  | .error _ => tree

end FileTree

end EnvInject
