import EnvInject.Path

/-!
# File trees

A file tree is what a program finds behind paths: files, directories, symbolic links and special
files, each a numbered node. A directory maps names to node numbers, so one file may have several
names; its number is its identity.

Every node has permission bits, of which those of the owner are enforced. The bits that have a file
run as its owner or its group are not part of a tree: a write by the owner takes them away.
-/

namespace EnvInject

/-- The identity of a node, whatever names lead to it. -/
abbrev NodeId := Nat

/-- What a node is. -/
inductive Node.Kind where
  | file (contents : Bytes)
  /-- A directory: names and the nodes behind them, in the order in which it lists them. -/
  | directory (entries : List (Bytes × NodeId))
  /-- A symbolic link with its text. -/
  | link (target : Path)
  /-- A socket, or any other node that holds neither bytes nor names. -/
  | special
  deriving DecidableEq, Repr

/-- The nine permission bits: read, write and execute for owner, group and others. -/
abbrev Permissions := Fin 0o1000

/-- The permission bits of a mode. -/
def Permissions.ofMode (mode : Nat) : Permissions := .ofNat 0o1000 mode

/-- One node of a file tree. -/
structure Node where
  kind : Node.Kind
  mode : Permissions
  deriving DecidableEq, Repr

namespace Node

/-- Whether the owner may read. -/
def readable (node : Node) : Bool := node.mode.val.testBit 8

/-- Whether the owner may write. -/
def writable (node : Node) : Bool := node.mode.val.testBit 7

/-- Whether the owner may reach the entries of a directory. -/
def searchable (node : Node) : Bool := node.mode.val.testBit 6

/-- The bits of a new file: the owner may write, all may read. -/
def fileMode : Permissions := 0o644

/-- The bits of a new directory: the owner may write, all may list and enter it. -/
def directoryMode : Permissions := 0o755

/-- The bits of a symbolic link, which nothing depends on. -/
def linkMode : Permissions := 0o777

end Node

/-- Files, directories and links, and where in them relative paths start. -/
structure FileTree where
  /-- The nodes; the place of a node is its number. -/
  nodes : List Node
  /-- The directory that relative paths start from and those above it, the root last. -/
  workingDirectory : List NodeId
  deriving DecidableEq, Repr

namespace FileTree

/-- A tree with an empty directory to work in. Nothing is known of the directories above it, which
are empty as well: the root does not name the working directory. -/
def empty : FileTree :=
  ⟨[⟨.directory [], Node.directoryMode⟩, ⟨.directory [], Node.directoryMode⟩], [1, 0]⟩

/-- The node with a number. -/
def node? (tree : FileTree) (id : NodeId) : Option Node :=
  tree.nodes[id]?

/-- The tree with another node under a number in use. -/
def setNode (tree : FileTree) (id : NodeId) (node : Node) : FileTree :=
  { tree with nodes := tree.nodes.set id node }

/-- The tree with another kind of node under a number, its permission bits kept. -/
def setKind (tree : FileTree) (id : NodeId) (kind : Node.Kind) : FileTree :=
  match tree.node? id with
  | none => tree
  | some node => tree.setNode id { node with kind }

/-- The tree with one more node, and the number of that node. -/
def addNode (tree : FileTree) (node : Node) : FileTree × NodeId :=
  ({ tree with nodes := tree.nodes ++ [node] }, tree.nodes.length)

end FileTree

/-- Why a path cannot be used. -/
inductive FileError where
  | notFound
  | denied
  | notADirectory
  | isADirectory
  | nameTooLong
  | tooManyLinks
  /-- A special file cannot be opened. -/
  | noDevice
  | nulInPath
  deriving DecidableEq, Repr

/-- What the system calls the error. -/
def FileError.message : FileError → String
  | .notFound => "No such file or directory (os error 2)"
  | .denied => "Permission denied (os error 13)"
  | .notADirectory => "Not a directory (os error 20)"
  | .isADirectory => "Is a directory (os error 21)"
  | .nameTooLong => "File name too long (os error 36)"
  | .tooManyLinks => "Too many levels of symbolic links (os error 40)"
  | .noDevice => "No such device or address (os error 6)"
  | .nulInPath => "file name contained an unexpected NUL byte"

end EnvInject
