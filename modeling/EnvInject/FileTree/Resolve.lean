import EnvInject.FileTree.Basic

/-!
# Where a path leads

`FileTree.resolve` follows a path piece by piece from the working directory, or from the root if
the path is absolute. The place reached is kept together with the directories passed, the innermost
first, so that `..` leads back to the directory that was entered last.

A symbolic link is replaced by the pieces of its text, which start from the directory that holds
the link. At most `linkLimit` links are followed.
-/

namespace EnvInject

namespace FileTree

/-- A place in the tree: a node and the directories passed on the way, the innermost first. -/
abbrev Place := List NodeId

/-- Where a walk along some pieces ends. -/
inductive Stop where
  /-- At the end of the pieces. -/
  | arrived (place : Place)
  /-- At a symbolic link, with the pieces still to follow from a place. -/
  | link (place : Place) (pieces : List Bytes)
  | failed (cause : FileError)
  deriving DecidableEq, Repr

/-- The greatest length of one piece of a path. -/
def nameLimit : Nat := 255

/-- The length from which on a path is too long. -/
def pathLimit : Nat := 4096

/-- The number of symbolic links that one path may lead through. -/
def linkLimit : Nat := 40

/-- The place that absolute paths start from. -/
def rootPlace (tree : FileTree) : Place :=
  tree.workingDirectory.getLast?.toList

/-- The place that a path starts from, for someone at `place`. -/
def startOf (tree : FileTree) (place : Place) (path : Path) : Place :=
  if path.isAbsolute then tree.rootPlace else place

/-- The directory above a place; the root is above itself. -/
def placeAbove : Place → Place
  | _ :: above :: rest => above :: rest
  | place => place

/-- The node at a place. -/
def nodeAt? (tree : FileTree) (place : Place) : Option Node :=
  place.head?.bind tree.node?

/-- Follows pieces up to the first symbolic link. An empty piece, as between two slashes or after
the last one, asks only that a directory has been reached. -/
def walk (tree : FileTree) (place : Place) : List Bytes → Stop
  | [] => .arrived place
  | piece :: rest =>
    match tree.nodeAt? place with
    | some ⟨.directory entries, mode⟩ =>
      if piece.isEmpty then tree.walk place rest
      else if !Node.searchable ⟨.directory entries, mode⟩ then .failed .denied
      else if piece = Path.self then tree.walk place rest
      else if piece = Path.above then tree.walk (placeAbove place) rest
      else if piece.length > nameLimit then .failed .nameTooLong
      else
        match entries.lookup piece with
        | none => .failed .notFound
        | some id =>
          match tree.node? id with
          | some ⟨.link target, _⟩ =>
            .link (tree.startOf place target) (Path.pieces target ++ rest)
          | _ => tree.walk (id :: place) rest
    | _ => .failed .notADirectory

/-- Follows pieces through at most `links` symbolic links. -/
def follow (tree : FileTree) (links : Nat) (place : Place) (pieces : List Bytes) :
    Except FileError Place :=
  match tree.walk place pieces with
  | .arrived place => .ok place
  | .failed cause => .error cause
  | .link place pieces =>
    match links with
    | 0 => .error .tooManyLinks
    | links + 1 => tree.follow links place pieces

/-- The place that a path leads to. -/
def resolve (tree : FileTree) (path : Path) : Except FileError Place :=
  if path.contains 0 then .error .nulInPath
  else if path.isEmpty then .error .notFound
  else if path.length ≥ pathLimit then .error .nameTooLong
  else tree.follow linkLimit (tree.startOf tree.workingDirectory path) (Path.pieces path)

/-- The node that a path leads to, with its number. -/
def find? (tree : FileTree) (path : Path) : Except FileError (NodeId × Node) :=
  match tree.resolve path with
  | .error cause => .error cause
  | .ok place =>
    match place.head?, tree.nodeAt? place with
    | some id, some node => .ok (id, node)
    | _, _ => .error .notFound

end FileTree

end EnvInject
