import EnvInject.FileTree.Resolve

/-!
# Snapshots

A snapshot lists everything below the working directory: the path of each entry and what stands
there, in ascending order of the path's bytes.
-/

namespace EnvInject

/-- What stands at a path of a snapshot. -/
inductive Sight where
  | directory
  | file (contents : Bytes)
  | link (target : Path)
  | other
  deriving DecidableEq, Repr

namespace FileTree

/-- What is seen of a node. -/
def sightOf : Node.Kind → Sight
  | .file contents => .file contents
  | .directory _ => .directory
  | .link target => .link target
  | .special => .other

/-- The entries below a node, at most `depth` levels down, the path of the node in front of each
name. -/
def sightsBelow (tree : FileTree) : (depth : Nat) → Path → NodeId → List (Path × Sight)
  | 0, _, _ => []
  | depth + 1, path, id =>
    match tree.node? id with
    | some ⟨.directory entries, _⟩ =>
      entries.flatMap fun (name, id) =>
        match tree.node? id with
        | none => []
        | some node =>
          (path.entry name, sightOf node.kind) :: tree.sightsBelow depth (path.entry name) id
    | _ => []

/-- Everything below the working directory. No directory lies below itself, so the number of nodes
bounds the depth. -/
def snapshot (tree : FileTree) : List (Path × Sight) :=
  match tree.workingDirectory.head? with
  | none => []
  | some id =>
    (tree.sightsBelow tree.nodes.length [] id).mergeSort fun a b => decide (a.1 ≤ b.1)

end FileTree

end EnvInject
