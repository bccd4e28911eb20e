import EnvInject.FileTree.Access
import Mathlib.Data.List.Basic

/-!
# Changing contents only

`FileTree.mapContents` changes the contents of files and nothing else: names, links, permission bits
and the numbers of nodes stay. Where a path leads does not depend on contents, because a walk looks
only at directories and links (`walk_shape`), so paths lead to the same nodes before and after
(`find?_mapContents`).

A file that is overwritten in a tree whose contents were changed is one more change of contents
(`overwrite_mapContents`). A run of writes is thus one `mapContents`.
-/

namespace EnvInject

/-- The node with other contents, if it is a file. -/
def Node.mapContents (change : Bytes → Bytes) (node : Node) : Node :=
  match node.kind with
  | .file contents => { node with kind := .file (change contents) }
  | _ => node

/-- The node without its contents. -/
def Node.shape (node : Node) : Node :=
  node.mapContents fun _ => []

theorem Node.mapContents_mapContents (first second : Bytes → Bytes) (node : Node) :
    (node.mapContents first).mapContents second = node.mapContents (second ∘ first) := by
  rcases node with ⟨kind, mode⟩
  cases kind <;> rfl

@[simp] theorem Node.shape_mapContents (change : Bytes → Bytes) (node : Node) :
    (node.mapContents change).shape = node.shape :=
  node.mapContents_mapContents _ _

namespace FileTree

/-- The tree with the contents of each file changed. -/
def mapContents (change : NodeId → Bytes → Bytes) (tree : FileTree) : FileTree :=
  { tree with nodes := tree.nodes.mapIdx fun id node => node.mapContents (change id) }

/-- The tree without the contents of files. -/
def shape (tree : FileTree) : FileTree :=
  { tree with nodes := tree.nodes.map Node.shape }

theorem node?_mapContents (change : NodeId → Bytes → Bytes) (tree : FileTree) (id : NodeId) :
    (tree.mapContents change).node? id = (tree.node? id).map (Node.mapContents (change id)) := by
  simp [node?, mapContents]

theorem node?_shape (tree : FileTree) (id : NodeId) :
    tree.shape.node? id = (tree.node? id).map Node.shape := by
  simp [node?, shape]

/-- Contents are no part of the shape, so changing them keeps it. What depends on the shape alone
does not see the change. -/
theorem shape_mapContents (change : NodeId → Bytes → Bytes) (tree : FileTree) :
    (tree.mapContents change).shape = tree.shape := by
  have same : (tree.mapContents change).nodes.map Node.shape = tree.nodes.map Node.shape := by
    apply List.ext_getElem?
    intro id
    rw [List.getElem?_map, List.getElem?_map]
    exact (congrArg (Option.map Node.shape) (tree.node?_mapContents change id)).trans (by
      rw [Option.map_map]
      congr 1
      funext node
      exact node.shape_mapContents _)
  rw [shape, shape, same]
  rfl

/-- A change that keeps all contents keeps the tree. -/
theorem mapContents_of_kept {change : NodeId → Bytes → Bytes}
    (kept : ∀ id contents, change id contents = contents) (tree : FileTree) :
    tree.mapContents change = tree := by
  have same (id : NodeId) (node : Node) : node.mapContents (change id) = node := by
    rcases node with ⟨kind, mode⟩
    cases kind with
    | file contents => simp only [Node.mapContents, kept]
    | directory _ | link _ | special => rfl
  have nodes : (tree.mapContents change).nodes = tree.nodes := by
    apply List.ext_getElem?
    intro id
    have mapped := tree.node?_mapContents change id
    rw [funext (same id), Option.map_id'] at mapped
    exact mapped
  rw [mapContents, FileTree.mk.injEq]
  exact ⟨nodes, rfl⟩

/-! ## Paths do not depend on contents -/

theorem nodeAt?_shape (tree : FileTree) (place : Place) :
    tree.shape.nodeAt? place = (tree.nodeAt? place).map Node.shape := by
  cases place with
  | nil => rfl
  | cons id _ => exact tree.node?_shape id

theorem startOf_shape (tree : FileTree) (place : Place) (path : Path) :
    tree.shape.startOf place path = tree.startOf place path :=
  rfl

/-- A walk never reads a file: it goes the same way in the shape of a tree as in the tree. The
induction is on the pieces, and the case split on the node at which the walk stands. -/
theorem walk_shape (tree : FileTree) (place : Place) (pieces : List Bytes) :
    tree.shape.walk place pieces = tree.walk place pieces := by
  induction pieces generalizing place with
  | nil => rfl
  | cons piece rest ih =>
    cases here : tree.nodeAt? place with
    | none => simp only [walk, nodeAt?_shape, here, Option.map_none]
    | some node =>
      rcases node with ⟨kind, mode⟩
      cases kind with
      | file contents =>
        simp only [walk, nodeAt?_shape, here, Option.map_some, Node.shape, Node.mapContents]
      | link target =>
        simp only [walk, nodeAt?_shape, here, Option.map_some, Node.shape, Node.mapContents]
      | special =>
        simp only [walk, nodeAt?_shape, here, Option.map_some, Node.shape, Node.mapContents]
      | directory entries =>
        simp only [walk, nodeAt?_shape, here, Option.map_some, Node.shape, Node.mapContents, ih,
          node?_shape, startOf_shape]
        -- Only the node behind the entry was read in another tree.
        cases entries.lookup piece with
        | none => rfl
        | some id =>
          dsimp only
          cases tree.node? id with
          | none => rfl
          | some behind =>
            rcases behind with ⟨kind, mode⟩
            cases kind <;> rfl

theorem follow_shape (tree : FileTree) (links : Nat) (place : Place) (pieces : List Bytes) :
    tree.shape.follow links place pieces = tree.follow links place pieces := by
  induction links generalizing place pieces with
  | zero =>
    rw [follow, follow, walk_shape]
  | succ links ih =>
    rw [follow, follow, walk_shape]
    simp only [ih]

theorem resolve_shape (tree : FileTree) (path : Path) :
    tree.shape.resolve path = tree.resolve path := by
  rw [resolve, resolve, follow_shape]
  rfl

/-- Paths lead to the same nodes, whatever the contents. -/
theorem find?_mapContents (change : NodeId → Bytes → Bytes) (tree : FileTree) (path : Path) :
    (tree.mapContents change).find? path =
      (tree.find? path).map fun (id, node) => (id, node.mapContents (change id)) := by
  have place : (tree.mapContents change).resolve path = tree.resolve path := by
    rw [← resolve_shape, shape_mapContents, resolve_shape]
  rw [find?, find?, place]
  cases tree.resolve path with
  | error cause => rfl
  | ok place =>
    cases place with
    | nil => rfl
    | cons id _ =>
      have node := tree.node?_mapContents change id
      simp only [List.head?_cons, nodeAt?, Option.bind_some, node]
      cases tree.node? id with
      | none => rfl
      | some node => rfl

/-! ## Reading and writing -/

theorem find?_mapContents_of_file {tree : FileTree} {path : Path} {id : NodeId} {contents : Bytes}
    {mode : Permissions} (found : tree.find? path = .ok (id, ⟨.file contents, mode⟩))
    (change : NodeId → Bytes → Bytes) :
    (tree.mapContents change).find? path = .ok (id, ⟨.file (change id contents), mode⟩) := by
  rw [find?_mapContents, found]
  rfl

theorem regularFile?_mapContents (change : NodeId → Bytes → Bytes) (tree : FileTree) (path : Path) :
    (tree.mapContents change).regularFile? path = tree.regularFile? path := by
  rw [regularFile?, regularFile?, find?_mapContents]
  cases tree.find? path with
  | error cause => rfl
  | ok found =>
    rcases found with ⟨id, kind, mode⟩
    cases kind <;> rfl

theorem list_mapContents (change : NodeId → Bytes → Bytes) (tree : FileTree) (path : Path) :
    (tree.mapContents change).list path = tree.list path := by
  rw [list, list, find?_mapContents]
  cases tree.find? path with
  | error cause => rfl
  | ok found =>
    rcases found with ⟨id, kind, mode⟩
    cases kind <;> rfl

theorem node?_of_find? {tree : FileTree} {path : Path} {id : NodeId} {node : Node}
    (found : tree.find? path = .ok (id, node)) : tree.node? id = some node := by
  unfold find? at found
  split at found
  · cases found
  · rename_i place _
    split at found
    · rename_i first behind head here
      rw [nodeAt?, head, Option.bind_some] at here
      cases found
      exact here
    · cases found

theorem find?_of_regularFile? {tree : FileTree} {path : Path} {id : NodeId}
    (regular : tree.regularFile? path = some id) :
    ∃ contents mode, tree.find? path = .ok (id, ⟨.file contents, mode⟩) := by
  unfold regularFile? at regular
  split at regular
  · rename_i found
    cases regular
    exact ⟨_, _, found⟩
  · cases regular

theorem regularFile?_of_find? {tree : FileTree} {path : Path} {id : NodeId} {contents : Bytes}
    {mode : Permissions} (found : tree.find? path = .ok (id, ⟨.file contents, mode⟩)) :
    tree.regularFile? path = some id := by
  rw [regularFile?, found]

/-- Paths that lead to one file find the same. -/
theorem find?_eq_of_regularFile? {tree : FileTree} {path other : Path} {id : NodeId}
    (first : tree.regularFile? path = some id) (second : tree.regularFile? other = some id) :
    tree.find? path = tree.find? other := by
  obtain ⟨contents, mode, found⟩ := find?_of_regularFile? first
  obtain ⟨contents', mode', found'⟩ := find?_of_regularFile? second
  have same := (node?_of_find? found).symm.trans (node?_of_find? found')
  rw [found, found', Option.some.inj same]

theorem read_of_file {tree : FileTree} {path : Path} {id : NodeId} {contents : Bytes}
    {mode : Permissions} (found : tree.find? path = .ok (id, ⟨.file contents, mode⟩)) :
    tree.read path =
      if Node.readable ⟨.file contents, mode⟩ then .ok contents else .error .denied := by
  rw [read, found]
  cases readable : Node.readable ⟨.file contents, mode⟩ with
  | false => simp [readable]
  | true => simp [readable]

/-- What can be read is a regular file with these contents, which its permissions allow to read. -/
theorem find?_of_read {tree : FileTree} {path : Path} {contents : Bytes}
    (readable : tree.read path = .ok contents) :
    ∃ id mode, tree.find? path = .ok (id, ⟨.file contents, mode⟩) ∧
      Node.readable ⟨.file contents, mode⟩ = true := by
  unfold read at readable
  split at readable
  · cases readable
  · rename_i id node found
    rcases node with ⟨kind, mode⟩
    split at readable
    · cases readable
    · rename_i isReadable
      cases kind with
      | file held =>
        cases readable
        exact ⟨id, mode, found, by simpa using isReadable⟩
      | directory _ => cases readable
      | link _ => cases readable
      | special => cases readable

theorem read_mapContents {tree : FileTree} {path : Path} {id : NodeId}
    (regular : tree.regularFile? path = some id) (change : NodeId → Bytes → Bytes) :
    (tree.mapContents change).read path = (tree.read path).map (change id) := by
  obtain ⟨contents, mode, found⟩ := find?_of_regularFile? regular
  rw [read_of_file (find?_mapContents_of_file found change), read_of_file found, Node.readable,
    Node.readable]
  dsimp only
  split
  · rfl
  · rfl

/-- Contents written into one node of a changed tree are the next change, if the two changes agree
on all other nodes. -/
theorem setNode_mapContents {tree : FileTree} {id : NodeId} {contents : Bytes} {mode : Permissions}
    (here : tree.node? id = some ⟨.file contents, mode⟩) {change next : NodeId → Bytes → Bytes}
    (same : ∀ other ≠ id, next other = change other) :
    (tree.mapContents change).setNode id ⟨.file (next id contents), mode⟩ =
      tree.mapContents next := by
  have nodes : ((tree.mapContents change).nodes.set id ⟨.file (next id contents), mode⟩) =
      (tree.mapContents next).nodes := by
    apply List.ext_getElem?
    intro other
    have before := tree.node?_mapContents change other
    have after := tree.node?_mapContents next other
    rw [node?] at before after
    rw [List.getElem?_set, after]
    by_cases isWritten : id = other
    · subst isWritten
      obtain ⟨inside, -⟩ := List.getElem?_eq_some_iff.1 here
      rw [if_pos rfl, if_pos (by simpa [mapContents] using inside), here]
      rfl
    · rw [if_neg isWritten, before, same other (Ne.symm isWritten)]
  rw [setNode, nodes]
  rfl

theorem overwrite_mapContents {tree : FileTree} {path : Path} {id : NodeId} {contents : Bytes}
    {mode : Permissions} (found : tree.find? path = .ok (id, ⟨.file contents, mode⟩))
    (change next : NodeId → Bytes → Bytes) (same : ∀ other ≠ id, next other = change other) :
    (tree.mapContents change).overwrite path (next id contents) =
      if Node.writable ⟨.file contents, mode⟩ then .ok (tree.mapContents next)
      else .error .denied := by
  rw [overwrite, find?_mapContents_of_file found change]
  dsimp only
  rw [setNode_mapContents (node?_of_find? found) same]
  rfl

/-! ## Other contents in one file -/

/-- The tree with other contents in the file that a path leads to, under all its names. -/
def withContents (tree : FileTree) (path : Path) (contents : Bytes) : FileTree :=
  tree.mapContents fun id old => if tree.regularFile? path = some id then contents else old

/-- Writing a file changes its contents under all of its names and nothing else, and its permissions
decide whether it can be written. -/
theorem overwrite_of_file {tree : FileTree} {path : Path} {id : NodeId} {old : Bytes}
    {mode : Permissions} (found : tree.find? path = .ok (id, ⟨.file old, mode⟩))
    (contents : Bytes) :
    tree.overwrite path contents =
      if Node.writable ⟨.file old, mode⟩ then .ok (tree.withContents path contents)
      else .error .denied := by
  have regular := regularFile?_of_find? found
  have same : ∀ other ≠ id, (fun old : Bytes =>
      if tree.regularFile? path = some other then contents else old) = fun old => old := by
    intro other differs
    funext old
    rw [regular, if_neg fun isId => differs (Option.some.inj isId).symm]
  have step := overwrite_mapContents found (fun _ old => old)
    (fun other old => if tree.regularFile? path = some other then contents else old) same
  rw [tree.mapContents_of_kept fun _ _ => rfl, regular, if_pos rfl] at step
  rw [step, withContents, regular]

theorem read_withContents {tree : FileTree} {path : Path} {old : Bytes}
    (reads : tree.read path = .ok old) (contents : Bytes) :
    (tree.withContents path contents).read path = .ok contents := by
  obtain ⟨id, mode, found, isReadable⟩ := find?_of_read reads
  rw [withContents, read_of_file (find?_mapContents_of_file found _), regularFile?_of_find? found,
    if_pos rfl]
  exact if_pos isReadable

/-- Other contents in one file cannot be seen at a path that does not lead to this file. -/
theorem read_withContents_of_apart {tree : FileTree} {path other : Path}
    (apart : ∀ id, tree.regularFile? path = some id → tree.regularFile? other ≠ some id)
    (contents : Bytes) : (tree.withContents path contents).read other = tree.read other := by
  cases found : tree.find? other with
  | error cause =>
    rw [withContents, read, read, find?_mapContents, found]
    rfl
  | ok place =>
    rcases place with ⟨id, kind, mode⟩
    cases kind with
    | file old =>
      have elsewhere : tree.regularFile? path ≠ some id := fun same =>
        apart id same (regularFile?_of_find? found)
      rw [withContents, read_of_file (find?_mapContents_of_file found _), read_of_file found,
        if_neg elsewhere]
    | directory _ | link _ | special =>
      rw [withContents, read, read, find?_mapContents, found]
      rfl

end FileTree

end EnvInject
