import EnvInject.Proofs.FileTree.Entry

/-!
# Directories with one place

A directory is an entry of one directory only, so the directories above it are the same on every way
to it: it stands at one place. `FileTree.Treelike` says so of the places that a walk can reach
(`FileTree.Reached`), and that there is a node at each of them. Otherwise a link with `..` in its
text could lead elsewhere on another way to it.

Following a path step by step stays at such places (`walk_reached`, `follow_reached`).
-/

namespace EnvInject

namespace FileTree

/-- The places of a tree: those above the working directory, and the entries of the directories at
places. -/
inductive Reached (tree : FileTree) : Place → Prop
  | start {place : Place} (above : place <:+ tree.workingDirectory) : Reached tree place
  | entry {id : NodeId} {place : Place} {entries : List (Bytes × NodeId)} {mode : Permissions}
    {child : Bytes × NodeId} (reached : Reached tree (id :: place))
    (here : tree.node? id = some ⟨.directory entries, mode⟩) (member : child ∈ entries) :
    Reached tree (child.2 :: id :: place)

/-- The directories form a tree: there is a node at every place, and one place for every
directory. -/
structure Treelike (tree : FileTree) : Prop where
  inUse : ∀ {id place}, tree.Reached (id :: place) → ∃ node, tree.node? id = some node
  onePlace : ∀ {id place other entries mode}, tree.Reached (id :: place) →
    tree.Reached (id :: other) → tree.node? id = some ⟨.directory entries, mode⟩ → place = other

variable {tree : FileTree}

theorem Reached.tail {id : NodeId} {place : Place} (reached : tree.Reached (id :: place)) :
    tree.Reached place := by
  cases reached with
  | start above => exact .start ((List.suffix_cons id place).trans above)
  | entry reached _ _ => exact reached

theorem Reached.placeAbove {place : Place} (reached : tree.Reached place) :
    tree.Reached (placeAbove place) := by
  unfold FileTree.placeAbove
  split
  · exact reached.tail
  · exact reached

theorem reached_rootPlace (tree : FileTree) : tree.Reached tree.rootPlace := by
  apply Reached.start
  rw [rootPlace]
  cases last : tree.workingDirectory.getLast? with
  | none => exact List.nil_suffix
  | some root =>
    obtain ⟨above, same⟩ := List.getLast?_eq_some_iff.1 last
    rw [same]
    exact List.suffix_append above [root]

theorem Reached.startOf {place : Place} (reached : tree.Reached place) (path : Path) :
    tree.Reached (tree.startOf place path) := by
  unfold FileTree.startOf
  split
  · exact reached_rootPlace tree
  · exact reached

/-- Where a walk stops, it is at a place. -/
def Stop.AtPlace (tree : FileTree) : Stop → Prop
  | .arrived place | .link place _ => tree.Reached place
  | .failed _ => True

/-- A walk that starts at a place stays at places: every step goes to an entry, to the directory
above, or stays, and a link starts again at the place of its directory or at the root. -/
theorem walk_reached {place : Place} (reached : tree.Reached place) (pieces : List Bytes) :
    (tree.walk place pieces).AtPlace tree := by
  induction pieces generalizing place with
  | nil => exact reached
  | cons piece rest ih =>
    cases place with
    | nil => trivial
    | cons id above =>
      rw [walk, nodeAt?, List.head?_cons, Option.bind_some]
      cases here : tree.node? id with
      | none => trivial
      | some node =>
        rcases node with ⟨kind, mode⟩
        cases kind with
        | file _ | link _ | special => trivial
        | directory entries =>
          dsimp only
          split
          · exact ih reached
          split
          · trivial
          split
          · exact ih reached
          split
          · exact ih reached.placeAbove
          split
          · trivial
          cases found : entries.lookup piece with
          | none => trivial
          | some child =>
            dsimp only
            split
            · exact reached.startOf _
            · exact ih (reached.entry here (mem_of_lookup found))

/-- Following links stays at places as well, since each walk does (`walk_reached`) and the next one
starts where it stopped. -/
theorem follow_reached {links : Nat} {place reached : Place} {pieces : List Bytes}
    (start : tree.Reached place) (follows : tree.follow links place pieces = .ok reached) :
    tree.Reached reached := by
  fun_induction tree.follow links place pieces with
  | case1 links place pieces there walked =>
    have stops := walk_reached start pieces
    rw [walked] at stops
    obtain rfl := Except.ok.inj follows
    exact stops
  | case2 | case3 => cases follows
  | case4 place pieces holder further walked links ih =>
    have stops := walk_reached start pieces
    rw [walked] at stops
    exact ih stops follows

theorem resolve_reached {path : Path} {place : Place} (resolves : tree.resolve path = .ok place) :
    tree.Reached place := by
  unfold resolve at resolves
  split at resolves
  · cases resolves
  split at resolves
  · cases resolves
  split at resolves
  · cases resolves
  · exact follow_reached ((Reached.start List.suffix_rfl).startOf path) resolves

/-- A root directory to work in, without directories in it. -/
theorem treelike_of_flat {root : NodeId} {entries : List (Bytes × NodeId)} {mode : Permissions}
    (start : tree.workingDirectory = [root])
    (isRoot : tree.node? root = some ⟨.directory entries, mode⟩)
    (flat : ∀ entry ∈ entries, ∃ node, tree.node? entry.2 = some node ∧
      ∀ inside, node.kind ≠ .directory inside) : tree.Treelike := by
  have places {place : Place} (reached : tree.Reached place) :
      place = [] ∨ place = [root] ∨ ∃ entry ∈ entries, place = [entry.2, root] := by
    induction reached with
    | start above =>
      rw [start] at above
      rcases List.suffix_cons_iff.1 above with same | rest
      · exact .inr (.inl same)
      · exact .inl (List.suffix_nil.1 rest)
    | @entry id place _ _ child reached here member ih =>
      rcases ih with same | same | ⟨entry, inRoot, same⟩
      · cases same
      · cases same
        cases isRoot.symm.trans here
        exact .inr (.inr ⟨child, member, rfl⟩)
      · cases same
        obtain ⟨node, here', noDirectory⟩ := flat entry inRoot
        cases here'.symm.trans here
        exact absurd rfl (noDirectory _)
  constructor
  · intro id place reached
    rcases places reached with same | same | ⟨entry, inRoot, same⟩
    · cases same
    · cases same
      exact ⟨_, isRoot⟩
    · cases same
      obtain ⟨node, here, -⟩ := flat entry inRoot
      exact ⟨node, here⟩
  · intro id place place' inside mode' reached reached' here
    have above {place : Place} (reached : tree.Reached (id :: place)) : place = [] := by
      rcases places reached with same | same | ⟨entry, inRoot, same⟩
      · cases same
      · cases same
        rfl
      · cases same
        obtain ⟨node, here', noDirectory⟩ := flat entry inRoot
        cases here'.symm.trans here
        exact absurd rfl (noDirectory _)
    rw [above reached, above reached']

end FileTree

end EnvInject
