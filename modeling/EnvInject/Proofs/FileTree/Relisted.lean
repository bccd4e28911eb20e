import EnvInject.Proofs.FileTree.Entry
import Mathlib.Data.List.Nodup

/-!
# Directories that list their entries in another order

The system promises no order for the entries of a directory. Trees are `Relisted` if they are the
same up to that order. Where the names in each directory are distinct (`FileTree.Proper`), a walk
looks a name up and never sees the order, so paths lead to the same nodes in both trees
(`Relisted.resolve_eq`, `Relisted.find?_cases`).
-/

namespace EnvInject

/-- An entry is found under its name in any order, if the names are distinct. -/
theorem mem_iff_lookup_of_nodup {entries : List (Bytes × NodeId)}
    (distinct : (entries.map Prod.fst).Nodup) {name : Bytes} {id : NodeId} :
    (name, id) ∈ entries ↔ entries.lookup name = some id := by
  refine ⟨fun member => ?_, mem_of_lookup⟩
  obtain ⟨before, behind, rfl⟩ := List.append_of_mem member
  rw [List.map_append, List.map_cons, List.nodup_middle, List.nodup_cons] at distinct
  refine List.lookup_eq_some_iff.2 ⟨before, behind, rfl, fun other earlier => ?_⟩
  refine bne_iff_ne.2 fun same => distinct.1 (List.mem_append_left _ ?_)
  exact List.mem_map.2 ⟨other, earlier, same.symm⟩

theorem lookup_perm {entries others : List (Bytes × NodeId)} (perm : entries.Perm others)
    (distinct : (entries.map Prod.fst).Nodup) (name : Bytes) :
    others.lookup name = entries.lookup name := by
  have distinct' : (others.map Prod.fst).Nodup := (perm.map Prod.fst).nodup_iff.1 distinct
  ext id
  rw [← mem_iff_lookup_of_nodup distinct, ← mem_iff_lookup_of_nodup distinct', perm.mem_iff]

namespace Node

/-- Directories have distinct names, each of which an entry can have. -/
def Proper (node : Node) : Prop :=
  match node.kind with
  | .directory entries =>
    (entries.map Prod.fst).Nodup ∧ ∀ name ∈ entries.map Prod.fst, Path.IsEntryName name
  | _ => True

instance : DecidablePred Proper := fun ⟨kind, _⟩ =>
  match kind with
  | .directory entries =>
    inferInstanceAs (Decidable ((entries.map Prod.fst).Nodup ∧
      ∀ name ∈ entries.map Prod.fst, Path.IsEntryName name))
  | .file _ | .link _ | .special => inferInstanceAs (Decidable True)

/-- The same node, or the same directory in another order. -/
inductive Relisted : Node → Node → Prop
  | same (node : Node) : Relisted node node
  | reordered {entries others : List (Bytes × NodeId)} (perm : entries.Perm others)
    (mode : Permissions) :
      Relisted ⟨.directory entries, mode⟩ ⟨.directory others, mode⟩

theorem Relisted.directory {entries : List (Bytes × NodeId)} {mode : Permissions} {other : Node}
    (related : Relisted ⟨.directory entries, mode⟩ other) :
    ∃ others, entries.Perm others ∧ other = ⟨.directory others, mode⟩ := by
  cases related with
  | same => exact ⟨entries, .refl _, rfl⟩
  | reordered perm => exact ⟨_, perm, rfl⟩

end Node

namespace FileTree

/-- No directory of the tree has two entries of one name, and every entry has a name that an entry
can have, as in any tree that a system holds. -/
def Proper (tree : FileTree) : Prop :=
  ∀ node ∈ tree.nodes, node.Proper

instance : DecidablePred Proper := fun tree =>
  inferInstanceAs (Decidable (∀ node ∈ tree.nodes, node.Proper))

theorem Proper.names {tree : FileTree} (proper : tree.Proper) {id : NodeId}
    {entries : List (Bytes × NodeId)} {mode : Permissions}
    (here : tree.node? id = some ⟨.directory entries, mode⟩) :
    (entries.map Prod.fst).Nodup ∧ ∀ name ∈ entries.map Prod.fst, Path.IsEntryName name :=
  proper _ (List.mem_of_getElem? here)

theorem node?_of_nodeAt? {tree : FileTree} {place : Place} {node : Node}
    (here : tree.nodeAt? place = some node) : ∃ id, tree.node? id = some node := by
  obtain ⟨id, -, found⟩ := Option.bind_eq_some_iff.1 here
  exact ⟨id, found⟩

/-- The same tree, whose directories list their entries in any order. -/
structure Relisted (tree other : FileTree) : Prop where
  workingDirectory : other.workingDirectory = tree.workingDirectory
  nodes : ∀ id, Option.Rel Node.Relisted (tree.node? id) (other.node? id)

theorem Relisted.refl (tree : FileTree) : tree.Relisted tree :=
  ⟨rfl, fun id => by cases tree.node? id with
    | none => exact .none
    | some node => exact .some (.same node)⟩

theorem relisted_setNode {tree : FileTree} {id : NodeId} {entries others : List (Bytes × NodeId)}
    {mode : Permissions} (here : tree.node? id = some ⟨.directory entries, mode⟩)
    (perm : entries.Perm others) : tree.Relisted (tree.setNode id ⟨.directory others, mode⟩) := by
  refine ⟨rfl, fun other => ?_⟩
  obtain ⟨inside, -⟩ := List.getElem?_eq_some_iff.1 here
  by_cases isSet : id = other
  · subst isSet
    rw [here, node?, setNode, List.getElem?_set_self inside]
    exact .some (.reordered perm mode)
  · rw [node?, node?, setNode, List.getElem?_set_ne isSet]
    exact (Relisted.refl tree).nodes other

namespace Relisted

variable {tree other : FileTree}

theorem startOf_eq (relisted : tree.Relisted other) (place : Place) (path : Path) :
    other.startOf place path = tree.startOf place path := by
  rw [startOf, startOf, rootPlace, rootPlace, relisted.workingDirectory]

theorem nodeAt? (relisted : tree.Relisted other) (place : Place) :
    Option.Rel Node.Relisted (tree.nodeAt? place) (other.nodeAt? place) := by
  cases place with
  | nil => exact .none
  | cons id _ => exact relisted.nodes id

/-- A walk does not see in which order directories list their entries: it looks each piece up, and a
proper tree has one entry for a name. -/
theorem walk_eq (relisted : tree.Relisted other) (proper : tree.Proper) (place : Place)
    (pieces : List Bytes) : other.walk place pieces = tree.walk place pieces := by
  induction pieces generalizing place with
  | nil => rfl
  | cons piece rest ih =>
    have related := relisted.nodeAt? place
    rw [walk, walk]
    generalize here : tree.nodeAt? place = node, other.nodeAt? place = node' at related
    cases related with
    | none => rfl
    | @some node _ related =>
      rcases node with ⟨kind, mode⟩
      cases kind with
      | file _ | link _ | special =>
        cases related
        rfl
      | directory entries =>
        obtain ⟨others, perm, rfl⟩ := related.directory
        obtain ⟨id, found⟩ := node?_of_nodeAt? here
        -- Of the order of the entries a walk sees no more than this lookup.
        have lookups := lookup_perm perm (proper.names found).1 piece
        simp only [ih, relisted.startOf_eq, lookups]
        cases entries.lookup piece with
        | none => rfl
        | some behind =>
          dsimp only
          have related := relisted.nodes behind
          generalize tree.node? behind = next, other.node? behind = next' at related
          cases related with
          | none => rfl
          | some related => cases related <;> rfl

theorem follow_eq (relisted : tree.Relisted other) (proper : tree.Proper) (links : Nat)
    (place : Place) (pieces : List Bytes) :
    other.follow links place pieces = tree.follow links place pieces := by
  induction links generalizing place pieces with
  | zero => rw [follow, follow, relisted.walk_eq proper]
  | succ links ih =>
    rw [follow, follow, relisted.walk_eq proper]
    simp only [ih]

theorem resolve_eq (relisted : tree.Relisted other) (proper : tree.Proper) (path : Path) :
    other.resolve path = tree.resolve path := by
  rw [resolve, resolve, relisted.follow_eq proper, relisted.startOf_eq,
    relisted.workingDirectory]

/-- A path leads to related nodes with one number, or nowhere for one reason. -/
theorem find?_cases (relisted : tree.Relisted other) (proper : tree.Proper) (path : Path) :
    (∃ cause, tree.find? path = .error cause ∧ other.find? path = .error cause) ∨
      ∃ id node node', tree.find? path = .ok (id, node) ∧ other.find? path = .ok (id, node') ∧
        Node.Relisted node node' := by
  rw [find?, find?, relisted.resolve_eq proper]
  cases tree.resolve path with
  | error cause => exact .inl ⟨cause, rfl, rfl⟩
  | ok place =>
    cases place with
    | nil => exact .inl ⟨.notFound, rfl, rfl⟩
    | cons id above =>
      have related := relisted.nodeAt? (id :: above)
      dsimp only [List.head?_cons]
      generalize tree.nodeAt? (id :: above) = node, other.nodeAt? (id :: above) = node' at related
      cases related with
      | none => exact .inl ⟨.notFound, rfl, rfl⟩
      | some related => exact .inr ⟨id, _, _, rfl, rfl, related⟩

theorem regularFile?_eq (relisted : tree.Relisted other) (proper : tree.Proper) (path : Path) :
    other.regularFile? path = tree.regularFile? path := by
  rw [regularFile?, regularFile?]
  rcases relisted.find?_cases proper path with
    ⟨cause, found, found'⟩ | ⟨id, node, node', found, found', related⟩
  · rw [found, found']
  · rw [found, found']
    cases related <;> rfl

end Relisted

end FileTree

end EnvInject
