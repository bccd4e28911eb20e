import EnvInject.Proofs.FileTree.Relisted
import EnvInject.Proofs.FileTree.Treelike

/-!
# Directories with further entries

A tree is `Extended` by entries if another tree has them in one of its directories and is the same
otherwise. Every path that can be followed leads to the same place in both, and a path that can be
followed only in the extended tree goes through one of the new entries (`Extended.walk_further`,
`Extended.follow_further`).

If each new entry is another name of some file, such a path ends there and leads to one of these
files (`Aliased.regularFile?_cases`). What is followed behind a link depends on the place of the
link, and this is where it matters that a directory has one place.
-/

namespace EnvInject

namespace FileTree

/-- Another tree that has further entries in one directory, and perhaps the nodes behind them. -/
structure Extended (tree other : FileTree) (holder : NodeId) (extra : List (Bytes × NodeId)) :
    Prop where
  treelike : tree.Treelike
  proper : other.Proper
  workingDirectory : other.workingDirectory = tree.workingDirectory
  kept : ∀ id ≠ holder, ∀ node, tree.node? id = some node → other.node? id = some node
  listing : ∃ entries listed mode, tree.node? holder = some ⟨.directory entries, mode⟩ ∧
    other.node? holder = some ⟨.directory listed, mode⟩ ∧ (entries ++ extra).Perm listed

/-- An entry that is a name of a file: a hard link to it, or a link that leads to it. -/
def IsNameOf (tree : FileTree) (directory : Path) (entry : Bytes × NodeId) (file : NodeId) : Prop :=
  entry.2 = file ∨ tree.regularFile? (directory.entry entry.1) = some file

/-- A name that is not in a directory leads nowhere. -/
theorem walk_of_absent {tree : FileTree} {id : NodeId} {entries : List (Bytes × NodeId)}
    {mode : Permissions} {name : Bytes}
    (here : tree.node? id = some ⟨.directory entries, mode⟩) (isName : Path.IsEntryName name)
    (absent : entries.lookup name = none) (above : Place) (rest : List Bytes) :
    ∃ cause, tree.walk (id :: above) (name :: rest) = .failed cause := by
  have notBlank : name.isEmpty = false := by simpa using isName.nonempty
  rw [walk, nodeAt?, List.head?_cons, Option.bind_some, here]
  dsimp only
  rw [notBlank, if_neg Bool.false_ne_true, if_neg isName.ne_self, if_neg isName.ne_above, absent]
  split
  · exact ⟨.denied, rfl⟩
  split
  · exact ⟨.nameTooLong, rfl⟩
  · exact ⟨.notFound, rfl⟩

namespace Extended

variable {tree other : FileTree} {holder : NodeId} {extra : List (Bytes × NodeId)}

theorem startOf_eq (extended : tree.Extended other holder extra) (place : Place) (path : Path) :
    other.startOf place path = tree.startOf place path := by
  rw [startOf, startOf, rootPlace, rootPlace, extended.workingDirectory]

/-- A node is kept, or it is the directory with the further entries. -/
theorem node?_cases (extended : tree.Extended other holder extra) {id : NodeId} {node : Node}
    (here : tree.node? id = some node) :
    other.node? id = some node ∨
      id = holder ∧ ∃ entries listed mode, node = ⟨.directory entries, mode⟩ ∧
        other.node? id = some ⟨.directory listed, mode⟩ ∧ (entries ++ extra).Perm listed := by
  by_cases same : id = holder
  · subst same
    obtain ⟨entries, listed, mode, here', there, perm⟩ := extended.listing
    obtain rfl := Option.some.inj (here.symm.trans here')
    exact .inr ⟨rfl, entries, listed, mode, rfl, there, perm⟩
  · exact .inl (extended.kept id same node here)

/-- The entry behind a name, in the listing that has more. -/
theorem lookup_listed {entries listed : List (Bytes × NodeId)}
    (perm : (entries ++ extra).Perm listed) (distinct : (listed.map Prod.fst).Nodup)
    (name : Bytes) :
    listed.lookup name = (entries.lookup name).or (extra.lookup name) := by
  rw [lookup_perm perm ((perm.map Prod.fst).nodup_iff.2 distinct), List.lookup_append]

/-- A new name was not a name in the directory before. -/
theorem lookup_eq_none_of_extra {entries listed : List (Bytes × NodeId)}
    {entry : Bytes × NodeId} (perm : (entries ++ extra).Perm listed)
    (distinct : (listed.map Prod.fst).Nodup) (member : entry ∈ extra) :
    entries.lookup entry.1 = none := by
  have apart : ((entries ++ extra).map Prod.fst).Nodup := (perm.map Prod.fst).nodup_iff.2 distinct
  rw [List.map_append] at apart
  cases found : entries.lookup entry.1 with
  | none => rfl
  | some id =>
    have before : entry.1 ∈ entries.map Prod.fst := List.mem_map.2 ⟨_, mem_of_lookup found, rfl⟩
    exact absurd (List.mem_map_of_mem member) (List.disjoint_of_nodup_append apart before)

/-- How walks along the same pieces stop in both trees: alike, or the walk in the extended tree goes
on with a new entry of the directory, where the other one fails. -/
inductive Further (tree other : FileTree) (holder : NodeId) (extra : List (Bytes × NodeId)) :
    Stop → Stop → Prop
  | alike (stop : Stop) : Further tree other holder extra stop stop
  | new {above : Place} {entry : Bytes × NodeId} (cause : FileError) (rest : List Bytes)
    (reached : tree.Reached (holder :: above)) (member : entry ∈ extra) :
    Further tree other holder extra (.failed cause) (other.walk (holder :: above) (entry.1 :: rest))

/-- One step at a directory where the same is behind the next piece. -/
theorem further_of_lookup_eq (extended : tree.Extended other holder extra) {id : NodeId}
    {above : Place} {piece : Bytes} {rest : List Bytes} {entries listed : List (Bytes × NodeId)}
    {mode : Permissions} (reached : tree.Reached (id :: above))
    (here : tree.node? id = some ⟨.directory entries, mode⟩)
    (there : other.node? id = some ⟨.directory listed, mode⟩)
    (lookups : listed.lookup piece = entries.lookup piece)
    (behind : ∀ {place}, tree.Reached place →
      Further tree other holder extra (tree.walk place rest) (other.walk place rest)) :
    Further tree other holder extra (tree.walk (id :: above) (piece :: rest))
      (other.walk (id :: above) (piece :: rest)) := by
  rw [walk, walk, nodeAt?, nodeAt?, List.head?_cons, Option.bind_some, Option.bind_some, here,
    there]
  dsimp only
  rw [lookups]
  have sameMode : Node.searchable ⟨.directory listed, mode⟩ =
      Node.searchable ⟨.directory entries, mode⟩ :=
    rfl
  rw [sameMode]
  split
  · exact behind reached
  split
  · exact .alike _
  split
  · exact behind reached
  split
  · exact behind reached.placeAbove
  split
  · exact .alike _
  cases found : entries.lookup piece with
  | none => exact .alike _
  | some child =>
    have further := reached.entry here (mem_of_lookup found)
    obtain ⟨node, isNode⟩ := extended.treelike.inUse further
    dsimp only
    rcases extended.node?_cases isNode with kept | ⟨-, _, _, mode, rfl, kept, -⟩
    · rw [isNode, kept]
      rcases node with ⟨kind, mode⟩
      cases kind with
      | link target =>
        dsimp only
        rw [extended.startOf_eq]
        exact .alike _
      | file _ | directory _ | special => exact behind further
    · rw [isNode, kept]
      exact behind further

/-- Walks along the same pieces stop alike, unless one of them comes to a new entry. -/
theorem walk_further (extended : tree.Extended other holder extra) {place : Place}
    (reached : tree.Reached place) (pieces : List Bytes) :
    Further tree other holder extra (tree.walk place pieces) (other.walk place pieces) := by
  induction pieces generalizing place with
  | nil => exact .alike _
  | cons piece rest ih =>
    cases place with
    | nil => exact .alike _
    | cons id above =>
      obtain ⟨node, here⟩ := extended.treelike.inUse reached
      rcases extended.node?_cases here with
        kept | ⟨rfl, entries, listed, mode, rfl, there, perm⟩
      · rcases node with ⟨kind, mode⟩
        cases kind with
        | directory entries => exact extended.further_of_lookup_eq reached here kept rfl ih
        | file _ | link _ | special =>
          rw [walk, walk, nodeAt?, nodeAt?, List.head?_cons, Option.bind_some, Option.bind_some,
            here, kept]
          exact .alike _
      · have names := extended.proper.names there
        have lookups := lookup_listed perm names.1 piece
        cases new : extra.lookup piece with
        | none =>
          rw [new, Option.or_none] at lookups
          exact extended.further_of_lookup_eq reached here there lookups ih
        | some child =>
          -- The name is new, so the walk in the tree without it fails, however it goes on here.
          have member : (piece, child) ∈ extra := mem_of_lookup new
          have isName : Path.IsEntryName piece := names.2 piece (List.mem_map_of_mem
            (perm.subset (List.mem_append_right entries member)))
          have absent := lookup_eq_none_of_extra perm names.1 member
          obtain ⟨cause, fails⟩ := walk_of_absent here isName absent above rest
          rw [fails]
          exact .new cause rest reached member

/-- What comes of following the same pieces in both trees: the same, or the extended tree goes on
with a new entry of the directory, where the other one fails. -/
inductive FollowsFurther (tree other : FileTree) (holder : NodeId) (extra : List (Bytes × NodeId)) :
    Except FileError Place → Except FileError Place → Prop
  | alike (result : Except FileError Place) : FollowsFurther tree other holder extra result result
  | new {above : Place} {entry : Bytes × NodeId} (cause : FileError) (left : Nat)
    (rest : List Bytes) (reached : tree.Reached (holder :: above)) (member : entry ∈ extra) :
    FollowsFurther tree other holder extra (.error cause)
      (other.follow left (holder :: above) (entry.1 :: rest))

/-- Following pieces in both trees goes alike until it meets a new entry of the directory. The
induction is on the links that may still be followed, since each link starts a new walk with one
link fewer. -/
theorem follow_further (extended : tree.Extended other holder extra) (links : Nat) {place : Place}
    (reached : tree.Reached place) (pieces : List Bytes) :
    FollowsFurther tree other holder extra (tree.follow links place pieces)
      (other.follow links place pieces) := by
  induction links using Nat.strongRecOn generalizing place pieces with
  | ind links ih =>
    have further := extended.walk_further reached pieces
    have stops := walk_reached reached pieces
    generalize walked : tree.walk place pieces = stop at further stops
    generalize walked' : other.walk place pieces = stop' at further
    cases further with
    | @new above entry cause rest atEntry member =>
      have fails : tree.follow links place pieces = .error cause := by
        rw [follow, walked]
      have goesOn : other.follow links place pieces =
          other.follow links (holder :: above) (entry.1 :: rest) := by
        rw [follow, walked', ← follow]
      rw [fails, goesOn]
      exact .new cause links rest atEntry member
    | alike =>
      rw [follow, follow, walked, walked']
      cases stop with
      | arrived _ | failed _ => exact .alike _
      | link there further =>
        cases links with
        | zero => exact .alike _
        | succ links => exact ih links (Nat.lt_succ_self links) stops further

theorem resolve_further (extended : tree.Extended other holder extra) (path : Path) :
    FollowsFurther tree other holder extra (tree.resolve path) (other.resolve path) := by
  unfold resolve
  split
  · exact .alike _
  split
  · exact .alike _
  split
  · exact .alike _
  · rw [extended.workingDirectory, extended.startOf_eq]
    exact extended.follow_further linkLimit
      ((Reached.start List.suffix_rfl).startOf path) (Path.pieces path)

theorem resolve_of_ok (extended : tree.Extended other holder extra) {path : Path} {place : Place}
    (resolves : tree.resolve path = .ok place) : other.resolve path = .ok place := by
  have further := extended.resolve_further path
  generalize other.resolve path = result at further ⊢
  rw [resolves] at further
  cases further with
  | alike => rfl

/-- A path that leads to a file leads to the same file in the extended tree. -/
theorem find?_of_file (extended : tree.Extended other holder extra) {path : Path} {id : NodeId}
    {contents : Bytes} {mode : Permissions}
    (found : tree.find? path = .ok (id, ⟨.file contents, mode⟩)) :
    other.find? path = .ok (id, ⟨.file contents, mode⟩) := by
  obtain ⟨above, resolves, here⟩ := find?_eq_ok_iff.1 found
  refine find?_eq_ok_iff.2 ⟨above, extended.resolve_of_ok resolves, ?_⟩
  rcases extended.node?_cases here with kept | ⟨-, entries, listed, mode', isDirectory, -⟩
  · exact kept
  · cases isDirectory

theorem find?_of_holder (extended : tree.Extended other holder extra) {path : Path} {node : Node}
    (found : tree.find? path = .ok (holder, node)) :
    ∃ entries listed mode, node = ⟨.directory entries, mode⟩ ∧
      other.find? path = .ok (holder, ⟨.directory listed, mode⟩) ∧
      (entries ++ extra).Perm listed := by
  obtain ⟨above, resolves, here⟩ := find?_eq_ok_iff.1 found
  obtain ⟨entries, listed, mode, here', there, perm⟩ := extended.listing
  obtain rfl := Option.some.inj (here.symm.trans here')
  exact ⟨entries, listed, mode, rfl,
    find?_eq_ok_iff.2 ⟨above, extended.resolve_of_ok resolves, there⟩, perm⟩

end Extended

/-! ## Further names of files -/

/-- Behind a file there is nothing to follow. -/
theorem follow_of_file {tree : FileTree} {links : Nat} {id : NodeId} {above place : Place}
    {contents : Bytes} {mode : Permissions} {pieces : List Bytes}
    (isFile : tree.node? id = some ⟨.file contents, mode⟩)
    (follows : tree.follow links (id :: above) pieces = .ok place) : place = id :: above := by
  cases pieces with
  | nil =>
    rw [follow, walk] at follows
    exact (Except.ok.inj follows).symm
  | cons piece rest =>
    rw [follow, walk, nodeAt?, List.head?_cons, Option.bind_some, isFile] at follows
    cases follows

/-- Another tree that has in one directory further names of the files at some paths. -/
structure Aliased (tree other : FileTree) (directory : Path) (paths : List Path)
    (holder : NodeId) (extra : List (Bytes × NodeId)) : Prop
    extends tree.Extended other holder extra where
  isHolder : ∃ node, tree.find? directory = .ok (holder, node)
  names : ∀ entry ∈ extra, ∃ path ∈ paths, ∃ file, tree.regularFile? path = some file ∧
    other.IsNameOf directory entry file

namespace Aliased

variable {tree other : FileTree} {directory : Path} {paths : List Path} {holder : NodeId}
  {extra : List (Bytes × NodeId)}

theorem find?_directory (aliased : tree.Aliased other directory paths holder extra) {id : NodeId}
    {entries : List (Bytes × NodeId)} {mode : Permissions}
    (found : tree.find? directory = .ok (id, ⟨.directory entries, mode⟩)) :
    ∃ listed, other.find? directory = .ok (id, ⟨.directory listed, mode⟩) ∧
      (entries ++ extra).Perm listed := by
  obtain ⟨node, isHolder⟩ := aliased.isHolder
  obtain ⟨entries', listed, mode', rfl, found', perm⟩ := aliased.find?_of_holder isHolder
  cases found.symm.trans isHolder
  exact ⟨listed, found', perm⟩

theorem isEntryName (aliased : tree.Aliased other directory paths holder extra)
    {entry : Bytes × NodeId} (member : entry ∈ extra) : Path.IsEntryName entry.1 := by
  obtain ⟨entries, listed, mode, -, there, perm⟩ := aliased.listing
  have inListed := perm.subset (List.mem_append_right entries member)
  exact (aliased.proper.names there).2 entry.1 (List.mem_map_of_mem inListed)

/-- The path of a new entry that leads to a file takes one step from the directory. -/
theorem exists_follow_of_regularFile? (aliased : tree.Aliased other directory paths holder extra)
    {entry : Bytes × NodeId} {file : NodeId} (member : entry ∈ extra)
    (regular : other.regularFile? (directory.entry entry.1) = some file) :
    ∃ above links behind, tree.Reached (holder :: above) ∧
      other.follow links (holder :: above) [entry.1] = .ok (file :: behind) := by
  obtain ⟨node, found⟩ := aliased.isHolder
  obtain ⟨above, resolves, -⟩ := find?_eq_ok_iff.1 found
  obtain ⟨contents, mode, foundFile⟩ := find?_of_regularFile? regular
  obtain ⟨behind, resolvesEntry, -⟩ := find?_eq_ok_iff.1 foundFile
  obtain ⟨links, steps⟩ :=
    resolve_entry (aliased.resolve_of_ok resolves) (aliased.isEntryName member)
  rw [resolvesEntry] at steps
  split at steps
  · cases steps
  · exact ⟨above, links, behind, resolve_reached resolves, steps.symm⟩

/-- The name of a new entry leads to the file that it is a name of. -/
theorem head_of_name (aliased : tree.Aliased other directory paths holder extra)
    {entry : Bytes × NodeId} {file : NodeId} {above place : Place} {links : Nat}
    {contents : Bytes} {fileMode : Permissions}
    (reached : tree.Reached (holder :: above)) (member : entry ∈ extra)
    (isName : other.IsNameOf directory entry file)
    (isFile : other.node? file = some ⟨.file contents, fileMode⟩)
    (follows : other.follow links (holder :: above) [entry.1] = .ok place) :
    place.head? = some file := by
  obtain ⟨entries, listed, mode, isHolder, isListed, perm⟩ := aliased.listing
  rcases isName with rfl | leads
  · have here : other.nodeAt? (holder :: above) = some ⟨.directory listed, mode⟩ := isListed
    have inListed := perm.subset (List.mem_append_right entries member)
    have found := (mem_iff_lookup_of_nodup (aliased.proper.names isListed).1).1 inListed
    rw [follow_name_of_file here found (aliased.isEntryName member) isFile] at follows
    split at follows
    · cases follows
    split at follows
    · cases follows
    · rw [← Except.ok.inj follows]
      rfl
  · obtain ⟨above', links', behind, reached', follows'⟩ :=
      aliased.exists_follow_of_regularFile? member leads
    -- The entry is met at the place where its own path meets it, as a directory has one place.
    obtain rfl := aliased.treelike.onePlace reached reached' isHolder
    rw [follow_unique follows follows']
    rfl

/-- What is followed behind a new entry leads to one of the files. -/
theorem head_of_follow (aliased : tree.Aliased other directory paths holder extra)
    {entry : Bytes × NodeId} {above place : Place} {links : Nat} {rest : List Bytes}
    (reached : tree.Reached (holder :: above)) (member : entry ∈ extra)
    (follows : other.follow links (holder :: above) (entry.1 :: rest) = .ok place) :
    ∃ path ∈ paths, ∃ file, tree.regularFile? path = some file ∧ place.head? = some file := by
  obtain ⟨path, inPaths, file, regular, isName⟩ := aliased.names entry member
  obtain ⟨contents, fileMode, found⟩ := find?_of_regularFile? regular
  have isFile : other.node? file = some ⟨.file contents, fileMode⟩ :=
    node?_of_find? (aliased.find?_of_file found)
  obtain ⟨middle, left, arrives, goesOn⟩ :=
    exists_follow_of_append (show other.follow links _ ([entry.1] ++ rest) = _ from follows)
  have atFile := aliased.head_of_name reached member isName isFile arrives
  obtain ⟨above', rfl⟩ := List.head?_eq_some_iff.1 atFile
  obtain rfl := follow_of_file isFile goesOn
  exact ⟨path, inPaths, file, regular, atFile⟩

/-- A path that leads to a file in the tree with the further names leads to it in the other one, or
it leads to one of the files that have further names. -/
theorem regularFile?_cases (aliased : tree.Aliased other directory paths holder extra) {path : Path}
    {file : NodeId} (regular : other.regularFile? path = some file) :
    tree.regularFile? path = some file ∨ ∃ first ∈ paths, tree.regularFile? first = some file := by
  obtain ⟨contents, mode, found⟩ := find?_of_regularFile? regular
  obtain ⟨above, resolves, isFile⟩ := find?_eq_ok_iff.1 found
  have further := aliased.resolve_further path
  generalize resolves' : tree.resolve path = result at further
  rw [resolves] at further
  generalize same : Except.ok (file :: above) = result' at further
  cases further with
  | alike =>
    subst same
    obtain ⟨node, here⟩ := aliased.treelike.inUse (resolve_reached resolves')
    rcases aliased.node?_cases here with kept | ⟨-, entries, listed, mode', -, isDirectory, -⟩
    · obtain rfl := Option.some.inj (kept.symm.trans isFile)
      exact .inl (regularFile?_of_find? (find?_eq_ok_iff.2 ⟨above, resolves', here⟩))
    · cases isDirectory.symm.trans isFile
  | new cause left rest reached member =>
    obtain ⟨first, inPaths, file', regular', isHead⟩ :=
      aliased.head_of_follow reached member same.symm
    obtain rfl := Option.some.inj isHead
    exact .inr ⟨first, inPaths, regular'⟩

theorem exists_of_regularFile?_entry (aliased : tree.Aliased other directory paths holder extra)
    {entry : Bytes × NodeId} {file : NodeId} (member : entry ∈ extra)
    (regular : other.regularFile? (directory.entry entry.1) = some file) :
    ∃ path ∈ paths, tree.regularFile? path = some file := by
  obtain ⟨above, links, behind, reached, follows⟩ :=
    aliased.exists_follow_of_regularFile? member regular
  obtain ⟨path, inPaths, file', isFile, isHead⟩ := aliased.head_of_follow reached member follows
  obtain rfl := Option.some.inj isHead
  exact ⟨path, inPaths, isFile⟩

end Aliased

end FileTree

end EnvInject
