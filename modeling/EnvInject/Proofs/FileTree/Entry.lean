import EnvInject.Proofs.FileTree.Contents

/-!
# Where the path of an entry leads

The path of an entry is the path of its directory with one more piece, so it leads where one step
from the place of the directory leads (`resolve_entry`). For an entry that is a file this says
exactly when its path can be followed: the path must not be too long, the directory must be
searchable, and the name must not be too long (`find?_entry_of_file`).
-/

namespace EnvInject

theorem mem_of_lookup {entries : List (Bytes × NodeId)} {name : Bytes} {id : NodeId}
    (found : entries.lookup name = some id) : (name, id) ∈ entries := by
  obtain ⟨before, behind, rfl, -⟩ := List.lookup_eq_some_iff.1 found
  exact List.mem_append_right before List.mem_cons_self

namespace Path

/-- A name that an entry can have: it is one piece, and neither `.` nor `..`. -/
structure IsEntryName (name : Bytes) : Prop where
  nonempty : name ≠ []
  noSeparator : separator ∉ name
  noNul : 0 ∉ name
  ne_self : name ≠ self
  ne_above : name ≠ above

instance (name : Bytes) : Decidable (IsEntryName name) :=
  decidable_of_iff
    (name ≠ [] ∧ separator ∉ name ∧ 0 ∉ name ∧ name ≠ self ∧ name ≠ above)
    ⟨fun ⟨a, b, c, d, e⟩ => ⟨a, b, c, d, e⟩, fun ⟨a, b, c, d, e⟩ => ⟨a, b, c, d, e⟩⟩

theorem pieces_ne_nil (path : Path) : pieces path ≠ [] := by
  cases path with
  | nil => simp [pieces]
  | cons byte rest =>
    unfold pieces
    split
    · simp
    · split <;> simp

theorem pieces_of_not_mem {name : Bytes} (one : separator ∉ name) : pieces name = [name] := by
  induction name with
  | nil => rfl
  | cons byte rest ih =>
    obtain ⟨differs, restOne⟩ := not_or.1 (List.mem_cons.not.1 one)
    rw [pieces, if_neg (Ne.symm differs), ih restOne]

theorem pieces_append_separator (path name : Bytes) (one : separator ∉ name) :
    pieces (path ++ separator :: name) = pieces path ++ [name] := by
  induction path with
  | nil => simp [pieces, pieces_of_not_mem one]
  | cons byte rest ih =>
    rw [List.cons_append, pieces, pieces, ih]
    split
    · rfl
    · cases behind : pieces rest with
      | nil => exact absurd behind (pieces_ne_nil rest)
      | cons piece more => rfl

/-- The pieces of an entry's path: those of its directory, a blank one at the end left out, and its
name. -/
theorem pieces_entry {directory : Path} {name : Bytes} (nonempty : directory ≠ [])
    (one : separator ∉ name) :
    ∃ above, pieces (directory.entry name) = above ++ [name] ∧
      (pieces directory = above ∨ pieces directory = above ++ [[]]) := by
  have isEmpty : directory.isEmpty = false := by simpa using nonempty
  rw [entry, isEmpty, Bool.false_or]
  split
  · rename_i ends
    obtain ⟨above, rfl⟩ := List.getLast?_eq_some_iff.1 (beq_iff_eq.1 ends)
    refine ⟨pieces above, ?_, .inr ?_⟩
    · rw [List.append_assoc]
      exact pieces_append_separator above name one
    · exact pieces_append_separator above [] List.not_mem_nil
  · exact ⟨pieces directory, pieces_append_separator directory name one, .inl rfl⟩

theorem mem_entry {directory : Path} {name : Bytes} {byte : UInt8}
    (member : byte ∈ directory.entry name) :
    byte ∈ directory ∨ byte = separator ∨ byte ∈ name := by
  rw [entry] at member
  split at member
  · exact (List.mem_append.1 member).imp_right .inr
  · exact (List.mem_append.1 member).imp_right List.mem_cons.1

theorem isAbsolute_entry {directory : Path} (name : Bytes) (nonempty : directory ≠ []) :
    (directory.entry name).isAbsolute = directory.isAbsolute := by
  cases directory with
  | nil => exact absurd rfl nonempty
  | cons byte rest =>
    rw [entry]
    split
    · rfl
    · rfl

theorem entry_injective (directory : Path) : Function.Injective directory.entry := by
  intro name other same
  rw [entry, entry] at same
  split at same
  · exact List.append_cancel_left same
  · exact (List.cons_injective (List.append_cancel_left same))

/-- The path of an entry is shown as the name of the entry, since the name is the last piece of the
path, and neither blank nor one of `.` and `..`. -/
theorem displayName_entry {name : Bytes} (isName : IsEntryName name) (directory : Path) :
    displayName (directory.entry name) = Utf8.lossy name := by
  have ends : ∃ before, pieces (directory.entry name) = before ++ [name] := by
    by_cases nonempty : directory = []
    · subst nonempty
      exact ⟨[], pieces_of_not_mem isName.noSeparator⟩
    · obtain ⟨before, same, -⟩ := pieces_entry nonempty isName.noSeparator
      exact ⟨before, same⟩
  obtain ⟨before, same⟩ := ends
  have stays : (name.isEmpty || name == self) = false := by
    simp [isName.nonempty, isName.ne_self]
  have found : fileName? (directory.entry name) = some name := by
    rw [fileName?, same, List.reverse_append, List.reverse_singleton, List.singleton_append,
      List.dropWhile_cons, stays, if_neg Bool.false_ne_true]
    exact if_neg isName.ne_above
  rw [displayName, found]
  rfl

end Path

namespace FileTree

variable {tree : FileTree}

/-! ## Pieces one after the other -/

/-- A walk along two lists of pieces is a walk along the first and then, from where it arrives,
along the second. Where the first walk meets a link or fails, the second list is what is left or
plays no part. -/
theorem walk_append (tree : FileTree) (place : Place) (first second : List Bytes) :
    tree.walk place (first ++ second) =
      match tree.walk place first with
      | .arrived reached => tree.walk reached second
      | .link holder pieces => .link holder (pieces ++ second)
      | .failed cause => .failed cause := by
  induction first generalizing place with
  | nil => rfl
  | cons piece rest ih =>
    rw [List.cons_append, walk, walk]
    cases tree.nodeAt? place with
    | none => rfl
    | some node =>
      rcases node with ⟨kind, mode⟩
      cases kind with
      | file _ | link _ | special => rfl
      | directory entries =>
        dsimp only
        -- Every way on that does not fail or meet a link goes on with the rest.
        split
        · exact ih place
        split
        · rfl
        split
        · exact ih place
        split
        · exact ih _
        split
        · rfl
        cases entries.lookup piece with
        | none => rfl
        | some id =>
          dsimp only
          cases tree.node? id with
          | none => exact ih _
          | some behind =>
            rcases behind with ⟨kind, mode⟩
            cases kind with
            | file _ | directory _ | special => exact ih _
            | link target => simp [List.append_assoc]

/-- Where the first pieces lead to, the further ones are followed with the links that are left. -/
theorem follow_append {links : Nat} {place reached : Place} {first : List Bytes}
    (follows : tree.follow links place first = .ok reached) (second : List Bytes) :
    ∃ left, tree.follow links place (first ++ second) = tree.follow left reached second := by
  induction links generalizing place first with
  | zero =>
    rw [follow] at follows
    refine ⟨0, ?_⟩
    rw [follow, walk_append]
    cases walked : tree.walk place first with
    | arrived there =>
      rw [walked] at follows
      obtain rfl := Except.ok.inj follows
      rw [follow]
    | failed cause => simp [walked] at follows
    | link holder pieces => simp [walked] at follows
  | succ links ih =>
    rw [follow] at follows
    rw [follow, walk_append]
    cases walked : tree.walk place first with
    | arrived there =>
      rw [walked] at follows
      obtain rfl := Except.ok.inj follows
      exact ⟨links + 1, by rw [follow]⟩
    | failed cause => simp [walked] at follows
    | link holder pieces =>
      rw [walked] at follows
      exact ih follows

/-- Pieces that can be followed can be followed in part. -/
theorem exists_follow_of_append {links : Nat} {place reached : Place} {first second : List Bytes}
    (follows : tree.follow links place (first ++ second) = .ok reached) :
    ∃ middle left, tree.follow links place first = .ok middle ∧
      tree.follow left middle second = .ok reached := by
  have arrives : ∃ middle, tree.follow links place first = .ok middle := by
    fun_induction tree.follow links place first with
    | case1 links place first middle walked => exact ⟨middle, rfl⟩
    | case2 links place first cause walked =>
      rw [follow, walk_append, walked] at follows
      cases follows
    | case3 place first holder further walked =>
      rw [follow, walk_append, walked] at follows
      cases follows
    | case4 place first holder further walked links ih =>
      rw [follow, walk_append, walked] at follows
      exact ih follows
  obtain ⟨middle, arrives⟩ := arrives
  obtain ⟨left, further⟩ := follow_append arrives second
  exact ⟨middle, left, arrives, further.symm.trans follows⟩

/-- The number of links that are allowed decides whether pieces can be followed, and not where they
lead. -/
theorem follow_unique {links others : Nat} {place first second : Place} {pieces : List Bytes}
    (follows : tree.follow links place pieces = .ok first)
    (follows' : tree.follow others place pieces = .ok second) : first = second := by
  fun_induction tree.follow links place pieces generalizing others with
  | case1 links place pieces there walked =>
    rw [follow, walked] at follows'
    exact Except.ok.inj (follows.symm.trans follows')
  | case2 | case3 => cases follows
  | case4 place pieces holder further walked links ih =>
    cases others with
    | zero =>
      rw [follow, walked] at follows'
      cases follows'
    | succ others =>
      rw [follow, walked] at follows'
      exact ih follows follows'

/-- A blank piece asks for a directory, and so does every other piece behind it. -/
theorem follow_blank (tree : FileTree) (links : Nat) (place : Place) (first : List Bytes)
    (piece : Bytes) (rest : List Bytes) :
    tree.follow links place (first ++ [] :: piece :: rest) =
      tree.follow links place (first ++ piece :: rest) := by
  have blank (there : Place) :
      tree.walk there ([] :: piece :: rest) = tree.walk there (piece :: rest) := by
    rw [walk]
    cases here : tree.nodeAt? there with
    | none => rw [walk, here]
    | some node =>
      rcases node with ⟨kind, mode⟩
      cases kind with
      | directory entries => rfl
      | file _ | link _ | special => rw [walk, here]
  induction links generalizing place first with
  | zero =>
    rw [follow, follow, walk_append, walk_append]
    cases tree.walk place first with
    | arrived there =>
      dsimp only
      rw [blank]
    | link _ _ | failed _ => rfl
  | succ links ih =>
    rw [follow, follow, walk_append, walk_append]
    cases tree.walk place first with
    | arrived there =>
      dsimp only
      rw [blank]
    | link holder pieces => exact ih holder pieces
    | failed cause => rfl

/-! ## One more piece -/

/-- A path is found where it leads to a node. -/
theorem find?_eq_ok_iff {path : Path} {id : NodeId} {node : Node} :
    tree.find? path = .ok (id, node) ↔
      ∃ above, tree.resolve path = .ok (id :: above) ∧ tree.node? id = some node := by
  rw [find?]
  cases tree.resolve path with
  | error cause => simp
  | ok place =>
    cases place with
    | nil => simp
    | cons first above =>
      simp only [List.head?_cons, nodeAt?, Option.bind_some, Except.ok.injEq, List.cons.injEq]
      constructor
      · intro found
        cases here : tree.node? first with
        | none =>
          rw [here] at found
          cases found
        | some behind =>
          rw [here] at found
          cases found
          exact ⟨above, ⟨rfl, rfl⟩, here⟩
      · rintro ⟨_, ⟨rfl, -⟩, here⟩
        rw [here]

theorem place_of_find? {path : Path} {id : NodeId} {node : Node}
    (found : tree.find? path = .ok (id, node)) :
    ∃ place, tree.resolve path = .ok place ∧ tree.nodeAt? place = some node := by
  obtain ⟨above, resolves, here⟩ := find?_eq_ok_iff.1 found
  exact ⟨id :: above, resolves, here⟩

/-- The path of an entry leads one step on from its directory. -/
theorem resolve_entry {directory : Path} {place : Place} {name : Bytes}
    (resolves : tree.resolve directory = .ok place) (isName : Path.IsEntryName name) :
    ∃ left, tree.resolve (directory.entry name) =
      if (directory.entry name).length ≥ pathLimit then .error .nameTooLong
      else tree.follow left place [name] := by
  unfold resolve at resolves
  split at resolves
  · cases resolves
  rename_i noNul
  split at resolves
  · cases resolves
  rename_i isEmpty
  split at resolves
  · cases resolves
  have nonempty : directory ≠ [] := by simpa using isEmpty
  obtain ⟨above, pieces, ofDirectory⟩ := Path.pieces_entry nonempty isName.noSeparator
  have sameStart : tree.startOf tree.workingDirectory (directory.entry name) =
      tree.startOf tree.workingDirectory directory := by
    rw [startOf, startOf, Path.isAbsolute_entry name nonempty]
  have entryNoNul : (directory.entry name).contains 0 = false := by
    refine Bool.eq_false_iff.2 fun member => ?_
    rcases Path.mem_entry (List.contains_iff_mem.1 member) with inDirectory | isSeparator | inName
    · exact noNul (List.contains_iff_mem.2 inDirectory)
    · cases isSeparator
    · exact isName.noNul inName
  have entryNonempty : (directory.entry name).isEmpty = false := by
    rw [Path.entry]
    split <;> simp [isName.nonempty]
  have further : ∃ left, tree.follow linkLimit (tree.startOf tree.workingDirectory directory)
      (above ++ [name]) = tree.follow left place [name] := by
    rcases ofDirectory with same | same
    · rw [same] at resolves
      exact follow_append resolves [name]
    · rw [same] at resolves
      rw [← follow_blank]
      have further := follow_append resolves [name]
      rw [List.append_assoc] at further
      exact further
  obtain ⟨left, follows⟩ := further
  refine ⟨left, ?_⟩
  rw [resolve, entryNoNul, entryNonempty, if_neg Bool.false_ne_true, if_neg Bool.false_ne_true,
    sameStart, pieces, follows]

/-- From a directory, the name of an entry that is a regular file leads to this file exactly if the
directory can be searched and the name is not too long. Neither links nor the permissions of the
file play a part. -/
theorem follow_name_of_file {place : Place} {id : NodeId} {entries : List (Bytes × NodeId)}
    {mode fileMode : Permissions} {name contents : Bytes}
    (here : tree.nodeAt? place = some ⟨.directory entries, mode⟩)
    (entry : entries.lookup name = some id) (isName : Path.IsEntryName name)
    (isFile : tree.node? id = some ⟨.file contents, fileMode⟩) (links : Nat) :
    tree.follow links place [name] =
      if !Node.searchable ⟨.directory entries, mode⟩ then .error .denied
      else if name.length > nameLimit then .error .nameTooLong
      else .ok (id :: place) := by
  have notBlank : name.isEmpty = false := by simpa using isName.nonempty
  unfold follow walk
  rw [here]
  dsimp only
  rw [notBlank, if_neg Bool.false_ne_true, if_neg isName.ne_self, if_neg isName.ne_above, entry]
  dsimp only
  rw [isFile]
  by_cases closed : (!Node.searchable ⟨.directory entries, mode⟩) = true
  · rw [if_pos closed, if_pos closed]
  rw [if_neg closed, if_neg closed]
  by_cases long : name.length > nameLimit
  · rw [if_pos long, if_pos long]
  rw [if_neg long, if_neg long]
  rfl

/-- What is found under the path of an entry that is a file. -/
theorem find?_entry_of_file {directory : Path} {holder id : NodeId}
    {entries : List (Bytes × NodeId)} {mode fileMode : Permissions} {name contents : Bytes}
    (found : tree.find? directory = .ok (holder, ⟨.directory entries, mode⟩))
    (entry : entries.lookup name = some id) (isName : Path.IsEntryName name)
    (isFile : tree.node? id = some ⟨.file contents, fileMode⟩) :
    tree.find? (directory.entry name) =
      if (directory.entry name).length ≥ pathLimit then .error .nameTooLong
      else if !Node.searchable ⟨.directory entries, mode⟩ then .error .denied
      else if name.length > nameLimit then .error .nameTooLong
      else .ok (id, ⟨.file contents, fileMode⟩) := by
  obtain ⟨place, resolves, here⟩ := place_of_find? found
  obtain ⟨left, further⟩ := resolve_entry resolves isName
  rw [find?, further, follow_name_of_file here entry isName isFile]
  by_cases long : (directory.entry name).length ≥ pathLimit
  · rw [if_pos long, if_pos long]
  rw [if_neg long, if_neg long]
  by_cases closed : (!Node.searchable ⟨.directory entries, mode⟩) = true
  · rw [if_pos closed, if_pos closed]
  rw [if_neg closed, if_neg closed]
  by_cases longName : name.length > nameLimit
  · rw [if_pos longName, if_pos longName]
  rw [if_neg longName, if_neg longName]
  simp only [List.head?_cons, nodeAt?, Option.bind_some, isFile]

/-- An entry that is a file is reached under its path exactly if the path can be followed. -/
theorem regularFile?_entry_iff {directory : Path} {holder id : NodeId}
    {entries : List (Bytes × NodeId)} {mode fileMode : Permissions} {name contents : Bytes}
    (found : tree.find? directory = .ok (holder, ⟨.directory entries, mode⟩))
    (entry : entries.lookup name = some id) (isName : Path.IsEntryName name)
    (isFile : tree.node? id = some ⟨.file contents, fileMode⟩) :
    tree.regularFile? (directory.entry name) = some id ↔
      (directory.entry name).length < pathLimit ∧
        Node.searchable ⟨.directory entries, mode⟩ = true ∧ name.length ≤ nameLimit := by
  rw [regularFile?, find?_entry_of_file found entry isName isFile]
  by_cases long : (directory.entry name).length ≥ pathLimit
  · simp [long, Nat.not_lt.2 long]
  rw [if_neg long]
  by_cases closed : (!Node.searchable ⟨.directory entries, mode⟩) = true
  · have notSearchable : Node.searchable ⟨.directory entries, mode⟩ = false := by simpa using closed
    simp [notSearchable]
  rw [if_neg closed]
  by_cases longName : name.length > nameLimit
  · simp [longName]
  rw [if_neg longName]
  exact iff_of_true rfl ⟨Nat.not_le.1 long, by simpa using closed, Nat.not_lt.1 longName⟩

end FileTree

end EnvInject
