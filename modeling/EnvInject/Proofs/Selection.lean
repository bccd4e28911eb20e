import EnvInject.Proofs.FileTree.Contents
import EnvInject.Selection

/-!
# What a selection gives

`select` gives paths of regular files, no two of which lead to the same file
(`select_separate`), and every file among its candidates has one (`Selection.firstNames_covers`). It
looks at names, links and permission bits, and not at contents (`select_mapContents`).
-/

namespace EnvInject

/-- Records of regular files, no two of which are the same file. -/
structure Separate (tree : FileTree) (records : List FileRecord) : Prop where
  regular : ∀ record ∈ records, ∃ id, tree.regularFile? record.path = some id
  distinct : records.Pairwise fun a b =>
    tree.regularFile? a.path ≠ tree.regularFile? b.path

theorem Separate.tail {tree : FileTree} {record : FileRecord} {rest : List FileRecord}
    (separate : Separate tree (record :: rest)) : Separate tree rest :=
  ⟨fun next member => separate.regular next (List.mem_cons_of_mem _ member),
    (List.pairwise_cons.1 separate.distinct).2⟩

namespace Selection

theorem mem_candidates {tree : FileTree} {wanted : List (String × Path)} {candidate : Candidate}
    (member : candidate ∈ candidates tree wanted) :
    tree.regularFile? candidate.path = some candidate.file := by
  rw [candidates, List.mem_filterMap] at member
  rcases member with ⟨⟨name, path⟩, -, same⟩
  obtain ⟨id, regular, rfl⟩ := Option.map_eq_some_iff.1 same
  exact regular

/-- The candidates are the wanted entries whose paths lead to regular files, each with its name as
it reads, its path and its file. -/
theorem mem_candidates_iff {tree : FileTree} {isWanted : String → Bool} {directory : Path}
    {entries : List (Bytes × NodeId)} {candidate : Candidate} :
    candidate ∈ candidates tree (wantedEntries isWanted directory entries) ↔
      ∃ entry ∈ entries, isWanted (Utf8.lossy entry.1) = true ∧
        tree.regularFile? (directory.entry entry.1) = some candidate.file ∧
        candidate.name = Utf8.lossy entry.1 ∧ candidate.path = directory.entry entry.1 := by
  constructor
  · intro member
    obtain ⟨⟨name, path⟩, wanted, made⟩ := List.mem_filterMap.1 member
    obtain ⟨mapped, isWanted⟩ := List.mem_filter.1 wanted
    obtain ⟨entry, listed, same⟩ := List.mem_map.1 mapped
    obtain ⟨file, regular, rfl⟩ := Option.map_eq_some_iff.1 made
    cases same
    exact ⟨entry, listed, isWanted, regular, rfl, rfl⟩
  · rintro ⟨entry, listed, isWanted, regular, name, path⟩
    refine List.mem_filterMap.2 ⟨(Utf8.lossy entry.1, directory.entry entry.1),
      List.mem_filter.2 ⟨List.mem_map.2 ⟨entry, listed, rfl⟩, isWanted⟩, ?_⟩
    dsimp only
    rw [regular, Option.map_some, ← name, ← path]

theorem mem_inNameOrder {found : List Candidate} {candidate : Candidate} :
    candidate ∈ inNameOrder found ↔ candidate ∈ found :=
  List.mem_mergeSort

theorem firstNames_sublist (seen : List NodeId) (found : List Candidate) :
    (firstNames seen found).Sublist found := by
  induction found generalizing seen with
  | nil => exact .slnil
  | cons candidate rest ih =>
    unfold firstNames
    split
    · exact (ih seen).cons candidate
    · exact (ih _).cons_cons candidate

/-- What is kept leads to no file that was seen before. -/
theorem firstNames_fresh {seen : List NodeId} {found : List Candidate} :
    ∀ candidate ∈ firstNames seen found, candidate.file ∉ seen := by
  induction found generalizing seen with
  | nil => simp [firstNames]
  | cons candidate rest ih =>
    unfold firstNames
    split
    · exact ih
    · rename_i unseen
      intro other member
      rcases List.mem_cons.1 member with rfl | later
      · simpa using unseen
      · exact fun inSeen => ih other later (List.mem_cons_of_mem _ inSeen)

theorem firstNames_distinct (seen : List NodeId) (found : List Candidate) :
    (firstNames seen found).Pairwise fun a b => a.file ≠ b.file := by
  induction found generalizing seen with
  | nil => exact .nil
  | cons candidate rest ih =>
    unfold firstNames
    split
    · exact ih seen
    · refine List.pairwise_cons.2 ⟨fun other member same => ?_, ih _⟩
      exact firstNames_fresh other member (by rw [← same]; exact List.mem_cons_self)

/-- Every candidate was seen before or shares its file with one that is kept. -/
theorem firstNames_covers {seen : List NodeId} {found : List Candidate} {candidate : Candidate}
    (member : candidate ∈ found) :
    candidate.file ∈ seen ∨ ∃ first ∈ firstNames seen found, first.file = candidate.file := by
  induction found generalizing seen with
  | nil => cases member
  | cons head rest ih =>
    unfold firstNames
    split
    · rename_i known
      rcases List.mem_cons.1 member with rfl | later
      · exact .inl (List.contains_iff_mem.1 known)
      · exact ih later
    · rcases List.mem_cons.1 member with rfl | later
      · exact .inr ⟨candidate, List.mem_cons_self, rfl⟩
      · rcases ih later with known | ⟨first, kept, same⟩
        · rcases List.mem_cons.1 known with same | before
          · exact .inr ⟨head, List.mem_cons_self, same.symm⟩
          · exact .inl before
        · exact .inr ⟨first, List.mem_cons_of_mem _ kept, same⟩

theorem mem_firstNames {tree : FileTree} {wanted : List (String × Path)} {candidate : Candidate}
    (member : candidate ∈ firstNames [] (inNameOrder (candidates tree wanted))) :
    tree.regularFile? candidate.path = some candidate.file := by
  exact mem_candidates (mem_inNameOrder.1 ((firstNames_sublist _ _).subset member))

/-- Listing a directory depends on what its path leads to: nothing, a directory that can be read,
one that cannot, or something that is no directory. -/
theorem entriesOf_eq (tree : FileTree) (directory : Path) :
    entriesOf tree directory =
      match tree.find? directory with
      | .error cause => .error (.io directory cause)
      | .ok (_, ⟨.directory entries, mode⟩) =>
        if Node.readable ⟨.directory entries, mode⟩ then .ok entries
        else .error (.io directory .denied)
      | .ok _ => .error (.notADirectory directory) := by
  rw [entriesOf, FileTree.list]
  cases tree.find? directory with
  | error cause => rfl
  | ok found =>
    rcases found with ⟨holder, kind, mode⟩
    cases kind with
    | file _ | link _ | special => rfl
    | directory entries =>
      dsimp only
      cases Node.readable ⟨.directory entries, mode⟩ <;> rfl

/-- Entries were listed only where the path leads to a directory with these entries that can be
read. -/
theorem entriesOf_eq_ok {tree : FileTree} {directory : Path} {entries : List (Bytes × NodeId)}
    (listed : entriesOf tree directory = .ok entries) :
    ∃ holder mode, tree.find? directory = .ok (holder, ⟨.directory entries, mode⟩) ∧
      Node.readable ⟨.directory entries, mode⟩ = true := by
  rw [entriesOf_eq] at listed
  split at listed
  · cases listed
  · rename_i holder held mode found
    split at listed
    · rename_i readable
      obtain rfl := Except.ok.inj listed
      exact ⟨holder, mode, found, readable⟩
    · cases listed
  · cases listed

theorem entriesOf_mapContents (change : NodeId → Bytes → Bytes) (tree : FileTree)
    (directory : Path) :
    entriesOf (tree.mapContents change) directory = entriesOf tree directory := by
  rw [entriesOf, entriesOf, FileTree.find?_mapContents, FileTree.list_mapContents]
  cases tree.find? directory with
  | error cause => rfl
  | ok found =>
    rcases found with ⟨id, kind, mode⟩
    cases kind <;> rfl

theorem candidates_mapContents (change : NodeId → Bytes → Bytes) (tree : FileTree)
    (wanted : List (String × Path)) :
    candidates (tree.mapContents change) wanted = candidates tree wanted := by
  simp only [candidates, FileTree.regularFile?_mapContents]

end Selection

open Selection

theorem select_eq_error_iff {tree : FileTree} {directory : Path} {isWanted : String → Bool}
    {failure : Failure} :
    select tree directory isWanted = .error failure ↔
      entriesOf tree directory = .error failure := by
  unfold select
  cases entriesOf tree directory with
  | error cause => simp [bind, Except.bind]
  | ok entries => simp [bind, Except.bind, pure, Except.pure]

theorem select_of_entriesOf {tree : FileTree} {directory : Path} {isWanted : String → Bool}
    {entries : List (Bytes × NodeId)} (isListed : entriesOf tree directory = .ok entries) :
    select tree directory isWanted = .ok ((firstNames [] (inNameOrder (candidates tree
      (wantedEntries isWanted directory entries)))).map (FileRecord.ofPath ·.path)) := by
  rw [select, isListed]
  rfl

theorem select_eq_ok {tree : FileTree} {directory : Path} {isWanted : String → Bool}
    {records : List FileRecord} (selects : select tree directory isWanted = .ok records) :
    ∃ entries, entriesOf tree directory = .ok entries ∧
      records = (firstNames [] (inNameOrder (candidates tree
        (wantedEntries isWanted directory entries)))).map (FileRecord.ofPath ·.path) := by
  cases listed : entriesOf tree directory with
  | error failure => cases (select_eq_error_iff.2 listed).symm.trans selects
  | ok entries =>
    exact ⟨entries, rfl, Except.ok.inj (selects.symm.trans (select_of_entriesOf listed))⟩

/-- A selection gives every file once. -/
theorem select_separate {tree : FileTree} {directory : Path} {isWanted : String → Bool}
    {records : List FileRecord} (selects : select tree directory isWanted = .ok records) :
    Separate tree records := by
  obtain ⟨entries, -, rfl⟩ := select_eq_ok selects
  constructor
  · intro record member
    obtain ⟨candidate, first, rfl⟩ := List.mem_map.1 member
    exact ⟨candidate.file, mem_firstNames first⟩
  · rw [List.pairwise_map]
    refine (firstNames_distinct _ _).imp_of_mem fun {a b} firstA firstB differ same => differ ?_
    rw [FileRecord.ofPath, FileRecord.ofPath, mem_firstNames firstA, mem_firstNames firstB] at same
    exact Option.some.inj same

theorem select_mapContents (change : NodeId → Bytes → Bytes) (tree : FileTree) (directory : Path)
    (isWanted : String → Bool) :
    select (tree.mapContents change) directory isWanted = select tree directory isWanted := by
  rw [select, select, entriesOf_mapContents]
  simp only [candidates_mapContents]

end EnvInject
