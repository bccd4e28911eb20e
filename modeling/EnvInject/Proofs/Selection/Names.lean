import EnvInject.Proofs.Selection.Order
import Mathlib.Data.Set.List

/-!
# Which names a selection gives

`SelectedNames` says which names of a directory are selected: wanted names of regular files in
ascending order, one for each file, and for each of these files a name that no other wanted name of
it comes before. A selection of a directory that can be listed gives the paths of such names; of any
other path it fails, and the reason tells what the path leads to (`select_exact`).
-/

namespace EnvInject

/-- The names under which the wanted files of a directory are selected. -/
structure SelectedNames (tree : FileTree) (directory : Path) (isWanted : String → Bool)
    (entries : List (Bytes × NodeId)) (names : List Bytes) : Prop where
  wanted : ∀ name ∈ names, name ∈ entries.map Prod.fst ∧ isWanted (Utf8.lossy name) = true ∧
    ∃ file, tree.regularFile? (directory.entry name) = some file
  ascending : names.Pairwise fun a b => Utf8.encode (Utf8.lossy a) ≤ Utf8.encode (Utf8.lossy b)
  apart : names.Pairwise fun a b =>
    tree.regularFile? (directory.entry a) ≠ tree.regularFile? (directory.entry b)
  covers : ∀ name ∈ entries.map Prod.fst, isWanted (Utf8.lossy name) = true →
    ∀ file, tree.regularFile? (directory.entry name) = some file →
      ∃ first ∈ names, tree.regularFile? (directory.entry first) = some file ∧
        Utf8.encode (Utf8.lossy first) ≤ Utf8.encode (Utf8.lossy name)

open Selection

variable {tree : FileTree} {directory : Path} {isWanted : String → Bool}
  {entries : List (Bytes × NodeId)}

/-- Candidates are read off the names of entries. -/
theorem exists_names {kept : List Candidate}
    (fromEntries : ∀ candidate ∈ kept,
      candidate ∈ candidates tree (wantedEntries isWanted directory entries)) :
    ∃ names : List Bytes, kept.map (fun candidate => (candidate.name, candidate.path)) =
      names.map fun name => (Utf8.lossy name, directory.entry name) := by
  have made : kept.map (fun candidate => (candidate.name, candidate.path)) ∈
      Set.range (List.map fun name => (Utf8.lossy name, directory.entry name)) := by
    rw [Set.range_list_map]
    intro pair member
    obtain ⟨candidate, inKept, rfl⟩ := List.mem_map.1 member
    obtain ⟨entry, -, -, -, name, path⟩ := mem_candidates_iff.1 (fromEntries candidate inKept)
    exact ⟨entry.1, by rw [name, path]⟩
  obtain ⟨names, same⟩ := made
  exact ⟨names, same.symm⟩

/-- A name is selected exactly if a kept candidate has it. The path decides, since different names
may read the same. -/
theorem mem_names_iff {kept : List Candidate} {names : List Bytes}
    (same : kept.map (fun candidate => (candidate.name, candidate.path)) =
      names.map fun name => (Utf8.lossy name, directory.entry name)) {name : Bytes} :
    name ∈ names ↔ ∃ candidate ∈ kept, candidate.name = Utf8.lossy name ∧
      candidate.path = directory.entry name := by
  constructor
  · intro member
    have inPairs : (Utf8.lossy name, directory.entry name) ∈
        kept.map fun candidate => (candidate.name, candidate.path) := by
      rw [same]
      exact List.mem_map_of_mem member
    obtain ⟨candidate, inKept, pair⟩ := List.mem_map.1 inPairs
    exact ⟨candidate, inKept, (Prod.mk.inj pair).1, (Prod.mk.inj pair).2⟩
  · rintro ⟨candidate, inKept, -, path⟩
    have inPairs : (candidate.name, candidate.path) ∈
        names.map fun name => (Utf8.lossy name, directory.entry name) := by
      rw [← same]
      exact List.mem_map_of_mem inKept
    obtain ⟨other, member, pair⟩ := List.mem_map.1 inPairs
    rw [path] at pair
    rwa [← Path.entry_injective directory (Prod.mk.inj pair).2]

/-- The names of the candidates that come first, file by file. -/
theorem selectedNames_of_candidates {names : List Bytes}
    (same : (Selection.firstNames [] (inNameOrder (candidates tree
        (wantedEntries isWanted directory entries)))).map
          (fun candidate => (candidate.name, candidate.path)) =
      names.map fun name => (Utf8.lossy name, directory.entry name)) :
    SelectedNames tree directory isWanted entries names := by
  have sorted := inNameOrder_sorted (candidates tree (wantedEntries isWanted directory entries))
  have names_eq := congrArg (List.map Prod.fst) same
  have paths_eq := congrArg (List.map Prod.snd) same
  simp only [List.map_map, Function.comp_def] at names_eq paths_eq
  constructor
  case wanted =>
    intro name member
    obtain ⟨candidate, kept, -, path⟩ := (mem_names_iff same).1 member
    have found := mem_inNameOrder.1 ((firstNames_sublist _ _).subset kept)
    obtain ⟨entry, listed, wanted, regular, -, path'⟩ := mem_candidates_iff.1 found
    obtain rfl := Path.entry_injective directory (path.symm.trans path')
    exact ⟨List.mem_map_of_mem listed, wanted, candidate.file, regular⟩
  case ascending =>
    have ascends : ((Selection.firstNames [] (inNameOrder (candidates tree
        (wantedEntries isWanted directory entries)))).map (·.name)).Pairwise
          fun a b => Utf8.encode a ≤ Utf8.encode b :=
      List.pairwise_map.2 (sorted.sublist (firstNames_sublist [] _))
    rwa [names_eq, List.pairwise_map] at ascends
  case apart =>
    have distinct : ((Selection.firstNames [] (inNameOrder (candidates tree
        (wantedEntries isWanted directory entries)))).map (·.path)).Pairwise
          fun a b => tree.regularFile? a ≠ tree.regularFile? b := by
      refine List.pairwise_map.2 ((firstNames_distinct [] _).imp_of_mem ?_)
      intro a b keptA keptB differ isSame
      rw [mem_firstNames keptA, mem_firstNames keptB] at isSame
      exact differ (Option.some.inj isSame)
    rwa [paths_eq, List.pairwise_map] at distinct
  case covers =>
    intro name listed wanted file regular
    obtain ⟨entry, inEntries, rfl⟩ := List.mem_map.1 listed
    have found : ⟨Utf8.lossy entry.1, directory.entry entry.1, file⟩ ∈
        candidates tree (wantedEntries isWanted directory entries) :=
      mem_candidates_iff.2 ⟨entry, inEntries, wanted, regular, rfl, rfl⟩
    rcases @firstNames_covers [] _ _ (mem_inNameOrder.2 found) with seen | ⟨first, kept, isFile⟩
    · cases seen
    · have least := firstNames_le sorted kept _ (mem_inNameOrder.2 found) isFile.symm
      have inCandidates := mem_inNameOrder.1 ((firstNames_sublist _ _).subset kept)
      obtain ⟨entry', -, -, regular', name', path'⟩ := mem_candidates_iff.1 inCandidates
      refine ⟨entry'.1, (mem_names_iff same).2 ⟨first, kept, name', path'⟩, ?_, ?_⟩
      · rw [regular', isFile]
      · rwa [name'] at least

/-- A directory that can be listed is all that a selection needs. -/
theorem exists_select_iff :
    (∃ records, select tree directory isWanted = .ok records) ↔
      ∃ id entries mode, tree.find? directory = .ok (id, ⟨.directory entries, mode⟩) ∧
        Node.readable ⟨.directory entries, mode⟩ = true := by
  constructor
  · rintro ⟨records, selects⟩
    obtain ⟨entries, listed, -⟩ := select_eq_ok selects
    obtain ⟨id, mode, found, readable⟩ := entriesOf_eq_ok listed
    exact ⟨id, entries, mode, found, readable⟩
  · rintro ⟨id, entries, mode, found, readable⟩
    have listed : entriesOf tree directory = .ok entries := by
      rw [entriesOf_eq, found]
      exact if_pos readable
    exact ⟨_, select_of_entriesOf listed⟩

theorem exists_selectedNames {records : List FileRecord}
    (selects : select tree directory isWanted = .ok records) :
    ∃ id entries mode names, tree.find? directory = .ok (id, ⟨.directory entries, mode⟩) ∧
      records = names.map (fun name => .ofPath (directory.entry name)) ∧
      SelectedNames tree directory isWanted entries names := by
  obtain ⟨entries, listed, rfl⟩ := select_eq_ok selects
  obtain ⟨id, mode, found, -⟩ := entriesOf_eq_ok listed
  obtain ⟨names, same⟩ := exists_names fun candidate kept =>
    mem_inNameOrder.1 ((firstNames_sublist [] _).subset kept)
  refine ⟨id, entries, mode, names, found, ?_, selectedNames_of_candidates same⟩
  have paths := congrArg (List.map fun pair => FileRecord.ofPath pair.2) same
  rwa [List.map_map, List.map_map] at paths

/-- A selection of a directory that can be listed gives the paths of its first names. It fails if
the path leads to something else, and for the reason of the file system if the path cannot be
followed or the directory not be listed. -/
theorem select_exact (tree : FileTree) (directory : Path) (isWanted : String → Bool) :
    ((∃ records, select tree directory isWanted = .ok records) ↔
      ∃ id entries mode, tree.find? directory = .ok (id, ⟨.directory entries, mode⟩) ∧
        Node.readable ⟨.directory entries, mode⟩ = true) ∧
    (select tree directory isWanted = .error (.notADirectory directory) ↔
      ∃ id node, tree.find? directory = .ok (id, node) ∧
        ∀ entries, node.kind ≠ .directory entries) ∧
    (∀ failure, select tree directory isWanted = .error failure →
      failure = .notADirectory directory ∨ ∃ cause, failure = .io directory cause ∧
        (tree.find? directory = .error cause ∨ tree.list directory = .error cause)) ∧
    ∀ records, select tree directory isWanted = .ok records →
      ∃ id entries mode names, tree.find? directory = .ok (id, ⟨.directory entries, mode⟩) ∧
        records = names.map (fun name => .ofPath (directory.entry name)) ∧
        SelectedNames tree directory isWanted entries names := by
  refine ⟨exists_select_iff, ?_, ?_, ?_⟩
  · rw [select_eq_error_iff, entriesOf_eq]
    cases found : tree.find? directory with
    | error cause => simp
    | ok place =>
      rcases place with ⟨id, kind, mode⟩
      cases kind with
      | directory entries =>
        dsimp only
        split <;> simp
      | file _ | link _ | special => simp
  · intro failure fails
    rw [select_eq_error_iff, entriesOf] at fails
    split at fails
    · rename_i cause found
      exact .inr ⟨cause, (Except.error.inj fails).symm, .inl found⟩
    · split at fails
      · rename_i cause listed
        exact .inr ⟨cause, (Except.error.inj fails).symm, .inr listed⟩
      · cases fails
    · exact .inl (Except.error.inj fails).symm
  · exact fun records => exists_selectedNames

end EnvInject
