import EnvInject.Proofs.FileTree.Extended
import EnvInject.Proofs.Selection.Names

/-!
# Further names of selected files

If a directory is given further names of files that are selected in it, the same files are selected
(`select_aliased`), whatever the new names are and wherever they stand in the order.
-/

namespace EnvInject

open Selection

variable {tree other : FileTree} {directory : Path} {isWanted : String → Bool}
  {records : List FileRecord} {holder : NodeId} {extra : List (Bytes × NodeId)}

/-- The extended directory can be listed exactly if the other one can. -/
theorem exists_select_aliased {paths : List Path}
    (aliased : tree.Aliased other directory paths holder extra) :
    (∃ others, select other directory isWanted = .ok others) ↔
      ∃ records, select tree directory isWanted = .ok records := by
  obtain ⟨node, isHolder⟩ := aliased.isHolder
  obtain ⟨entries, listed, mode, rfl, isHolder', -⟩ := aliased.find?_of_holder isHolder
  rw [exists_select_iff, exists_select_iff]
  constructor
  · rintro ⟨id, listed', mode', found, readable⟩
    cases found.symm.trans isHolder'
    exact ⟨holder, entries, mode, isHolder, readable⟩
  · rintro ⟨id, entries', mode', found, readable⟩
    cases found.symm.trans isHolder
    exact ⟨holder, listed, mode, isHolder', readable⟩

/-- A selection gives the same files if its directory has further names of them. -/
theorem select_aliased
    (aliased : tree.Aliased other directory (records.map (·.path)) holder extra)
    (selects : select tree directory isWanted = .ok records) {others : List FileRecord}
    (selects' : select other directory isWanted = .ok others) (file : NodeId) :
    (∃ path ∈ others.map (·.path), other.regularFile? path = some file) ↔
      ∃ path ∈ records.map (·.path), tree.regularFile? path = some file := by
  obtain ⟨id, entries, mode, names, found, rfl, selection⟩ := exists_selectedNames selects
  obtain ⟨id', listed, mode', names', found', rfl, selection'⟩ := exists_selectedNames selects'
  obtain ⟨listed, foundListed, perm⟩ := aliased.find?_directory found
  cases found'.symm.trans foundListed
  have paths (names : List Bytes) :
      (names.map fun name => FileRecord.ofPath (directory.entry name)).map (·.path) =
        names.map directory.entry :=
    List.map_map
  rw [paths] at aliased
  rw [paths, paths]
  constructor
  · rintro ⟨path, inPaths, regular⟩
    obtain ⟨name, inNames, rfl⟩ := List.mem_map.1 inPaths
    obtain ⟨inListed, wanted, -⟩ := selection'.wanted name inNames
    obtain ⟨entry, member, rfl⟩ := List.mem_map.1 inListed
    rcases List.mem_append.1 (perm.symm.subset member) with old | new
    · rcases aliased.regularFile?_cases regular with before | known
      · obtain ⟨first, isFirst, leads, -⟩ :=
          selection.covers entry.1 (List.mem_map_of_mem old) wanted file before
        exact ⟨directory.entry first, List.mem_map_of_mem isFirst, leads⟩
      · exact known
    · exact aliased.exists_of_regularFile?_entry new regular
  · rintro ⟨path, inPaths, regular⟩
    obtain ⟨name, inNames, rfl⟩ := List.mem_map.1 inPaths
    obtain ⟨inEntries, wanted, -⟩ := selection.wanted name inNames
    obtain ⟨entry, member, rfl⟩ := List.mem_map.1 inEntries
    obtain ⟨contents, fileMode, isFile⟩ := FileTree.find?_of_regularFile? regular
    have kept := FileTree.regularFile?_of_find? (aliased.find?_of_file isFile)
    have inListed := List.mem_map_of_mem (f := Prod.fst)
      (perm.subset (List.mem_append_left extra member))
    obtain ⟨first, isFirst, leads, -⟩ := selection'.covers entry.1 inListed wanted file kept
    exact ⟨directory.entry first, List.mem_map_of_mem isFirst, leads⟩

end EnvInject
