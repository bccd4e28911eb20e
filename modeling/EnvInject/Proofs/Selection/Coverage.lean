import EnvInject.Pattern.Basic
import EnvInject.Proofs.FileTree.Entry
import EnvInject.Proofs.Run.Course

/-!
# What a selection leaves out

Every wanted entry whose path leads to a regular file is selected, or its file is under another name
(`select_covers`). An entry whose path cannot be followed is passed over without a word, so a
selection may miss files that stand in the directory: those of a directory that can be listed and
not searched, and those whose path is too long. Which entries these are among the files of the
directory is known exactly (`FileTree.regularFile?_entry_iff`).

Only the directory itself can make a selection fail (`select_eq_error_iff`).
-/

namespace EnvInject

variable {tree : FileTree} {directory : Path} {isWanted : String → Bool}

open Selection

/-- A wanted entry whose path leads to a regular file is selected under one of the names of this
file. -/
theorem exists_record_of_entry {records : List FileRecord}
    (selects : select tree directory isWanted = .ok records) {holder : NodeId} {mode : Permissions}
    {entries : List (Bytes × NodeId)}
    (found : tree.find? directory = .ok (holder, ⟨.directory entries, mode⟩)) {name : Bytes}
    {id file : NodeId} (entry : (name, id) ∈ entries) (wanted : isWanted (Utf8.lossy name) = true)
    (regular : tree.regularFile? (directory.entry name) = some file) :
    ∃ record ∈ records, tree.regularFile? record.path = some file := by
  obtain ⟨listed, isListed, rfl⟩ := select_eq_ok selects
  obtain ⟨_, _, found', -⟩ := entriesOf_eq_ok isListed
  obtain ⟨rfl, rfl, rfl⟩ : _ ∧ entries = listed ∧ _ := by
    simpa using Except.ok.inj (found.symm.trans found')
  have member : ⟨Utf8.lossy name, directory.entry name, file⟩ ∈
      candidates tree (wantedEntries isWanted directory entries) :=
    mem_candidates_iff.2 ⟨(name, id), entry, wanted, regular, rfl, rfl⟩
  rcases @firstNames_covers [] _ _ (mem_inNameOrder.2 member) with seen | ⟨first, kept, same⟩
  · exact absurd seen List.not_mem_nil
  · refine ⟨_, List.mem_map.2 ⟨first, kept, rfl⟩, ?_⟩
    rw [FileRecord.ofPath, mem_firstNames kept, same]

/-! ## Files under several names -/

theorem FileTree.tokensAt_eq_of_regularFile? {path other : Path} {id : NodeId}
    (first : tree.regularFile? path = some id) (second : tree.regularFile? other = some id) :
    tree.tokensAt path = tree.tokensAt other := by
  rw [tokensAt, tokensAt, find?_eq_of_regularFile? first second]

theorem tokensAt_eq_nil_of_nothingToDo {language : Pattern.Language} {config : Configuration}
    {env : Environment} {records : List FileRecord} (selects : Selects language config tree records)
    (nothing : (run language config env tree).result = .ok .nothingToDo) :
    ∀ record ∈ records, tree.tokensAt record.path = [] := by
  obtain ⟨selected, found, finds, none, -⟩ := exists_finds_of_nothingToDo nothing
  obtain rfl := selects.unique finds.selects
  rw [Scan.isEmpty, List.isEmpty_iff, Scan.files_eq_of_scan finds.scanned] at none
  exact Scan.holders_eq_nil_iff.1 none

/-- A selection covers the wanted entries whose paths lead to regular files, under one of the names
of each file, and a run that has nothing to do has seen all of these. For an entry that is a file
itself, its path leads to it exactly if the path and the name are not too long and the directory is
searchable; if not, the entry is passed over. Only the directory can make a selection fail. -/
theorem select_covers (tree : FileTree) (directory : Path) (isWanted : String → Bool) :
    (∀ failure, select tree directory isWanted = .error failure ↔
      entriesOf tree directory = .error failure) ∧
    ∀ records, select tree directory isWanted = .ok records →
      ∃ holder entries mode, tree.find? directory = .ok (holder, ⟨.directory entries, mode⟩) ∧
        ∀ name id, entries.lookup name = some id → isWanted (Utf8.lossy name) = true →
          (∀ file, tree.regularFile? (directory.entry name) = some file →
            (∃ record ∈ records, tree.regularFile? record.path = some file) ∧
            ∀ (language : Pattern.Language) config env, config.directory = directory →
              language.compile config.matcher = .ok isWanted →
              (run language config env tree).result = .ok .nothingToDo →
              tree.tokensAt (directory.entry name) = []) ∧
          (tree.regularFile? (directory.entry name) = none →
            ∀ record ∈ records, record.path ≠ directory.entry name) ∧
          ∀ contents fileMode, tree.node? id = some ⟨.file contents, fileMode⟩ →
            Path.IsEntryName name →
            (tree.regularFile? (directory.entry name) = some id ↔
              (directory.entry name).length < FileTree.pathLimit ∧
                Node.searchable ⟨.directory entries, mode⟩ = true ∧
                name.length ≤ FileTree.nameLimit) := by
  refine ⟨fun failure => select_eq_error_iff, fun records selects => ?_⟩
  obtain ⟨entries, listed, -⟩ := select_eq_ok selects
  obtain ⟨holder, mode, found, -⟩ := entriesOf_eq_ok listed
  refine ⟨holder, entries, mode, found, fun name id entry wanted => ⟨?_, ?_, ?_⟩⟩
  · intro file regular
    obtain ⟨record, kept, same⟩ :=
      exists_record_of_entry selects found (mem_of_lookup entry) wanted regular
    refine ⟨⟨record, kept, same⟩, fun language config env isDirectory compiles nothing => ?_⟩
    rw [FileTree.tokensAt_eq_of_regularFile? regular same]
    refine tokensAt_eq_nil_of_nothingToDo ⟨isWanted, compiles, ?_⟩ nothing record kept
    rw [isDirectory]
    exact selects
  · intro missed record member same
    obtain ⟨file, regular⟩ := (select_separate selects).regular record member
    rw [same, missed] at regular
    cases regular
  · intro contents fileMode isFile isName
    exact FileTree.regularFile?_entry_iff found entry isName isFile

/-- A directory that can be listed and not searched: no file in it is selected, and a run finds
nothing to do although a placeholder stands in one. -/
theorem select_misses_closed_directory :
    let contents := Placeholder.marker ++ [0x41]
    let tree : FileTree :=
      ⟨[⟨.directory [([0x64], 1)], 0o755⟩, ⟨.directory [([0x61], 2)], 0o444⟩,
        ⟨.file contents, 0o644⟩], [0]⟩
    let config : Configuration := ⟨[0x64], "a", false, false, false, 0⟩
    tree.list [0x64] = .ok [([0x61], 2)] ∧ tree.node? 2 = some ⟨.file contents, 0o644⟩ ∧
      tokens contents = [⟨⟨0, 12⟩, "A"⟩] ∧
      select tree [0x64] (fun name => name == "a") = .ok [] ∧
      (run .regular config (.ofList [("A", "x")]) tree).result = .ok .nothingToDo := by
  intro contents tree config
  refine ⟨by decide +kernel, by decide +kernel, by decide +kernel, by decide +kernel, ?_⟩
  decide +kernel

end EnvInject
