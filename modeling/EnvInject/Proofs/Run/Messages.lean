import EnvInject.Proofs.Run.Lookups
import EnvInject.Proofs.Selection.Names

/-!
# The messages of a run

If some selected file has a placeholder and all can be read, a run tells how many files were
selected and how many of them have placeholders, how many placeholders there are and of how many
variables, the placeholders of each file, the variables one by one, and at last that it succeeded,
if it did. The numbers are those of the result, and the variables that are crossed out are those of
the failure (`run_tells`).
-/

namespace EnvInject

/-! ## Lines -/

namespace Run

theorem message?_checkEntry (name : String) (isSet : Bool) :
    message? (checkEntry (name, isSet)) =
      some (if isSet then ⟨.info, "  ✓ " ++ name⟩ else ⟨.error, "  ✗ " ++ name⟩) := by
  cases isSet with
  | true => rfl
  | false => rfl

/-- What is told about placeholders that were found. -/
theorem foundEntries_messages (found : Scan) :
    (foundEntries found).filterMap message? =
      ⟨.info, foundText found⟩ :: found.files.map (fun record => ⟨.info, fileText record⟩)
        ++ found.checklist.names.map fun name =>
          if (found.checklist.value name).isSome then ⟨.info, "  ✓ " ++ name⟩
          else ⟨.error, "  ✗ " ++ name⟩ := by
  have files : (found.files.map fun record => tell .info (fileText record)).filterMap message? =
      found.files.map fun record => ⟨.info, fileText record⟩ := by
    rw [List.filterMap_map, ← List.filterMap_eq_map]
    rfl
  have marks : (found.checklist.marks.map checkEntry).filterMap message? =
      found.checklist.names.map fun name =>
        if (found.checklist.value name).isSome then ⟨.info, "  ✓ " ++ name⟩
        else ⟨.error, "  ✗ " ++ name⟩ := by
    rw [Checklist.marks_eq, List.map_map, List.filterMap_map, ← List.filterMap_eq_map]
    refine List.filterMap_congr fun name _ => ?_
    exact message?_checkEntry name _
  rw [foundEntries, List.filterMap_append, List.filterMap_cons, files, marks]
  rfl

end Run

/-! ## Runs -/

variable {language : Pattern.Language} {config : Configuration} {tree : FileTree}
  {selected : List FileRecord}

/-- Selected files are called by the names of their entries. -/
theorem Selects.displayName (selects : Selects language config tree selected)
    (proper : tree.Proper) :
    ∃ id entries mode, tree.find? config.directory = .ok (id, ⟨.directory entries, mode⟩) ∧
      ∀ record ∈ selected, ∃ name ∈ entries.map Prod.fst,
        record.path = config.directory.entry name ∧ record.displayName = Utf8.lossy name := by
  obtain ⟨isWanted, -, selects⟩ := selects
  obtain ⟨id, entries, mode, names, found, rfl, isSelection⟩ := exists_selectedNames selects
  obtain ⟨-, areNames⟩ := proper.names (FileTree.node?_of_find? found)
  refine ⟨id, entries, mode, found, fun record member => ?_⟩
  obtain ⟨name, inNames, rfl⟩ := List.mem_map.1 member
  obtain ⟨listed, -⟩ := isSelection.wanted name inNames
  exact ⟨name, listed, rfl, Path.displayName_entry (areNames name listed) _⟩

/-- How a run ends that found placeholders of these variables, and what it tells last. -/
inductive Run.Closes (names : List String) (isSet : String → Bool) (counts : Summary) :
    Except Failure Outcome → List Message → Prop
  | missing (unset : (names.filter fun name => !isSet name) ≠ []) :
    Closes names isSet counts
      (.error (.missingVariables (names.filter fun name => !isSet name))) []
  | unwritten (path : Path) (set : ∀ name ∈ names, isSet name = true) :
    Closes names isSet counts (.error (.io path .denied)) []
  | dryRun (set : ∀ name ∈ names, isSet name = true) :
    Closes names isSet counts
      (.ok (.dryRun counts.filesWritten counts.occurrencesReplaced counts.variablesInjected))
      [⟨.success, "Dry run: all variables are set, no files written"⟩]
  | injected (set : ∀ name ∈ names, isSet name = true) :
    Closes names isSet counts (.ok (.injected counts))
      [⟨.success, "Injected " ++ toString counts.variablesInjected ++ " variable(s) into "
        ++ toString counts.filesWritten ++ " file(s)"⟩]

/-- The end of a run follows from its scan. -/
theorem Finds.closes {env : Environment} {found : Scan}
    (finds : Finds language config env tree selected found) (some : found.isEmpty = false)
    {isSet : String → Bool}
    (answers : ∀ name ∈ found.checklist.names, (found.checklist.value name).isSome = isSet name) :
    Run.Closes found.checklist.names isSet
      ⟨found.fileCount, found.occurrenceCount, found.checklist.size⟩
      (run language config env tree).result
      (Run.closing (run language config env tree).result) := by
  have missing : found.checklist.missing =
      found.checklist.names.filter fun name => !isSet name := by
    rw [Checklist.missing_eq]
    refine List.filter_congr fun name member => ?_
    rw [← answers name member, Option.not_isSome]
  rw [finds.run_result, some, if_neg Bool.false_ne_true]
  by_cases unset : found.checklist.missing = []
  · have set : ∀ name ∈ found.checklist.names, isSet name = true := by
      rw [missing, List.filter_eq_nil_iff] at unset
      simpa using unset
    rw [if_neg (not_not.2 unset)]
    split
    · exact .dryRun set
    · cases (placeholderPaths language config tree).find? fun path => !tree.canWrite path with
      | some path => exact .unwritten path set
      | none => exact .injected set
  · rw [if_pos unset, missing]
    rw [missing] at unset
    exact .missing unset

/-- What a run tells that found placeholders. -/
theorem Finds.messages {env : Environment} {found : Scan}
    (finds : Finds language config env tree selected found) (some : found.isEmpty = false) :
    (run language config env tree).messages =
      ⟨.info, Run.matchedText config.matcher found⟩
        :: ((Run.foundEntries found).filterMap Run.message?
          ++ Run.closing (run language config env tree).result) := by
  obtain ⟨result, -, messages, -⟩ := finds.selects.run_eq env
  rw [messages, Run.process_messages, ← result, finds.scanned, Run.report, some,
    if_neg Bool.false_ne_true]

/-- A run of readable files, some of which has a placeholder, tells the number of files and of files
with placeholders, the number of placeholders and of variables, each file with placeholders with
their number and the name of its entry, and each variable once with whether it is set. The numbers
are those of the result, the files' numbers add up, and the unset variables are those of the
failure. A success is told last, and of a failure nothing. -/
theorem run_tells (selects : Selects language config tree selected) (proper : tree.Proper)
    (readable : ∀ record ∈ selected, tree.canRead record.path = true)
    (some : ∃ record ∈ selected, tree.tokensAt record.path ≠ []) (env : Environment) :
    let after := run language config env tree
    let files := selected.filter fun record => !(tree.tokensAt record.path).isEmpty
    let count := fun record : FileRecord => (tree.tokensAt record.path).length
    let total := (selected.map count).sum
    let isSet := fun name => (env.answerIn after.asked name).isSome
    ∃ names closing,
      (∀ name, name ∈ names ↔ name ∈ Scan.namesIn tree selected) ∧
      names.Pairwise (fun a b => Utf8.encode a < Utf8.encode b) ∧
      after.messages =
        ⟨.info, toString selected.length ++ " file(s) matched `" ++ config.matcher ++ "`, "
          ++ toString files.length ++ " with placeholders"⟩
        :: ⟨.info, "Found " ++ toString total ++ " occurrence(s) of "
          ++ toString names.length ++ " variable(s)"⟩
        :: files.map (fun record =>
          ⟨.info, "  " ++ Run.paddedCount (count record) ++ "  " ++ record.displayName⟩)
        ++ names.map (fun name =>
          if isSet name then ⟨.info, "  ✓ " ++ name⟩ else ⟨.error, "  ✗ " ++ name⟩)
        ++ closing ∧
      Run.Closes names isSet ⟨files.length, total, names.length⟩ after.result closing ∧
      (files.map count).sum = total ∧
      ∃ id entries mode, tree.find? config.directory = .ok (id, ⟨.directory entries, mode⟩) ∧
        ∀ record ∈ selected, ∃ name ∈ entries.map Prod.fst,
          record.path = config.directory.entry name ∧ record.displayName = Utf8.lossy name := by
  intro after files count total isSet
  obtain ⟨found, finds⟩ := selects.exists_finds readable env
  have scanned := finds.scanned
  have nonempty : found.isEmpty = false := by
    rw [Scan.isEmpty, Scan.files_eq_of_scan scanned, List.isEmpty_eq_false_iff, Ne,
      Scan.holders_eq_nil_iff]
    obtain ⟨record, member, placed⟩ := some
    exact fun none => placed (none record member)
  have fileCount : found.fileCount = files.length := Scan.fileCount_of_scan scanned
  have occurrences : found.occurrenceCount = total := Scan.occurrenceCount_of_scan scanned
  have matched : found.filesMatched = selected.length := by
    rw [Scan.eq_of_scan scanned]
  have answers : ∀ name ∈ found.checklist.names,
      (found.checklist.value name).isSome = isSet name := by
    intro name member
    have asked : after.asked = _ := run_asked language config env tree
    rw [selects.selectedFiles_eq] at asked
    have named := (Scan.mem_names_of_scan scanned).1 member
    rw [value_of_named scanned named, ← asked]
  refine ⟨found.checklist.names, Run.closing after.result,
    fun name => Scan.mem_names_of_scan scanned, found.checklist.names_ascending, ?_, ?_,
    Scan.sum_filter_tokens tree selected, selects.displayName proper⟩
  · have fileLines : found.files.map (fun record => (⟨.info, Run.fileText record⟩ : Message)) =
        files.map fun record =>
          ⟨.info, "  " ++ Run.paddedCount (count record) ++ "  " ++ record.displayName⟩ := by
      rw [Scan.files_eq_of_scan scanned, Scan.holders_eq_map, List.map_map]
      rfl
    have checkLines : (found.checklist.names.map fun name =>
          (if (found.checklist.value name).isSome then ⟨.info, "  ✓ " ++ name⟩
          else ⟨.error, "  ✗ " ++ name⟩ : Message)) =
        found.checklist.names.map fun name =>
          if isSet name then ⟨.info, "  ✓ " ++ name⟩ else ⟨.error, "  ✗ " ++ name⟩ := by
      refine List.map_congr_left fun name member => ?_
      rw [answers name member]
    rw [finds.messages nonempty, Run.foundEntries_messages, fileLines, checkLines,
      Run.matchedText, Run.foundText, matched, fileCount, occurrences, ← Checklist.length_names]
    rfl
  · have closes := finds.closes nonempty answers
    rw [fileCount, occurrences, ← Checklist.length_names] at closes
    exact closes

/-- One file is wanted. It has two placeholders, and one of their variables is unset. -/
theorem run_tells_unset :
    let config : Configuration := ⟨[0x2E], "a", false, false, false, 0⟩
    let contents := [0x42, 0x41].flatMap fun letter => Placeholder.marker ++ [letter, 0x3B]
    let tree : FileTree := ⟨[⟨.directory [([0x62], 2), ([0x61], 1)], 0o755⟩,
      ⟨.file contents, 0o644⟩, ⟨.file [], 0o644⟩], [0]⟩
    let values := fun name => if name = "A" then some "x" else none
    let after := run .regular config (.ofFunction values) tree
    after.result = .error (.missingVariables ["B"]) ∧
      after.messages = [⟨.info, "1 file(s) matched `a`, 1 with placeholders"⟩,
        ⟨.info, "Found 2 occurrence(s) of 2 variable(s)"⟩, ⟨.info, "     2  a"⟩,
        ⟨.info, "  ✓ A"⟩, ⟨.error, "  ✗ B"⟩] := by
  intro config contents tree values after
  have selects : Selects .regular config tree [.ofPath [0x2E, 0x2F, 0x61]] := by decide +kernel
  obtain ⟨names, closing, mem_names, ascends, messages, closes, -⟩ :=
    run_tells selects (by decide +kernel) (by decide +kernel) (by decide +kernel)
      (.ofFunction values)
  have inFile : Scan.namesIn tree [.ofPath [0x2E, 0x2F, 0x61]] = ["B", "A"] := by decide +kernel
  obtain rfl : names = ["A", "B"] := by
    refine Checklist.eq_of_ascending ascends (by decide +kernel) fun name => ?_
    rw [mem_names, inFile]
    simp [or_comm]
  have result : after.result = .error (.missingVariables ["B"]) := by decide +kernel
  obtain rfl : closing = [] := by
    generalize ended : (run .regular config (.ofFunction values) tree).result = fails at closes
    cases closes with
    | missing _ | unwritten _ _ => rfl
    | dryRun _ | injected _ => cases result.symm.trans ended
  refine ⟨result, messages.trans ?_⟩
  decide +kernel

end EnvInject
