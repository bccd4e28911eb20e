import EnvInject.Proofs.Scan

/-!
# All that a scan says

`Describes` tells what a scan found from what the files hold, without reading them one after the
other. It leaves nothing open (`Describes.unique`), so a scan that succeeds gives the one thing that
it describes. A scan fails for the first file that cannot be read, whatever the other files hold
(`scan_exact`).
-/

namespace EnvInject

namespace Scan

/-- What a scan found is what the given files hold, file by file in the order in which they were
given: `contentsAt` has the contents of each. -/
structure Describes (found : Scan) (values : String → Option String) (contentsAt : Path → Bytes)
    (records : List FileRecord) : Prop where
  files_eq : found.files =
    (records.filter fun record => !(tokens (contentsAt record.path)).isEmpty).map
      fun record => ⟨record.path, tokens (contentsAt record.path)⟩
  filesMatched_eq : found.filesMatched = records.length
  contains_iff (name : String) : found.checklist.contains name = true ↔
    ∃ record ∈ records, ∃ token ∈ tokens (contentsAt record.path), token.name = name
  value_eq (name : String) (named : found.checklist.contains name = true) :
    found.checklist.value name = values name
  occurrenceCount_eq : found.occurrenceCount =
    (records.map fun record => (tokens (contentsAt record.path)).length).sum
  isEmpty_eq : found.isEmpty = found.checklist.isEmpty

variable {values : String → Option String} {contentsAt : Path → Bytes} {tree : FileTree}
  {records : List FileRecord} {found : Scan}

/-- A description leaves nothing open. -/
theorem Describes.unique {other : Scan} (describes : found.Describes values contentsAt records)
    (describes' : other.Describes values contentsAt records) : found = other := by
  have checklist : found.checklist = other.checklist := by
    apply Checklist.eq_of_contains_of_value
    · intro name
      rw [Bool.eq_iff_iff, describes.contains_iff, describes'.contains_iff]
    · intro name named
      have named' := (describes'.contains_iff name).2 ((describes.contains_iff name).1 named)
      rw [describes.value_eq name named, describes'.value_eq name named']
  have files := describes.files_eq.trans describes'.files_eq.symm
  have filesMatched := describes.filesMatched_eq.trans describes'.filesMatched_eq.symm
  cases found
  cases other
  congr

/-- A scan that succeeded describes the files. -/
theorem describes_of_scan (scanned : scan tree (.ofFunction values) records = .ok found)
    (reads : ∀ record ∈ records, tree.read record.path = .ok (contentsAt record.path)) :
    found.Describes values contentsAt records := by
  have tokens_eq : ∀ record ∈ records,
      tree.tokensAt record.path = tokens (contentsAt record.path) :=
    fun record member => FileTree.tokensAt_of_read (reads record member)
  refine ⟨?_, by rw [eq_of_scan scanned], fun name => ?_, fun name named => ?_, ?_, ?_⟩
  · have kept : (records.filter fun record => !(tree.tokensAt record.path).isEmpty) =
        records.filter fun record => !(tokens (contentsAt record.path)).isEmpty :=
      List.filter_congr fun record member => by rw [tokens_eq record member]
    rw [files_eq_of_scan scanned, holders_eq_map, kept]
    refine List.map_congr_left fun record member => ?_
    rw [recordOf, tokens_eq record (List.mem_of_mem_filter member)]
  · rw [← Checklist.mem_names_iff, mem_names_of_scan scanned, mem_namesIn]
    refine exists_congr fun record => and_congr_right fun member => ?_
    rw [tokens_eq record member]
  · rw [← Checklist.mem_names_iff, mem_names_of_scan scanned] at named
    rw [eq_of_scan scanned, Resolution.value_start, if_pos named]
  · rw [occurrenceCount_of_scan scanned]
    exact congrArg List.sum (List.map_congr_left fun record member => by
      rw [tokens_eq record member])
  · exact isEmpty_of_scan scanned

/-- A scan succeeds exactly if all files can be read, and then it gives what describes them. It
fails exactly if some file cannot be read, with the failure of the first such file. -/
theorem scan_exact (values : String → Option String) (tree : FileTree)
    (records : List FileRecord) :
    ((∃ found, scan tree (.ofFunction values) records = .ok found) ↔
      ∀ record ∈ records, ∃ contents, tree.read record.path = .ok contents) ∧
    (∀ found, scan tree (.ofFunction values) records = .ok found ↔
      ∃ contentsAt : Path → Bytes,
        (∀ record ∈ records, tree.read record.path = .ok (contentsAt record.path)) ∧
        found.Describes values contentsAt records) ∧
    ∀ failure, scan tree (.ofFunction values) records = .error failure ↔
      ∃ before record after cause, records = before ++ record :: after ∧
        (∀ earlier ∈ before, ∃ contents, tree.read earlier.path = .ok contents) ∧
        tree.read record.path = .error cause ∧ failure = .io record.path cause := by
  have ok_iff : (∃ found, scan tree (.ofFunction values) records = .ok found) ↔
      ∀ record ∈ records, ∃ contents, tree.read record.path = .ok contents := by
    constructor
    · rintro ⟨found, scanned⟩ record member
      exact FileTree.read_of_canRead (canRead_of_scan scanned record member)
    · intro readable
      refine ⟨_, scan_of_readable _ fun record member => ?_⟩
      obtain ⟨contents, reads⟩ := readable record member
      exact FileTree.canRead_of_read reads
  refine ⟨ok_iff, fun found => ⟨fun scanned => ?_, ?_⟩, fun failure => ?_⟩
  · -- The contents are those that are read, and do not matter at a path that no record has.
    let contentsAt path := ((tree.read path).toOption).getD []
    have reads : ∀ record ∈ records, tree.read record.path = .ok (contentsAt record.path) := by
      intro record member
      obtain ⟨contents, reads⟩ := ok_iff.1 ⟨found, scanned⟩ record member
      simp only [contentsAt, reads]
      rfl
    exact ⟨contentsAt, reads, describes_of_scan scanned reads⟩
  · rintro ⟨contentsAt, reads, describes⟩
    obtain ⟨other, scanned⟩ := ok_iff.2 fun record member => ⟨_, reads record member⟩
    rw [describes.unique (describes_of_scan scanned reads), scanned]
  · rw [scan_eq_error_iff, List.findSome?_eq_some_iff]
    simp only [readFailure_eq_none_iff, readFailure_eq_some_iff]
    constructor
    · rintro ⟨before, record, after, split, ⟨cause, fails, rfl⟩, earlier⟩
      exact ⟨before, record, after, cause, split, earlier, fails, rfl⟩
    · rintro ⟨before, record, after, cause, split, earlier, fails, rfl⟩
      exact ⟨before, record, after, split, ⟨cause, fails, rfl⟩, earlier⟩

end Scan

end EnvInject
