import EnvInject.Proofs.Replacement
import EnvInject.Proofs.Replacement.Guard

/-!
# The order of the files

Scans of the same files in two orders differ in the order of their files and in nothing else
(`Scan.reordered_of_perm`): the checklist has the same names, each with its one answer. Different
files that can all be written are each filled by itself, so it is enough to know which files a
replacement has filled (`replace_of_writable`, `fillNodes_congr`), and their order is lost.
-/

namespace EnvInject

variable {values : String → Option String} {tree : FileTree} {records others : List FileRecord}

/-! ## Scans -/

theorem tokenCount_perm (perm : records.Perm others) : tokenCount records = tokenCount others := by
  rw [tokenCount_eq_sum, tokenCount_eq_sum]
  exact (perm.map _).sum_nat

namespace Scan

/-- Scans that differ at most in the order of their files. -/
structure Reordered (found other : Scan) : Prop where
  files : found.files.Perm other.files
  checklist : found.checklist = other.checklist
  filesMatched : found.filesMatched = other.filesMatched

variable {found other : Scan}

theorem Reordered.validate (reordered : Reordered found other) :
    found.validate = other.validate := by
  rw [Scan.validate, Scan.validate, reordered.checklist]

theorem Reordered.occurrenceCount (reordered : Reordered found other) :
    found.occurrenceCount = other.occurrenceCount :=
  tokenCount_perm reordered.files

theorem Reordered.fileCount (reordered : Reordered found other) :
    found.fileCount = other.fileCount :=
  reordered.files.length_eq

theorem reordered_of_perm (perm : records.Perm others)
    (scanned : scan tree (.ofFunction values) records = .ok found)
    (scanned' : scan tree (.ofFunction values) others = .ok other) : Reordered found other := by
  have sameNames (name : String) : name ∈ namesIn tree records ↔ name ∈ namesIn tree others := by
    simp only [mem_namesIn, perm.mem_iff]
  rw [eq_of_scan scanned, eq_of_scan scanned']
  exact ⟨(perm.map _).filter _, Resolution.checklist_start_congr sameNames, perm.length_eq⟩

/-- The files of a scan are there, so they are separate if they are different ones. -/
theorem separate_of_distinct {env : Environment} (scanned : scan tree env records = .ok found)
    (distinct : found.files.Pairwise fun a b =>
      tree.regularFile? a.path ≠ tree.regularFile? b.path) :
    Separate tree (holders tree records) := by
  rw [files_eq_of_scan scanned] at distinct
  refine ⟨fun record member => ?_, distinct⟩
  obtain ⟨-, unscanned, given, rfl⟩ := mem_holders.1 member
  obtain ⟨contents, reads⟩ := FileTree.read_of_canRead (canRead_of_scan scanned unscanned given)
  obtain ⟨id, mode, here, -⟩ := FileTree.find?_of_read reads
  exact ⟨id, FileTree.regularFile?_of_find? here⟩

end Scan

/-! ## Replacements -/

/-- Filling does not depend on the order of the files. -/
theorem fillNodes_congr {ids ids' : List NodeId} (same : ∀ id, id ∈ ids ↔ id ∈ ids') :
    fillNodes values ids = fillNodes values ids' := by
  funext id contents
  simp only [fillNodes, same]

/-- If the files of a scan are different ones and can all be written, its replacement fills them all
or, for want of a variable, none. -/
theorem replace_of_writable {env : Environment} {found : Scan}
    (scanned : scan tree env records = .ok found)
    (distinct : found.files.Pairwise fun a b =>
      tree.regularFile? a.path ≠ tree.regularFile? b.path)
    (writable : ∀ record ∈ found.files, tree.canWrite record.path = true) :
    (replace tree found).tree = tree.mapContents (fillNodes found.checklist.value
        (if found.checklist.missing = [] then tree.filesAt (found.files.map (·.path)) else [])) ∧
      (replace tree found).result found =
        if found.checklist.missing = [] then
          .ok ⟨found.fileCount, found.occurrenceCount, found.checklist.size⟩
        else .error (.missingVariables found.checklist.missing) := by
  by_cases missing : found.checklist.missing = []
  · obtain ⟨final, written, failure⟩ := replace_of_separate
      (Scan.separate_of_distinct scanned distinct) scanned (Scan.validate_eq_ok_iff.2 missing)
      fun _ _ _ _ => rfl
    rw [← Scan.files_eq_of_scan scanned] at final written failure
    have all : writablePart tree found.files = found.files :=
      List.takeWhile_eq_self_iff.2 writable
    rw [all] at final written failure
    rw [List.getElem?_length, Option.map_none] at failure
    rw [if_pos missing, if_pos missing, Replacement.result, failure, written]
    exact ⟨final, rfl⟩
  · rw [if_neg missing, if_neg missing, replace_of_missing missing,
      FileTree.mapContents_fillNodes_nil]
    exact ⟨rfl, rfl⟩

/-- The same files are filled with the same values. -/
theorem Scan.Reordered.fillNodes_eq {found other : Scan} (reordered : Reordered found other)
    (tree : FileTree) :
    fillNodes found.checklist.value
        (if found.checklist.missing = [] then tree.filesAt (found.files.map (·.path)) else []) =
      fillNodes other.checklist.value
        (if other.checklist.missing = [] then tree.filesAt (other.files.map (·.path)) else []) := by
  rw [reordered.checklist]
  refine fillNodes_congr fun id => ?_
  split
  · exact ((reordered.files.map _).filterMap _).mem_iff
  · rfl

/-- The order in which files are scanned does not matter: the scans say the same, with their files
in different orders. If these files are different ones and can all be written, replacing the scans
leaves the same tree and ends in the same way. -/
theorem file_order_irrelevant (values : String → Option String) (perm : records.Perm others)
    (readable : ∀ record ∈ records, ∃ contents, tree.read record.path = .ok contents) :
    ∃ found other, scan tree (.ofFunction values) records = .ok found ∧
      scan tree (.ofFunction values) others = .ok other ∧
      found.checklist = other.checklist ∧ found.validate = other.validate ∧
      found.occurrenceCount = other.occurrenceCount ∧ found.fileCount = other.fileCount ∧
      found.filesMatched = other.filesMatched ∧ found.files.Perm other.files ∧
      ((found.files.Pairwise fun a b => tree.regularFile? a.path ≠ tree.regularFile? b.path) →
        (∀ record ∈ found.files, tree.canWrite record.path = true) →
        (replace tree found).tree = (replace tree other).tree ∧
        (replace tree found).result found = (replace tree other).result other ∧
        (replace tree found).result found =
          if found.checklist.missing = [] then
            .ok ⟨found.fileCount, found.occurrenceCount, found.checklist.size⟩
          else .error (.missingVariables found.checklist.missing)) := by
  have canRead : ∀ record ∈ records, tree.canRead record.path = true := fun record member =>
    (readable record member).elim fun _ reads => FileTree.canRead_of_read reads
  obtain ⟨found, scanned⟩ : ∃ found, scan tree (.ofFunction values) records = .ok found :=
    ⟨_, Scan.scan_of_readable _ canRead⟩
  obtain ⟨other, scanned'⟩ : ∃ other, scan tree (.ofFunction values) others = .ok other :=
    ⟨_, Scan.scan_of_readable _ fun record member => canRead record (perm.mem_iff.2 member)⟩
  have reordered := Scan.reordered_of_perm perm scanned scanned'
  refine ⟨found, other, scanned, scanned', reordered.checklist, reordered.validate,
    reordered.occurrenceCount, reordered.fileCount, reordered.filesMatched, reordered.files, ?_⟩
  intro distinct writable
  obtain ⟨final, result⟩ := replace_of_writable scanned distinct writable
  obtain ⟨final', result'⟩ := replace_of_writable scanned'
    (reordered.files.pairwise distinct fun differs => differs.symm)
    fun record member => writable record (reordered.files.mem_iff.2 member)
  refine ⟨?_, ?_, result⟩
  · rw [final, final', reordered.fillNodes_eq]
  · rw [result, result', reordered.fileCount, reordered.occurrenceCount, reordered.checklist]

/-- Two files that meet the same variables in two orders. -/
theorem file_order_irrelevant_two :
    let tree : FileTree :=
      ⟨[⟨.directory [([0x61], 1), ([0x62], 2)], 0o755⟩,
        ⟨.file (Placeholder.marker ++ [0x42]), 0o644⟩,
        ⟨.file (Placeholder.marker ++ [0x41, 0x20] ++ Placeholder.marker ++ [0x42]), 0o644⟩], [0]⟩
    let records := [[0x61], [0x62]].map FileRecord.ofPath
    let env := Environment.ofFunction fun name => some (name ++ name)
    records.Perm records.reverse ∧
      (∀ record ∈ records, ∃ contents, tree.read record.path = .ok contents) ∧
      ∃ found other, scan tree env records = .ok found ∧ scan tree env records.reverse = .ok other ∧
        found.checklist = other.checklist ∧ found.files ≠ other.files ∧
        (found.files.Pairwise fun a b => tree.regularFile? a.path ≠ tree.regularFile? b.path) ∧
        (∀ record ∈ found.files, tree.canWrite record.path = true) ∧
        (replace tree found).tree = (replace tree other).tree ∧
        (replace tree other).result other = .ok ⟨2, 3, 2⟩ := by
  intro tree records env
  have perm : records.Perm records.reverse := (List.reverse_perm records).symm
  have readable : ∀ record ∈ records, ∃ contents, tree.read record.path = .ok contents :=
    fun record member => FileTree.read_of_canRead
      (List.all_eq_true.1 (by decide +kernel : records.all fun record =>
        tree.canRead record.path) record member)
  obtain ⟨found, other, scanned, scanned', checklist, -, -, -, -, -, replaces⟩ :=
    file_order_irrelevant (fun name => some (name ++ name)) perm readable
  obtain rfl := Scan.eq_of_scan scanned
  obtain rfl := Scan.eq_of_scan scanned'
  obtain ⟨final, result, -⟩ := replaces (by decide +kernel) (by decide +kernel)
  exact ⟨perm, readable, _, _, scanned, scanned', checklist, by decide +kernel,
    by decide +kernel, by decide +kernel, final, result.symm.trans (by decide +kernel)⟩

end EnvInject
