import EnvInject.Pattern.Basic
import EnvInject.Proofs.Run.Course

/-!
# Runs with unset variables

If every selected file can be read, a run reports unset variables exactly when some file names one.
It then reports all of them, each once and in order, and has written nothing: what it misses is what
stands on the checklist of its scan without a value (`Finds.run_of_missing`).
-/

namespace EnvInject

variable {language : Pattern.Language} {config : Configuration} {values : String → Option String}
  {tree : FileTree}

theorem Scan.missing_of_isEmpty {records : List FileRecord} {found : Scan}
    (scanned : scan tree (.ofFunction values) records = .ok found) (none : found.isEmpty = true) :
    found.checklist.missing = [] := by
  rw [isEmpty, List.isEmpty_iff, files_eq_of_scan scanned] at none
  rw [List.eq_nil_iff_forall_not_mem]
  intro name member
  obtain ⟨named, -⟩ := (mem_missing_of_scan scanned).1 member
  obtain ⟨record, given, token, inFile, -⟩ := mem_namesIn.1 named
  rw [holders_eq_nil_iff.1 none record given] at inFile
  cases inFile

/-- A run that found unset variables reports them and writes nothing. -/
theorem Finds.run_of_missing {selected : List FileRecord} {found : Scan}
    (finds : Finds language config (.ofFunction values) tree selected found)
    (missing : found.checklist.missing ≠ []) :
    (run language config (.ofFunction values) tree).result =
        .error (.missingVariables found.checklist.missing) ∧
      (run language config (.ofFunction values) tree).tree = tree := by
  have course := run_course language config (.ofFunction values) tree
  generalize (run language config (.ofFunction values) tree).result = result,
    (run language config (.ofFunction values) tree).tree = final at course
  have invalid : found.validate ≠ .ok () := fun valid => missing (Scan.validate_eq_ok_iff.1 valid)
  cases course with
  | early fails =>
    obtain ⟨rfl, -⟩ := Scan.validate_eq_error (finds.of_failsEarly fails).2
    exact ⟨rfl, rfl⟩
  | nothing finds' none =>
    obtain ⟨rfl, rfl⟩ := finds.unique finds'
    exact absurd (Scan.missing_of_isEmpty finds.scanned none) missing
  | dry finds' _ valid _ =>
    obtain ⟨rfl, rfl⟩ := finds.unique finds'
    exact absurd valid invalid
  | replaced finds' _ valid _ =>
    obtain ⟨rfl, rfl⟩ := finds.unique finds'
    exact absurd valid invalid

/-- A run whose scan misses nothing reports no missing variables, whatever else becomes of it. -/
theorem Finds.run_of_missing_eq_nil {selected : List FileRecord} {found : Scan}
    (finds : Finds language config (.ofFunction values) tree selected found)
    (noneMissing : found.checklist.missing = []) (names : List String) :
    (run language config (.ofFunction values) tree).result ≠ .error (.missingVariables names) := by
  have course := run_course language config (.ofFunction values) tree
  generalize (run language config (.ofFunction values) tree).result = result,
    (run language config (.ofFunction values) tree).tree = final at course
  cases course with
  | early fails =>
    have missing := (Scan.validate_eq_error (finds.of_failsEarly fails).2).2
    exact absurd noneMissing missing
  | nothing _ _ => simp
  | dry _ _ _ _ => simp
  | @replaced selected found finds _ valid _ =>
    -- Only a file that cannot be written is left to fail.
    obtain ⟨-, -, failure⟩ := replace_of_scan finds.selects.separate finds.scanned valid
    rw [Replacement.result, failure]
    cases (Scan.holders tree selected)[(writablePart tree _).length]? with
    | none => simp [Except.map]
    | some record => simp [Except.map]

/-- A run whose files can all be read reports unset variables exactly when some file names one: all
that files name, each once and in ascending order, before anything is written. -/
theorem run_missingVariables {selected : List FileRecord}
    (selects : Selects language config tree selected)
    (readable : ∀ record ∈ selected, tree.canRead record.path = true) :
    let after := run language config (.ofFunction values) tree
    ((∃ names, after.result = .error (.missingVariables names)) ↔
      ∃ record ∈ selected, ∃ token ∈ tree.tokensAt record.path, values token.name = none) ∧
    ∀ names, after.result = .error (.missingVariables names) →
      (∀ name, name ∈ names ↔
        (∃ record ∈ selected, ∃ token ∈ tree.tokensAt record.path, token.name = name) ∧
          values name = none) ∧
      names.Nodup ∧ names.Pairwise (fun a b => Utf8.encode a < Utf8.encode b) ∧
      after.tree = tree := by
  intro after
  obtain ⟨found, finds⟩ := selects.exists_finds readable (.ofFunction values)
  have mem_missing (name : String) : name ∈ found.checklist.missing ↔
      (∃ record ∈ selected, ∃ token ∈ tree.tokensAt record.path, token.name = name) ∧
        values name = none := by
    rw [Scan.mem_missing_of_scan finds.scanned, Scan.mem_namesIn]
  have nonempty (names : List String) (reports : after.result = .error (.missingVariables names)) :
      found.checklist.missing ≠ [] :=
    fun noneMissing => finds.run_of_missing_eq_nil noneMissing names reports
  refine ⟨⟨?_, ?_⟩, ?_⟩
  · rintro ⟨names, reports⟩
    obtain ⟨name, member⟩ := List.exists_mem_of_ne_nil _ (nonempty names reports)
    obtain ⟨⟨record, given, token, inFile, rfl⟩, unset⟩ := (mem_missing name).1 member
    exact ⟨record, given, token, inFile, unset⟩
  · rintro ⟨record, given, token, inFile, unset⟩
    have member := (mem_missing token.name).2 ⟨⟨record, given, token, inFile, rfl⟩, unset⟩
    exact ⟨_, (finds.run_of_missing (List.ne_nil_of_mem member)).1⟩
  · intro names reports
    obtain ⟨result, kept⟩ := finds.run_of_missing (nonempty names reports)
    obtain rfl : found.checklist.missing = names :=
      Failure.missingVariables.inj (Except.error.inj (result.symm.trans reports))
    exact ⟨mem_missing, found.checklist.missing_nodup, found.checklist.missing_ascending, kept⟩

/-- A file that names two unset variables, and one that is set to the empty text. -/
theorem run_missingVariables_two_unset :
    let config : Configuration := ⟨[0x2E], "a", false, false, false, 0⟩
    let contents := [0x42, 0x43, 0x41].flatMap fun letter => Placeholder.marker ++ [letter, 0x3B]
    let tree : FileTree := ⟨[⟨.directory [([0x61], 1)], 0o755⟩, ⟨.file contents, 0o644⟩], [0]⟩
    let values := fun name => if name = "C" then some "" else none
    ∃ names,
      (run .regular config (.ofFunction values) tree).result = .error (.missingVariables names) ∧
      ("A" ∈ names ∧ "B" ∈ names ∧ "C" ∉ names) ∧
      (run .regular config (.ofFunction values) tree).tree = tree := by
  intro config contents tree values
  have selects : Selects .regular config tree [.ofPath [0x2E, 0x2F, 0x61]] := by decide +kernel
  obtain ⟨reports_iff, report⟩ :=
    @run_missingVariables .regular config values tree _ selects (by decide +kernel)
  obtain ⟨names, reports⟩ := reports_iff.2 (by decide +kernel)
  obtain ⟨mem_names, -, -, kept⟩ := report names reports
  refine ⟨names, reports, ⟨?_, ?_, ?_⟩, kept⟩
  · exact (mem_names "A").2 (by decide +kernel)
  · exact (mem_names "B").2 (by decide +kernel)
  · exact fun member => absurd ((mem_names "C").1 member).2 (by decide +kernel)

end EnvInject
