import EnvInject.Proofs.Run.Course

/-!
# The tree after a run

Under an environment that gives each name one answer, a run fills some first part of the selected
files that have placeholders (`placeholderPaths`), and changes nothing else in the tree. The part is
all of them if the run injected, and none if it stopped before it wrote; a run that stopped while it
wrote names the file behind the part.
-/

namespace EnvInject

/-- The files that a configuration selects; none if it cannot select. -/
def selectedFiles (language : Pattern.Language) (config : Configuration) (tree : FileTree) :
    List FileRecord :=
  (selection? language config tree).getD []

/-- The paths of the selected files that have a placeholder, in the order of the selection. -/
def placeholderPaths (language : Pattern.Language) (config : Configuration) (tree : FileTree) :
    List Path :=
  ((selectedFiles language config tree).map (·.path)).filter fun path =>
    !(tree.tokensAt path).isEmpty

variable {language : Pattern.Language} {config : Configuration} {values : String → Option String}
  {tree : FileTree}

theorem Selects.selectedFiles_eq {selected : List FileRecord}
    (selects : Selects language config tree selected) :
    selectedFiles language config tree = selected := by
  rw [selectedFiles, selects_iff.1 selects, Option.getD_some]

theorem Selects.placeholderPaths_eq {selected : List FileRecord}
    (selects : Selects language config tree selected) :
    placeholderPaths language config tree = (Scan.holders tree selected).map (·.path) := by
  rw [placeholderPaths, selects.selectedFiles_eq, Scan.holders, List.filter_map,
    List.filter_map, List.map_map]
  rfl

theorem Selects.mem_placeholderPaths {selected : List FileRecord} {path : Path}
    (selects : Selects language config tree selected) :
    path ∈ placeholderPaths language config tree ↔
      (∃ record ∈ selected, record.path = path) ∧ tree.tokensAt path ≠ [] := by
  rw [placeholderPaths, selects.selectedFiles_eq, List.mem_filter, List.mem_map]
  simp

theorem Finds.placeholderPaths_eq_nil {env : Environment} {selected : List FileRecord}
    {found : Scan} (finds : Finds language config env tree selected found)
    (none : found.isEmpty = true) :
    placeholderPaths language config tree = [] := by
  rw [Scan.isEmpty, List.isEmpty_iff, Scan.files_eq_of_scan finds.scanned] at none
  rw [finds.selects.placeholderPaths_eq, List.map_eq_nil_iff]
  exact none

/-- If the scan of a run is valid, every variable that the files with placeholders name is set. -/
theorem Finds.set {selected : List FileRecord} {found : Scan}
    (finds : Finds language config (.ofFunction values) tree selected found)
    (valid : found.validate = .ok ()) :
    ∀ path ∈ placeholderPaths language config tree, ∀ token ∈ tree.tokensAt path,
      (values token.name).isSome := by
  intro path member token inFile
  obtain ⟨⟨record, given, rfl⟩, -⟩ := finds.selects.mem_placeholderPaths.1 member
  have named : token.name ∈ Scan.namesIn tree selected :=
    Scan.mem_namesIn.2 ⟨record, given, token, inFile, rfl⟩
  have noneMissing := Scan.validate_eq_ok_iff.1 valid
  cases set : values token.name with
  | some value => rfl
  | none =>
    have missing := (Scan.mem_missing_of_scan finds.scanned).2 ⟨named, set⟩
    rw [noneMissing] at missing
    cases missing

/-! ## Runs that inject -/

/-- A run that injected replaced what its scan had found, to the end. -/
theorem exists_finds_of_injected {env : Environment} {summary : Summary}
    (injected : (run language config env tree).result = .ok (.injected summary)) :
    ∃ selected found, Finds language config env tree selected found ∧ found.validate = .ok () ∧
      (run language config env tree).tree = (replace tree found).tree ∧
      (replace tree found).failure = none := by
  have course := run_course language config env tree
  rw [injected] at course
  generalize (run language config env tree).tree = final at course ⊢
  generalize same : Except.ok (Outcome.injected summary) = result at course
  cases course with
  | early _ | nothing _ _ | dry _ _ _ _ => cases same
  | @replaced selected found finds _ valid _ =>
    refine ⟨selected, found, finds, valid, rfl, ?_⟩
    rw [Replacement.result] at same
    cases failure : (replace tree found).failure with
    | none => rfl
    | some cause =>
      rw [failure] at same
      cases same

/-- A replacement that came to its end has filled all files with placeholders. -/
theorem Finds.replace_tree_of_done {env : Environment} {selected : List FileRecord} {found : Scan}
    (finds : Finds language config env tree selected found) (valid : found.validate = .ok ())
    (agree : ∀ record ∈ found.files, ∀ token ∈ record.tokens,
      found.checklist.value token.name = values token.name)
    (done : (replace tree found).failure = none) :
    (replace tree found).tree = tree.mapContents
      (fillNodes values (tree.filesAt (placeholderPaths language config tree))) := by
  obtain ⟨filled, -, failure⟩ :=
    replace_of_agreeing finds.selects.separate finds.scanned valid agree
  rw [done] at failure
  have noneBehind := Option.map_eq_none_iff.1 failure.symm
  rw [filled, writablePart_of_getElem?_eq_none noneBehind, finds.selects.placeholderPaths_eq]

/-! ## All runs -/

/-- A run fills a first part of the files with placeholders: all of them if it injected, none if it
wrote nothing, and those before the file that it names if it failed to write. Unless it is dry or
fails early, it comes as far as the files can be written. Everything else is kept, the nine
permission bits of every node included. -/
theorem run_fills_first (language : Pattern.Language) (config : Configuration)
    (values : String → Option String) (tree : FileTree) :
    let after := run language config (.ofFunction values) tree
    let paths := placeholderPaths language config tree
    ∃ count ≤ paths.length,
      after.tree = tree.mapContents (fillNodes values (tree.filesAt (paths.take count))) ∧
      (∀ path ∈ paths.take count, ∀ token ∈ tree.tokensAt path, (values token.name).isSome) ∧
      (∀ summary, after.result = .ok (.injected summary) → count = paths.length) ∧
      (∀ files occurrences names,
        after.result = .ok (.dryRun files occurrences names) → count = 0) ∧
      (after.result = .ok .nothingToDo → count = 0) ∧
      (config.dryRun = false → paths ≠ [] →
        (∀ failure, ¬FailsEarly language config (.ofFunction values) tree failure) →
          count = (paths.takeWhile tree.canWrite).length) ∧
      ∀ failure, after.result = .error failure →
        (FailsEarly language config (.ofFunction values) tree failure → count = 0) ∧
        (¬FailsEarly language config (.ofFunction values) tree failure →
          ∃ path, paths[count]? = some path ∧ tree.canWrite path = false ∧
            failure = .io path .denied) := by
  intro after paths
  have course : Course language config (.ofFunction values) tree after.result after.tree :=
    run_course ..
  have untouched : tree = tree.mapContents (fillNodes values (tree.filesAt (paths.take 0))) :=
    (tree.mapContents_fillNodes_nil values).symm
  generalize after.result = result, after.tree = final at course
  cases course with
  | early fails =>
    refine ⟨0, Nat.zero_le _, untouched, by simp, by simp, by simp, by simp, ?_, ?_⟩
    · exact fun _ _ noneEarly => absurd fails (noneEarly _)
    · intro failure same
      obtain rfl := Except.error.inj same
      exact ⟨fun _ => rfl, fun notEarly => absurd fails notEarly⟩
  | nothing finds none =>
    have noPaths : paths = [] := finds.placeholderPaths_eq_nil none
    exact ⟨0, Nat.zero_le _, untouched, by simp, by simp, by simp, by simp, by simp [noPaths],
      by simp⟩
  | dry finds some valid isDry =>
    exact ⟨0, Nat.zero_le _, untouched, by simp, by simp, by simp, by simp, by simp [isDry],
      by simp⟩
  | @replaced selected found finds some valid notDry =>
    obtain ⟨filled, -, failure⟩ := replace_of_scan finds.selects.separate finds.scanned valid
    have paths_eq : paths = (Scan.holders tree selected).map (·.path) :=
      finds.selects.placeholderPaths_eq
    refine ⟨(writablePart tree (Scan.holders tree selected)).length, ?_, ?_, ?_, ?_⟩
    · rw [paths_eq, List.length_map]
      exact writablePart_length_le tree _
    · rw [paths_eq, take_map_writablePart, filled]
    · intro path member
      exact finds.set valid path (List.mem_of_mem_take member)
    · rw [Replacement.result, failure, paths_eq, ← length_writablePart]
      cases behind : (Scan.holders tree selected)[(writablePart tree _).length]? with
      | none =>
        simp [writablePart_of_getElem?_eq_none behind, Except.map]
      | some record =>
        have stuck := canWrite_of_getElem?_writablePart behind
        have notEarly (failure : Failure) :
            ¬FailsEarly language config (.ofFunction values) tree failure := by
          intro fails
          cases valid.symm.trans (finds.of_failsEarly fails).2
        simp [Except.map, notEarly, behind, stuck]

end EnvInject
