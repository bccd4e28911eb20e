import EnvInject.Proofs.Replacement
import EnvInject.Run

/-!
# The course of a run

A run takes one of four courses (`run_course`): it fails before the first file is written
(`FailsEarly`), it finds no placeholder, it is dry, or it replaces what it scanned. `Finds` is what
the courses after the first have in common: files were selected, and a scan of them ended.

Each step of a run has one result, so a run that finds something fails early only for want of a
variable (`Finds.of_failsEarly`). What patterns mean plays no part: the pattern language may be any.
-/

namespace EnvInject

/-- The files that a configuration selects, if the matcher is a pattern and the directory can be
listed. -/
def selection? (language : Pattern.Language) (config : Configuration) (tree : FileTree) :
    Option (List FileRecord) :=
  (language.compile config.matcher).toOption.bind fun isWanted =>
    (select tree config.directory isWanted).toOption

/-- A configuration selects these files. -/
def Selects (language : Pattern.Language) (config : Configuration) (tree : FileTree)
    (selected : List FileRecord) : Prop :=
  ∃ isWanted, language.compile config.matcher = .ok isWanted ∧
    select tree config.directory isWanted = .ok selected

theorem toOption_eq_some_iff {ε α : Type} {result : Except ε α} {value : α} :
    result.toOption = some value ↔ result = .ok value := by
  cases result with
  | error cause => simp [Except.toOption]
  | ok found => simp [Except.toOption]

theorem selects_iff {language : Pattern.Language} {config : Configuration} {tree : FileTree}
    {selected : List FileRecord} :
    Selects language config tree selected ↔ selection? language config tree = some selected := by
  simp only [Selects, selection?, Option.bind_eq_some_iff, toOption_eq_some_iff]

instance (language : Pattern.Language) (config : Configuration) (tree : FileTree)
    (selected : List FileRecord) : Decidable (Selects language config tree selected) :=
  decidable_of_iff _ selects_iff.symm

/-- The files that a configuration selects, and what a scan of them gives. -/
structure Finds (language : Pattern.Language) (config : Configuration) (env : Environment)
    (tree : FileTree) (selected : List FileRecord) (found : Scan) : Prop where
  selects : Selects language config tree selected
  scanned : scan tree env selected = .ok found

/-- The failures of a run that has written nothing: the matcher is no pattern, the directory cannot
be listed, a file cannot be read, or a variable is not set. -/
inductive FailsEarly (language : Pattern.Language) (config : Configuration) (env : Environment)
    (tree : FileTree) : Failure → Prop
  | matcher {text : String} (malformed : language.compile config.matcher = .error text) :
    FailsEarly language config env tree (.pattern text)
  | selection {isWanted : String → Bool} {failure : Failure}
    (compiles : language.compile config.matcher = .ok isWanted)
    (fails : select tree config.directory isWanted = .error failure) :
    FailsEarly language config env tree failure
  | scanning {selected : List FileRecord} {failure : Failure}
    (selects : Selects language config tree selected)
    (fails : scan tree env selected = .error failure) :
    FailsEarly language config env tree failure
  | validation {selected : List FileRecord} {found : Scan} {failure : Failure}
    (finds : Finds language config env tree selected found) (some : found.isEmpty = false)
    (fails : found.validate = .error failure) :
    FailsEarly language config env tree failure

/-- The results of runs and the trees that they leave. -/
inductive Course (language : Pattern.Language) (config : Configuration) (env : Environment)
    (tree : FileTree) : Except Failure Outcome → FileTree → Prop
  | early {failure : Failure} (fails : FailsEarly language config env tree failure) :
    Course language config env tree (.error failure) tree
  | nothing {selected : List FileRecord} {found : Scan}
    (finds : Finds language config env tree selected found) (none : found.isEmpty = true) :
    Course language config env tree (.ok .nothingToDo) tree
  | dry {selected : List FileRecord} {found : Scan}
    (finds : Finds language config env tree selected found) (some : found.isEmpty = false)
    (valid : found.validate = .ok ()) (isDry : config.dryRun = true) :
    Course language config env tree
      (.ok (.dryRun found.fileCount found.occurrenceCount found.checklist.size)) tree
  | replaced {selected : List FileRecord} {found : Scan}
    (finds : Finds language config env tree selected found) (some : found.isEmpty = false)
    (valid : found.validate = .ok ()) (notDry : config.dryRun = false) :
    Course language config env tree (((replace tree found).result found).map .injected)
      (replace tree found).tree

variable {language : Pattern.Language} {config : Configuration} {env : Environment}
  {tree : FileTree}

theorem conclude_of_dry {found : Scan} (valid : found.validate = .ok ())
    (isDry : config.dryRun = true) :
    Run.conclude config tree found =
      ⟨.ok (.dryRun found.fileCount found.occurrenceCount found.checklist.size), tree,
        [Run.tell .success "Dry run: all variables are set, no files written"]⟩ := by
  simp only [Run.conclude, valid, isDry, if_true]

theorem conclude_of_notDry {found : Scan} (valid : found.validate = .ok ())
    (notDry : config.dryRun = false) :
    (Run.conclude config tree found).result =
        ((replace tree found).result found).map .injected ∧
      (Run.conclude config tree found).tree = (replace tree found).tree := by
  simp only [Run.conclude, valid, notDry, Bool.false_eq_true, if_false]
  cases (replace tree found).result found with
  | error failure => exact ⟨rfl, rfl⟩
  | ok summary => exact ⟨rfl, rfl⟩

/-- What a run does with a scan that found placeholders is one of the courses: it fails for want of
a variable, is dry, or replaces. -/
theorem conclude_course {selected : List FileRecord} {found : Scan}
    (finds : Finds language config env tree selected found) (some : found.isEmpty = false) :
    Course language config env tree (Run.conclude config tree found).result
      (Run.conclude config tree found).tree := by
  cases valid : found.validate with
  | error failure =>
    rw [Run.conclude, valid]
    exact .early (.validation finds some valid)
  | ok _ =>
    cases isDry : config.dryRun with
    | true =>
      rw [conclude_of_dry valid isDry]
      exact .dry finds some valid isDry
    | false =>
      obtain ⟨result, final⟩ := @conclude_of_notDry config tree found valid isDry
      rw [result, final]
      exact .replaced finds some valid isDry

/-- From the selection on a run takes one of the courses. -/
theorem process_course {selected : List FileRecord}
    (selects : Selects language config tree selected) :
    Course language config env tree (Run.process config env tree selected).result
      (Run.process config env tree selected).tree := by
  cases scanned : scan tree env selected with
  | error failure =>
    have fails := scanned
    rw [scan] at scanned
    simp only [Run.process, scanned]
    exact .early (.scanning selects fails)
  | ok found =>
    have finds : Finds language config env tree selected found := ⟨selects, scanned⟩
    rw [scan] at scanned
    cases empty : found.isEmpty with
    | true =>
      simp only [Run.process, scanned, empty, if_true]
      exact .nothing finds empty
    | false =>
      simp only [Run.process, scanned, empty, Bool.false_eq_true, if_false]
      exact conclude_course finds empty

/-- Every run takes one of the courses. -/
theorem run_course (language : Pattern.Language) (config : Configuration) (env : Environment)
    (tree : FileTree) :
    Course language config env tree (run language config env tree).result
      (run language config env tree).tree := by
  cases compiles : language.compile config.matcher with
  | error text =>
    simp only [run, compiles]
    exact .early (.matcher compiles)
  | ok isWanted =>
    cases selects : select tree config.directory isWanted with
    | error failure =>
      simp only [run, compiles, selects]
      exact .early (.selection compiles selects)
    | ok selected =>
      simp only [run, compiles, selects]
      exact process_course ⟨isWanted, compiles, selects⟩

/-! ## One result for each step -/

theorem Selects.unique {first second : List FileRecord} (one : Selects language config tree first)
    (other : Selects language config tree second) : first = second := by
  rcases one with ⟨isWanted, compiles, selects⟩
  rcases other with ⟨isWanted', compiles', selects'⟩
  obtain rfl : isWanted = isWanted' := Except.ok.inj (compiles.symm.trans compiles')
  exact Except.ok.inj (selects.symm.trans selects')

theorem Selects.separate {selected : List FileRecord}
    (selects : Selects language config tree selected) :
    Separate tree selected := by
  rcases selects with ⟨isWanted, -, selects⟩
  exact select_separate selects

theorem Selects.mapContents {selected : List FileRecord}
    (selects : Selects language config tree selected) (change : NodeId → Bytes → Bytes) :
    Selects language config (tree.mapContents change) selected := by
  rcases selects with ⟨isWanted, compiles, selects⟩
  exact ⟨isWanted, compiles, (select_mapContents ..).trans selects⟩

/-- Where all selected files can be read, a scan finds what there is. -/
theorem Selects.exists_finds {selected : List FileRecord}
    (selects : Selects language config tree selected)
    (readable : ∀ record ∈ selected, tree.canRead record.path = true) (env : Environment) :
    ∃ found, Finds language config env tree selected found :=
  ⟨_, selects, Scan.scan_of_readable env readable⟩

theorem Finds.unique {first second : List FileRecord} {found found' : Scan}
    (one : Finds language config env tree first found)
    (other : Finds language config env tree second found') :
    first = second ∧ found = found' := by
  obtain rfl := one.selects.unique other.selects
  exact ⟨rfl, Except.ok.inj (one.scanned.symm.trans other.scanned)⟩

/-- After a scan a run fails early only because its variables are not all set. -/
theorem Finds.of_failsEarly {selected : List FileRecord} {found : Scan} {failure : Failure}
    (finds : Finds language config env tree selected found)
    (fails : FailsEarly language config env tree failure) :
    found.isEmpty = false ∧ found.validate = .error failure := by
  rcases finds.selects with ⟨isWanted, compiles, selects⟩
  cases fails with
  | matcher malformed => cases compiles.symm.trans malformed
  | selection compiles' fails =>
    obtain rfl := Except.ok.inj (compiles.symm.trans compiles')
    cases selects.symm.trans fails
  | scanning selects' fails =>
    obtain rfl := finds.selects.unique selects'
    cases finds.scanned.symm.trans fails
  | validation finds' some fails =>
    obtain ⟨-, rfl⟩ := finds.unique finds'
    exact ⟨some, fails⟩

/-- A run that found no placeholder does nothing, and no other run says so. -/
theorem Finds.run_nothingToDo_iff {selected : List FileRecord} {found : Scan}
    (finds : Finds language config env tree selected found) :
    (run language config env tree).result = .ok .nothingToDo ↔ found.isEmpty = true := by
  have course := run_course language config env tree
  generalize (run language config env tree).result = result,
    (run language config env tree).tree = final at course
  cases course with
  | early fails => simp [(finds.of_failsEarly fails).1]
  | nothing finds' none =>
    obtain ⟨-, rfl⟩ := finds.unique finds'
    simp [none]
  | dry finds' some _ _ =>
    obtain ⟨-, rfl⟩ := finds.unique finds'
    simp [some]
  | replaced finds' some _ _ =>
    obtain ⟨-, rfl⟩ := finds.unique finds'
    cases (replace tree found).result found with
    | error failure => simp [some, Except.map]
    | ok summary => simp [some, Except.map]

/-- Only a scan without placeholders makes a run say that there is nothing to do. -/
theorem exists_finds_of_nothingToDo
    (nothing : (run language config env tree).result = .ok .nothingToDo) :
    ∃ selected found, Finds language config env tree selected found ∧ found.isEmpty = true ∧
      (run language config env tree).tree = tree := by
  have course := run_course language config env tree
  rw [nothing] at course
  generalize (run language config env tree).tree = final at course ⊢
  generalize same : Except.ok Outcome.nothingToDo = result at course
  cases course with
  | early _ | dry _ _ _ _ => cases same
  | @nothing selected found finds none => exact ⟨selected, found, finds, none, rfl⟩
  | @replaced _ found _ _ _ _ =>
    cases outcome : (replace tree found).result found with
    | error failure =>
      rw [outcome] at same
      cases same
    | ok summary =>
      rw [outcome] at same
      cases same

theorem run_tree_of_nothingToDo
    (nothing : (run language config env tree).result = .ok .nothingToDo) :
    (run language config env tree).tree = tree := by
  obtain ⟨_, _, -, -, unchanged⟩ := exists_finds_of_nothingToDo nothing
  exact unchanged

end EnvInject
