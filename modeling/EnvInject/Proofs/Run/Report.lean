import EnvInject.Proofs.Run.DryRun

/-!
# What a run reports

Where files were selected, all that is seen of a run but its log follows from the scan of these
files: its result and its tree (`process_result`, `process_tree`), the messages on the way
(`Run.report`) and the one at the end, which depends on the result alone (`Run.closing`). Where none
could be selected, the environment plays no part.
-/

namespace EnvInject

namespace Run

/-- What a run tells at its end, if it found placeholders. -/
def closing : Except Failure Outcome → List Message
  | .ok (.injected summary) =>
    [⟨.success, "Injected " ++ toString summary.variablesInjected
      ++ " variable(s) into " ++ toString summary.filesWritten ++ " file(s)"⟩]
  | .ok (.dryRun ..) => [⟨.success, "Dry run: all variables are set, no files written"⟩]
  | .ok .nothingToDo | .error _ => []

/-- What a run with this scan and result tells. -/
def report (matcher : String) (result : Except Failure Outcome) :
    Except Failure Scan → List Message
  | .error _ => []
  | .ok found =>
    ⟨.info, matchedText matcher found⟩ ::
      if found.isEmpty then [⟨.warn, nothingToDoHint⟩]
      else (foundEntries found).filterMap message? ++ closing result

theorem filterMap_message?_events (events : List Log.Event) :
    (events.map JournalEntry.event).filterMap message? = [] := by
  simp [message?]

theorem messages_behind_events (run : Run) (events : List Log.Event) :
    Run.messages { run with journal := events.map .event ++ run.journal } = run.messages := by
  change List.filterMap message? (events.map JournalEntry.event ++ run.journal) = _
  rw [List.filterMap_append, filterMap_message?_events, List.nil_append]
  rfl

variable (config : Configuration) (env : Environment) (tree : FileTree)

/-- What is told while files are written is no message. -/
theorem conclude_messages (found : Scan) :
    (conclude config tree found).entries.filterMap message? =
      closing (conclude config tree found).result := by
  cases valid : found.validate with
  | error failure =>
    simp only [conclude, valid]
    rfl
  | ok _ =>
    cases isDry : config.dryRun with
    | true =>
      rw [conclude_of_dry valid isDry]
      rfl
    | false =>
      simp only [conclude, valid, isDry, Bool.false_eq_true, if_false]
      cases (replace tree found).result found with
      | error failure => exact filterMap_message?_events _
      | ok summary =>
        dsimp only
        rw [List.filterMap_append, filterMap_message?_events]
        rfl

variable (selected : List FileRecord)

/-- The result of a run follows from its scan, which fails, is empty, or is concluded. -/
theorem process_result : (process config env tree selected).result =
    match scan tree env selected with
    | .error failure => .error failure
    | .ok found =>
      if found.isEmpty then .ok .nothingToDo else (conclude config tree found).result := by
  rw [scan, process]
  cases (scanProgress tree env selected).result selected.length with
  | error failure => rfl
  | ok found =>
    dsimp only
    split
    · rfl
    · rfl

theorem process_tree : (process config env tree selected).tree =
    match scan tree env selected with
    | .error _ => tree
    | .ok found => if found.isEmpty then tree else (conclude config tree found).tree := by
  rw [scan, process]
  cases (scanProgress tree env selected).result selected.length with
  | error failure => rfl
  | ok found =>
    dsimp only
    split
    · rfl
    · rfl

theorem process_asked : (process config env tree selected).asked =
    (scanProgress tree env selected).resolution.asked := by
  rw [process]
  cases (scanProgress tree env selected).result selected.length with
  | error failure => rfl
  | ok found =>
    dsimp only
    split
    · rfl
    · rfl

/-- What a run tells follows from its scan and its result. The log between the messages is left out,
so the steps of the scan leave no trace. -/
theorem process_messages : (process config env tree selected).messages =
    report config.matcher (process config env tree selected).result
      (scan tree env selected) := by
  rw [process_result]
  have silent := filterMap_message?_events
    (.scanning config.directory selected.length :: (scanProgress tree env selected).events)
  rw [List.map_cons] at silent
  rw [scan, process]
  cases (scanProgress tree env selected).result selected.length with
  | error failure => exact silent
  | ok found =>
    dsimp only
    cases empty : found.isEmpty with
    | true =>
      change List.filterMap message? _ = _
      simp only [report, empty, if_true, List.filterMap_append, silent]
      rfl
    | false =>
      change List.filterMap message? _ = _
      simp only [report, empty, Bool.false_eq_true, if_false, List.filterMap_append, silent,
        conclude_messages]
      rfl

end Run

/-! ## From the selection on -/

variable {language : Pattern.Language} {config : Configuration} {tree : FileTree}

/-- A run that selected files shows what came of them. -/
theorem Selects.run_eq {selected : List FileRecord}
    (selects : Selects language config tree selected) (env : Environment) :
    (run language config env tree).result = (Run.process config env tree selected).result ∧
      (run language config env tree).tree = (Run.process config env tree selected).tree ∧
      (run language config env tree).messages = (Run.process config env tree selected).messages ∧
      (run language config env tree).asked = (Run.process config env tree selected).asked := by
  rcases selects with ⟨isWanted, compiles, selects⟩
  simp only [run, compiles, selects]
  exact ⟨trivial, trivial, Run.messages_behind_events _ _, trivial⟩

/-- How a run ends that scanned its files: what was found decides, and what can be written. -/
theorem Finds.run_result {env : Environment} {selected : List FileRecord} {found : Scan}
    (finds : Finds language config env tree selected found) :
    (run language config env tree).result =
      if found.isEmpty then .ok .nothingToDo
      else if found.checklist.missing ≠ [] then .error (.missingVariables found.checklist.missing)
      else if config.dryRun then
        .ok (.dryRun found.fileCount found.occurrenceCount found.checklist.size)
      else
        match (placeholderPaths language config tree).find? fun path => !tree.canWrite path with
        | some path => .error (.io path .denied)
        | none =>
          .ok (.injected ⟨found.fileCount, found.occurrenceCount, found.checklist.size⟩) := by
  rw [(finds.selects.run_eq env).1, Run.process_result, finds.scanned]
  dsimp only
  split
  · rfl
  by_cases missing : found.checklist.missing = []
  · have valid := Scan.validate_eq_ok_iff.2 missing
    rw [if_neg (not_not.2 missing)]
    cases isDry : config.dryRun with
    | true =>
      rw [conclude_of_dry valid isDry]
      rfl
    | false =>
      rw [(conclude_of_notDry valid isDry).1, finds.replace_result valid, if_neg Bool.false_ne_true]
      cases (placeholderPaths language config tree).find? fun path => !tree.canWrite path with
      | some path => rfl
      | none => rfl
  · rw [if_pos missing]
    simp only [Run.conclude, Scan.validate_of_missing missing]

/-- Only the directory makes a selection fail, and no variable. -/
theorem failure_ne_missingVariables {directory : Path} {isWanted : String → Bool}
    {failure : Failure} (fails : select tree directory isWanted = .error failure)
    (names : List String) : failure ≠ .missingVariables names := by
  intro same
  rw [select_eq_error_iff, Selection.entriesOf_eq, same] at fails
  split at fails
  · cases fails
  · split at fails
    · cases fails
    · cases fails
  · cases fails

/-- A run that cannot select fails before anything else happens, whatever the environment is. -/
theorem run_of_selection?_eq_none (none : selection? language config tree = none) :
    ∃ failure, (∀ names, failure ≠ .missingVariables names) ∧
      ∀ env, run language config env tree = ⟨.error failure, tree, [], []⟩ := by
  rw [selection?] at none
  cases compiles : language.compile config.matcher with
  | error text =>
    refine ⟨.pattern text, fun names same => (by cases same), fun env => ?_⟩
    simp only [run, compiles]
  | ok isWanted =>
    rw [compiles] at none
    cases selects : select tree config.directory isWanted with
    | error failure =>
      refine ⟨failure, failure_ne_missingVariables selects, fun env => ?_⟩
      simp only [run, compiles, selects]
    | ok selected => simp [Except.toOption, selects] at none

end EnvInject
