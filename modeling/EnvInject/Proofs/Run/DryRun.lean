import EnvInject.Pattern.Basic
import EnvInject.Proofs.Run.FinalTree

/-!
# Dry runs

From one tree, a dry run and a run that writes go the same way until the variables are checked, and
part only if all of them are set (`Beside`): then the dry run tells what the scan counted, and the
other one replaces. Nobody touches a file between the scan and the replacement, so the counts are
the same (`Finds.replace_result`), and what is left to make a difference is a file that cannot be
written.
-/

namespace EnvInject

namespace Run

/-- The message of an entry, if it is one. -/
def message? : JournalEntry → Option Message
  | .message message => some message
  | .event _ => none

/-- A run that has told some entries and ends in this way. -/
def Ending.after (ending : Ending) (entries : List JournalEntry) (asked : List String) : Run :=
  ⟨ending.result, ending.tree, entries ++ ending.entries, asked⟩

/-- A run has told these messages, and behind them of its success if it ended in one. -/
def Tells (run : Run) (shared : List Message) : Prop :=
  match run.result with
  | .ok (.dryRun ..) | .ok (.injected _) => ∃ text, run.messages = shared ++ [⟨.success, text⟩]
  | .ok .nothingToDo | .error _ => run.messages = shared

theorem Ending.messages_after (ending : Ending) (entries : List JournalEntry)
    (asked : List String) :
    (ending.after entries asked).messages =
      entries.filterMap message? ++ ending.entries.filterMap message? :=
  List.filterMap_append

theorem tells_of_idle {run : Run}
    (idle : ∀ outcome, run.result = .ok outcome → outcome = .nothingToDo) :
    run.Tells run.messages := by
  rw [Tells]
  cases ended : run.result with
  | error failure => rfl
  | ok outcome =>
    obtain rfl := idle outcome ended
    rfl

end Run

variable {language : Pattern.Language} {config : Configuration} {env : Environment}
  {tree : FileTree}

/-! ## Where the runs part -/

/-- A dry run, and beside it a run that writes. -/
inductive Beside (language : Pattern.Language) (config : Configuration) (env : Environment)
    (tree : FileTree) : Run → Run → Prop
  | alike {run : Run} (idle : ∀ outcome, run.result = .ok outcome → outcome = .nothingToDo)
    (kept : run.tree = tree) :
    Beside language config env tree run run
  | parted {selected : List FileRecord} {found : Scan}
    (finds : Finds language config env tree selected found) (valid : found.validate = .ok ())
    (entries : List JournalEntry) (asked : List String) :
    Beside language config env tree
      ((Run.conclude (config.withDryRun true) tree found).after entries asked)
      ((Run.conclude (config.withDryRun false) tree found).after entries asked)

theorem Beside.failed {run : Run} {failure : Failure} (fails : run.result = .error failure)
    (kept : run.tree = tree) : Beside language config env tree run run := by
  refine .alike (fun outcome ended => ?_) kept
  cases fails.symm.trans ended

theorem Beside.behind {dry real : Run} (beside : Beside language config env tree dry real)
    (earlier : List JournalEntry) :
    Beside language config env tree { dry with journal := earlier ++ dry.journal }
      { real with journal := earlier ++ real.journal } := by
  cases beside with
  | alike idle kept => exact .alike idle kept
  | parted finds valid entries asked =>
    have later := Beside.parted finds valid (earlier ++ entries) asked
    simp only [Run.Ending.after, List.append_assoc] at later
    exact later

/-- From the selection on a dry run goes beside the run that writes: the two part behind the check
of the variables, and nowhere before it. -/
theorem process_beside {selected : List FileRecord}
    (selects : Selects language config tree selected) :
    Beside language config env tree (Run.process (config.withDryRun true) env tree selected)
      (Run.process (config.withDryRun false) env tree selected) := by
  cases scanned : scan tree env selected with
  | error failure =>
    rw [scan] at scanned
    simp only [Run.process, scanned]
    exact .failed rfl rfl
  | ok found =>
    have finds : Finds language config env tree selected found := ⟨selects, scanned⟩
    rw [scan] at scanned
    cases empty : found.isEmpty with
    | true =>
      simp only [Run.process, scanned, empty, if_true]
      exact .alike (fun _ ended => (Except.ok.inj ended).symm) rfl
    | false =>
      simp only [Run.process, scanned, empty, Bool.false_eq_true, if_false]
      cases valid : found.validate with
      | error failure =>
        simp only [Run.conclude, valid]
        exact .failed rfl rfl
      | ok _ => exact .parted finds valid _ _

/-- A dry run goes beside the run that writes. -/
theorem run_beside (language : Pattern.Language) (config : Configuration) (env : Environment)
    (tree : FileTree) :
    Beside language config env tree (run language (config.withDryRun true) env tree)
      (run language (config.withDryRun false) env tree) := by
  have sameMatcher (dryRun : Bool) : (config.withDryRun dryRun).matcher = config.matcher :=
    rfl
  have sameDirectory (dryRun : Bool) : (config.withDryRun dryRun).directory = config.directory :=
    rfl
  simp only [run, sameMatcher, sameDirectory]
  cases compiles : language.compile config.matcher with
  | error text => exact .failed rfl rfl
  | ok isWanted =>
    dsimp only
    cases selects : select tree config.directory isWanted with
    | error failure => exact .failed rfl rfl
    | ok selected => exact (process_beside ⟨isWanted, compiles, selects⟩).behind _

/-! ## Behind the check -/

/-- A replacement that follows its scan ends at the first file that cannot be written, or else with
the counts of the scan. -/
theorem Finds.replace_result {selected : List FileRecord} {found : Scan}
    (finds : Finds language config env tree selected found)
    (valid : found.validate = .ok ()) :
    (replace tree found).result found =
      match (placeholderPaths language config tree).find? fun path => !tree.canWrite path with
      | some path => .error (.io path .denied)
      | none => .ok ⟨found.fileCount, found.occurrenceCount, found.checklist.size⟩ := by
  obtain ⟨-, written, failure⟩ :=
    replace_of_agreeing finds.selects.separate finds.scanned valid fun _ _ _ _ => rfl
  have stuck : (placeholderPaths language config tree).find? (fun path => !tree.canWrite path) =
      (Scan.holders tree selected)[(writablePart tree (Scan.holders tree selected)).length]?.map
        (·.path) := by
    rw [finds.selects.placeholderPaths_eq, List.find?_map, getElem?_writablePart]
    rfl
  rw [Replacement.result, failure, written, stuck]
  cases behind : (Scan.holders tree selected)[(writablePart tree _).length]? with
  | some record => rfl
  | none =>
    rw [writablePart_of_getElem?_eq_none behind, ← Scan.files_eq_of_scan finds.scanned]
    rfl

/-- What a replacement writes to the log is no message. -/
theorem conclude_tells {found : Scan} (valid : found.validate = .ok ())
    (entries : List JournalEntry) (asked : List String) :
    ((Run.conclude config tree found).after entries asked).Tells
      (entries.filterMap Run.message?) := by
  have silent : ((replace tree found).events.map .event).filterMap Run.message? = [] := by
    simp [Run.message?]
  rw [Run.Tells, Run.Ending.messages_after]
  cases isDry : config.dryRun with
  | true =>
    rw [conclude_of_dry valid isDry]
    exact ⟨_, rfl⟩
  | false =>
    simp only [Run.conclude, valid, isDry, Bool.false_eq_true, if_false]
    cases (replace tree found).result found with
    | error failure => simp [Run.Ending.after, silent]
    | ok summary =>
      dsimp only [Run.Ending.after]
      rw [List.filterMap_append, silent]
      exact ⟨_, rfl⟩

/-- A dry run changes nothing and predicts the run that writes: the same end with the same messages
if it fails or has nothing to do, and otherwise the counts of the summary, unless a file with
placeholders cannot be written, which the other run then names. Both ask for the same names, and
their messages differ at most in a success at the end. -/
theorem run_dry_predicts (language : Pattern.Language) (config : Configuration)
    (values : String → Option String) (tree : FileTree) :
    let dry := run language (config.withDryRun true) (.ofFunction values) tree
    let real := run language (config.withDryRun false) (.ofFunction values) tree
    let paths := placeholderPaths language config tree
    dry.tree = tree ∧
      (∀ summary, dry.result ≠ .ok (.injected summary)) ∧
      (dry.result = .ok .nothingToDo ∨ (∃ failure, dry.result = .error failure) →
        real.result = dry.result ∧ real.messages = dry.messages ∧ real.tree = tree) ∧
      (∀ files occurrences names, dry.result = .ok (.dryRun files occurrences names) →
        ((∀ path ∈ paths, tree.canWrite path = true) →
          real.result = .ok (.injected ⟨files, occurrences, names⟩)) ∧
        ∀ path, paths.find? (fun path => !tree.canWrite path) = some path →
          real.result = .error (.io path .denied)) ∧
      real.asked = dry.asked ∧
      ∃ shared, dry.Tells shared ∧ real.Tells shared := by
  intro dry real paths
  have beside : Beside language config (.ofFunction values) tree dry real := run_beside ..
  generalize dry = dry, real = real at beside
  cases beside with
  | alike idle kept =>
    have tells := Run.tells_of_idle idle
    refine ⟨kept, ?_, fun _ => ⟨rfl, rfl, kept⟩, ?_, rfl, dry.messages, tells, tells⟩
    · intro summary injected
      cases idle _ injected
    · intro files occurrences names predicted
      cases idle _ predicted
  | @parted selected found finds valid entries asked =>
    have isDry := @conclude_of_dry (config.withDryRun true) tree found valid rfl
    have dryResult := congrArg Run.Ending.result isDry
    obtain ⟨realResult, -⟩ := @conclude_of_notDry (config.withDryRun false) tree found valid rfl
    rw [finds.replace_result valid] at realResult
    refine ⟨congrArg Run.Ending.tree isDry, ?_, ?_, ?_, rfl,
      entries.filterMap Run.message?, conclude_tells valid .., conclude_tells valid ..⟩
    · intro summary
      simp [Run.Ending.after, dryResult]
    · simp [Run.Ending.after, dryResult]
    · intro files occurrences names predicted
      obtain ⟨rfl, rfl, rfl⟩ :=
        Outcome.dryRun.inj (Except.ok.inj (dryResult.symm.trans predicted))
      refine ⟨fun writable => ?_, fun path stuck => ?_⟩
      · have none : paths.find? (fun path => !tree.canWrite path) = none := by
          simpa using writable
        rw [none] at realResult
        exact realResult
      · rw [stuck] at realResult
        exact realResult

/-- A file with two placeholders of one variable is locked. -/
theorem run_dry_predicts_locked :
    let config : Configuration := ⟨[0x2E], "a", false, false, false, 0⟩
    let token := Placeholder.marker ++ [0x41]
    let tree : FileTree :=
      ⟨[⟨.directory [([0x61], 1)], 0o755⟩, ⟨.file (token ++ 0x3B :: token), 0o444⟩], [0]⟩
    let values := fun _ => some "x"
    (run .regular (config.withDryRun true) (.ofFunction values) tree).result = .ok (.dryRun 1 2 1) ∧
      (run .regular (config.withDryRun false) (.ofFunction values) tree).result =
        .error (.io [0x2E, 0x2F, 0x61] .denied) := by
  intro config token tree values
  have predicted : (run .regular (config.withDryRun true) (.ofFunction values) tree).result =
      .ok (.dryRun 1 2 1) :=
    toOption_eq_some_iff.1 (by decide +kernel)
  obtain ⟨-, -, -, behind, -⟩ := run_dry_predicts .regular config values tree
  exact ⟨predicted, (behind 1 2 1 predicted).2 _ (by decide +kernel)⟩

end EnvInject
