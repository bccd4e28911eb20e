import EnvInject.Log.Plain
import EnvInject.Program
import EnvInject.Proofs.CommandLine.Flags
import EnvInject.Proofs.Run.DryRun

/-!
# What the program shows

What a run does and tells (`told`) depends on neither `--quiet` nor `-v`; they decide only what of
it is shown. A quiet program leaves the messages of progress out of its output (`output_loud`,
`output_quiet`), and the verbosity chooses the log events among the errors.

So two executions whose arguments ask for the same but for one of these flags end with one status
and one tree, and print the same but for what the flag is about (`execute_flags_only_print`),
whatever the libraries make of patterns and of the log.
-/

namespace EnvInject.Program

open CommandLine

/-- All that the program tells, in order, whether it is shown or not. -/
def told (language : Pattern.Language) (elapsed : String) (vars : Variables)
    (config : Configuration) (tree : FileTree) : List JournalEntry :=
  let run := run language config vars.toEnvironment tree
  run.journal ++ (close config elapsed run.result).2

/-- The messages of the program that are meant for its output, in order. -/
def outputMessages (language : Pattern.Language) (elapsed : String) (vars : Variables)
    (config : Configuration) (tree : FileTree) : List Message :=
  ((told language elapsed vars config tree).filterMap Run.message?).filter (!isForErrors ·.severity)

variable {libraries : Libraries} {clock : Clock} {vars : Variables} {config : Configuration}
  {tree : FileTree}

/-! ## What is shown of what is told -/

theorem executeRun_eq : executeRun libraries clock vars config tree =
    let run := run libraries.patterns config vars.toEnvironment tree
    let told := told libraries.patterns clock.elapsed vars config tree
    ⟨(close config clock.elapsed run.result).1, printed (outputLines config.quiet told),
      printed (errorLines (isLogged libraries.log vars config.verbosity)
        (libraries.log.line vars clock.timestamp) told), run.tree⟩ :=
  rfl

theorem outputLines_cons_message (quiet : Bool) (message : Message) (rest : List JournalEntry) :
    outputLines quiet (.message message :: rest) =
      if shows quiet message && !isForErrors message.severity then
        message.text :: outputLines quiet rest
      else outputLines quiet rest := by
  rw [outputLines, List.filterMap_cons]
  dsimp only
  cases shows quiet message && !isForErrors message.severity with
  | false => rfl
  | true => rfl

/-- The output has the messages that are meant for it and are shown. -/
theorem outputLines_eq (quiet : Bool) (entries : List JournalEntry) :
    outputLines quiet entries =
      (((entries.filterMap Run.message?).filter (!isForErrors ·.severity)).filter
        (shows quiet)).map (·.text) := by
  induction entries with
  | nil => rfl
  | cons entry rest ih =>
    cases entry with
    | event event => exact ih
    | message message =>
      have isMessage : (JournalEntry.message message :: rest).filterMap Run.message? =
          message :: rest.filterMap Run.message? := rfl
      rw [outputLines_cons_message, isMessage, List.filter_cons, ih]
      cases isForErrors message.severity with
      | true => simp
      | false =>
        simp only [Bool.not_false, Bool.and_true, if_true, List.filter_cons]
        cases shows quiet message with
        | false => rfl
        | true => rfl

/-- Of what is meant for the output a quiet program shows what ended well. -/
theorem shows_quiet {message : Message} (forOutput : isForErrors message.severity = false) :
    shows true message = (message.severity == .success) := by
  rcases message with ⟨severity, text⟩
  cases severity with
  | info | success => rfl
  | warn | error => cases forOutput

theorem output_loud (loud : config.quiet = false) :
    (executeRun libraries clock vars config tree).output =
      printed ((outputMessages libraries.patterns clock.elapsed vars config tree).map
        (·.text)) := by
  have all (messages : List Message) : messages.filter (shows false) = messages :=
    List.filter_eq_self.2 fun _ _ => rfl
  rw [executeRun_eq]
  dsimp only
  rw [outputLines_eq, loud, ← outputMessages, all]

/-- A quiet program prints the successes among the messages that are meant for its output. -/
theorem output_quiet (quiet : config.quiet = true) :
    (executeRun libraries clock vars config tree).output =
      printed (((outputMessages libraries.patterns clock.elapsed vars config tree).filter
        (·.severity == .success)).map (·.text)) := by
  have good : (outputMessages libraries.patterns clock.elapsed vars config tree).filter
        (shows true) =
      (outputMessages libraries.patterns clock.elapsed vars config tree).filter
        (·.severity == .success) := by
    refine List.filter_congr fun message member => shows_quiet ?_
    simpa using (List.mem_filter.1 member).2
  rw [executeRun_eq]
  dsimp only
  rw [outputLines_eq, quiet, ← outputMessages, good]

/-! ## The clock -/

variable (config) in
/-- How long a run took changes one message, which is not for the errors. -/
theorem close_elapsed (elapsed elapsed' : String) (result : Except Failure Outcome) :
    (close config elapsed result).1 = (close config elapsed' result).1 ∧
      ∀ isLogged line, errorLines isLogged line (close config elapsed result).2 =
        errorLines isLogged line (close config elapsed' result).2 := by
  cases result with
  | error failure => exact ⟨rfl, fun _ _ => rfl⟩
  | ok outcome =>
    cases outcome with
    | injected _ | dryRun _ _ _ | nothingToDo => exact ⟨rfl, fun _ _ => rfl⟩

theorem errorLines_append (isLogged : Log.Event → Bool) (line : Log.Event → String)
    (first second : List JournalEntry) : errorLines isLogged line (first ++ second) =
      errorLines isLogged line first ++ errorLines isLogged line second :=
  List.filterMap_append

theorem executeRun_clock (timestamp elapsed elapsed' : String) :
    (executeRun libraries ⟨timestamp, elapsed⟩ vars config tree).errors =
      (executeRun libraries ⟨timestamp, elapsed'⟩ vars config tree).errors := by
  have closes := (close_elapsed config elapsed elapsed'
    (run libraries.patterns config vars.toEnvironment tree).result).2
  simp only [executeRun_eq, told, errorLines_append, closes]

/-! ## Two executions -/

variable {arguments : List Bytes}

theorem execute_of_parse (parses : parse vars arguments = .ok config)
    (usable : config.validate = .ok config) :
    execute libraries clock vars arguments tree = executeRun libraries clock vars config tree := by
  rw [execute, parses]
  dsimp only
  rw [usable]

/-- A configuration can be used whatever it says about what is shown. -/
theorem validate_shown (usable : config.validate = .ok config) (quiet : Bool) (verbosity : Nat) :
    ({ config with quiet, verbosity }).validate = .ok { config with quiet, verbosity } := by
  rw [Configuration.validate] at usable ⊢
  split at usable
  · cases usable
  · split at usable
    · cases usable
    · rename_i notEmpty notBlank
      rw [if_neg notEmpty, if_neg notBlank]

/-- `--quiet` and `-v` decide what is shown and nothing else. Arguments that differ in `--quiet`
alone lead to the same status, the same files and the same errors, and the quiet output is the
successes of the other one; arguments that differ in `-v` alone lead to the same status, files and
output. There always are such arguments, with a flag more at the beginning. How long a run took and
when it logs something is up to the clock, and the libraries may be any. -/
theorem execute_flags_only_print (libraries : Libraries) (tree : FileTree)
    (parses : parse vars arguments = .ok config) (usable : config.validate = .ok config) :
    (config.quiet = false →
      (parse vars (Utf8.encode "--quiet" :: arguments) = .ok { config with quiet := true } ∧
        SameBut .quiet arguments (Utf8.encode "--quiet" :: arguments)) ∧
      ∀ quieter config', SameBut .quiet arguments quieter → parse vars quieter = .ok config' →
        config'.quiet = true → ∀ timestamp elapsed elapsed',
          let loud := execute libraries ⟨timestamp, elapsed⟩ vars arguments tree
          let quiet := execute libraries ⟨timestamp, elapsed'⟩ vars quieter tree
          quiet.status = loud.status ∧ quiet.tree = loud.tree ∧ quiet.errors = loud.errors ∧
            loud.output =
              printed ((outputMessages libraries.patterns elapsed vars config tree).map
                (·.text)) ∧
            quiet.output =
              printed (((outputMessages libraries.patterns elapsed' vars config tree).filter
                (·.severity == .success)).map (·.text))) ∧
      (∀ count, let verbose := List.replicate count (Utf8.encode "-v") ++ arguments
        parse vars verbose =
            .ok { config with verbosity := min (config.verbosity + count) verbosityLimit } ∧
          SameBut .verbose arguments verbose) ∧
      ∀ verbose config', SameBut .verbose arguments verbose → parse vars verbose = .ok config' →
        ∀ timestamp timestamp' elapsed,
          let before := execute libraries ⟨timestamp, elapsed⟩ vars arguments tree
          let after := execute libraries ⟨timestamp', elapsed⟩ vars verbose tree
          after.status = before.status ∧ after.tree = before.tree ∧
            after.output = before.output := by
  refine ⟨fun loud => ⟨?_, ?_⟩, fun count => ?_, ?_⟩
  · have parses' := parse_quiet parses loud
    refine ⟨parses', sameBut_insert [] (.cons saysOne_quiet .nil) ?_ parses parses'⟩
    simp
  · intro quieter config' same parses' isQuiet timestamp elapsed elapsed'
    obtain rfl : config' = { config with quiet := true } := by
      rw [parse_of_sameBut_quiet same parses parses', isQuiet]
    have status := (close_elapsed config elapsed' elapsed
      (run libraries.patterns config vars.toEnvironment tree).result).1
    rw [execute_of_parse parses usable,
      execute_of_parse parses' (validate_shown usable true config.verbosity)]
    exact ⟨status, rfl, executeRun_clock timestamp elapsed' elapsed, output_loud loud,
      output_quiet rfl⟩
  · have parses' := parse_verbose parses count
    refine ⟨parses', sameBut_insert [] (saysOne_replicate saysOne_verbose count) ?_ parses parses'⟩
    exact fun _ member => List.eq_of_mem_replicate member
  · intro verbose config' same parses' timestamp timestamp' elapsed
    obtain ⟨verbosity, rfl⟩ : ∃ verbosity, config' = { config with verbosity } :=
      ⟨_, parse_of_sameBut_verbose same parses parses'⟩
    rw [execute_of_parse parses usable,
      execute_of_parse parses' (validate_shown usable config.quiet verbosity)]
    exact ⟨rfl, rfl, rfl⟩

/-- A run that fills in one variable, with `--quiet` behind the directory, and with `-v` twice in
one argument with the pattern. -/
theorem execute_flags_only_print_filling :
    let vars : Variables := ⟨[(Utf8.encode "A", [0x31]), (Utf8.encode "NO_COLOR", [0x31])]⟩
    let config : Configuration := ⟨[0x2E], "a", false, false, false, 0⟩
    let arguments := [Utf8.encode "-ma", [0x2E]]
    let quieter := [Utf8.encode "-ma", [0x2E], Utf8.encode "-q"]
    let verbose := [Utf8.encode "-vvma", [0x2E]]
    let tree : FileTree :=
      ⟨[⟨.directory [([0x61], 1)], 0o755⟩, ⟨.file (Placeholder.marker ++ [0x41]), 0o644⟩], [0]⟩
    let clock : Clock := ⟨"now", "1s"⟩
    let libraries : Libraries := ⟨.regular, .plain⟩
    let shown := execute libraries clock vars arguments tree
    parse vars arguments = .ok config ∧ config.validate = .ok config ∧
      SameBut .quiet arguments quieter ∧ SameBut .verbose arguments verbose ∧
      shown.output = "1 file(s) matched `a`, 1 with placeholders\n" ++
        "Found 1 occurrence(s) of 1 variable(s)\n     1  a\n  ✓ A\n" ++
        "Injected 1 variable(s) into 1 file(s)\nDone in 1s\n" ∧
      (execute libraries clock vars quieter tree).output =
        "Injected 1 variable(s) into 1 file(s)\nDone in 1s\n" ∧
      (execute libraries clock vars quieter tree).errors = shown.errors ∧
      (execute libraries clock vars verbose tree).output = shown.output := by
  intro vars config arguments quieter verbose tree clock libraries shown
  have parses : parse vars arguments = .ok config := by decide +kernel
  have usable : config.validate = .ok config := by decide +kernel
  have sameQuiet : SameBut .quiet arguments quieter :=
    ⟨[.matcher [0x61], .path [0x2E]], [.matcher [0x61], .path [0x2E], .flag .quiet],
      by decide +kernel, by decide +kernel, by decide⟩
  have sameVerbose : SameBut .verbose arguments verbose :=
    ⟨[.matcher [0x61], .path [0x2E]],
      [.flag .verbose, .flag .verbose, .matcher [0x61], .path [0x2E]],
      by decide +kernel, by decide +kernel, by decide⟩
  have parsesQuiet : parse vars quieter = .ok { config with quiet := true } := by decide +kernel
  have parsesVerbose : parse vars verbose = .ok { config with verbosity := 2 } := by
    decide +kernel
  obtain ⟨quiets, -, verboses⟩ := execute_flags_only_print libraries tree parses usable
  obtain ⟨-, -, errors, loudOutput, quietOutput⟩ :=
    (quiets rfl).2 quieter _ sameQuiet parsesQuiet rfl "now" "1s" "1s"
  obtain ⟨-, -, output⟩ := verboses verbose _ sameVerbose parsesVerbose "now" "now" "1s"
  refine ⟨parses, usable, sameQuiet, sameVerbose, ?_, ?_, errors, output⟩
  · exact loudOutput.trans (by decide +kernel)
  · exact quietOutput.trans (by decide +kernel)

end EnvInject.Program
