import EnvInject.CommandLine.Help
import EnvInject.Log.Library
import EnvInject.Run

/-!
# The program

`execute` is the whole program as a function: from its arguments, the variables of its process and
the files it finds, to its exit status, what it prints and the files it leaves. The clock, which
nothing else depends on, is an argument, and so are the libraries for patterns and for the log.
-/

namespace EnvInject.Program

/-- What the program leaves to libraries. -/
structure Libraries where
  patterns : Pattern.Language
  log : Log.Library

/-- What the clock shows, in the words that the program prints. -/
structure Clock where
  /-- The time that log lines start with. -/
  timestamp : String
  /-- How long a run took. -/
  elapsed : String

/-- All that can be seen of the program. -/
structure Execution where
  status : Nat
  output : String
  errors : String
  tree : FileTree

/-- The exit status after a failure. -/
def failureStatus : Nat := 1

/-- The exit status after a misuse, or with a configuration that cannot be used. -/
def misuseStatus : Nat := 2

/-- The exit status of a strict run with nothing to do. -/
def nothingToDoStatus : Nat := 3

/-- The variable that gives a log filter. -/
def logVariable : String := "REACTENV_LOG"

/-- Whether an event is logged: by the filter in a variable, or else by the one for the verbosity
asked for. A variable that holds no filter counts as unset. -/
def isLogged (log : Log.Library) (vars : Variables) (verbosity : Nat) : Log.Event → Bool :=
  let given := (vars.raw? (Utf8.encode logVariable)).bind fun value =>
    (Utf8.decode? value).bind log.filter?
  given.getD (log.filter (Log.directiveOfVerbosity verbosity))

/-- Whether a message is shown. A quiet program shows no progress. -/
def shows (quiet : Bool) (message : Message) : Bool :=
  !(quiet && message.severity == .info)

/-- Whether messages of a severity go to the standard error. -/
def isForErrors : Severity → Bool
  | .info | .success => false
  | .warn | .error => true

/-- The lines on the standard output: the messages about what went well. -/
def outputLines (quiet : Bool) (entries : List JournalEntry) : List String :=
  entries.filterMap fun
    | .message message =>
      if shows quiet message && !isForErrors message.severity then some message.text else none
    | .event _ => none

/-- The lines on the standard error: the other messages, and between them the log. -/
def errorLines (isLogged : Log.Event → Bool) (line : Log.Event → String)
    (entries : List JournalEntry) : List String :=
  entries.filterMap fun
    | .message message => if isForErrors message.severity then some message.text else none
    | .event event => if isLogged event then some (line event) else none

/-- Lines as they are printed. -/
def printed (lines : List String) : String :=
  String.join (lines.map (· ++ "\n"))

/-- The exit status after a run, and the last messages. -/
def close (config : Configuration) (elapsed : String) :
    Except Failure Outcome → Nat × List JournalEntry
  | .ok (.injected _) | .ok (.dryRun ..) => (0, [Run.tell .success ("Done in " ++ elapsed)])
  | .ok .nothingToDo =>
    if config.strict then
      (nothingToDoStatus,
        [Run.tell .error "Nothing to do, failing because of '--strict'"])
    else (0, [])
  | .error failure => (failureStatus, [Run.tell .error ("Error: " ++ failure.message)])

/-- The program with a configuration that can be used. -/
def executeRun (libraries : Libraries) (clock : Clock) (vars : Variables) (config : Configuration)
    (tree : FileTree) : Execution :=
  let run := run libraries.patterns config vars.toEnvironment tree
  let (status, last) := close config clock.elapsed run.result
  let entries := run.journal ++ last
  ⟨status, printed (outputLines config.quiet entries),
    printed (errorLines (isLogged libraries.log vars config.verbosity)
      (libraries.log.line vars clock.timestamp) entries), run.tree⟩

/-- The program. -/
def execute (libraries : Libraries) (clock : Clock) (vars : Variables) (arguments : List Bytes)
    (tree : FileTree) : Execution :=
  match CommandLine.parse vars arguments with
  | .error .help => ⟨0, CommandLine.helpText vars, "", tree⟩
  | .error .version => ⟨0, CommandLine.versionText, "", tree⟩
  | .error (.misuse misuse) => ⟨misuseStatus, "", misuse.text, tree⟩
  | .ok config =>
    match config.validate with
    | .error cause =>
      ⟨misuseStatus, "", "Error: " ++ (Failure.config cause).message ++ "\n", tree⟩
    | .ok config => executeRun libraries clock vars config tree

end EnvInject.Program
