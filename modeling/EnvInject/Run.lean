import EnvInject.Replacement
import EnvInject.Transcript

/-!
# A run

`run` selects the files of a directory, scans them, checks that every variable they name is set, and
only then writes the values into them. It keeps a journal of what it tells the user and the log, in
the order in which it happens, and of the names that the environment was asked for.
-/

namespace EnvInject

/-- What a run that did not fail has done. -/
inductive Outcome where
  | injected (summary : Summary)
  /-- Every variable is set, and nothing was written because none was to be. -/
  | dryRun (files occurrences names : Nat)
  | nothingToDo
  deriving DecidableEq, Repr

/-- One thing that a run tells. -/
inductive JournalEntry where
  | message (message : Message)
  | event (event : Log.Event)
  deriving DecidableEq, Repr

/-- All that can be seen of a run. -/
structure Run where
  result : Except Failure Outcome
  tree : FileTree
  /-- What it told, in order. -/
  journal : List JournalEntry
  /-- The names that the environment was asked for, in order. -/
  asked : List String

/-- The messages of a run, in order. -/
def Run.messages (run : Run) : List Message :=
  run.journal.filterMap fun
    | .message message => some message
    | .event _ => none

namespace Run

/-- A message as an entry. -/
def tell (severity : Severity) (text : String) : JournalEntry :=
  .message ⟨severity, text⟩

/-- Why there may be nothing to do. -/
def nothingToDoHint : String :=
  "No environment variable placeholders were found.\n"
    ++ "This usually means one of:\n"
    ++ "  - the files were already processed by a previous run\n"
    ++ "  - the build did not inject `__reactenv.*` placeholders\n"
    ++ "  - the matcher does not select the built script files"

/-- A number, filled up with spaces at its left to four characters. -/
def paddedCount (count : Nat) : String :=
  let digits := toString count
  String.ofList (List.replicate (4 - digits.length) ' ') ++ digits

/-- How many files were selected, and how many of them have placeholders. -/
def matchedText (matcher : String) (scan : Scan) : String :=
  toString scan.filesMatched ++ " file(s) matched `" ++ matcher ++ "`, "
    ++ toString scan.fileCount ++ " with placeholders"

/-- How many placeholders there are, and how many variables. -/
def foundText (scan : Scan) : String :=
  "Found " ++ toString scan.occurrenceCount ++ " occurrence(s) of "
    ++ toString scan.checklist.size ++ " variable(s)"

/-- How many placeholders a file has. -/
def fileText (record : FileRecord) : String :=
  "  " ++ paddedCount record.tokens.length ++ "  " ++ record.displayName

/-- Whether a variable is set. -/
def checkEntry : String × Bool → JournalEntry
  | (name, true) => tell .info ("  ✓ " ++ name)
  | (name, false) => tell .error ("  ✗ " ++ name)

/-- What is told about placeholders that were found. -/
def foundEntries (scan : Scan) : List JournalEntry :=
  tell .info (foundText scan)
    :: scan.files.map (fun record => tell .info (fileText record))
    ++ scan.checklist.marks.map checkEntry

/-- What a run does with a scan. -/
structure Ending where
  result : Except Failure Outcome
  tree : FileTree
  entries : List JournalEntry

/-- Checks the variables of a scan that found placeholders and writes its files, unless none is to
be written. -/
def conclude (config : Configuration) (tree : FileTree) (scan : Scan) : Ending :=
  match scan.validate with
  | .error failure => ⟨.error failure, tree, []⟩
  | .ok () =>
    if config.dryRun then
      ⟨.ok (.dryRun scan.fileCount scan.occurrenceCount scan.checklist.size), tree,
        [tell .success "Dry run: all variables are set, no files written"]⟩
    else
      let replacement := replace tree scan
      let written := replacement.events.map .event
      match replacement.result scan with
      | .error failure => ⟨.error failure, replacement.tree, written⟩
      | .ok summary =>
        ⟨.ok (.injected summary), replacement.tree,
          written ++ [.event (.replaced summary.filesWritten summary.occurrencesReplaced),
            tell .success ("Injected " ++ toString summary.variablesInjected
              ++ " variable(s) into " ++ toString summary.filesWritten ++ " file(s)")]⟩

/-- Scans the selected files and goes on from there. -/
def process (config : Configuration) (env : Environment) (tree : FileTree)
    (selected : List FileRecord) : Run :=
  let progress := scanProgress tree env selected
  let scanned := .event (.scanning config.directory selected.length)
    :: progress.events.map .event
  let asked := progress.resolution.asked
  match progress.result selected.length with
  | .error failure => ⟨.error failure, tree, scanned, asked⟩
  | .ok scan =>
    let matched := scanned ++ [tell .info (matchedText config.matcher scan)]
    if scan.isEmpty then
      ⟨.ok .nothingToDo, tree, matched ++ [tell .warn nothingToDoHint], asked⟩
    else
      let ending := conclude config tree scan
      ⟨ending.result, ending.tree, matched ++ foundEntries scan ++ ending.entries, asked⟩

end Run

/-- Fills in the placeholders of the files that a configuration selects. What its pattern wants is
up to a pattern language. -/
def run (language : Pattern.Language) (config : Configuration) (env : Environment)
    (tree : FileTree) : Run :=
  match language.compile config.matcher with
  | .error text => ⟨.error (.pattern text), tree, [], []⟩
  | .ok isWanted =>
    match select tree config.directory isWanted with
    | .error failure => ⟨.error failure, tree, [], []⟩
    | .ok selected =>
      let run := Run.process config env tree selected
      { run with
        journal := (selectionEvents tree config.directory isWanted).map .event ++ run.journal }

end EnvInject
