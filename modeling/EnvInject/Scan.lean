import EnvInject.Checklist
import EnvInject.Placeholder.Tokens
import EnvInject.Selection

/-!
# Scanning files

`scan` reads files one after the other, lists the placeholders of each and enters every variable
they name on a checklist. It fails at the first file that cannot be read; the variables named
before it have been looked up by then.

Files without placeholders are counted and dropped.
-/

namespace EnvInject

/-- The number of placeholders in some files. -/
def tokenCount (records : List FileRecord) : Nat :=
  records.foldr (fun record more => record.tokens.length + more) 0

/-- What a scan found. -/
structure Scan where
  files : List FileRecord
  /-- The variables that they name. -/
  checklist : Checklist
  /-- The number of files that were given, with and without placeholders. -/
  filesMatched : Nat
  deriving DecidableEq

namespace Scan

/-- The number of placeholders. -/
def occurrenceCount (scan : Scan) : Nat :=
  tokenCount scan.files

/-- The number of files with placeholders. -/
def fileCount (scan : Scan) : Nat :=
  scan.files.length

/-- Whether there is no placeholder to fill. -/
def isEmpty (scan : Scan) : Bool :=
  scan.files.isEmpty

/-- Fails if some variable on the checklist is unset, with the names of all that are. -/
def validate (scan : Scan) : Except Failure Unit :=
  let names := scan.checklist.missing
  if names.isEmpty then .ok () else .error (.missingVariables names)

end Scan

/-- How far a scan came. -/
structure Scan.Progress where
  files : List FileRecord
  /-- The variables met and the questions asked. -/
  resolution : Resolution
  events : List Log.Event
  /-- Why the scan went no further, if it did not reach the end. -/
  failure : Option Failure

/-- The log of one placeholder: a name that is new was looked up. -/
def Scan.tokenEvents (env : Environment) (path : Path) :
    (known : Resolution) → List Token → List Log.Event
  | _, [] => []
  | known, token :: rest =>
    let next := known.resolve env token.name
    .occurrence path token.name token.span.start token.span.stop
      :: (if known.checklist.contains token.name then []
        else [.resolvedVariable token.name (next.checklist.isResolved token.name)])
      ++ tokenEvents env path next rest

/-- Scans files after some variables have been met. -/
def Scan.scanFrom (tree : FileTree) (env : Environment) (known : Resolution) :
    List FileRecord → Scan.Progress
  | [] => ⟨[], known, [], none⟩
  | record :: rest =>
    match tree.read record.path with
    | .error cause => ⟨[], known, [], some (.io record.path cause)⟩
    | .ok contents =>
      let found := tokens contents
      let after := scanFrom tree env (known.resolveAll env (found.map (·.name))) rest
      { after with
        files := if found.isEmpty then after.files else ⟨record.path, found⟩ :: after.files
        events := .scannedFile record.path contents.length found.length
          :: Scan.tokenEvents env record.path known found ++ after.events }

/-- Scans files from the start. -/
def scanProgress (tree : FileTree) (env : Environment) (records : List FileRecord) :
    Scan.Progress :=
  Scan.scanFrom tree env .start records

/-- The result of a scan of some files. -/
def Scan.Progress.result (progress : Scan.Progress) (filesMatched : Nat) : Except Failure Scan :=
  match progress.failure with
  | some failure => .error failure
  | none => .ok ⟨progress.files, progress.resolution.checklist, filesMatched⟩

/-- Lists the placeholders of files and looks up the variables that they name. -/
def scan (tree : FileTree) (env : Environment) (records : List FileRecord) :
    Except Failure Scan :=
  (scanProgress tree env records).result records.length

end EnvInject
