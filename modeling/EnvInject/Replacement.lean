import EnvInject.Placeholder.Filling
import EnvInject.Scan

/-!
# Replacing placeholders

`replace` writes the values of a scan's variables into its files, one file after the other. Before a
file is written it is read anew, and every placeholder must still stand where the scan found it.
The first file that cannot be read, has changed or cannot be written ends the work; the files before
it stay written.
-/

namespace EnvInject

/-- The totals of a replacement. -/
structure Summary where
  filesWritten : Nat
  /-- The number of placeholders in them. -/
  occurrencesReplaced : Nat
  /-- The number of variables on the checklist. -/
  variablesInjected : Nat
  deriving DecidableEq, Repr

/-- One file written anew. -/
structure FilledFile where
  tree : FileTree
  before : Bytes
  after : Bytes

/-- Writes one file with the values in place of its placeholders. -/
def fillFile (values : String → Option String) (tree : FileTree) (record : FileRecord) :
    Except Failure FilledFile :=
  match tree.read record.path with
  | .error cause => .error (.io record.path cause)
  | .ok contents =>
    if !record.tokens.all (Token.standsIn contents) then .error (.changed record.path)
    else
      match fill values contents record.tokens with
      | none => .error (.disordered record.path)
      | some filled =>
        match tree.overwrite record.path filled with
        | .error cause => .error (.io record.path cause)
        | .ok written => .ok ⟨written, contents, filled⟩

/-- How far a replacement came. -/
structure Replacement where
  tree : FileTree
  written : List FileRecord
  events : List Log.Event
  /-- Why it went no further, if it did not reach the end. -/
  failure : Option Failure

/-- Writes files one after the other, up to the first failure. -/
def fillFiles (values : String → Option String) (tree : FileTree) :
    List FileRecord → Replacement
  | [] => ⟨tree, [], [], none⟩
  | record :: rest =>
    match fillFile values tree record with
    | .error failure => ⟨tree, [], [], some failure⟩
    | .ok file =>
      let after := fillFiles values file.tree rest
      { after with
        written := record :: after.written
        events := .wroteFile record.path record.tokens.length file.before.length
          file.after.length :: after.events }

/-- Fills in the placeholders of a scan, if all its variables are set. -/
def replace (tree : FileTree) (scan : Scan) : Replacement :=
  match scan.validate with
  | .error failure => ⟨tree, [], [], some failure⟩
  | .ok () => fillFiles scan.checklist.value tree scan.files

/-- The totals of a replacement for a scan, or why it ended early. -/
def Replacement.result (replacement : Replacement) (scan : Scan) : Except Failure Summary :=
  match replacement.failure with
  | some failure => .error failure
  | none =>
    .ok ⟨replacement.written.length, tokenCount replacement.written, scan.checklist.size⟩

end EnvInject
