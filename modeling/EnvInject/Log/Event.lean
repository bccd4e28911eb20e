import EnvInject.Path

/-!
# Log events

A log event tells a developer what one part of a run did: which part, how much detail that is, and
some named fields. Events are the counterpart of messages, which are for the user.
-/

namespace EnvInject

/-- How much detail an event is, the gravest first. -/
inductive Log.Level where
  /-- A failure. -/
  | error
  /-- Something to look at. -/
  | warn
  /-- A step of a run. -/
  | info
  /-- One file of a step. -/
  | debug
  /-- One placeholder or name. -/
  | trace
  deriving DecidableEq, Repr

/-- The rank of a level; more detail ranks higher. -/
def Log.Level.rank : Log.Level → Nat
  | .error => 1
  | .warn => 2
  | .info => 3
  | .debug => 4
  | .trace => 5

/-- The word for a level. -/
def Log.Level.word : Log.Level → String
  | .error => "error"
  | .warn => "warn"
  | .info => "info"
  | .debug => "debug"
  | .trace => "trace"

/-- The value of a field. -/
inductive Log.Value where
  /-- Words of their own. -/
  | words (text : String)
  /-- A text, which words around it must be told from. -/
  | text (value : String)
  | number (value : Nat)
  | flag (value : Bool)
  deriving DecidableEq, Repr

/-- A path, as far as it is text. -/
def Log.Value.ofPath (path : Path) : Log.Value :=
  .words (Utf8.lossy path)

/-- One event. -/
structure Log.Event where
  level : Log.Level
  target : String
  text : String
  fields : List (String × Log.Value)
  deriving DecidableEq, Repr

namespace Log.Event

/-- The name of the field that holds what happened. -/
def textField : String := "message"

/-- A matching entry of the directory is no regular file. -/
def skippedEntry (path : Path) : Log.Event :=
  ⟨.trace, "reactenv::selector", "skipping non-file entry", [("path", .ofPath path)]⟩

/-- A matching entry of the directory is one more name of a selected file. -/
def skippedAlias (path : Path) : Log.Event :=
  ⟨.debug, "reactenv::selector", "skipping alias of a selected file", [("path", .ofPath path)]⟩

/-- The files of a directory were selected. -/
def selected (directory : Path) (count : Nat) : Log.Event :=
  ⟨.debug, "reactenv::selector", "selected files",
    [("dir", .ofPath directory), ("matched", .number count)]⟩

/-- The scan of the selected files begins. -/
def scanning (directory : Path) (count : Nat) : Log.Event :=
  ⟨.info, "reactenv", "scanning", [("dir", .ofPath directory), ("files", .number count)]⟩

/-- A file was read. -/
def scannedFile (path : Path) (size occurrences : Nat) : Log.Event :=
  ⟨.debug, "reactenv::engine", "scanned file",
    [("path", .ofPath path), ("bytes", .number size), ("occurrences", .number occurrences)]⟩

/-- A placeholder was found. -/
def occurrence (path : Path) (name : String) (start stop : Nat) : Log.Event :=
  ⟨.trace, "reactenv::engine", "occurrence",
    [("path", .ofPath path), ("name", .words name), ("start", .number start),
      ("end", .number stop)]⟩

/-- The environment was asked for a variable. -/
def resolvedVariable (name : String) (isSet : Bool) : Log.Event :=
  ⟨.trace, "reactenv::registry", "resolved variable",
    [("name", .text name), ("resolved", .flag isSet)]⟩

/-- A file was written. -/
def wroteFile (path : Path) (replaced before after : Nat) : Log.Event :=
  ⟨.debug, "reactenv::engine", "wrote file",
    [("path", .ofPath path), ("replaced", .number replaced), ("before", .number before),
      ("after", .number after)]⟩

/-- All files were written. -/
def replaced (files occurrences : Nat) : Log.Event :=
  ⟨.info, "reactenv", "replaced",
    [("files", .number files), ("occurrences", .number occurrences)]⟩

end Log.Event

end EnvInject
