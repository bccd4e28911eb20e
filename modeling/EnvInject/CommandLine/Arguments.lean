import EnvInject.Configuration
import EnvInject.Environment

/-!
# Command line arguments

`CommandLine.parse` reads the arguments from left to right, up to the first that ends the reading:
a request for help or the version, or a misuse. What the arguments leave open is then taken from
variables of the process, and what these leave open from the defaults.

A matcher that waits for its value, and the path, are pending until the next flag or path comes or
the arguments end; what is wrong with them is found then. It is never found when an unknown
argument, or a value for a flag that takes none, ends the reading first.
-/

namespace EnvInject.CommandLine

/-- What is wrong with the use of the program. -/
inductive Misuse where
  /-- A flag is not known, or a second path is given. -/
  | unknownArgument
  /-- Something that may be given once is given twice. -/
  | argumentConflict
  | tooManyValues
  /-- A value that has to be text is not. -/
  | invalidUtf8
  /-- A value is missing or is none of those allowed. -/
  | invalidValue
  | missingRequiredArgument
  deriving DecidableEq, Repr

/-- Why the arguments lead to no run. -/
inductive Interruption where
  | help
  | version
  | misuse (cause : Misuse)
  deriving DecidableEq, Repr

/-- A flag. -/
inductive Flag where
  /-- `-m`, `--matcher`, the only one with a value. -/
  | matcher
  /-- `-s`, `--strict` -/
  | strict
  /-- `-n`, `--dry-run` -/
  | dryRun
  /-- `-q`, `--quiet` -/
  | quiet
  /-- `-v`, `--verbose` -/
  | verbose
  /-- `-h`, `--help` -/
  | help
  /-- `-V`, `--version` -/
  | version
  deriving DecidableEq, Repr

/-- The flag with a long name. -/
def Flag.ofLong? (name : Bytes) : Option Flag :=
  match Utf8.decode? name with
  | some "matcher" => some .matcher
  | some "strict" => some .strict
  | some "dry-run" => some .dryRun
  | some "quiet" => some .quiet
  | some "verbose" => some .verbose
  | some "help" => some .help
  | some "version" => some .version
  | _ => none

/-- The flag with a letter. -/
def Flag.ofShort? (letter : UInt8) : Option Flag :=
  match Char.ofUInt8 letter with
  | 'm' => some .matcher
  | 's' => some .strict
  | 'n' => some .dryRun
  | 'q' => some .quiet
  | 'v' => some .verbose
  | 'h' => some .help
  | 'V' => some .version
  | _ => none

/-- What the arguments have given so far. -/
structure Given where
  path : Option Bytes
  /-- The pattern for names. -/
  matcher : Option String
  /-- Whether `strict` was given. -/
  strict : Bool
  /-- Whether `dry-run` was given. -/
  dryRun : Bool
  /-- Whether `quiet` was given. -/
  quiet : Bool
  /-- How often `verbose` was given, 255 standing for any more. -/
  verbosity : Nat
  deriving DecidableEq, Repr

/-- What is still to be entered. -/
inductive Pending where
  /-- The pattern, with its value if it has come. -/
  | matcher (value : Option Bytes)
  | path (value : Bytes)
  deriving DecidableEq, Repr

/-- Where the reading of arguments stands. -/
structure State where
  given : Given
  /-- What is still to be entered. -/
  pending : Option Pending
  /-- Whether the next argument that is no flag is the value of the pattern. -/
  awaitsValue : Bool
  pathSeen : Bool
  /-- Whether `--` has come, after which there are no flags. -/
  flagsOver : Bool
  deriving DecidableEq, Repr

/-- Nothing read. -/
def State.start : State :=
  ⟨⟨none, none, false, false, false, 0⟩, none, false, false, false⟩

/-- The greatest count of `verbose`. -/
def verbosityLimit : Nat := 255

/-- Enters the pattern. -/
def Given.enterMatcher (given : Given) (value : Bytes) : Except Interruption Given :=
  if given.matcher.isSome then .error (.misuse .argumentConflict)
  else
    match Utf8.decode? value with
    | none => .error (.misuse .invalidUtf8)
    | some matcher => .ok { given with matcher := some matcher }

/-- Enters what is pending. -/
def State.settle (state : State) : Except Interruption State := do
  let given ←
    match state.pending with
    | none => pure state.given
    | some (.matcher none) => throw (.misuse .invalidValue)
    | some (.matcher (some value)) => state.given.enterMatcher value
    | some (.path value) =>
      if value.isEmpty then throw (.misuse .invalidValue)
      else pure { state.given with path := some value }
  return { state with given, pending := none, awaitsValue := false }

/-- Enters a flag that has no value. -/
def Given.enterFlag (given : Given) : Flag → Except Interruption Given
  | .matcher => .error (.misuse .invalidValue)
  | .strict =>
    if given.strict then .error (.misuse .argumentConflict)
    else .ok { given with strict := true }
  | .dryRun =>
    if given.dryRun then .error (.misuse .argumentConflict)
    else .ok { given with dryRun := true }
  | .quiet =>
    if given.quiet then .error (.misuse .argumentConflict)
    else .ok { given with quiet := true }
  | .verbose => .ok { given with verbosity := min (given.verbosity + 1) verbosityLimit }
  | .help => .error .help
  | .version => .error .version

/-- Reads a flag, with a value if one is attached to it. -/
def State.flag (state : State) (flag : Flag) (attached : Option Bytes) :
    Except Interruption State :=
  match flag, attached with
  | .matcher, some value => do
    let state ← state.settle
    return { state with given := ← state.given.enterMatcher value }
  | .matcher, none => do
    let state ← state.settle
    return { state with pending := some (.matcher none), awaitsValue := true }
  | _, some _ => throw (.misuse .tooManyValues)
  | _, none => do
    let state ← state.settle
    return { state with given := ← state.given.enterFlag flag }

/-- Reads what follows `--` in one argument: the name of a flag, and a value after `=`. -/
def State.longFlag (state : State) (text : Bytes) : Except Interruption State :=
  match Flag.ofLong? (text.takeWhile (· != 0x3D)) with
  | none => throw (.misuse .unknownArgument)
  | some flag => state.flag flag (match text.dropWhile (· != 0x3D) with
    | [] => none
    | _ :: value => some value)

/-- Reads what follows `-` in one argument: letters of flags. What comes after the letter of the
pattern is its value, and an `=` between them does not count. -/
def State.shortFlags (state : State) : Bytes → Except Interruption State
  | [] => return state
  | letter :: rest =>
    match Flag.ofShort? letter with
    | none => throw (.misuse .unknownArgument)
    | some .matcher =>
      match rest with
      | [] => state.flag .matcher none
      | first :: more => state.flag .matcher (some (if first = 0x3D then more else rest))
    | some flag => do (← state.flag flag none).shortFlags rest

/-- Reads the path. -/
def State.path (state : State) (value : Bytes) : Except Interruption State :=
  if state.pathSeen then throw (.misuse .unknownArgument)
  else do
    let state ← state.settle
    return { state with pending := some (.path value), pathSeen := true }

/-- Reads one argument. -/
def State.argument (state : State) (argument : Bytes) : Except Interruption State :=
  if state.flagsOver then state.path argument
  else
    match argument with
    | [0x2D, 0x2D] => return { state with flagsOver := true }
    | 0x2D :: 0x2D :: text => state.longFlag text
    | 0x2D :: letter :: rest => state.shortFlags (letter :: rest)
    | value =>
      if state.awaitsValue then
        return { state with pending := some (.matcher (some value)), awaitsValue := false }
      else state.path value

/-- The variable that gives the pattern where the arguments do not. -/
def matcherVariable : String := "REACTENV_MATCHER"

/-- The variable that gives `strict` where the arguments do not. -/
def strictVariable : String := "REACTENV_STRICT"

/-- The pattern, from the arguments, the variables or the default. -/
def Given.matcherOr (given : Given) (vars : Variables) : Except Interruption String :=
  match given.matcher, vars.raw? (Utf8.encode matcherVariable) with
  | some matcher, _ => return matcher
  | none, none => return Pattern.default
  | none, some value =>
    match Utf8.decode? value with
    | some matcher => return matcher
    | none => throw (.misuse .invalidUtf8)

/-- Whether a run is strict, from the arguments or the variables. -/
def Given.strictOr (given : Given) (vars : Variables) : Except Interruption Bool :=
  if given.strict then return true
  else
    match vars.raw? (Utf8.encode strictVariable) with
    | none => return false
    | some value =>
      match Utf8.decode? value with
      | some "true" => return true
      | some "false" => return false
      | _ => throw (.misuse .invalidValue)

/-- The configuration that arguments and variables ask for. -/
def parse (vars : Variables) (arguments : List Bytes) : Except Interruption Configuration := do
  let state ← arguments.foldlM State.argument .start
  let given := (← state.settle).given
  let matcher ← given.matcherOr vars
  let strict ← given.strictOr vars
  match given.path with
  | none => throw (.misuse .missingRequiredArgument)
  | some path => return ⟨path, matcher, strict, given.dryRun, given.quiet, given.verbosity⟩

end EnvInject.CommandLine
