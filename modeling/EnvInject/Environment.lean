import EnvInject.Text.Utf8

/-!
# Environments

An `Environment` answers which value a variable has. Its answer may change from one question to the
next, so it is a function of the names asked for before; `Environment.ofFunction` is the ordinary
case, where it does not. A name without an answer is unset, and the empty text is a value.

`Variables` are the variables of a process, which are bytes.
-/

namespace EnvInject

/-- A source of values for variables. -/
structure Environment where
  /-- The answer for a name, after these names were asked for, the oldest first. -/
  answer : List String → String → Option String

namespace Environment

/-- The environment that gives the same answer to the same name at any time. -/
def ofFunction (values : String → Option String) : Environment :=
  ⟨fun _ => values⟩

/-- The environment that sets the names in a list, each to the first value beside it. -/
def ofList (values : List (String × String)) : Environment :=
  ofFunction (values.lookup ·)

end Environment

/-- The variables of a process, as pairs of a name and a value. -/
structure Variables where
  /-- The pairs, in the order of the process. -/
  entries : List (Bytes × Bytes)
  deriving DecidableEq, Repr

namespace Variables

/-- The stretches of some bytes between NULs, where `word` is what was read of the first of them,
backwards. -/
def blockEntries (word : Bytes) : Bytes → List Bytes
  | [] => if word.isEmpty then [] else [word.reverse]
  | byte :: rest =>
    if byte = 0 then word.reverse :: blockEntries [] rest else blockEntries (byte :: word) rest

/-- The variables in an environment block: each is a name, `=`, a value and a NUL. -/
def ofBlock (block : Bytes) : Variables :=
  ⟨(blockEntries [] block).map fun entry =>
    (entry.takeWhile (· != 0x3D), (entry.dropWhile (· != 0x3D)).drop 1)⟩

/-- What follows `start` in `bytes`, if they begin with it. -/
def restAfter? : (start bytes : Bytes) → Option Bytes
  | [], bytes => some bytes
  | _ :: _, [] => none
  | s :: start, b :: bytes => if s = b then restAfter? start bytes else none

/-- The value of a variable as it is stored. A process keeps a variable as its name, `=` and its
value, and a name is looked up as the text before some `=`. The empty name, and a name with a NUL,
are never set. -/
def raw? (vars : Variables) (name : Bytes) : Option Bytes :=
  if name.isEmpty || name.contains 0 then none
  else vars.entries.findSome? fun (key, value) =>
    restAfter? (name ++ [0x3D]) (key ++ [0x3D] ++ value)

/-- The value of a variable as a text; bytes that are no text are replaced and not refused. -/
def value? (vars : Variables) (name : String) : Option String :=
  (vars.raw? (Utf8.encode name)).map Utf8.lossy

/-- The variables of a process as an environment. -/
def toEnvironment (vars : Variables) : Environment :=
  .ofFunction vars.value?

end Variables

end EnvInject
