import EnvInject.Configuration
import EnvInject.FileTree.Basic

/-!
# Failures

Why a run ends without an outcome, and what the user is told about it.
-/

namespace EnvInject

/-- Why a run, or a part of one, fails. -/
inductive Failure where
  | io (path : Path) (cause : FileError)
  | notADirectory (path : Path)
  /-- The matcher is no pattern, for a reason in the words of the pattern language. -/
  | pattern (text : String)
  | missingVariables (names : List String)
  /-- A file no longer holds the placeholders that were found in it. -/
  | changed (path : Path)
  | config (cause : ConfigurationError)
  /-- The tokens recorded for a file overlap or are out of order. -/
  | disordered (path : Path)
  deriving DecidableEq, Repr

/-- The sentence that names unset variables. -/
def missingVariablesMessage (names : List String) : String :=
  toString names.length ++ " environment "
    ++ (if names.length == 1 then "variable" else "variables")
    ++ " not set: " ++ String.intercalate ", " names

/-- What the user is told. -/
def Failure.message : Failure → String
  | .io path cause => Utf8.lossy path ++ ": " ++ cause.message
  | .notADirectory path => Utf8.lossy path ++ ": not a directory"
  | .pattern text => "invalid file matcher: " ++ text
  | .missingVariables names => missingVariablesMessage names
  | .changed path => Utf8.lossy path ++ ": contents changed since scan"
  | .config cause => "invalid configuration: " ++ cause.message
  | .disordered path => Utf8.lossy path ++ ": tokens overlap or are out of order"

end EnvInject
