import EnvInject.CommandLine.Arguments
import EnvInject.Text.Split
import EnvInject.Text.Terminal

/-!
# Help, version and misuse

The texts that the program prints instead of a run.
-/

namespace EnvInject.CommandLine

/-- The version of the program. -/
def versionText : String :=
  "reactenv 0.1.0\n"

/-- The width of the column of flags in the help. -/
def helpColumn : Nat := 27

/-- A value in the help. Its further lines stand under the column of descriptions. -/
def helpValue (value : String) : String :=
  let lines := (splitChars '\n' value.toList).map String.ofList
  String.intercalate ("\n" ++ String.ofList (List.replicate helpColumn ' ')) lines

/-- The value that a variable has in the help; nothing if it is unset. -/
def variableInHelp (vars : Variables) (name : String) : String :=
  helpValue ((vars.value? name).getD "")

/-- The names of an option in the help. -/
def optionNames (short long : String) : String :=
  "  " ++ bold short ++ ", " ++ bold long

/-- What the program is for and how it is used, for a terminal. -/
def styledHelp (vars : Variables) : String :=
  "Inject environment variables into a built front-end app.\n\n"
    ++ "Usage: reactenv [OPTIONS] <PATH>\n\n"
    ++ "Arguments:\n"
    ++ "  <PATH>  Directory holding the built assets\n\n"
    ++ "Options:\n"
    ++ optionNames "-m" "--matcher"
    ++ " <MATCHER>  Regex that file names must match to be processed"
    ++ " [env: " ++ matcherVariable ++ "=" ++ variableInHelp vars matcherVariable
    ++ "] [default: " ++ Pattern.default ++ "]\n"
    ++ optionNames "-s" "--strict"
    ++ "             Stop after any errors or warnings"
    ++ " [env: " ++ strictVariable ++ "=" ++ variableInHelp vars strictVariable ++ "]\n"
    ++ optionNames "-n" "--dry-run"
    ++ "            Scan and check variables without writing any file\n"
    ++ optionNames "-q" "--quiet"
    ++ "              Only print warnings and errors\n"
    ++ optionNames "-v" "--verbose"
    ++ "...         Increase log verbosity (-v debug, -vv trace)\n"
    ++ optionNames "-h" "--help"
    ++ "               Print help\n"
    ++ optionNames "-V" "--version"
    ++ "            Print version\n"

/-- What the program is for and how it is used. Sequences for a terminal are left out, also those
that begin in the value of a variable. -/
def helpText (vars : Variables) : String :=
  plainText (styledHelp vars)

/-- What is wrong with the use of the program. -/
def Misuse.message : Misuse → String
  | .unknownArgument => "unexpected argument found"
  | .argumentConflict => "an argument cannot be used multiple times"
  | .tooManyValues => "unexpected value for a flag"
  | .invalidUtf8 => "invalid UTF-8 was detected in one or more arguments"
  | .invalidValue => "invalid or missing value for an argument"
  | .missingRequiredArgument => "the required argument <PATH> was not provided"

/-- What the program prints when it is misused. -/
def Misuse.text (misuse : Misuse) : String :=
  "error: " ++ misuse.message
    ++ "\n\nUsage: reactenv [OPTIONS] <PATH>\n\nFor more information, try '--help'.\n"

end EnvInject.CommandLine
