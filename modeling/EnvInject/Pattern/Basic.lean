import EnvInject.Pattern.Language
import EnvInject.Pattern.Matching
import EnvInject.Pattern.Meaning
import EnvInject.Pattern.Reading
import EnvInject.Pattern.Size
import EnvInject.Pattern.WordSearch

/-!
# Regular expressions as patterns

A pattern says which file names are wanted. `Pattern.compile` reads one or tells what is wrong with
it, and `Regex.isMatch` looks for it anywhere in a name. Together they are a pattern language,
`Language.regular`. It has no classes of Unicode properties (`\p`), and its words for what is wrong
with a pattern are its own.
-/

namespace EnvInject.Pattern

/-- The regular expression that a pattern stands for. Its size does not count where it is
searched for as words. -/
def compile (pattern : String) : Except Error Regex := do
  let form ← Form.parse pattern
  let (branches, _) ← form.meaning .start
  let regex := Regex.choice branches
  if regex.isTooLarge && !regex.isWordSearch then throw .tooLarge
  return regex

/-- Regular expressions, looked for anywhere in a name. -/
def Language.regular : Language where
  compile pattern :=
    match Pattern.compile pattern with
    | .ok regex => .ok regex.isMatch
    | .error cause => .error cause.message

end EnvInject.Pattern
