import EnvInject.Log.Filter
import EnvInject.Log.Library

/-!
# Lines without colours

`Library.plain` is a log library that reads filters of directives and writes lines without colours,
whatever the variables of the process ask for.
-/

namespace EnvInject.Log

/-- The word for a level in capitals, filled up to five characters at its left. -/
def Level.label (level : Level) : String :=
  let capitals := level.word.toList.map Char.toUpper
  String.ofList (List.replicate (5 - capitals.length) ' ' ++ capitals)

/-- The value of a field as it is shown. A text stands in quotes. -/
def Value.shown : Value → String
  | .words value => value
  | .text value => "\"" ++ value ++ "\""
  | .number value => toString value
  | .flag value => toString value

/-- The line for an event. -/
def Event.line (timestamp : String) (event : Event) : String :=
  timestamp ++ " " ++ event.level.label ++ " " ++ event.target ++ ": " ++ event.text
    ++ String.join (event.fields.map fun (name, value) => " " ++ name ++ "=" ++ value.shown)

/-- Lines without colours. -/
def Library.plain : Library where
  filter? text := (Filter.parse? text).map Filter.passes
  filter text := (Filter.parseSome text).passes
  line _ := Event.line

end EnvInject.Log
