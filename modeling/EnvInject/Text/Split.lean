/-!
# Splitting texts

A text cut at every occurrence of one character.
-/

namespace EnvInject

/-- The stretches of a text between the occurrences of a character, the empty ones included. -/
def splitChars (separator : Char) : List Char → List (List Char)
  | [] => [[]]
  | c :: rest =>
    if c = separator then [] :: splitChars separator rest
    else
      match splitChars separator rest with
      | [] => [[c]]
      | part :: more => (c :: part) :: more

end EnvInject
