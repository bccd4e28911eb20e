/-!
# Why a pattern is refused
-/

namespace EnvInject.Pattern

/-- What is wrong with a pattern. -/
inductive Error where
  /-- A group has no `)`. -/
  | unclosedGroup
  /-- A `)` closes no group. -/
  | unopenedGroup
  /-- A class has no `]`. -/
  | unclosedClass
  /-- A repetition follows nothing that can be repeated. -/
  | nothingToRepeat
  /-- What stands between `\x7B` and `\x7D` is no count. -/
  | malformedCount
  /-- A count is above 2^32 - 1. -/
  | countTooLarge
  | reversedCount
  /-- A backslash ends the pattern or stands before a character that it gives no meaning. -/
  | unknownEscape
  /-- A digit follows a backslash. -/
  | backReference
  | malformedCode
  | lookAround
  | malformedFlags
  | malformedGroupName
  | repeatedGroupName
  | reversedRange
  /-- What stands in a class, or at the end of a range, stands for no character. -/
  | notACharacter
  /-- A class of a Unicode property, of which this language has none. -/
  | unicodeProperty
  /-- Something would match bytes that are no text. -/
  | notText
  | nestedTooDeeply
  | tooLarge
  deriving DecidableEq, Repr

/-- What the user is told. -/
def Error.message : Error → String
  | .unclosedGroup => "unclosed group"
  | .unopenedGroup => "unopened group"
  | .unclosedClass => "unclosed character class"
  | .nothingToRepeat => "repetition operator missing expression"
  | .malformedCount => "malformed repetition count"
  | .countTooLarge => "repetition count too large"
  | .reversedCount => "invalid repetition count range, the start must be <= the end"
  | .unknownEscape => "unrecognized escape sequence"
  | .backReference => "backreferences are not supported"
  | .malformedCode => "malformed character code"
  | .lookAround => "look-around, including look-ahead and look-behind, is not supported"
  | .malformedFlags => "malformed flags"
  | .malformedGroupName => "malformed capture group name"
  | .repeatedGroupName => "duplicate capture group name"
  | .reversedRange => "invalid character class range, the start must be <= the end"
  | .notACharacter => "invalid element of a character class"
  | .unicodeProperty => "classes of Unicode properties are not supported"
  | .notText => "pattern can match invalid UTF-8"
  | .nestedTooDeeply => "pattern is nested too deeply"
  | .tooLarge => "pattern is too large"

end EnvInject.Pattern
