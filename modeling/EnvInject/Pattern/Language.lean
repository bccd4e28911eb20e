/-!
# Pattern languages

What a pattern means is up to a library. `Language` is all that a program sees of one.
-/

namespace EnvInject.Pattern

/-- A language of patterns. -/
structure Language where
  /-- Which names a pattern wants, or what the library says is wrong with it. -/
  compile : String → Except String (String → Bool)

/-- The pattern that selects scripts. -/
def default : String := "\\.js$"

end EnvInject.Pattern
