import EnvInject.Text.CodeRange

/-!
# Blank characters

The Unicode property White_Space, which decides whether a text counts as empty, and what a pattern
means by `\s`. U+200B, U+FEFF and U+180E do not have it.
-/

namespace EnvInject

/-- Ranges of blank characters, in ascending order. -/
def blankRanges : List (Nat × Nat) :=
  [(0x9, 0xD), (0x20, 0x20), (0x85, 0x85), (0xA0, 0xA0), (0x1680, 0x1680), (0x2000, 0x200A),
    (0x2028, 0x2029), (0x202F, 0x202F), (0x205F, 0x205F), (0x3000, 0x3000)]

/-- Whether a character has the Unicode property White_Space. -/
def isBlank (c : Char) : Bool :=
  inCodeRanges c.toNat blankRanges

/-- What is left of a text when blanks are taken from both ends. -/
def trimBlanks (text : List Char) : List Char :=
  ((text.dropWhile isBlank).reverse.dropWhile isBlank).reverse

/-- Whether nothing is left of a text when blanks are taken from both ends. -/
def isBlankText (text : String) : Bool :=
  text.toList.all isBlank

end EnvInject
