import EnvInject.Text.Blank
import EnvInject.Text.CaseFolding
import EnvInject.Text.Number
import EnvInject.Text.Word

/-!
# Classes of characters

A class is a set of characters, kept as ascending ranges of code points. Classes are combined by
the usual operations on sets. Ignoring case is one more operation: it adds every character that is
the same as a member but for case.
-/

namespace EnvInject.Pattern

/-- A property that patterns have a short name for. -/
inductive Property where
  /-- Decimal digits, `\d`. -/
  | digit
  /-- Blanks, `\s`. -/
  | blank
  /-- Word characters, `\w`. -/
  | word
  deriving DecidableEq, Repr

/-- A set of characters. -/
structure CharClass where
  /-- The ranges of their code points. They ascend and do not overlap. -/
  ranges : List (Nat × Nat)
  deriving DecidableEq, Repr

namespace CharClass

/-- Whether a character is in a class. -/
def holds (members : CharClass) (c : Char) : Bool :=
  inCodeRanges c.toNat members.ranges

/-- The class without characters. -/
def none : CharClass :=
  ⟨[]⟩

/-- The characters from `low` to `high`. -/
def range (low high : Char) : CharClass :=
  ⟨[(low.toNat, high.toNat)]⟩

/-- The class of one character. -/
def single (c : Char) : CharClass :=
  range c c

/-- The characters in one class or the other. -/
def either (first second : CharClass) : CharClass :=
  ⟨ascending (first.ranges ++ second.ranges)⟩

/-- The union of some classes. -/
def anyOf (classes : List CharClass) : CharClass :=
  ⟨ascending (classes.flatMap ranges)⟩

/-- The characters that are not in a class. Where the surrogates alone keep two ranges of the class
apart, the members on both sides of them are in the result too. -/
def complement (members : CharClass) : CharClass :=
  ⟨gaps members.ranges⟩

/-- The characters in both classes. -/
def both (first second : CharClass) : CharClass :=
  ⟨commonRanges first.ranges second.ranges⟩

/-- The class, or all that is outside it. -/
def negateIf (negated : Bool) (members : CharClass) : CharClass :=
  if negated then members.complement else members

/-- The characters of `first` that are not in `second`. -/
def without (first second : CharClass) : CharClass :=
  ⟨first.ranges.flatMap fun (low, high) => rangeWithout low high second.ranges⟩

/-- The characters in exactly one of two classes. -/
def oneOf (first second : CharClass) : CharClass :=
  (first.either second).without (first.both second)

/-- A class and the partners of its members, where `partners` lists pairs of code points. -/
def withPartners (members : CharClass) (partners : List (Nat × Nat)) : CharClass :=
  let added := partners.filterMap fun (code, partner) =>
    if inCodeRanges code members.ranges then some (partner, partner) else Option.none
  if added.isEmpty then members else ⟨ascending (members.ranges ++ added)⟩

/-- The characters that are the same as one of a class but for case. They have a folded form in
common with it, so they are reached by way of the folded forms. -/
def anyCase (members : CharClass) : CharClass :=
  (members.withPartners foldPairs).withPartners (foldPairs.map Prod.swap)

/-- Every small ASCII letter with the capital one. -/
def asciiCasePairs : List (Nat × Nat) :=
  (List.range 26).map fun index => (0x61 + index, 0x41 + index)

/-- The characters of a class, and the ASCII letters that are the same as one of them but for
case. -/
def anyAsciiCase (members : CharClass) : CharClass :=
  members.withPartners (asciiCasePairs ++ asciiCasePairs.map Prod.swap)

/-- The characters with a property. -/
def having : Property → CharClass
  | .digit => ⟨decimalDigits⟩
  | .blank => ⟨blankRanges⟩
  | .word => ⟨wordRanges⟩

/-- The ASCII characters with a property. -/
def asciiProperty : Property → CharClass
  | .digit => range '0' '9'
  | .blank => anyOf [range '\t' '\r', single ' ']
  | .word => anyOf [range '0' '9', range 'A' 'Z', range 'a' 'z', single '_']

/-- The ASCII classes that have names, as between `[:` and `:]`. -/
def named? (name : List Char) : Option CharClass :=
  match String.ofList name with
  | "alnum" => some (anyOf [range '0' '9', range 'A' 'Z', range 'a' 'z'])
  | "alpha" => some (anyOf [range 'A' 'Z', range 'a' 'z'])
  | "ascii" => some (range '\x00' '\x7F')
  | "blank" => some (anyOf [single '\t', single ' '])
  | "cntrl" => some (anyOf [range '\x00' '\x1F', single '\x7F'])
  | "digit" => some (range '0' '9')
  | "graph" => some (range '!' '~')
  | "lower" => some (range 'a' 'z')
  | "print" => some (range ' ' '~')
  | "punct" => some (anyOf [range '!' '/', range ':' '@', range '[' '\x60', range '\x7B' '~'])
  | "space" => some (anyOf [range '\t' '\r', single ' '])
  | "upper" => some (range 'A' 'Z')
  | "word" => some (asciiProperty .word)
  | "xdigit" => some (anyOf [range '0' '9', range 'A' 'F', range 'a' 'f'])
  | _ => Option.none

end CharClass

end EnvInject.Pattern
