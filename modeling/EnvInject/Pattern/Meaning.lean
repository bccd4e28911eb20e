import EnvInject.Pattern.Error
import EnvInject.Pattern.Form
import EnvInject.Pattern.Regex

/-!
# What a pattern means

`Form.meaning` turns a pattern as it is written into the branches of a regular expression. Flags
are carried along from left to right: those that stand alone hold to the end of their group, across
its branches.

Without the flag `u` only ASCII is known. What would then match bytes that are no text is refused.
-/

namespace EnvInject.Pattern

/-- The flags that change what a pattern matches. -/
structure Modes where
  /-- Case is ignored. -/
  ignoreCase : Bool
  /-- `^` and `$` are for lines. -/
  multiLine : Bool
  /-- The dot includes the line feed. -/
  dotAll : Bool
  /-- Classes are those of Unicode. -/
  unicode : Bool
  /-- A carriage return may end a line. -/
  crlf : Bool
  /-- Repetitions prefer few stretches. -/
  swapPreference : Bool
  deriving DecidableEq, Repr

namespace Modes

/-- The flags at the start of a pattern. -/
def start : Modes :=
  ⟨false, false, false, true, false, false⟩

/-- The flags after a change. -/
def after (modes : Modes) (change : FlagChange) : Modes where
  ignoreCase := change.apply .ignoreCase modes.ignoreCase
  multiLine := change.apply .multiLine modes.multiLine
  dotAll := change.apply .dotAll modes.dotAll
  unicode := change.apply .unicode modes.unicode
  crlf := change.apply .crlf modes.crlf
  swapPreference := change.apply .swapPreference modes.swapPreference

/-- A class as it is under the flags that concern case. -/
def withCase (modes : Modes) (members : CharClass) : CharClass :=
  if !modes.ignoreCase then members
  else if modes.unicode then .anyCase members
  else .anyAsciiCase members

/-- A class or its opposite. -/
def withNegation (modes : Modes) (negated : Bool) (members : CharClass) :
    Except Error CharClass :=
  if negated && !modes.unicode then throw .notText else return .negateIf negated members

/-- The characters of words. -/
def wordClass (modes : Modes) : CharClass :=
  if modes.unicode then .having .word else .asciiProperty .word

/-- The characters with a property, or its opposite. -/
def propertyClass (modes : Modes) (property : Property) (negated : Bool) :
    Except Error CharClass :=
  modes.withNegation negated
    (if modes.unicode then .having property else .asciiProperty property)

end Modes

/-- The condition that an anchor stands for. -/
def Anchor.meaning (modes : Modes) : Anchor → Look
  | .lineStart =>
    if !modes.multiLine then .textStart else if modes.crlf then .crlfLineStart else .lineStart
  | .lineEnd =>
    if !modes.multiLine then .textEnd else if modes.crlf then .crlfLineEnd else .lineEnd
  | .textStart => .textStart
  | .textEnd => .textEnd
  | .wordEdge => .wordEdge modes.wordClass
  | .noWordEdge => .noWordEdge modes.wordClass
  | .wordStart => .wordStart modes.wordClass
  | .wordEnd => .wordEnd modes.wordClass
  | .wordStartHalf => .noWordBefore modes.wordClass
  | .wordEndHalf => .noWordAfter modes.wordClass

/-- The expression that an atom stands for. -/
def Atom.meaning (modes : Modes) : Atom → Except Error Regex
  | .literal c isByte =>
    if isByte && !modes.unicode && c.toNat ≥ 0x80 then throw .notText
    else return .ofClass (modes.withCase (.single c))
  | .dot =>
    if !modes.unicode then throw .notText
    else if modes.dotAll then return .ofClass (.complement .none)
    else if modes.crlf then return .ofClass (.complement (.anyOf [.single '\r', .single '\n']))
    else return .ofClass (.complement (.single '\n'))
  | .anchor condition => return .look (condition.meaning modes)
  | .property owned negated => do return .ofClass (← modes.propertyClass owned negated)

/-- The class that an operation makes of two. Where case is ignored, both count with all their
variants. -/
def ClassOperation.meaning (modes : Modes) (operation : ClassOperation)
    (first second : CharClass) : CharClass :=
  let first := modes.withCase first
  let second := modes.withCase second
  match operation with
  | .both => .both first second
  | .without => first.without second
  | .oneOf => first.oneOf second

/-- The classes that stand between brackets, one for each item. -/
def ClassForm.meaning (modes : Modes) : ClassForm → Except Error (List CharClass)
  | .empty => return []
  | .range low high =>
    if !modes.unicode && high.toNat ≥ 0x80 then throw .notText else return [.range low high]
  | .property owned negated => do return [← modes.propertyClass owned negated]
  | .named members negated => do
    return [← modes.withNegation negated (modes.withCase members)]
  | .bracketed negated inner => do
    return [← modes.withNegation negated (modes.withCase (.anyOf (← inner.meaning modes)))]
  | .union first rest => do return (← first.meaning modes) ++ (← rest.meaning modes)
  | .combined operation first second => do
    return [operation.meaning modes (.anyOf (← first.meaning modes))
      (.anyOf (← second.meaning modes))]

/-- The branches that a pattern stands for, and the flags after it. -/
def Form.meaning : Form → Modes → Except Error (List Regex × Modes)
  | .empty, modes => return ([.empty], modes)
  | .flags change, modes => return ([.empty], modes.after change)
  | .atom leaf, modes => do return ([← leaf.meaning modes], modes)
  | .bracketed negated inner, modes => do
    let members := modes.withCase (.anyOf (← inner.meaning modes))
    return ([.ofClass (← modes.withNegation negated members)], modes)
  | .repeated body least most marked, modes => do
    let (body, after) ← body.meaning modes
    return ([(Regex.choice body).repeatedly least most (marked != modes.swapPreference)], after)
  | .group number change body, modes => do
    let (body, _) ← body.meaning (modes.after change)
    let body := Regex.choice body
    return ([match number with
      | some number => .group number body
      | none => body], modes)
  | .seq first rest, modes => do
    let (first, modes) ← first.meaning modes
    let (rest, modes) ← rest.meaning modes
    return ([(Regex.choice first).followedBy (Regex.choice rest)], modes)
  | .alt first rest, modes => do
    let (first, modes) ← first.meaning modes
    let (rest, modes) ← rest.meaning modes
    return (first ++ rest, modes)

end EnvInject.Pattern
