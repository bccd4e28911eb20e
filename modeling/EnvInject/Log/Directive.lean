import EnvInject.Log.Event
import EnvInject.Pattern.Basic
import EnvInject.Text.Blank
import EnvInject.Text.Number
import EnvInject.Text.Split

/-!
# Directives of a log filter

A directive gives a level to all events (`debug`), to the events of a target and the targets below
it (`reactenv::engine=trace`), or, when it is only a target, all levels to that target. In brackets
after the target it may name a span in which events happen, a field that they have, or a field of a
span and a pattern for its value (`reactenv[\x7Bpath\x7D]=trace`).

Blanks at the ends of a directive are passed over to find its parts. The parts are then taken from
the text with the blanks, by their positions without them.
-/

namespace EnvInject.Log

/-- The greatest rank of level that a directive lets pass; 0 lets nothing pass. -/
abbrev Threshold := Nat

/-- What a directive asks of events besides their target. -/
inductive Condition where
  /-- Nothing. -/
  | anything
  /-- They have a field. -/
  | field (name : String)
  /-- They happen in a span. No event does. -/
  | span
  deriving DecidableEq, Repr

/-- One directive of a filter. -/
structure Directive where
  /-- The start of the targets that it concerns; none concerns all. -/
  target : Option String
  /-- What else it asks of the events that it concerns. -/
  condition : Condition
  /-- What it lets pass. -/
  threshold : Threshold
  deriving DecidableEq, Repr

/-- The levels, and with them what a directive can let pass besides nothing. -/
def levels : List Level :=
  [.error, .warn, .info, .debug, .trace]

/-- The number that decimal digits stand for. -/
def numberOf (digits : List Char) : Nat :=
  digits.foldl (fun number digit => number * 10 + (digit.toNat - 0x30)) 0

/-- Reads the rank of a level. It may have a sign. -/
def Threshold.ofNumber? (text : List Char) : Option Threshold :=
  let digits :=
    match text with
    | '+' :: rest => rest
    | _ => text
  let number := numberOf digits
  if !digits.isEmpty && digits.all Char.isDigit && number ≤ Level.trace.rank then some number
  else none

/-- Reads a level: its rank, its word in letters of either case, or `off`. -/
def Threshold.parse? (text : String) : Option Threshold :=
  let word := text.map Char.toLower
  Threshold.ofNumber? text.toList
    <|> (if word == "off" then some 0
      else (levels.find? (·.word == word)).map (·.rank))

/-- Reads a level, which may be left out to mean all levels. -/
def Threshold.ofOptional? (text : String) : Option Threshold :=
  if text.isEmpty then some Level.trace.rank else Threshold.parse? text

/-- Reads a field of an event or of a span. After its name there may be a pattern for its value. -/
def Condition.ofField? (text : String) : Option Condition :=
  match splitChars '=' text.toList with
  | [] => none
  | [name] => some (.field (String.ofList name))
  | _ :: value :: _ =>
    match Pattern.compile (String.ofList value) with
    | .ok _ => some .span
    | .error _ => none

/-- The part of a text between two positions in its UTF-8 form, if characters begin there. -/
def partOf? (text : String) (start stop : Nat) : Option String :=
  Utf8.decode? (((Utf8.encode text).take stop).drop start)

namespace Directive

/-- Whether a directive may start with a character. -/
def mayStart (c : Char) : Bool :=
  c == '[' || c == '-' || c == ':' || c == '_' || isAlphanumeric c

/-- Reads what stands between brackets, after the first of them, and gives back what follows.
`part?` takes a part from the text by what is left to read at its start and at its end. -/
def readCondition? (part? : List Char → List Char → Option String) (text : List Char) :
    Option (Condition × List Char) := do
  let ofName (c : Char) : Bool := c != ']' && c != '\x7B'
  match text.dropWhile ofName with
  | ']' :: after => return (.span, after)
  | '\x7B' :: inside =>
    let afterField := inside.dropWhile (· != '\x7D')
    let field ← part? inside afterField
    if field.isEmpty then none
    let condition ← Condition.ofField? field
    match afterField with
    | _ :: ']' :: after =>
      return (if (text.takeWhile ofName).isEmpty then condition else .span, after)
    | _ => none
  | _ => none

/-- Reads one directive. -/
def parse? (text : String) : Option Directive := do
  let read := trimBlanks text.toList
  let size (part : List Char) : Nat := (Utf8.encode (String.ofList part)).length
  let part? (start stop : List Char) : Option String :=
    partOf? text (size read - size start) (size read - size stop)
  let toEnd? (start : List Char) : Option String :=
    partOf? text (size read - size start) (size text.toList)
  if !read.head?.any mayStart then none
  let afterTarget := read.dropWhile fun c => c != '=' && c != '['
  match afterTarget with
  | '=' :: level =>
    return ⟨some (← part? read afterTarget), .anything, ← Threshold.ofOptional? (← toEnd? level)⟩
  | '[' :: inside =>
    let target ← if afterTarget.length = read.length then some none
      else (part? read afterTarget).map some
    let (condition, afterCondition) ← readCondition? part? inside
    match afterCondition with
    | [] => return ⟨target, condition, Level.trace.rank⟩
    | '=' :: level => return ⟨target, condition, ← Threshold.ofOptional? (← toEnd? level)⟩
    | _ => none
  | _ =>
    match Threshold.parse? text with
    | some threshold => return ⟨none, .anything, threshold⟩
    | none => return ⟨some text, .anything, Level.trace.rank⟩

/-- Whether an event is one that a directive concerns. -/
def concerns (directive : Directive) (event : Event) : Bool :=
  directive.target.all (fun start => start.toList.isPrefixOf event.target.toList)
    && match directive.condition with
      | .anything => true
      | .field name => name == Event.textField || event.fields.any (·.1 == name)
      | .span => false

/-- The length in bytes of the target that a directive names, more than that of no target. -/
def targetSize (directive : Directive) : Nat :=
  match directive.target with
  | none => 0
  | some start => (Utf8.encode start).length + 1

/-- The field that a directive asks for. -/
def field (directive : Directive) : String :=
  match directive.condition with
  | .field name => name
  | .anything | .span => ""

/-- Whether a directive names what it concerns at least as closely as another one. A longer target
counts most; then comes a field, and the later one in the order of the names. -/
def isAsClose (directive other : Directive) : Bool :=
  other.targetSize < directive.targetSize
    || (other.targetSize == directive.targetSize && !decide (directive.field < other.field))

end Directive

end EnvInject.Log
