import EnvInject.Text.Utf8

/-!
# Placeholders

A placeholder is the marker followed by the name of a variable. `Placeholder.nameAt?` reads the one
that starts at the head of some bytes, and `Token` says where in a file one stands and which
variable it names.
-/

namespace EnvInject

namespace Placeholder

/-- The bytes that introduce every placeholder: `__reactenv.` -/
def marker : Bytes :=
  [0x5F, 0x5F, 0x72, 0x65, 0x61, 0x63, 0x74, 0x65, 0x6E, 0x76, 0x2E]

/-- An ASCII letter, `_` or `$`. -/
def isNameStart (byte : UInt8) : Bool :=
  (0x41 ≤ byte && byte ≤ 0x5A) || (0x61 ≤ byte && byte ≤ 0x7A) || byte == 0x5F || byte == 0x24

/-- A byte that may start a name, or an ASCII digit. -/
def isNamePart (byte : UInt8) : Bool :=
  isNameStart byte || (0x30 ≤ byte && byte ≤ 0x39)

/-- The name of the placeholder that `bytes` start with, as long as it can be. -/
def nameAt? (bytes : Bytes) : Option Bytes :=
  if marker.isPrefixOf bytes then
    match bytes.drop marker.length with
    | [] => none
    | first :: rest =>
      if isNameStart first then some (first :: rest.takeWhile isNamePart) else none
  else none

/-- The text of a name, each byte of which is an ASCII character. -/
def nameText (name : Bytes) : String :=
  String.ofList (name.map Char.ofUInt8)

end Placeholder

/-- The bytes from `start` up to and without `stop`, as offsets into a file. -/
structure Span where
  /-- The offset of the first byte. -/
  start : Nat
  /-- The offset after the last byte. -/
  stop : Nat
  deriving DecidableEq, Repr

/-- The number of bytes in a span; a span that ends before it starts has none. -/
def Span.length? (span : Span) : Option Nat :=
  if span.start ≤ span.stop then some (span.stop - span.start) else none

/-- Whether a span ends where it starts. -/
def Span.isEmpty (span : Span) : Bool :=
  span.start == span.stop

/-- One placeholder of a file: where it stands and the variable it names. -/
structure Token where
  /-- The bytes of the placeholder, marker and name. -/
  span : Span
  /-- The name of the variable. -/
  name : String
  deriving DecidableEq, Repr

/-- The bytes from `start` up to and without `stop`, if these offsets are in order and within
`bytes`. -/
def slice? (bytes : Bytes) (start stop : Nat) : Option Bytes :=
  if start ≤ stop ∧ stop ≤ bytes.length then some ((bytes.take stop).drop start) else none

/-- Whether the placeholder that `token` describes stands in `contents` where it says. -/
def Token.standsIn (contents : Bytes) (token : Token) : Bool :=
  slice? contents token.span.start token.span.stop
    == some (Placeholder.marker ++ Utf8.encode token.name)

end EnvInject
