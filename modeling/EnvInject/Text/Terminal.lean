/-!
# Text for a terminal

What is sent to a terminal holds text, and sequences that begin with an escape character and change
how the text after them looks. `plainText` keeps the text alone. The sequences are those of
ECMA-48: control sequences, operating system commands, device control strings and other strings.

A sequence ends where its form says so, and not where its author meant it to end: one that is not
complete takes in what follows, up to the next escape character. A spacing character in the middle
of a sequence only interrupts it. Text is shown from there on, and the sequence goes on with the
next control character that is not shown.
-/

namespace EnvInject

/-- Where in the characters for a terminal a reader is. -/
inductive TerminalState where
  /-- Outside of all sequences. -/
  | text
  | escape
  | escapeMarks
  | control
  | command
  /-- At the start of a device control string. -/
  | device
  /-- After the parameters of a device control string. -/
  | deviceParameters
  /-- After the marks of a device control string. -/
  | deviceMarks
  /-- In the contents of a string. -/
  | string
  deriving DecidableEq, Repr

namespace TerminalState

/-- Whether a character lies in a range of code points. -/
def isWithin (low high : Nat) (c : Char) : Bool :=
  decide (low ≤ c.toNat ∧ c.toNat ≤ high)

/-- The characters that may stand before the last one of a sequence. -/
def isMark (c : Char) : Bool :=
  isWithin 0x20 0x2F c

/-- The control characters that only move on in the text. -/
def isSpacing (c : Char) : Bool :=
  c == '\t' || c == '\n' || c == '\x0c' || c == '\r'

/-- Whether a character is shown. A spacing character is shown within most sequences too. -/
def shows (c : Char) : TerminalState → Bool
  | .text => isSpacing c || (0x20 ≤ c.toNat && c != '\x7f')
  | .escape | .escapeMarks | .control => isSpacing c
  | .command | .device | .deviceParameters | .deviceMarks | .string => false

/-- The state after a character that follows an escape character. -/
def afterEscape (c : Char) : TerminalState :=
  if c = '[' then .control
  else if c = ']' then .command
  else if c = 'P' then .device
  else if c = 'X' ∨ c = '^' ∨ c = '_' then .string
  else if isMark c then .escapeMarks
  else if isWithin 0x30 0x7E c then .text
  else .escape

/-- The state after a character. An escape character begins a sequence within another one too, and
the characters to cancel and to substitute end every sequence. -/
def next (c : Char) (state : TerminalState) : TerminalState :=
  if c = '\x1b' then .escape
  else if c = '\x18' ∨ c = '\x1a' then .text
  else
    match state with
    | .text => .text
    | .escape => afterEscape c
    | .escapeMarks => if isWithin 0x30 0x7E c then .text else .escapeMarks
    | .control => if isWithin 0x40 0x7E c then .text else .control
    | .command => if c = '\x07' then .text else .command
    | .device =>
      if isWithin 0x40 0x7E c then .string
      else if isMark c then .deviceMarks
      else if isWithin 0x30 0x3F c then .deviceParameters
      else .device
    | .deviceParameters =>
      if isWithin 0x3C 0x7E c then .string
      else if isMark c then .deviceMarks
      else .deviceParameters
    | .deviceMarks => if isWithin 0x30 0x7E c then .string else .deviceMarks
    | .string => if (String.utf8EncodeChar c).contains 0x9C then .text else .string

end TerminalState

/-- A reader of characters for a terminal. -/
structure TerminalReader where
  /-- Where it is, apart from text that interrupts a sequence. -/
  state : TerminalState
  /-- Whether the character before was shown. What follows such a character is read as text. -/
  inText : Bool
  deriving DecidableEq, Repr

namespace TerminalReader

/-- The reader at the start of a text. -/
def start : TerminalReader :=
  ⟨.text, true⟩

/-- Whether a character is shown. -/
def shows (c : Char) (reader : TerminalReader) : Bool :=
  if reader.inText then TerminalState.text.shows c else reader.state.shows c

/-- The reader after a character. Text that interrupts a sequence leaves it where it is; only a
character outside of ASCII ends it. -/
def after (c : Char) (reader : TerminalReader) : TerminalReader :=
  if reader.shows c then ⟨if c.toNat < 0x80 then reader.state else .text, true⟩
  else ⟨reader.state.next c, false⟩

/-- The characters that are shown. -/
def shown : TerminalReader → List Char → List Char
  | _, [] => []
  | reader, c :: rest =>
    if reader.shows c then c :: (reader.after c).shown rest else (reader.after c).shown rest

end TerminalReader

/-- A text without the sequences and the control characters in it. -/
def plainText (text : String) : String :=
  String.ofList (TerminalReader.start.shown text.toList)

/-- A text that a terminal shows in bold. -/
def bold (text : String) : String :=
  "\x1b[1m" ++ text ++ "\x1b[0m"

end EnvInject
