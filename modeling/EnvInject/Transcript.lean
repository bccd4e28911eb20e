import EnvInject.Text.Utf8

/-!
# Messages to the user

A run reports its progress as messages, each with a severity. `Transcript` collects them.
-/

namespace EnvInject

/-- How grave a message is. -/
inductive Severity where
  | info
  /-- A step that ended well. -/
  | success
  | warn
  | error
  deriving DecidableEq, Repr

/-- One message to the user. -/
structure Message where
  severity : Severity
  text : String
  deriving DecidableEq, Repr

/-- The messages of a run, in order. -/
structure Transcript where
  messages : List Message
  deriving DecidableEq, Repr

namespace Transcript

/-- The transcript without messages. -/
def empty : Transcript :=
  ⟨[]⟩

/-- The transcript with one more message. -/
def push (transcript : Transcript) (message : Message) : Transcript :=
  ⟨transcript.messages ++ [message]⟩

/-- The texts of one severity, in order. -/
def textsAt (transcript : Transcript) (severity : Severity) : List String :=
  (transcript.messages.filter (·.severity == severity)).map (·.text)

/-- Whether `part` stands somewhere in `whole`. -/
def hasPart (part : List Char) : (whole : List Char) → Bool
  | [] => part.isEmpty
  | c :: rest => part.isPrefixOf (c :: rest) || hasPart part rest

/-- Whether some message contains a text. -/
def mentions (transcript : Transcript) (text : String) : Bool :=
  transcript.messages.any (hasPart text.toList ·.text.toList)

end Transcript

end EnvInject
