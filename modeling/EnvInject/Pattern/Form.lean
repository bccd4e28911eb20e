import EnvInject.Pattern.CharClass

/-!
# The form of a pattern

A `Form` is a pattern as it is written, before flags have given its parts their meaning. Sequences,
choices and the items of a class are chains: the second part of a pair holds the rest of them.
-/

namespace EnvInject.Pattern

/-- What a letter among the flags of a group stands for. -/
inductive Flag where
  /-- `i`: case is ignored. -/
  | ignoreCase
  /-- `m`: `^` and `$` are for lines. -/
  | multiLine
  /-- `s`: the dot includes the line feed. -/
  | dotAll
  /-- `U`: repetitions prefer few stretches, and those with a `?` prefer many. -/
  | swapPreference
  /-- `u`: classes are those of Unicode. -/
  | unicode
  /-- `R`: a carriage return may end a line. -/
  | crlf
  /-- `x`: blanks and comments in the pattern do not count. -/
  | extended
  deriving DecidableEq, Repr

/-- The flags of a group, each with whether it is set or cleared. -/
abbrev FlagChange := List (Flag × Bool)

/-- What becomes of a flag by a change. -/
def FlagChange.apply (change : FlagChange) (flag : Flag) (old : Bool) : Bool :=
  (change.lookup flag).getD old

/-- A condition on a position, as it is written. -/
inductive Anchor where
  /-- `^` -/
  | lineStart
  /-- `$` -/
  | lineEnd
  /-- `\A` -/
  | textStart
  /-- `\z` -/
  | textEnd
  /-- `\b` -/
  | wordEdge
  /-- `\B` -/
  | noWordEdge
  /-- `\<` -/
  | wordStart
  /-- `\>` -/
  | wordEnd
  /-- `\b` with `start-half` in braces. -/
  | wordStartHalf
  /-- `\b` with `end-half` in braces. -/
  | wordEndHalf
  deriving DecidableEq, Repr

/-- The smallest parts of a pattern. -/
inductive Atom where
  /-- A character. It may be written as the code of a byte. -/
  | literal (c : Char) (isByte : Bool)
  | dot
  /-- A condition. -/
  | anchor (anchor : Anchor)
  /-- A property or its opposite. -/
  | property (property : Property) (negated : Bool)
  deriving DecidableEq, Repr

/-- An operation on two classes. -/
inductive ClassOperation where
  /-- `&&`, the characters of both. -/
  | both
  /-- `--`, those of the first alone. -/
  | without
  /-- `~~`, those of exactly one. -/
  | oneOf
  deriving DecidableEq, Repr

/-- What stands between the brackets of a class. -/
inductive ClassForm where
  /-- Nothing. -/
  | empty
  /-- A range; a character is the range from it to itself. -/
  | range (low high : Char)
  /-- A property or its opposite. -/
  | property (property : Property) (negated : Bool)
  /-- An ASCII class, given by its name, or its opposite. -/
  | named (members : CharClass) (negated : Bool)
  /-- A class in brackets of its own. -/
  | bracketed (negated : Bool) (inner : ClassForm)
  /-- An item and the items after it. -/
  | union (first rest : ClassForm)
  /-- An operation. -/
  | combined (operation : ClassOperation) (first second : ClassForm)
  deriving DecidableEq, Repr

/-- A pattern. -/
inductive Form where
  /-- Nothing. -/
  | empty
  /-- Flags for the rest of the group. -/
  | flags (change : FlagChange)
  /-- An atom. -/
  | atom (atom : Atom)
  /-- A class in brackets. -/
  | bracketed (negated : Bool) (inner : ClassForm)
  /-- A repetition. It may have a `?` after it. -/
  | repeated (body : Form) (least : Nat) (most : Option Nat) (marked : Bool)
  /-- A group, with flags of its own, and with a number if what it matches is kept. -/
  | group (number : Option Nat) (change : FlagChange) (body : Form)
  /-- An item and the items after it. -/
  | seq (first rest : Form)
  /-- A branch and the branches after it. -/
  | alt (first rest : Form)
  deriving DecidableEq, Repr

namespace ClassForm

/-- Some items as one. -/
def ofItems : List ClassForm → ClassForm
  | [] => .empty
  | [item] => item
  | item :: rest => .union item (ofItems rest)

/-- How deeply a class is nested. The items of one chain are on one level. -/
def depth : ClassForm → Nat
  | .empty | .range .. | .property .. | .named .. => 0
  | .bracketed _ inner => inner.depth + 1
  | .union first rest =>
    max (first.depth + 1) (match rest with
      | .union .. => rest.depth
      | _ => rest.depth + 1)
  | .combined _ first second => max first.depth second.depth + 1

end ClassForm

namespace Form

/-- Some items as one. -/
def ofItems : List Form → Form
  | [] => .empty
  | [item] => item
  | item :: rest => .seq item (ofItems rest)

/-- Some branches as one choice. -/
def ofBranches : List Form → Form
  | [] => .empty
  | [branch] => branch
  | branch :: rest => .alt branch (ofBranches rest)

/-- How deeply a pattern is nested. The items of one sequence are on one level, and so are the
branches of one choice. -/
def depth : Form → Nat
  | .empty | .flags _ | .atom _ => 0
  | .bracketed _ inner => inner.depth + 1
  | .repeated body _ _ _ => body.depth + 1
  | .group _ _ body => body.depth + 1
  | .seq first rest =>
    max (first.depth + 1) (match rest with
      | .seq .. => rest.depth
      | _ => rest.depth + 1)
  | .alt first rest =>
    max (first.depth + 1) (match rest with
      | .alt .. => rest.depth
      | _ => rest.depth + 1)

end Form

end EnvInject.Pattern
