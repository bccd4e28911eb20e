import EnvInject.Pattern.ByteSequence
import EnvInject.Pattern.Regex
import Std.Data.HashMap

/-!
# The size of a pattern

An expression is turned into an automaton that reads the UTF-8 form of a text, and into a second one
that reads it backwards. A counted repetition stands for as many copies of its body as it counts, so
a short pattern may need many states. `Regex.isTooLarge` tells whether one of the two automata takes
more than `sizeLimit` bytes. Nothing here says what an expression matches.

A state takes 32 bytes. A state that leads on by one byte or range of bytes, or without reading,
takes no more; one with several ways takes 8 bytes for each that reads and 4 for each that does not.
`Regex.grow` counts the states of an expression after those that are there already, in the order in
which they are made.

Classes are the only expressions whose size hangs on what is there already. States that lead on
alike are made once, as far as a table of a limited number of places remembers them. The place of a
state is a hash, and the numbers of the states that it leads to enter into it.
-/

namespace EnvInject.Pattern

/-- The greatest size of an automaton in bytes. -/
def sizeLimit : Nat := 10 * 1024 * 1024

/-- The bytes that a state takes. -/
def stateSize : Nat := 32

/-- The bytes of one of several ways that read. -/
def readingSize : Nat := 8

/-- The bytes of one of several ways that do not read. -/
def jumpSize : Nat := 4

/-- What an automaton takes so far. -/
structure Extent where
  states : Nat
  /-- The bytes of the ways from states with several. -/
  ways : Nat
  deriving DecidableEq, Repr

namespace Extent

/-- The bytes that an automaton takes. -/
def bytes (extent : Extent) : Nat :=
  extent.states * stateSize + extent.ways

/-- Whether an automaton is too large. -/
def isOver (extent : Extent) : Bool :=
  extent.bytes > sizeLimit

/-- With more states. -/
def addStates (count : Nat) (extent : Extent) : Extent :=
  { extent with states := extent.states + count }

/-- With more ways that do not read. -/
def addJumps (count : Nat) (extent : Extent) : Extent :=
  { extent with ways := extent.ways + count * jumpSize }

/-- With a state that has some ways that read. -/
def addReader (ways : Nat) (extent : Extent) : Extent :=
  ⟨extent.states + 1, extent.ways + ways * readingSize⟩

/-- With something added several times. Once an automaton is too large, it is left as it is. -/
def times (grow : Extent → Extent) : (count : Nat) → Extent → Extent
  | 0, extent => extent
  | count + 1, extent => if extent.isOver then extent else times grow count (grow extent)

end Extent

/-! ## Hashes -/

/-- The hash of no numbers. -/
def hashStart : UInt64 := 14695981039346656037

/-- The hash of numbers and one more. -/
def hashStep (hash : UInt64) (number : Nat) : UInt64 :=
  (hash ^^^ number.toUInt64) * 1099511628211

/-- The place of numbers in a table. -/
def placeOf (places : Nat) (numbers : List Nat) : Nat :=
  (numbers.foldl hashStep hashStart).toNat % places

/-! ## Classes, read forwards -/

/-- A way by which a state leads on. -/
structure Way where
  /-- The bytes that it reads. -/
  reads : ByteRange
  next : Nat
  deriving DecidableEq, Repr

/-- The states of a class so far. -/
structure ForwardClass where
  /-- What the automaton takes. -/
  extent : Extent
  /-- The states that are remembered, each at its place. -/
  known : Std.HashMap Nat (List Way × Nat)

/-- The number of places for states that are read forwards. -/
def forwardPlaces : Nat := 10000

/-- The number of a state with some ways; it is made if it is not remembered. -/
def ForwardClass.make (made : ForwardClass) (ways : List Way) : Nat × ForwardClass :=
  let place := placeOf forwardPlaces
    (ways.flatMap fun way => [way.reads.low.toNat, way.reads.high.toNat, way.next])
  let remembered := (made.known[place]?).filter (·.1 == ways)
  match remembered with
  | some (_, state) => (state, made)
  | none =>
    let state := made.extent.states
    (state, ⟨made.extent.addReader ways.length, made.known.insert place (ways, state)⟩)

/-- A state on the path of the sequence added last, to which ways may still be added. -/
structure OpenState where
  /-- The ways that lead to states that are made, the latest first. -/
  ways : List Way
  /-- The bytes of the way that leads to the next state of the path. -/
  latest : Option ByteRange

/-- The ways of an open state, the latest first, once the state after it on the path is made. -/
def OpenState.closed (state : OpenState) (next : Nat) : List Way :=
  match state.latest with
  | some reads => ⟨reads, next⟩ :: state.ways
  | none => state.ways

/-- Makes the states of a path; after the last of them comes `target`. The number of the first is
the result. -/
def ForwardClass.makePath (target : Nat) : List OpenState → ForwardClass → Nat × ForwardClass
  | [], made => (target, made)
  | state :: deeper, made =>
    let (next, made) := makePath target deeper made
    made.make (state.closed next).reverse

/-- Adds a sequence to a path. What the path does not share with it is made. -/
def ForwardClass.addSequence (target : Nat) : List OpenState → List ByteRange → ForwardClass →
    List OpenState × ForwardClass
  | [], sequence, made => (sequence.map fun reads => ⟨[], some reads⟩, made)
  | path, [], made => (path, made)
  | state :: deeper, reads :: rest, made =>
    if state.latest = some reads then
      let (deeper, made) := addSequence target deeper rest made
      (state :: deeper, made)
    else
      let (next, made) := makePath target deeper made
      (⟨state.closed next, some reads⟩ :: rest.map fun reads => ⟨[], some reads⟩, made)

/-- The states that read one of some ascending sequences: the least number of states with which
that can be done, as far as the table remembers them. -/
def growForward (sequences : List (List ByteRange)) (extent : Extent) : Extent :=
  let target := extent.states
  let start : List OpenState × ForwardClass := ([⟨[], none⟩], ⟨extent.addStates 1, {}⟩)
  let (path, made) := sequences.foldl
    (fun (path, made) sequence => ForwardClass.addSequence target path sequence made) start
  (ForwardClass.makePath target path made).2.extent

/-! ## Classes, read backwards -/

/-- What a state that reads backwards does. -/
structure BackwardState where
  next : Nat
  /-- The bytes that it reads. -/
  reads : ByteRange
  deriving DecidableEq, Repr

/-- The states of a class so far. -/
structure BackwardClass where
  /-- What the automaton takes. -/
  extent : Extent
  /-- The states that are remembered, each at its place. -/
  known : Std.HashMap Nat (BackwardState × Nat)

/-- The number of places for states that are read backwards. -/
def backwardPlaces : Nat := 1000

/-- The states that read a sequence from its end and go on at `next`. -/
def BackwardClass.addSequence : (next : Nat) → List ByteRange → BackwardClass → BackwardClass
  | _, [], made => made
  | next, reads :: rest, made =>
    let place := placeOf backwardPlaces [next, reads.low.toNat, reads.high.toNat]
    let remembered := (made.known[place]?).filter (·.1 == ⟨next, reads⟩)
    match remembered with
    | some (_, state) => addSequence state rest made
    | none =>
      let state := made.extent.states
      addSequence state rest
        ⟨made.extent.addStates 1, made.known.insert place (⟨next, reads⟩, state)⟩

/-- The states that read one of some sequences backwards: a fork to each of them, and the state
where they meet. -/
def growBackward (sequences : List (List ByteRange)) (extent : Extent) : Extent :=
  let meeting := extent.states + 1
  let start : BackwardClass := ⟨(extent.addStates 2).addJumps sequences.length, {}⟩
  (sequences.foldl (fun made sequence => made.addSequence meeting sequence) start).extent

/-! ## Choices between literals -/

/-- Words with one beginning, cut where one of them ends: before the end those that go on, of which
earlier ones are preferred to the word that ends, and then the others. A word that ends where one
did before, with none in between that goes on, changes nothing. -/
def chunks (goesOn hasEnded : Bool) : List Bytes → List Bytes × List (List Bytes)
  | [] => ([], [])
  | [] :: rest =>
    if hasEnded && !goesOn then chunks goesOn hasEnded rest
    else
      let (first, further) := chunks goesOn true rest
      ([], first :: further)
  | word :: rest =>
    let (first, further) := chunks true hasEnded rest
    (word :: first, further)

/-- The first bytes of words, each once. -/
def firstBytes (words : List Bytes) : List UInt8 :=
  (words.filterMap List.head?).eraseDups

/-- What follows a first byte in words. -/
def afterByte (byte : UInt8) (words : List Bytes) : List Bytes :=
  words.filterMap fun
    | [] => none
    | first :: rest => if first = byte then some rest else none

/-- The states that read words, whose greatest length is `depth`. Words that begin alike share
states. -/
def growTree : (depth : Nat) → List Bytes → Extent → Extent
  | 0, _, extent => extent
  | depth + 1, words, extent =>
    let (first, further) := chunks false false words
    let reading := (first :: further).filter (!·.isEmpty)
    let below := reading.flatMap fun chunk =>
      ((firstBytes chunk).map (afterByte · chunk)).filter (·.any (!·.isEmpty))
    let extent := below.foldl (fun extent words => growTree depth words extent) extent
    let extent := reading.foldl (fun extent chunk =>
      let ways := (firstBytes chunk).length
      extent.addReader (if ways = 1 then 0 else ways)) extent
    (extent.addStates 1).addJumps (reading.length + further.length)

/-! ## Expressions -/

/-- Whether an automaton reads from the start of a text or from its end. -/
inductive Direction where
  | forward
  | backward
  deriving DecidableEq, Repr

namespace Regex

/-- The least length of a match, if there is one. -/
def leastLength : Regex → Option Nat
  | .empty | .look _ => some 0
  | .literal text => some text.length
  | .one among => if among.ranges.isEmpty then none else some 1
  | .group _ body => body.leastLength
  | .seq first rest => do return (← first.leastLength) + (← rest.leastLength)
  | .alt first rest => do return min (← first.leastLength) (← rest.leastLength)
  | .repeated body least _ _ => do return least * (← body.leastLength)

/-- Whether no match is empty. -/
def neverEmpty (regex : Regex) : Bool :=
  regex.leastLength.any (0 < ·)

/-- Whether every match begins at the start of the text, as far as the expression shows it. -/
def beginsAtStart : Regex → Bool
  | .look condition => condition == .textStart
  | .empty | .literal _ | .one _ => false
  | .group _ body => body.beginsAtStart
  | .seq first rest => first.beginsAtStart || (first.onlyEmpty && rest.beginsAtStart)
  | .alt first rest => first.beginsAtStart && rest.beginsAtStart
  | .repeated body least _ _ => least > 0 && body.beginsAtStart

/-- Whether every match ends at the end of the text, as far as the expression shows it. -/
def finishesAtEnd : Regex → Bool
  | .look condition => condition == .textEnd
  | .empty | .literal _ | .one _ => false
  | .group _ body => body.finishesAtEnd
  | .seq first rest => rest.finishesAtEnd || (rest.onlyEmpty && first.finishesAtEnd)
  | .alt first rest => first.finishesAtEnd && rest.finishesAtEnd
  | .repeated body least _ _ => least > 0 && body.finishesAtEnd

/-- Whether the last state of an expression is a fork, so that to go on from it takes one more
way. -/
def endsInFork (direction : Direction) : Regex → Bool
  | .empty | .literal _ | .one _ | .look _ | .alt .. => false
  | .group _ body => direction == .backward && body.endsInFork direction
  | .seq first rest =>
    match direction with
    | .forward => rest.endsInFork direction
    | .backward => first.endsInFork direction
  | .repeated body least none _ => least > 0 || body.neverEmpty
  | .repeated body least (some most) _ => least == most && body.endsInFork direction

/-- The ways that it takes to go on from an expression. -/
def exitJumps (direction : Direction) (regex : Regex) : Nat :=
  if regex.endsInFork direction then 1 else 0

/-- The bytes of a literal. -/
def literal? : Regex → Option Bytes
  | .literal text => some (Utf8.encode (String.ofList text))
  | _ => none

/-- The states of a choice between literals. -/
def growWords (direction : Direction) (words : List Bytes) (extent : Extent) : Extent :=
  let words := match direction with
    | .forward => words
    | .backward => words.map List.reverse
  let depth := (words.map List.length).foldl max 0
  growTree depth words (extent.addStates 1)

/-- The states of a class. Once an automaton is too large, it is left as it is. -/
def growClass (direction : Direction) (members : CharClass) (extent : Extent) : Extent :=
  if extent.isOver then extent
  else if members.ranges.all (·.2 < 0x80) then
    (extent.addStates 1).addReader members.ranges.length
  else
    match direction with
    | .forward => growForward (byteSequencesOf members.ranges) extent
    | .backward => growBackward (byteSequencesOf members.ranges) extent

/-- What an expression is to the choice around it. -/
inductive Branch where
  /-- It is no branch, or the first one. -/
  | alone
  /-- It is the second branch, or all branches from the second on. -/
  | second
  /-- It is a later branch, or all branches from a later one on. -/
  | later

/-- Joins a branch to the choice around it. The fork before the branches and the state where they
meet are made after the second one. -/
def joinBranch (direction : Direction) (regex : Regex) (branch : Branch) (extent : Extent) :
    Extent :=
  match branch with
  | .alone => extent
  | .second => (extent.addStates 2).addJumps (1 + regex.exitJumps direction)
  | .later => extent.addJumps (1 + regex.exitJumps direction)

/-- The states of a repetition of a body, for which `body` counts them. -/
def growRepeated (direction : Direction) (regex : Regex) (least : Nat) (most : Option Nat)
    (body : Extent → Extent) (extent : Extent) : Extent :=
  let exit := regex.exitJumps direction
  match least, most with
  | 0, none =>
    if regex.neverEmpty then (body (extent.addStates 1)).addJumps (1 + exit)
    else ((body extent).addStates 3).addJumps (4 + exit)
  | least, none => ((extent.times body least).addStates 1).addJumps (1 + least * exit)
  | 0, some 1 => ((body (extent.addStates 1)).addStates 1).addJumps (2 + exit)
  | least, some most =>
    if least = most then (extent.times body least).addJumps ((least - 1) * exit)
    else
      let start := if least = 0 then extent.addStates 1 else extent.times body least
      ((start.addStates 1).times (fun extent => (body (extent.addStates 1)).addJumps 2)
        (most - least)).addJumps (most * exit)

/-- The states of an expression after those that are there. -/
def grow (direction : Direction) : Regex → Branch → Extent → Extent
  | .empty, branch, extent => joinBranch direction .empty branch (extent.addStates 1)
  | .look condition, branch, extent =>
    joinBranch direction (.look condition) branch (extent.addStates 1)
  | .literal text, branch, extent =>
    joinBranch direction (.literal text) branch
      (extent.addStates (Utf8.encode (String.ofList text)).length)
  | .one among, branch, extent =>
    joinBranch direction (.one among) branch (growClass direction among extent)
  | .group number body, branch, extent =>
    joinBranch direction (.group number body) branch <|
      match direction with
      | .forward =>
        ((body.grow direction .alone (extent.addStates 1)).addStates 1).addJumps
          (body.exitJumps direction)
      | .backward => body.grow direction .alone extent
  | .seq first rest, branch, extent =>
    joinBranch direction (.seq first rest) branch <|
      match direction with
      | .forward =>
        rest.grow direction .alone
          ((first.grow direction .alone extent).addJumps (first.exitJumps direction))
      | .backward =>
        first.grow direction .alone
          ((rest.grow direction .alone extent).addJumps (rest.exitJumps direction))
  | .repeated body least most preferFew, branch, extent =>
    joinBranch direction (.repeated body least most preferFew) branch
      (growRepeated direction body least most (body.grow direction .alone) extent)
  | .alt first rest, .alone, extent =>
    match (branches (.alt first rest)).mapM literal? with
    | some words => growWords direction words extent
    | none =>
      rest.grow direction .second
        ((first.grow direction .alone extent).addJumps (1 + first.exitJumps direction))
  | .alt first rest, branch, extent =>
    rest.grow direction .later
      (joinBranch direction first branch (first.grow direction .alone extent))

/-- The size of the automaton of an expression. Before the expression it has a state, or, where a
match may begin or end anywhere, the three states of a repetition of any byte; in the end it has one
that accepts. The whole match is kept like a group. -/
def automatonSize (direction : Direction) (regex : Regex) : Nat :=
  let start : Extent :=
    match direction with
    | .forward => if regex.beginsAtStart then ⟨1, 0⟩ else ⟨3, readingSize + 2 * jumpSize⟩
    | .backward => if regex.finishesAtEnd then ⟨1, 0⟩ else ⟨3, readingSize + 2 * jumpSize⟩
  let full := grow direction (.group 0 regex) .alone start
  ((full.addStates 1).addJumps (exitJumps direction (.group 0 regex))).bytes

/-- Whether an automaton of an expression takes too many bytes. -/
def isTooLarge (regex : Regex) : Bool :=
  regex.automatonSize .forward > sizeLimit || regex.automatonSize .backward > sizeLimit

end Regex

end EnvInject.Pattern
