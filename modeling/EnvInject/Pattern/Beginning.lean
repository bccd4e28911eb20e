import EnvInject.Pattern.Regex
import EnvInject.Text.Utf8

/-!
# How matches begin

`Regex.beginnings` lists words such that every match of an expression begins with one of them. A
word may be the whole of a match, and where all are, they are what the expression stands for. The
list stands in order of preference. It is kept short: words are cut, repetitions are followed up to
a count, and a class of many characters is given up. Conditions on positions are taken to hold.
-/

namespace EnvInject.Pattern

/-- A word that matches begin with. -/
structure Beginning where
  bytes : Bytes
  /-- Whether nothing follows it in these matches. -/
  isWhole : Bool
  deriving DecidableEq, Repr

namespace Beginning

/-- The word, after which something may follow. -/
def opened (word : Beginning) : Beginning :=
  { word with isWhole := false }

/-- The word without what it has after some bytes. -/
def cut (length : Nat) (word : Beginning) : Beginning :=
  if length < word.bytes.length then ⟨word.bytes.take length, false⟩ else word

/-- What begins with a word and goes on, if the word is not whole, in an unknown way, and else with
one of some further words. -/
def extended (further : List Beginning) (word : Beginning) : List Beginning :=
  if word.isWhole then further.map fun next => ⟨word.bytes ++ next.bytes, next.isWhole⟩
  else [word]

/-- Words of which no two neighbours are the same. A word is whole if all that it stands for
were. -/
def joinNeighbours : List Beginning → List Beginning
  | [] => []
  | word :: rest =>
    match joinNeighbours rest with
    | [] => [word]
    | next :: more =>
      if word.bytes = next.bytes then ⟨word.bytes, word.isWhole && next.isWhole⟩ :: more
      else word :: next :: more

end Beginning

/-- The words that the matches of an expression begin with. -/
inductive Beginnings where
  /-- A match may begin with anything. -/
  | unknown
  /-- Every match begins with one of these words. -/
  | among (words : List Beginning)
  deriving DecidableEq, Repr

namespace Beginnings

/-- The greatest number of words. -/
def mostWords : Nat := 250

/-- The greatest length of a word in bytes. -/
def longestWord : Nat := 100

/-- The length to which words are cut where there are too many. -/
def shortWord : Nat := 4

/-- The greatest number of code points in a class whose characters are listed. -/
def mostCharacters : Nat := 10

/-- The greatest count up to which a repetition is followed. -/
def mostRepetitions : Nat := 10

/-- The beginnings where there is no match. -/
def noMatch : Beginnings :=
  .among []

/-- The beginning of an empty match. -/
def nothing : Beginnings :=
  .among [⟨[], true⟩]

/-- The words of a class of characters. -/
def ofClass (members : CharClass) : Beginnings :=
  let size := members.ranges.foldr (fun (first, last) more => last - first + 1 + more) 0
  if size > mostCharacters then .unknown
  else .among <| members.ranges.flatMap fun (first, last) =>
    (List.range' first (last - first + 1)).map fun code =>
      ⟨String.utf8EncodeChar (Char.ofNat code), true⟩

/-- Whether no word is whole, so that what follows adds nothing. -/
def isClosed : Beginnings → Bool
  | .unknown => true
  | .among words => words.all (!·.isWhole)

/-- The same words, after which something may follow. -/
def opened : Beginnings → Beginnings
  | .unknown => .unknown
  | .among words => .among (words.map Beginning.opened)

/-- The words where something unknown follows. -/
def thenAnything : Beginnings → Beginnings
  | .unknown => .unknown
  | .among words =>
    if words.any (·.bytes.isEmpty) then .unknown else .among (words.map Beginning.opened)

/-- The beginnings of one match after another. Too many combinations are as if the second were
unknown. -/
def followedBy (first second : Beginnings) : Beginnings :=
  if first.isClosed then first
  else
    match first, second with
    | .among words, .among further =>
      if words.length * further.length > mostWords then first.thenAnything
      else
        .among ((Beginning.joinNeighbours (words.flatMap (·.extended further))).map
          (·.cut longestWord))
    | _, _ => first.thenAnything

/-- Words cut so as to be fewer. -/
def shortened (words : List Beginning) : List Beginning :=
  Beginning.joinNeighbours (words.map (·.cut shortWord))

/-- The beginnings of a match of either kind, of which the first is preferred. -/
def orElse : (first second : Beginnings) → Beginnings
  | .among words, .among others =>
    let (words, others) :=
      if words.length + others.length > mostWords then (shortened words, shortened others)
      else (words, others)
    if words.length + others.length > mostWords then .unknown
    else .among (Beginning.joinNeighbours (words ++ others))
  | _, _ => .unknown

/-- The beginnings of a repetition of what begins in a given way. -/
def repeated (least : Nat) (most : Option Nat) (preferFew : Bool) (body : Beginnings) :
    Beginnings :=
  if least = 0 then
    let body := if most = some 1 then body else body.opened
    if preferFew then nothing.orElse body else body.orElse nothing
  else
    let copies := (List.replicate (min least mostRepetitions) body).foldl followedBy nothing
    if most = some least ∧ least ≤ mostRepetitions then copies else copies.opened

/-- What stands before an expression in the chain that it ends. -/
inductive Before where
  /-- It is in no chain. -/
  | nothing
  /-- The parts of a sequence. -/
  | parts (beginnings : Beginnings)
  /-- The branches of a choice. -/
  | branches (beginnings : Beginnings)
  deriving DecidableEq, Repr

/-- Joins an expression to what stands before it. -/
def joined : Before → Beginnings → Beginnings
  | .nothing, last => last
  | .parts beginnings, last => beginnings.followedBy last
  | .branches beginnings, last => beginnings.orElse last

end Beginnings

namespace Regex

/-- The beginnings of the matches of an expression and of what stands before it. -/
def beginningsAfter : Regex → Beginnings.Before → Beginnings
  | .empty, before | .look _, before => .joined before .nothing
  | .literal text, before =>
    let word : Beginning := ⟨Utf8.encode (String.ofList text), true⟩
    .joined before (.among [word.cut Beginnings.longestWord])
  | .one among, before => .joined before (.ofClass among)
  | .group _ body, before => .joined before (body.beginningsAfter .nothing)
  | .repeated body least most preferFew, before =>
    .joined before (.repeated least most preferFew (body.beginningsAfter .nothing))
  | .seq first rest, .parts beginnings =>
    rest.beginningsAfter (.parts (beginnings.followedBy (first.beginningsAfter .nothing)))
  | .seq first rest, before =>
    let start := Beginnings.nothing.followedBy (first.beginningsAfter .nothing)
    .joined before (rest.beginningsAfter (.parts start))
  | .alt first rest, .branches beginnings =>
    rest.beginningsAfter (.branches (beginnings.orElse (first.beginningsAfter .nothing)))
  | .alt first rest, before =>
    let start := Beginnings.noMatch.orElse (first.beginningsAfter .nothing)
    .joined before (rest.beginningsAfter (.branches start))

/-- The beginnings of the matches of an expression. -/
def beginnings (regex : Regex) : Beginnings :=
  regex.beginningsAfter .nothing

end Regex

end EnvInject.Pattern
