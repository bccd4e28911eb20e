import EnvInject.Pattern.Beginning
import EnvInject.Text.ByteRank

/-!
# Searches for words

An expression that stands for some words needs no automaton: the words themselves are looked for,
however many copies a counted repetition stands for. `Regex.isWordSearch` tells which expressions
are searched for in this way.

The words that matches begin with are known to be whole, or not, only after they were made fit for a
fast search: a word that begins with another one is left out, and words may be cut to what they have
in common. Where cutting them does not pay, they are taken as they were.
-/

namespace EnvInject.Pattern

namespace Beginning

/-- The words without those that begin with an earlier one. -/
def withoutCovered (words : List Beginning) : List Beginning :=
  words.foldl (fun kept word =>
    if kept.any (·.bytes.isPrefixOf word.bytes) then kept else kept ++ [word]) []

/-- What is tried, one after the other, to have fewer words: the length to which words are cut, and
how many of them are few enough to stop. -/
def shorteningSteps : List (Nat × Nat) :=
  [(5, 10), (4, 10), (3, 64), (2, 64), (1, 10)]

/-- Fewer and shorter words. -/
def shortened : (steps : List (Nat × Nat)) → List Beginning → List Beginning
  | [], words => words
  | (length, enough) :: steps, words =>
    if words.length ≤ enough then words
    else shortened steps (withoutCovered (words.map (·.cut length)))

/-- Whether words are all whole. -/
def areWhole (words : List Beginning) : Bool :=
  words.all (·.isWhole)

/-- The length to which words are cut because they have so much in common, if that makes a better
search; `wereSeveral` tells whether there was more than one word in the beginning. A rare byte is
enough by itself. Few whole words are worth more than two to four bytes. -/
def sharedCut? (wereSeveral : Bool) (words : List Beginning) : Option Nat :=
  let shared := commonStart (words.map (·.bytes))
  let isRare := shared.length ≤ 3 && shared.head?.any (byteRank · < 200)
  let isFast := areWhole words && words.length ≤ 16
  if wereSeveral && isRare then some 1
  else if shared.length > 4 || (shared.length > 1 && !isFast) then some shared.length
  else none

/-- Whether words, none of them empty, are looked for as they are. -/
def areSearched (words : List Beginning) : Bool :=
  let wereSeveral := words.length > 1
  let words := withoutCovered words
  let words :=
    match sharedCut? wereSeveral words with
    | some length => joinNeighbours (words.map (·.cut length))
    | none => words
  let short := shortened shorteningSteps words
  areWhole words && (short.any (·.bytes.length ≤ 2) || short.length > 64 || areWhole short)

end Beginning

namespace Regex

/-- The least number of literals in a choice that is searched for as words in any case. -/
def manyWords : Nat := 3000

/-- Whether an expression keeps no groups and has no conditions on positions. -/
def isPlain : Regex → Bool
  | .empty | .literal _ | .one _ => true
  | .look _ | .group .. => false
  | .seq first rest | .alt first rest => first.isPlain && rest.isPlain
  | .repeated body _ _ _ => body.isPlain

/-- Whether an expression is a literal. -/
def isLiteral : Regex → Bool
  | .literal _ => true
  | _ => false

/-- Whether an expression is searched for as words. -/
def isWordSearch (regex : Regex) : Bool :=
  regex.isPlain
    && ((match Beginnings.noMatch.orElse regex.beginnings with
        | .unknown => false
        | .among words =>
          !words.isEmpty && words.all (!·.bytes.isEmpty) && Beginning.areSearched words)
      || (regex.branches.length ≥ manyWords && regex.branches.all isLiteral))

end Regex

end EnvInject.Pattern
