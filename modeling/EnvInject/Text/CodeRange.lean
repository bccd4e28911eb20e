/-!
# Ranges of code points

Sets of characters are kept as ascending lists of ranges of code points, both ends included.
`ascending` brings any list of ranges into this form, `gaps` lists what lies between them, and
`commonRanges` and `rangeWithout` compare two lists.
-/

namespace EnvInject

/-- Whether a code point lies in one of some ranges, which ascend. -/
def inCodeRanges (code : Nat) : List (Nat × Nat) → Bool
  | [] => false
  | (first, last) :: rest =>
    if code < first then false else code ≤ last || inCodeRanges code rest

/-- The range from `first` to `last` and, after it, ranges that start no earlier, in ascending
order. Ranges that overlap or touch become one. -/
def joinRanges (first last : Nat) : List (Nat × Nat) → List (Nat × Nat)
  | [] => [(first, last)]
  | (low, high) :: rest =>
    if low ≤ last + 1 then joinRanges first (max last high) rest
    else (first, last) :: joinRanges low high rest

/-- The same code points as ranges that ascend and do not touch. -/
def ascending (ranges : List (Nat × Nat)) : List (Nat × Nat) :=
  match ranges.mergeSort fun a b => decide (a.1 ≤ b.1) with
  | [] => []
  | (first, last) :: rest => joinRanges first last rest

/-- The code point of the character after another one. Surrogates stand for no character and are
passed over. -/
def codeAfter (code : Nat) : Nat :=
  if code = 0xD7FF then 0xE000 else code + 1

/-- The code point of the character before another one, which is not the first of all. -/
def codeBefore (code : Nat) : Nat :=
  if code = 0xE000 then 0xD7FF else code - 1

/-- The code points between two ranges, of which one ends with `last` and the next begins with
`first`. Ranges that are kept apart by the surrogates alone have no character between them; in place
of an empty range, the one from `last` to `first` is given. -/
def gapBetween (last first : Nat) : Nat × Nat :=
  let low := codeAfter last
  let high := codeBefore first
  if low ≤ high then (low, high) else (last, first)

/-- The code points after `last` that lie in none of some ranges, which come after it and ascend. -/
def gapsAfter (last : Nat) : List (Nat × Nat) → List (Nat × Nat)
  | [] => if last < 0x10FFFF then [(codeAfter last, 0x10FFFF)] else []
  | (first, next) :: rest => gapBetween last first :: gapsAfter next rest

/-- The code points of Unicode that lie in none of some ranges, which ascend and do not touch. A
range of the result may have surrogates in it. -/
def gaps : List (Nat × Nat) → List (Nat × Nat)
  | [] => [(0, 0x10FFFF)]
  | (first, last) :: rest =>
    if 0 < first then (0, codeBefore first) :: gapsAfter last rest else gapsAfter last rest

/-- The code points in ranges of one list and of another. Both lists ascend. -/
def commonRanges : (first second : List (Nat × Nat)) → List (Nat × Nat)
  | [], _ | _, [] => []
  | (low, high) :: rest, (otherLow, otherHigh) :: otherRest =>
    let shared := (max low otherLow, min high otherHigh)
    let further :=
      if high < otherHigh then commonRanges rest ((otherLow, otherHigh) :: otherRest)
      else commonRanges ((low, high) :: rest) otherRest
    if shared.1 ≤ shared.2 then shared :: further else further
termination_by first second => first.length + second.length

/-- What is left of the range from `first` to `last` when ranges, which ascend, are taken out. -/
def rangeWithout (first last : Nat) : List (Nat × Nat) → List (Nat × Nat)
  | [] => [(first, last)]
  | (low, high) :: rest =>
    if high < first then rangeWithout first last rest
    else if last < low then [(first, last)]
    else
      (if first < low then [(first, codeBefore low)] else [])
        ++ if high < last then rangeWithout (codeAfter high) last rest else []

end EnvInject
