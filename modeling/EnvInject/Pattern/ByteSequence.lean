import EnvInject.Text.Utf8

/-!
# Ranges of characters as sequences of byte ranges

An automaton that reads UTF-8 knows bytes and no characters. `byteSequences` cuts a range of code
points into pieces whose UTF-8 forms have one length and are all the combinations of a range for
the first byte, a range for the second, and so on. The pieces ascend.
-/

namespace EnvInject.Pattern

/-- A range of bytes, both ends included. -/
structure ByteRange where
  low : UInt8
  high : UInt8
  deriving DecidableEq, Repr

/-- The last code points whose UTF-8 forms have one, two and three bytes. -/
def lengthBounds : List Nat :=
  [0x7F, 0x7FF, 0xFFFF]

/-- How many code points have forms that agree but for the last byte, the last two and the last
three. -/
def blockSizes : List Nat :=
  [0x40, 0x1000, 0x40000]

/-- Where a range that is no whole number of blocks, but lies in several, is to be cut: after its
part in the first block, or else before its part in the last. -/
def blockCut? (first last size : Nat) : Option Nat :=
  if first / size = last / size then none
  else if first % size ≠ 0 then some (first / size * size + (size - 1))
  else if last % size ≠ size - 1 then some (last / size * size - 1)
  else none

/-- The last code point of the first piece of a range, if it is to be cut. -/
def cut? (first last : Nat) : Option Nat :=
  match lengthBounds.find? fun bound => decide (first ≤ bound ∧ bound < last) with
  | some bound => some bound
  | none => if last < 0x80 then none else blockSizes.findSome? (blockCut? first last)

/-- A range whose forms are all the combinations of byte ranges. -/
def uncut (first last : Nat) : List ByteRange :=
  List.zipWith ByteRange.mk (String.utf8EncodeChar (Char.ofNat first))
    (String.utf8EncodeChar (Char.ofNat last))

/-- The sequences of a range of characters. -/
def byteSequences (first last : Nat) : List (List ByteRange) :=
  match cut? first last with
  | some cut =>
    if first ≤ cut ∧ cut < last then byteSequences first cut ++ byteSequences (cut + 1) last
    else [uncut first last]
  | none => [uncut first last]
termination_by last - first

/-- A range without the code points that stand for no character. -/
def withoutSurrogates (first last : Nat) : List (Nat × Nat) :=
  (if first < 0xD800 then [(first, min last 0xD7FF)] else [])
    ++ (if 0xDFFF < last then [(max first 0xE000, last)] else [])

/-- The sequences of ranges of code points. -/
def byteSequencesOf (ranges : List (Nat × Nat)) : List (List ByteRange) :=
  (ranges.flatMap fun (first, last) => withoutSurrogates first last).flatMap fun (first, last) =>
    byteSequences first last

end EnvInject.Pattern
