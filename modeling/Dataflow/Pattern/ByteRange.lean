import Dataflow.Text.CharSet
/-!
Characters as bytes.

A character is written in one to four bytes. The characters of a range come to a few sequences of byte ranges, such
that a byte from each range of a sequence always makes a character of the range, and every character of the range
is made in this way by exactly one sequence.
-/

namespace Dataflow.Pattern

/-- The bytes of a character by its code point. -/
def bytesOfCode (code : Nat) : List Nat :=
  if code < 0x80 then [code]
  else if code < 0x800 then [0xC0 + code / 0x40, 0x80 + code % 0x40]
  else if code < 0x10000 then [0xE0 + code / 0x1000, 0x80 + code / 0x40 % 0x40, 0x80 + code % 0x40]
  else [0xF0 + code / 0x40000, 0x80 + code / 0x1000 % 0x40, 0x80 + code / 0x40 % 0x40, 0x80 + code % 0x40]

/-- A range of bytes, ends included. -/
abbrev ByteRange := Nat × Nat

/-- The last code points that are written in one, two and three bytes. -/
def lastByLength : List Nat := [0x7F, 0x7FF, 0xFFFF]

/-- The numbers of code points that the last byte, the last two and the last three run through. -/
def blocks : List Nat := [0x40, 0x1000, 0x40000]

/-- Where a range has to be cut because it runs through several blocks of a size and does not fill them: the first
code point of the second part. -/
def blockCut? (first last block : Nat) : Option Nat :=
  if first / block = last / block then none
  else if first % block ≠ 0 then some ((first / block + 1) * block)
  else if last % block ≠ block - 1 then some (last / block * block)
  else none

/-- Where a range of code points has to be cut, if it is not a single sequence: at the surrogates, where the
number of bytes changes, and where it does not fill blocks. -/
def cut? (first last : Nat) : Option Nat :=
  match lastByLength.find? fun limit => decide (first ≤ limit ∧ limit < last) with
  | some limit => some (limit + 1)
  | none => if last < 0x80 then none else blocks.findSome? (blockCut? first last)

/-- The sequences of a range of code points, in order; it is cut at most `depth` times in a row. -/
def byteRangesUpTo : Nat → Nat → Nat → List (List ByteRange)
  | 0, _, _ => []
  | depth + 1, first, last =>
    if first < 0xE000 ∧ 0xD7FF < last then
      byteRangesUpTo depth first 0xD7FF ++ byteRangesUpTo depth 0xE000 last
    else if last < first then []
    else match cut? first last with
      | some middle => byteRangesUpTo depth first (middle - 1) ++ byteRangesUpTo depth middle last
      | none => [(bytesOfCode first).zip (bytesOfCode last)]

/-- The sequences of a range of code points. One cut is at the surrogates, three are between lengths, and two are
at the blocks of each size. -/
def byteRanges (range : Nat × Nat) : List (List ByteRange) := byteRangesUpTo 24 range.1 range.2

/-- The sequences of a set. -/
def byteRangesOfSet (set : Text.CharSet) : List (List ByteRange) := set.ranges.flatMap byteRanges

end Dataflow.Pattern
