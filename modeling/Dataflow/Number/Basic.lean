/-!
Binary64 numbers as their 64 bits.

A number is its bit pattern and nothing else, so the sign of a zero and the payload of a NaN survive being
stored. Every finite number is a whole count of `2^-1074`, the least positive one, and all exact arithmetic
happens on that count (`units`). The bits below the sign grow with the absolute value, so comparing numbers is
comparing those bits as natural numbers (`rank`); nothing here needs the exponent and the fraction apart.
-/

namespace Dataflow

/-- A binary64 number. Equality is equality of bits: it tells the two zeros apart and a NaN equals itself. -/
structure Number where
  bits : UInt64
deriving DecidableEq, Inhabited

namespace Number

/-! ## Bits -/

/-- The weight of the sign bit, `2^63`. -/
abbrev signWeight : Nat := 0x8000000000000000

/-- The number of magnitudes with one spacing, `2^52`. -/
abbrev binadeSize : Nat := 0x10000000000000

/-- The bits below the sign. -/
def magnitude (x : Number) : Nat := x.bits.toNat % signWeight

/-- Whether the sign bit is set, which it also may be on a zero or a NaN. -/
def isNegative (x : Number) : Bool := decide (signWeight ≤ x.bits.toNat)

/-- The magnitude of the two infinities; every larger magnitude is a NaN. -/
def infinityMagnitude : Nat := 0x7FF0000000000000

/-- The magnitude of the NaN that arithmetic and reading produce. -/
def quietMagnitude : Nat := 0x7FF8000000000000

/-- The number with the given sign and bits below it. -/
def ofParts (negative : Bool) (magnitude : Nat) : Number :=
  ⟨UInt64.ofNat ((if negative then signWeight else 0) + magnitude)⟩

def isNaN (x : Number) : Bool := decide (infinityMagnitude < x.magnitude)

def isFinite (x : Number) : Bool := decide (x.magnitude < infinityMagnitude)

def isInfinite (x : Number) : Bool := decide (x.magnitude = infinityMagnitude)

def zero : Number := ofParts false 0

def negativeZero : Number := ofParts true 0

def one : Number := ofParts false 0x3FF0000000000000

def infinity (negative : Bool) : Number := ofParts negative infinityMagnitude

/-- The NaN that stands for the outcome of an operation without a value, such as `∞ - ∞`. Its sign bit is set. -/
def undefined : Number := ofParts true quietMagnitude

/-- A NaN operand passes through arithmetic with its quiet bit set. -/
def quieted (x : Number) : Number := ⟨x.bits ||| 0x0008000000000000⟩

def neg (x : Number) : Number := ⟨x.bits ^^^ 0x8000000000000000⟩

/-! ## Value of a finite number -/

/-- The value of a magnitude, counted in `2^-1074`. The first two binades share one spacing, and each later one
doubles it; the bits of a magnitude are the spacing's index and the position in one run. -/
def unitsOf (magnitude : Nat) : Nat :=
  let spacing := magnitude / binadeSize - 1
  (magnitude - spacing * binadeSize) * Nat.pow 2 spacing

/-- The signed value of a finite number, counted in `2^-1074`. -/
def units (x : Number) : Int :=
  if x.isNegative then -(unitsOf x.magnitude : Int) else unitsOf x.magnitude

/-- How many units make one. -/
def unitsPerOne : Nat := Nat.pow 2 1074

/-- A finite number without a fractional part. -/
def isIntegral (x : Number) : Bool :=
  x.isFinite && decide (unitsOf x.magnitude % unitsPerOne = 0)

/-- The absolute value without its fraction. -/
def wholePart (x : Number) : Nat := unitsOf x.magnitude / unitsPerOne

/-- The integer part, held inside the signed 64 bit range. An infinity is far outside it and a NaN counts as 0. -/
def toInt64Range (x : Number) : Int :=
  if x.isNaN then 0
  else if x.isNegative then -(Nat.min x.wholePart 0x8000000000000000 : Nat)
  else (Nat.min x.wholePart 0x7FFFFFFFFFFFFFFF : Nat)

/-- The integer part, held inside the unsigned 64 bit range. A NaN and every negative number count as 0. -/
def toCount (x : Number) : Nat :=
  if x.isNaN || x.isNegative then 0 else Nat.min x.wholePart 0xFFFFFFFFFFFFFFFF

/-! ## Order -/

/-- The place of a number that is not a NaN among the others: both zeros have rank 0, and the infinities are
the two extremes. -/
def rank (x : Number) : Int :=
  if x.isNegative then -(x.magnitude : Int) else x.magnitude

/-- Numerical order; a NaN is below nothing and above nothing. -/
def lt (x y : Number) : Bool := !x.isNaN && !y.isNaN && decide (x.rank < y.rank)

/-- Numerical order or equality; it fails when either side is a NaN. -/
def le (x y : Number) : Bool := !x.isNaN && !y.isNaN && decide (x.rank ≤ y.rank)

/-- Numerical equality: the zeros are equal and a NaN is not equal to itself. -/
def same (x y : Number) : Bool := !x.isNaN && !y.isNaN && decide (x.rank = y.rank)

/-- The place of a number in the total order of bits, where `-0` comes before `0` and NaNs are the extremes. -/
def totalRank (x : Number) : Int :=
  if x.isNegative then -(x.magnitude : Int) - 1 else x.magnitude

/-- The smaller of two numbers; a NaN gives way to the other, and of equal numbers the first is kept. -/
def min (x y : Number) : Number :=
  if x.isNaN then y else if y.isNaN then x else if x.rank ≤ y.rank then x else y

/-- The larger of two numbers; a NaN gives way to the other, and of equal numbers the first is kept. -/
def max (x y : Number) : Number :=
  if x.isNaN then y else if y.isNaN then x else if y.rank ≤ x.rank then x else y

end Number

end Dataflow
