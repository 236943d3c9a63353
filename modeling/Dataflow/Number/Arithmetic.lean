import Dataflow.Number.Basic
/-!
Arithmetic on binary64 numbers: the exact result, rounded once.

An operation computes its exact result as a quotient of natural numbers and rounds it to the nearest number,
a tie going to the one whose last bit is 0. Since the bits of a magnitude count the representable values in
order, a significand that rounds up into the next binade carries into the right bits by itself, and a result
beyond the last finite number is cut off at infinity.
-/

namespace Dataflow.Number

/-! ## Rounding -/

/-- The natural number nearest to `num / den`, a tie going to the even one. -/
def roundHalfEven (num den : Nat) : Nat :=
  let whole := num / den
  let rest := num % den
  if 2 * rest < den then whole
  else if den < 2 * rest then whole + 1
  else whole + whole % 2

/-- The magnitude nearest to `num / den` units. Below `2^53` units neighbours are one unit apart; from there the
spacing is the power of two that leaves 53 significant bits. -/
def nearestMagnitude (num den : Nat) : Nat :=
  let spacing := Nat.log2 (num / den) - 52
  Nat.min (spacing * binadeSize + roundHalfEven num (den * Nat.pow 2 spacing)) infinityMagnitude

/-- The number nearest to `num / den`. -/
def ofRatio (negative : Bool) (num den : Nat) : Number :=
  ofParts negative (nearestMagnitude (num * unitsPerOne) den)

def ofNat (n : Nat) : Number := ofRatio false n 1

def ofInt (n : Int) : Number := ofRatio (decide (n < 0)) n.natAbs 1

/-! ## Operations -/

/-- Sum. Opposite numbers add up to `0`, and only `-0 + -0` is `-0`. -/
def add (x y : Number) : Number :=
  if x.isNaN then x.quieted
  else if y.isNaN then y.quieted
  else if x.isInfinite then
    if y.isInfinite && x.isNegative != y.isNegative then undefined else x
  else if y.isInfinite then y
  else
    let sum := x.units + y.units
    if sum = 0 then ofParts (x.isNegative && y.isNegative) 0
    else ofParts (decide (sum < 0)) (nearestMagnitude sum.natAbs 1)

/-- Product. -/
def mul (x y : Number) : Number :=
  let negative := x.isNegative != y.isNegative
  if x.isNaN then x.quieted
  else if y.isNaN then y.quieted
  else if x.isInfinite || y.isInfinite then
    if x.magnitude = 0 ∨ y.magnitude = 0 then undefined else infinity negative
  else ofRatio negative (unitsOf x.magnitude * unitsOf y.magnitude) (unitsPerOne * unitsPerOne)

/-- Quotient. -/
def div (x y : Number) : Number :=
  let negative := x.isNegative != y.isNegative
  if x.isNaN then x.quieted
  else if y.isNaN then y.quieted
  else if x.isInfinite then
    if y.isInfinite then undefined else infinity negative
  else if y.isInfinite then ofParts negative 0
  else if y.magnitude = 0 then
    if x.magnitude = 0 then undefined else infinity negative
  else ofRatio negative (unitsOf x.magnitude) (unitsOf y.magnitude)

end Dataflow.Number
