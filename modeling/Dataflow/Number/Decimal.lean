import Dataflow.Number.Arithmetic
/-!
Decimals and the fewest digits that read back.

A decimal is a natural number times a power of ten. `ofDecimal` rounds one to the nearest number, and
`shortest` goes the other way: of all decimals that round to the number it takes those on the coarsest decimal
grid, and of these the one nearest to the number. Both directions are exact integer arithmetic.
-/

namespace Dataflow

/-- The value `digits * 10 ^ exponent`. -/
structure Decimal where
  digits : Nat
  exponent : Int
deriving DecidableEq

/-- Which of two equally near decimals is taken. -/
inductive Tie where
  | up
  | even
deriving DecidableEq

namespace Number

/-! ## From decimal -/

/-- The number nearest to a decimal. A decimal of `10^310` or more is beyond the last finite number and one
below `10^-330` is under half of the first positive one, so neither needs its power of ten written out. -/
def ofDecimal (negative : Bool) (d : Decimal) : Number :=
  let leading : Int := (Nat.toDigits 10 d.digits).length + d.exponent
  if d.digits = 0 ∨ leading < -330 then ofParts negative 0
  else if 310 < leading then infinity negative
  else match d.exponent with
    | .ofNat e => ofRatio negative (d.digits * Nat.pow 10 e) 1
    | .negSucc e => ofRatio negative d.digits (Nat.pow 10 (e + 1))

/-! ## To decimal

Everything is scaled by `10^gridFloor` so that the grids in question, from `10^-gridFloor` up, have whole
steps, and by two so that the ends of the rounding interval, midpoints of neighbours, are whole too. -/

/-- No shortest decimal needs a grid finer than `10^-350`. -/
def gridFloor : Nat := 350

/-- The scaled reals that round to a magnitude, with the magnitude's own place among them. -/
structure RoundingInterval where
  low : Nat
  value : Nat
  high : Nat
  /-- Whether the two ends round to the magnitude too: a midpoint goes to the even neighbour. -/
  closed : Bool

def roundingInterval (magnitude : Nat) : RoundingInterval where
  low := (unitsOf (magnitude - 1) + unitsOf magnitude) * Nat.pow 10 gridFloor
  value := 2 * unitsOf magnitude * Nat.pow 10 gridFloor
  high := (unitsOf magnitude + unitsOf (magnitude + 1)) * Nat.pow 10 gridFloor
  closed := magnitude % 2 == 0

def RoundingInterval.contains (i : RoundingInterval) (point : Nat) : Bool :=
  if i.closed then decide (i.low ≤ point ∧ point ≤ i.high) else decide (i.low < point ∧ point < i.high)

/-- The index of the grid point in the interval that is nearest to the value, if the grid has one there. If any
point lies in the interval, so does one of the value's two neighbours. -/
def RoundingInterval.nearestPoint? (i : RoundingInterval) (step : Nat) (tie : Tie) : Option Nat :=
  let below := i.value / step
  let above := below + 1
  match i.contains (below * step), i.contains (above * step) with
  | true, true =>
    let down := i.value - below * step
    let up := above * step - i.value
    if down < up then some below
    else if up < down then some above
    else match tie with
      | .up => some above
      | .even => some (below + below % 2)
  | true, false => some below
  | false, true => some above
  | false, false => none

/-- The first grid point found when the grid `10^k` is refined towards `10^0`, with its grid. -/
def RoundingInterval.coarsest (i : RoundingInterval) (tie : Tie) : Nat → Option (Nat × Nat)
  | 0 => (i.nearestPoint? (2 * unitsPerOne) tie).map (·, 0)
  | k + 1 =>
    match i.nearestPoint? (2 * unitsPerOne * Nat.pow 10 (k + 1)) tie with
    | some d => some (d, k + 1)
    | none => i.coarsest tie k

/-- The grids above this one have no point near a finite number. -/
def gridCeiling : Nat := gridFloor + 309

/-- The shortest decimal that reads back as the magnitude. -/
def shortest (tie : Tie) (magnitude : Nat) : Decimal :=
  if magnitude = 0 then ⟨0, 0⟩
  else match (roundingInterval magnitude).coarsest tie gridCeiling with
    | some (d, k) => ⟨d, (k : Int) - gridFloor⟩
    | none => ⟨0, 0⟩

end Number

end Dataflow
