import Dataflow.Proofs.Number.Rounding
/-!
Finite numbers and their values.

The sign and the magnitude make up a number, and a finite number is determined by its value, but for the sign of a
zero. Numerical equality is equality of values (`same_iff`). From `2^53` on the spacing is at least one, so a number
with a fraction is far inside the range of 64 bit integers, and an integral one is converted to the integer that it
is, held inside that range (`toInt64Range_eq`).
-/

set_option autoImplicit false

namespace Dataflow.Number

variable {x y : Number} {m : Nat}

/-! ## Sign and magnitude -/

theorem toNat_bits_ofParts (negative : Bool) (hm : m < signWeight) :
    (ofParts negative m).bits.toNat = (if negative then signWeight else 0) + m := by
  unfold ofParts
  rw [UInt64.toNat_ofNat']
  apply Nat.mod_eq_of_lt
  unfold signWeight at *
  split <;> omega

@[simp] theorem magnitude_ofParts (negative : Bool) (hm : m < signWeight) : (ofParts negative m).magnitude = m := by
  rw [magnitude, toNat_bits_ofParts negative hm]
  cases negative with
  | true => exact (Nat.add_mod_left signWeight m).trans (Nat.mod_eq_of_lt hm)
  | false => exact (congrArg (· % signWeight) (Nat.zero_add m)).trans (Nat.mod_eq_of_lt hm)

@[simp] theorem isNegative_ofParts (negative : Bool) (hm : m < signWeight) :
    (ofParts negative m).isNegative = negative := by
  rw [isNegative, toNat_bits_ofParts negative hm]
  cases negative with
  | true => exact decide_eq_true (Nat.le_add_right signWeight m)
  | false => exact decide_eq_false (by simpa using hm)

/-- A number is its sign and its magnitude. -/
theorem ofParts_magnitude (x : Number) : ofParts x.isNegative x.magnitude = x := by
  have hbits : (ofParts x.isNegative x.magnitude).bits = x.bits := by
    have hlt := x.bits.toNat_lt
    have hmagnitude : x.magnitude < signWeight := Nat.mod_lt _ (by decide)
    rw [← UInt64.toNat_inj, toNat_bits_ofParts _ hmagnitude, isNegative, magnitude]
    unfold signWeight
    simp only [decide_eq_true_eq]
    split <;> omega
  exact congrArg Number.mk hbits

/-! ## Values -/

theorem lt_signWeight_of_lt (hm : m < infinityMagnitude) : m < signWeight := hm.trans (by decide)

theorem isFinite_ofParts (negative : Bool) (hm : m < infinityMagnitude) : (ofParts negative m).isFinite = true := by
  rw [isFinite, magnitude_ofParts negative (lt_signWeight_of_lt hm)]
  exact decide_eq_true hm

theorem units_ofParts (negative : Bool) (hm : m < infinityMagnitude) :
    (ofParts negative m).units = if negative then -(unitsOf m : Int) else unitsOf m := by
  rw [units, magnitude_ofParts _ (lt_signWeight_of_lt hm), isNegative_ofParts _ (lt_signWeight_of_lt hm)]

theorem natAbs_units (x : Number) : x.units.natAbs = unitsOf x.magnitude := by
  unfold units
  split <;> simp

theorem unitsOf_eq_zero_iff : unitsOf m = 0 ↔ m = 0 := unitsOf_strictMono.injective.eq_iff (b := 0)

/-- Values are in the order of ranks, and no two ranks share one. -/
theorem units_eq_iff : x.units = y.units ↔ x.rank = y.rank := by
  have hsame : unitsOf x.magnitude = unitsOf y.magnitude ↔ x.magnitude = y.magnitude :=
    unitsOf_strictMono.injective.eq_iff
  have hx := unitsOf_eq_zero_iff (m := x.magnitude)
  have hy := unitsOf_eq_zero_iff (m := y.magnitude)
  unfold units rank
  split <;> split <;> omega

theorem isNaN_of_isFinite (hx : x.isFinite = true) : x.isNaN = false :=
  decide_eq_false (Nat.not_lt.2 (of_decide_eq_true hx).le)

/-- Numerical equality of finite numbers is equality of their values. -/
theorem same_iff (hx : x.isFinite = true) (hy : y.isFinite = true) : x.same y = true ↔ x.units = y.units := by
  rw [units_eq_iff, same, isNaN_of_isFinite hx, isNaN_of_isFinite hy]
  exact decide_eq_true_iff

theorem units_of_isNegative (hx : x.isNegative = true) : x.units = -(unitsOf x.magnitude : Int) := if_pos hx

theorem units_of_not_isNegative (hx : ¬ x.isNegative = true) : x.units = unitsOf x.magnitude := if_neg hx

/-- Only the zeros share a value. -/
theorem eq_of_units_eq (h : x.units = y.units) (hne : x.units ≠ 0) : x = y := by
  have hvalue : unitsOf x.magnitude = unitsOf y.magnitude := by rw [← natAbs_units, h, natAbs_units]
  have hsign : x.isNegative = y.isNegative := by
    rw [Bool.eq_iff_iff]
    by_cases hx : x.isNegative = true <;> by_cases hy : y.isNegative = true
    · exact iff_of_true hx hy
    · rw [units_of_isNegative hx] at h hne
      rw [units_of_not_isNegative hy] at h
      omega
    · rw [units_of_not_isNegative hx] at h hne
      rw [units_of_isNegative hy] at h
      omega
    · exact iff_of_false hx hy
  rw [← ofParts_magnitude x, ← ofParts_magnitude y, hsign, unitsOf_strictMono.injective hvalue]

/-! ## Integral numbers -/

theorem exists_unitsPerOne_eq : ∃ e, unitsPerOne = 2 ^ e := ⟨1074, by decide +kernel⟩

theorem unitsPerOne_pos : 0 < unitsPerOne := by
  obtain ⟨e, he⟩ := exists_unitsPerOne_eq
  rw [he]
  exact Nat.two_pow_pos e

/-- From `2^53` on there are no fractions. -/
theorem unitsOf_mod_unitsPerOne (h : 2 ^ 53 * unitsPerOne ≤ unitsOf m) : unitsOf m % unitsPerOne = 0 := by
  obtain ⟨e, he⟩ := exists_unitsPerOne_eq
  obtain ⟨spacing, position, rfl, hlow, hhigh⟩ := exists_binade m
  rw [unitsOf_add hlow hhigh.le, he] at *
  have hspacing : e ≤ spacing := by
    by_contra hlt
    have hvalue : position * 2 ^ spacing < 2 ^ 53 * 2 ^ e :=
      calc position * 2 ^ spacing < 2 * binadeSize * 2 ^ spacing :=
            Nat.mul_lt_mul_of_pos_right hhigh (Nat.two_pow_pos spacing)
        _ ≤ 2 ^ 53 * 2 ^ e := Nat.mul_le_mul_left _ (Nat.pow_le_pow_right (by decide) (Nat.not_le.1 hlt).le)
    exact Nat.not_le.2 hvalue h
  exact Nat.mod_eq_zero_of_dvd (Nat.dvd_mul_left_of_dvd (Nat.pow_dvd_pow 2 hspacing) position)

theorem unitsOf_of_units_eq {n : Int} (hn : x.units = n * unitsPerOne) :
    unitsOf x.magnitude = n.natAbs * unitsPerOne := by
  rw [← natAbs_units, hn, Int.natAbs_mul, Int.natAbs_natCast]

theorem isIntegral_iff_mod (hx : x.isFinite = true) :
    x.isIntegral = true ↔ unitsOf x.magnitude % unitsPerOne = 0 := by
  rw [isIntegral, hx, Bool.true_and, decide_eq_true_iff]

/-- The integral numbers are those whose value counts ones. -/
theorem isIntegral_iff (hx : x.isFinite = true) : x.isIntegral = true ↔ ∃ n : Int, x.units = n * unitsPerOne := by
  rw [isIntegral_iff_mod hx]
  constructor
  · intro hmod
    have hvalue := Nat.div_mul_cancel (Nat.dvd_of_mod_eq_zero hmod)
    by_cases hnegative : x.isNegative = true
    · refine ⟨-(unitsOf x.magnitude / unitsPerOne : Nat), ?_⟩
      rw [units_of_isNegative hnegative, Int.neg_mul, ← Int.natCast_mul, hvalue]
    · refine ⟨(unitsOf x.magnitude / unitsPerOne : Nat), ?_⟩
      rw [units_of_not_isNegative hnegative, ← Int.natCast_mul, hvalue]
  · rintro ⟨n, hn⟩
    rw [unitsOf_of_units_eq hn, Nat.mul_mod_left]

/-- An integral number is converted to the nearest integer of 64 bits. -/
theorem toInt64Range_eq (hx : x.isFinite = true) {n : Int} (hn : x.units = n * unitsPerOne) :
    x.toInt64Range = Max.max (-2 ^ 63) (Min.min n (2 ^ 63 - 1)) := by
  have hwhole : x.wholePart = n.natAbs := by
    rw [wholePart, unitsOf_of_units_eq hn, Nat.mul_div_cancel _ unitsPerOne_pos]
  have hsign : x.isNegative = true ∧ n ≤ 0 ∨ ¬ x.isNegative = true ∧ 0 ≤ n := by
    have hpos := Int.natCast_pos.2 unitsPerOne_pos
    by_cases hnegative : x.isNegative = true
    · rw [units_of_isNegative hnegative] at hn
      exact .inl ⟨hnegative, Int.le_of_mul_le_mul_right (by omega) hpos⟩
    · rw [units_of_not_isNegative hnegative] at hn
      exact .inr ⟨hnegative, Int.le_of_mul_le_mul_right (by omega) hpos⟩
  rw [toInt64Range, isNaN_of_isFinite hx, if_neg Bool.false_ne_true, hwhole]
  change (if _ then -((Min.min n.natAbs 0x8000000000000000 : Nat) : Int)
    else (Min.min n.natAbs 0x7FFFFFFFFFFFFFFF : Nat)) = _
  rcases hsign with ⟨hnegative, hle⟩ | ⟨hnegative, hge⟩
  · rw [if_pos hnegative]
    omega
  · rw [if_neg hnegative]
    omega

end Dataflow.Number
