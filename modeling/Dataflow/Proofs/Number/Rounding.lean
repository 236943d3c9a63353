import Dataflow.Number.Decimal
import Mathlib.Order.Monotone.Basic
import Mathlib.Tactic.Ring
/-!
Rounding to the nearest magnitude.

A quotient rounds to a magnitude when it lies between the midpoints to the two neighbours, where a midpoint itself
belongs to the even one of the two (`RoundsTo`). `nearestMagnitude` finds that magnitude (`nearestMagnitude_eq`).
Neighbours are as far apart as the binade says they belong to, so every fact is about one spacing, and the first
magnitude of a binade is the one place with two: what lies below it is rounded in the spacing of the binade before,
of which it is the end.
-/

set_option autoImplicit false

namespace Dataflow.Number

variable {m num den spacing position : Nat}

/-! ## The value of a magnitude -/

/-- A magnitude of the binade with a spacing, or the one after its last, has a value that counts spacings. -/
theorem unitsOf_add (hlow : spacing = 0 ∨ binadeSize ≤ position) (hhigh : position ≤ 2 * binadeSize) :
    unitsOf (spacing * binadeSize + position) = position * 2 ^ spacing := by
  have hdiv : (spacing * binadeSize + position) / binadeSize = spacing + position / binadeSize := by
    rw [Nat.add_comm, Nat.add_mul_div_right _ _ (by decide), Nat.add_comm]
  rw [unitsOf, hdiv]
  change (_ : Nat) * 2 ^ (_ : Nat) = _
  rcases Nat.lt_or_ge position binadeSize with hfirst | hfirst
  · obtain rfl : spacing = 0 := hlow.resolve_right (by omega)
    simp [Nat.div_eq_of_lt hfirst]
  rcases Nat.lt_or_ge position (2 * binadeSize) with hinside | hlast
  · rw [Nat.div_eq_of_lt_le (k := 1) (by omega) (by omega), Nat.add_sub_cancel, Nat.add_sub_cancel_left]
  · obtain rfl : position = 2 * binadeSize := by omega
    have hposition : spacing * binadeSize + 2 * binadeSize - (spacing + 1) * binadeSize = binadeSize := by
      rw [Nat.add_mul]
      omega
    rw [Nat.mul_div_cancel _ (by decide), show spacing + 2 - 1 = spacing + 1 from rfl, hposition]
    ring

/-- Every magnitude has a binade and a position in it. -/
theorem exists_binade (m : Nat) : ∃ spacing position, m = spacing * binadeSize + position ∧
    (spacing = 0 ∨ binadeSize ≤ position) ∧ position < 2 * binadeSize := by
  refine ⟨m / binadeSize - 1, m - (m / binadeSize - 1) * binadeSize, ?_, ?_, ?_⟩
  all_goals
    unfold binadeSize
    omega

theorem unitsOf_strictMono : StrictMono unitsOf := by
  refine strictMono_nat_of_lt_succ fun m => ?_
  obtain ⟨spacing, position, rfl, hlow, hhigh⟩ := exists_binade m
  rw [Nat.add_assoc, unitsOf_add hlow hhigh.le, unitsOf_add (hlow.imp_right Nat.le_succ_of_le) hhigh]
  exact Nat.mul_lt_mul_of_pos_right (Nat.lt_succ_self position) (Nat.two_pow_pos spacing)

theorem unitsOf_pos (hm : 0 < m) : 0 < unitsOf m := unitsOf_strictMono hm

/-! ## Rounding to a whole number -/

/-- A quotient within a half of a whole number rounds to it, if at exactly a half the number is even. -/
theorem roundHalfEven_eq {whole : Nat} (hden : 0 < den) (hlow : 2 * whole * den ≤ 2 * num + den)
    (hhigh : 2 * num ≤ (2 * whole + 1) * den)
    (heven : 2 * whole * den = 2 * num + den ∨ 2 * num = (2 * whole + 1) * den → whole % 2 = 0) :
    roundHalfEven num den = whole := by
  have hsplit := Nat.div_add_mod num den
  have hrest := Nat.mod_lt num hden
  simp only [roundHalfEven]
  generalize num / den = quotient at *
  generalize num % den = rest at *
  subst hsplit
  have hupper : whole < quotient + 2 := by
    by_contra hge
    have := Nat.mul_le_mul_right den (Nat.not_lt.1 hge)
    simp only [Nat.add_mul, Nat.mul_assoc, Nat.mul_comm den] at this hlow
    omega
  have hlower : quotient < whole + 1 := by
    by_contra hge
    have := Nat.mul_le_mul_right den (Nat.not_lt.1 hge)
    simp only [Nat.add_mul, Nat.mul_assoc, Nat.mul_comm den] at this hhigh
    omega
  obtain rfl | rfl : whole = quotient ∨ whole = quotient + 1 := by omega
  · simp only [Nat.add_mul, Nat.mul_assoc, Nat.mul_comm den] at hhigh heven
    split
    · rfl
    · rw [if_neg (by omega), heven (by omega), Nat.add_zero]
  · simp only [Nat.add_mul, Nat.mul_add, Nat.mul_assoc, Nat.mul_comm den] at hlow heven
    rw [if_neg (by omega)]
    split
    · rfl
    · have := heven (by omega)
      omega

/-! ## Rounding to a magnitude -/

/-- The quotient `num / den`, counted in units, is among those that round to a magnitude. -/
structure RoundsTo (m num den : Nat) : Prop where
  low : (unitsOf (m - 1) + unitsOf m) * den ≤ 2 * num
  high : 2 * num ≤ (unitsOf m + unitsOf (m + 1)) * den
  even : (unitsOf (m - 1) + unitsOf m) * den = 2 * num ∨ 2 * num = (unitsOf m + unitsOf (m + 1)) * den → m % 2 = 0

/-- The value of a magnitude rounds to it. -/
theorem RoundsTo.exact (m : Nat) (hden : 0 < den) : RoundsTo m (unitsOf m * den) den where
  low := by
    rw [← Nat.mul_assoc, Nat.two_mul]
    have := unitsOf_strictMono.monotone (Nat.sub_le m 1)
    gcongr
  high := by
    rw [← Nat.mul_assoc, Nat.two_mul]
    have := unitsOf_strictMono.monotone (Nat.le_succ m)
    gcongr
  even := by
    rw [← Nat.mul_assoc, Nat.mul_left_inj hden.ne', Nat.mul_left_inj hden.ne']
    have hnext := unitsOf_strictMono (Nat.lt_add_one m)
    rintro (h | h)
    · have := unitsOf_strictMono.injective (show unitsOf (m - 1) = unitsOf m by omega)
      omega
    · omega

/-- A factor that numerator and denominator share makes no difference. -/
theorem RoundsTo.of_mul_right {factor : Nat} (hfactor : 0 < factor) (h : RoundsTo m (num * factor) (den * factor)) :
    RoundsTo m num den := by
  obtain ⟨hlow, hhigh, heven⟩ := h
  simp only [← Nat.mul_assoc, Nat.mul_left_inj hfactor.ne', Nat.mul_le_mul_right_iff hfactor] at hlow hhigh heven
  exact ⟨hlow, hhigh, heven⟩

/-- The spacing at a quotient that lies in a binade is that of the binade. -/
theorem log2_sub_eq_spacing (hden : 0 < den) (hlow : spacing = 0 ∨ binadeSize * (den * 2 ^ spacing) ≤ num)
    (hhigh : num < 2 * binadeSize * (den * 2 ^ spacing)) : Nat.log2 (num / den) - 52 = spacing := by
  have hlt : num / den < 2 ^ (52 + spacing + 1) := by
    rw [Nat.div_lt_iff_lt_mul hden]
    calc num < 2 * binadeSize * (den * 2 ^ spacing) := hhigh
      _ = 2 ^ (52 + spacing + 1) * den := by unfold binadeSize; ring
  rcases hlow with rfl | hlow
  · rcases Nat.eq_zero_or_pos (num / den) with hzero | hpos
    · simp [hzero]
    · have := (Nat.log2_lt hpos.ne').2 hlt
      omega
  · have hle : 2 ^ (52 + spacing) ≤ num / den := by
      rw [Nat.le_div_iff_mul_le hden]
      calc 2 ^ (52 + spacing) * den = binadeSize * (den * 2 ^ spacing) := by unfold binadeSize; ring
        _ ≤ num := hlow
    have hne : num / den ≠ 0 := (Nat.two_pow_pos _).trans_le hle |>.ne'
    rw [(Nat.log2_eq_iff hne).2 ⟨hle, hlt⟩, Nat.add_sub_cancel_left]

/-- A quotient in a binade rounds to the magnitude at the nearest position. -/
theorem nearestMagnitude_eq_add (hden : 0 < den) (hspacing : spacing = 0 ∨ binadeSize * (den * 2 ^ spacing) ≤ num)
    (hinside : num < 2 * binadeSize * (den * 2 ^ spacing))
    (hfinite : spacing * binadeSize + position < infinityMagnitude)
    (hlow : 2 * position * (den * 2 ^ spacing) ≤ 2 * num + den * 2 ^ spacing)
    (hhigh : 2 * num ≤ (2 * position + 1) * (den * 2 ^ spacing))
    (heven : 2 * position * (den * 2 ^ spacing) = 2 * num + den * 2 ^ spacing ∨
      2 * num = (2 * position + 1) * (den * 2 ^ spacing) → position % 2 = 0) :
    nearestMagnitude num den = spacing * binadeSize + position := by
  have hround := roundHalfEven_eq (Nat.mul_pos hden (Nat.two_pow_pos spacing)) hlow hhigh heven
  rw [nearestMagnitude, log2_sub_eq_spacing hden hspacing hinside]
  change Nat.min (_ + roundHalfEven num (den * 2 ^ spacing)) _ = _
  rw [hround]
  exact Nat.min_eq_left hfinite.le

/-- The midpoint to the next magnitude, as a count of half spacings. -/
theorem midpoint_above (hlow : spacing = 0 ∨ binadeSize ≤ position) (hhigh : position < 2 * binadeSize) (den : Nat) :
    (unitsOf (spacing * binadeSize + position) + unitsOf (spacing * binadeSize + position + 1)) * den =
      (2 * position + 1) * (den * 2 ^ spacing) := by
  rw [Nat.add_assoc, unitsOf_add hlow hhigh.le, unitsOf_add (hlow.imp_right Nat.le_succ_of_le) hhigh]
  rw [Nat.succ_eq_add_one]
  ring

/-- The midpoint to the magnitude before, for one that has a predecessor in its spacing. -/
theorem midpoint_below (hlow : spacing = 0 ∨ binadeSize ≤ position) (hhigh : position < 2 * binadeSize) (den : Nat) :
    (unitsOf (spacing * binadeSize + (position + 1) - 1) + unitsOf (spacing * binadeSize + (position + 1))) * den +
      den * 2 ^ spacing = 2 * (position + 1) * (den * 2 ^ spacing) := by
  rw [← Nat.add_assoc, Nat.add_sub_cancel, midpoint_above hlow hhigh]
  ring

theorem add_mod_two (spacing position : Nat) : (spacing * binadeSize + position) % 2 = position % 2 := by
  unfold binadeSize
  omega

/-- A quotient that rounds to a magnitude and lies in its binade. -/
theorem RoundsTo.nearestMagnitude_of_own (hden : 0 < den) (hposition : spacing = 0 ∨ binadeSize ≤ position)
    (hlast : position < 2 * binadeSize) (hfinite : spacing * binadeSize + position < infinityMagnitude)
    (hown : spacing = 0 ∨ binadeSize * (den * 2 ^ spacing) ≤ num)
    (h : RoundsTo (spacing * binadeSize + position) num den) :
    nearestMagnitude num den = spacing * binadeSize + position := by
  obtain ⟨hlow, hhigh, heven⟩ := h
  rw [midpoint_above hposition hlast] at hhigh heven
  rw [add_mod_two] at heven
  have hstep := Nat.mul_pos hden (Nat.two_pow_pos spacing)
  have hinside : num < 2 * binadeSize * (den * 2 ^ spacing) := by
    have := Nat.mul_le_mul_right (den * 2 ^ spacing) hlast
    rw [Nat.succ_mul] at this
    rw [Nat.add_mul, Nat.mul_assoc] at hhigh
    omega
  have hbelow : 2 * position * (den * 2 ^ spacing) ≤ 2 * num + den * 2 ^ spacing ∧
      (2 * position * (den * 2 ^ spacing) = 2 * num + den * 2 ^ spacing → position % 2 = 0) := by
    by_cases hfirst : spacing = 0 ∨ binadeSize < position
    · cases position with
      | zero => exact ⟨by omega, fun _ => rfl⟩
      | succ before =>
        have hmid := midpoint_below (hfirst.imp_right Nat.le_of_lt_succ) (Nat.lt_of_succ_lt hlast) den
        exact ⟨by omega, fun heq => heven (.inl (by omega))⟩
    · -- The spacing changes here, but the quotient is not below the magnitude.
      obtain rfl : position = binadeSize := by omega
      have hvalue := hown.resolve_left (by omega)
      rw [Nat.mul_assoc]
      omega
  exact nearestMagnitude_eq_add hden hown hinside hfinite hbelow.1 hhigh
    fun h => h.elim hbelow.2 (heven ∘ .inr)

/-- A quotient that rounds to the first magnitude of a binade and lies in the binade before. -/
theorem RoundsTo.nearestMagnitude_of_before (hden : 0 < den)
    (hfinite : (spacing + 1) * binadeSize + binadeSize < infinityMagnitude)
    (hbefore : num < binadeSize * (den * 2 ^ (spacing + 1)))
    (h : RoundsTo ((spacing + 1) * binadeSize + binadeSize) num den) :
    nearestMagnitude num den = (spacing + 1) * binadeSize + binadeSize := by
  have hend : (spacing + 1) * binadeSize + binadeSize = spacing * binadeSize + (2 * binadeSize - 1 + 1) := by
    unfold binadeSize
    omega
  rw [hend] at h hfinite ⊢
  have hmid := @midpoint_below spacing (2 * binadeSize - 1) (.inr (by decide)) (by decide) den
  have hlow := hmid ▸ Nat.add_le_add_right h.low (den * 2 ^ spacing)
  have hdouble : den * 2 ^ (spacing + 1) = 2 * (den * 2 ^ spacing) := by ring
  have hstep := Nat.mul_pos hden (Nat.two_pow_pos spacing)
  rw [hdouble] at hbefore
  unfold binadeSize at hbefore hlow
  refine nearestMagnitude_eq_add hden (.inr ?_) ?_ hfinite hlow ?_ fun _ => by decide
  all_goals
    unfold binadeSize
    omega

/-- **Rounding finds the magnitude that a quotient rounds to.** The binade is the magnitude's own, except for a
quotient below the first magnitude of a later one. -/
theorem nearestMagnitude_eq (hden : 0 < den) (hfinite : m < infinityMagnitude) (h : RoundsTo m num den) :
    nearestMagnitude num den = m := by
  obtain ⟨spacing, position, rfl, hposition, hlast⟩ := exists_binade m
  by_cases hown : spacing = 0 ∨ binadeSize * (den * 2 ^ spacing) ≤ num
  · exact h.nearestMagnitude_of_own hden hposition hlast hfinite hown
  obtain ⟨hspacing, hbefore⟩ := not_or.1 hown
  -- At any other position the midpoint below is inside the binade already, and the quotient is not below it.
  have hfirst : position = binadeSize := by
    by_contra hne
    have hge := hposition.resolve_left hspacing
    obtain ⟨before, rfl⟩ := Nat.exists_eq_succ_of_ne_zero (show position ≠ 0 by unfold binadeSize at hge; omega)
    have hinner : binadeSize ≤ before := by omega
    have hmid := @midpoint_below spacing before (.inr hinner) (Nat.lt_of_succ_lt hlast) den
    have hlow := hmid ▸ Nat.add_le_add_right h.low (den * 2 ^ spacing)
    have := Nat.mul_le_mul_right (den * 2 ^ spacing) (Nat.add_le_add_right hinner 1)
    rw [Nat.mul_assoc] at hlow
    rw [Nat.add_mul] at this
    omega
  obtain ⟨previous, rfl⟩ := Nat.exists_eq_succ_of_ne_zero hspacing
  subst hfirst
  exact h.nearestMagnitude_of_before hden hfinite (Nat.not_le.1 hbefore)

end Dataflow.Number
