import Dataflow.Proofs.Number.Rounding
/-!
Decimals that read back.

The value of a decimal is a quotient of natural numbers (`Decimal.num`, `Decimal.den`), and reading takes it to the
magnitude it rounds to (`ofDecimal_eq`): the shortcuts for decimals far out of range agree with the rounding that
they spare. Going back, every point that the search for the shortest decimal returns lies in the rounding interval
of the magnitude, and it returns one, since the finest grid is finer than half of any interval. So the shortest
decimal of a magnitude has a value that rounds to that magnitude (`roundsTo_shortest`).
-/

set_option autoImplicit false

namespace Dataflow

/-! ## The value of a decimal -/

namespace Decimal

variable {d : Decimal} {k : Nat}

/-- The numerator of the value of a decimal. -/
def num (d : Decimal) : Nat :=
  match d.exponent with
  | .ofNat e => d.digits * 10 ^ e
  | .negSucc _ => d.digits

/-- The denominator of the value of a decimal. -/
def den (d : Decimal) : Nat :=
  match d.exponent with
  | .ofNat _ => 1
  | .negSucc e => 10 ^ (e + 1)

@[simp] theorem num_natCast (digits e : Nat) : (⟨digits, e⟩ : Decimal).num = digits * 10 ^ e := rfl

@[simp] theorem den_natCast (digits e : Nat) : (⟨digits, e⟩ : Decimal).den = 1 := rfl

@[simp] theorem num_negSucc (digits e : Nat) : (⟨digits, .negSucc e⟩ : Decimal).num = digits := rfl

@[simp] theorem den_negSucc (digits e : Nat) : (⟨digits, .negSucc e⟩ : Decimal).den = 10 ^ (e + 1) := rfl

theorem den_pos (d : Decimal) : 0 < d.den := by
  obtain ⟨digits, e | e⟩ := d <;> simp

theorem num_eq_zero (h : d.digits = 0) : d.num = 0 := by
  obtain ⟨digits, e | e⟩ := d <;> simp [show digits = 0 from h]

/-- A decimal on the grid `10 ^ k`, counted from `10 ^ -g`, as a quotient that need not be in lowest terms. -/
theorem exists_num_den_sub (digits k g : Nat) : ∃ factor, 0 < factor ∧
    (⟨digits, (k : Int) - g⟩ : Decimal).num * factor = digits * 10 ^ k ∧
    (⟨digits, (k : Int) - g⟩ : Decimal).den * factor = 10 ^ g := by
  rcases Nat.lt_or_ge k g with hlt | hge
  · obtain ⟨e, rfl⟩ := Nat.exists_eq_add_of_lt hlt
    have hexponent : (k : Int) - (k + e + 1 : Nat) = .negSucc e := by omega
    rw [hexponent, num_negSucc, den_negSucc]
    exact ⟨10 ^ k, Nat.pow_pos (by decide), rfl, by ring⟩
  · obtain ⟨e, rfl⟩ := Nat.exists_eq_add_of_le hge
    have hexponent : ((g + e : Nat) : Int) - g = e := by omega
    rw [hexponent, num_natCast, den_natCast]
    exact ⟨10 ^ g, Nat.pow_pos (by decide), by ring, Nat.one_mul _⟩

/-- How many digits a decimal has before its point; negative for zeros that come after it. -/
def leading (d : Decimal) : Int := (Nat.toDigits 10 d.digits).length + d.exponent

theorem lt_pow_length_toDigits (n : Nat) : n < 10 ^ (Nat.toDigits 10 n).length :=
  (Nat.length_toDigits_le_iff (by decide) Nat.length_toDigits_pos).1 (Nat.le_refl _)

theorem pow_length_toDigits_le {n : Nat} (hn : 0 < n) : 10 ^ ((Nat.toDigits 10 n).length - 1) ≤ n := by
  rcases Nat.eq_zero_or_pos ((Nat.toDigits 10 n).length - 1) with hzero | hpos
  · rwa [hzero, Nat.pow_zero]
  · have hlength := mt (Nat.length_toDigits_le_iff (n := n) (by decide : 1 < 10) hpos).2
    exact Nat.not_lt.1 (hlength (by omega))

/-- A decimal with zeros after its point is small. -/
theorem num_mul_pow_lt (h : d.leading ≤ -k) : d.num * 10 ^ k < d.den := by
  obtain ⟨digits, e | e⟩ := d
  · have hlength : 0 < (Nat.toDigits 10 digits).length := Nat.length_toDigits_pos
    simp only [leading, Int.ofNat_eq_natCast] at h
    omega
  · simp only [leading] at h
    have hscale : 0 < 10 ^ k := Nat.pow_pos (by decide)
    have hdigits := Nat.mul_lt_mul_of_pos_right (lt_pow_length_toDigits digits) hscale
    calc digits * 10 ^ k < 10 ^ (Nat.toDigits 10 digits).length * 10 ^ k := hdigits
      _ = 10 ^ ((Nat.toDigits 10 digits).length + k) := (Nat.pow_add ..).symm
      _ ≤ 10 ^ (e + 1) := Nat.pow_le_pow_right (by decide) (by omega)

/-- A decimal with digits before its point is large. -/
theorem pow_mul_den_le (hdigits : d.digits ≠ 0) (h : k < d.leading) : 10 ^ k * d.den ≤ d.num := by
  obtain ⟨digits, e | e⟩ := d
  all_goals have hfirst := pow_length_toDigits_le (Nat.pos_of_ne_zero hdigits)
  · simp only [leading, Int.ofNat_eq_natCast] at h hfirst
    calc 10 ^ k * 1 = 10 ^ k := Nat.mul_one _
      _ ≤ 10 ^ ((Nat.toDigits 10 digits).length - 1 + e) := Nat.pow_le_pow_right (by decide) (by omega)
      _ = 10 ^ ((Nat.toDigits 10 digits).length - 1) * 10 ^ e := Nat.pow_add ..
      _ ≤ digits * 10 ^ e := Nat.mul_le_mul_right _ hfirst
  · simp only [leading] at h hfirst
    calc 10 ^ k * 10 ^ (e + 1) = 10 ^ (k + (e + 1)) := (Nat.pow_add ..).symm
      _ ≤ 10 ^ ((Nat.toDigits 10 digits).length - 1) := Nat.pow_le_pow_right (by decide) (by omega)
      _ ≤ digits := hfirst

end Decimal

namespace Number

variable {m : Nat}

/-! ## Reading -/

theorem ofDecimal_eq_ite (negative : Bool) (d : Decimal) : ofDecimal negative d =
    if d.digits = 0 ∨ d.leading < -330 then ofParts negative 0
    else if 310 < d.leading then infinity negative
    else ofRatio negative d.num d.den := by
  obtain ⟨digits, e | e⟩ := d <;> rfl

theorem unitsOf_lt_pow (hm : m ≤ infinityMagnitude) : unitsOf m < 10 ^ 310 * unitsPerOne := by
  have hinfinity : unitsOf infinityMagnitude < 10 ^ 310 * unitsPerOne := by decide +kernel
  exact (unitsOf_strictMono.monotone hm).trans_lt hinfinity

/-- A value under half a unit rounds to nothing but zero. -/
theorem RoundsTo.eq_zero {num den : Nat} (h : RoundsTo m (num * unitsPerOne) den) (hsmall : num * 10 ^ 330 < den) :
    m = 0 := by
  by_contra hm
  have hunit : 2 * unitsPerOne ≤ 10 ^ 330 := by decide +kernel
  have hpos := unitsOf_pos (Nat.pos_of_ne_zero hm)
  have hlt : 2 * (num * unitsPerOne) < den :=
    calc 2 * (num * unitsPerOne) = num * (2 * unitsPerOne) := Nat.mul_left_comm ..
      _ ≤ num * 10 ^ 330 := Nat.mul_le_mul_left num hunit
      _ < den := hsmall
  have hle : den ≤ (unitsOf (m - 1) + unitsOf m) * den := Nat.le_mul_of_pos_left den (by omega)
  exact absurd h.low (by omega)

/-- A value that rounds to a finite magnitude is below the decimals that read as infinity. -/
theorem RoundsTo.lt_pow {num den : Nat} (hden : 0 < den) (hfinite : m < infinityMagnitude)
    (h : RoundsTo m (num * unitsPerOne) den) : num < 10 ^ 310 * den := by
  have hself := unitsOf_lt_pow hfinite.le
  have hnext := unitsOf_lt_pow (Nat.succ_le_of_lt hfinite)
  generalize 10 ^ 310 = limit at *
  refine Nat.lt_of_mul_lt_mul_left (a := 2 * unitsPerOne) ?_
  calc 2 * unitsPerOne * num = 2 * (num * unitsPerOne) := by ring
    _ ≤ (unitsOf m + unitsOf (m + 1)) * den := h.high
    _ < (limit * unitsPerOne + limit * unitsPerOne) * den :=
      Nat.mul_lt_mul_of_pos_right (Nat.add_lt_add hself hnext) hden
    _ = 2 * unitsPerOne * (limit * den) := by ring

/-- **A decimal reads as the magnitude that its value rounds to.** -/
theorem ofDecimal_eq {d : Decimal} (hfinite : m < infinityMagnitude) (h : RoundsTo m (d.num * unitsPerOne) d.den)
    (negative : Bool) : ofDecimal negative d = ofParts negative m := by
  have hden := d.den_pos
  rw [ofDecimal_eq_ite]
  split
  case isTrue hsmall =>
    have hlt : d.num * 10 ^ 330 < d.den := by
      rcases hsmall with hzero | hleading
      · rwa [Decimal.num_eq_zero hzero, Nat.zero_mul]
      · exact Decimal.num_mul_pow_lt (by omega)
    rw [h.eq_zero hlt]
  case isFalse hsmall =>
    have hlarge : ¬ 310 < d.leading := fun hlt =>
      Nat.not_le.2 (h.lt_pow hden hfinite) (Decimal.pow_mul_den_le (k := 310) (not_or.1 hsmall).1 hlt)
    rw [if_neg hlarge, ofRatio, nearestMagnitude_eq hden hfinite h]

/-! ## The search for the shortest decimal -/

namespace RoundingInterval

variable {i : RoundingInterval} {step digits k grid : Nat} {tie : Tie}

theorem contains_eq_true_iff {point : Nat} : i.contains point = true ↔
    i.low ≤ point ∧ point ≤ i.high ∧ (i.low = point ∨ point = i.high → i.closed = true) := by
  unfold contains
  split
  case isTrue hclosed => simp [hclosed]
  case isFalse hopen =>
    rw [decide_eq_true_iff]
    constructor
    · exact fun h => ⟨h.1.le, h.2.le, by omega⟩
    · exact fun h => ⟨lt_of_le_of_ne h.1 (hopen ∘ h.2.2 ∘ .inl), lt_of_le_of_ne h.2.1 (hopen ∘ h.2.2 ∘ .inr)⟩

theorem roundingInterval_eq (m : Nat) : roundingInterval m =
    ⟨(unitsOf (m - 1) + unitsOf m) * 10 ^ gridFloor, 2 * unitsOf m * 10 ^ gridFloor,
      (unitsOf m + unitsOf (m + 1)) * 10 ^ gridFloor, m % 2 == 0⟩ := by
  simp only [roundingInterval, Nat.pow_eq]

/-- The points in the rounding interval of a magnitude are those that round to it. -/
theorem contains_roundingInterval_iff {num : Nat} :
    (roundingInterval m).contains (2 * num) = true ↔ RoundsTo m num (10 ^ gridFloor) := by
  rw [contains_eq_true_iff, roundingInterval_eq, beq_iff_eq]
  exact ⟨fun h => ⟨h.1, h.2.1, h.2.2⟩, fun h => ⟨h.low, h.high, h.even⟩⟩

/-- A point strictly between the ends is in the interval, whether these belong to it or not. -/
theorem contains_of_lt {point : Nat} (hlow : i.low < point) (hhigh : point < i.high) : i.contains point = true :=
  contains_eq_true_iff.2 ⟨hlow.le, hhigh.le, by omega⟩

/-- The point that is returned lies in the interval. -/
theorem contains_of_nearestPoint? (h : i.nearestPoint? step tie = some digits) : i.contains (digits * step) = true := by
  unfold nearestPoint? at h
  dsimp only at h
  split at h
  case h_1 hbelow habove =>
    split at h
    · exact Option.some.inj h ▸ hbelow
    split at h
    · exact Option.some.inj h ▸ habove
    cases tie with
    | up => exact Option.some.inj h ▸ habove
    | even =>
      rcases Nat.mod_two_eq_zero_or_one (i.value / step) with heven | hodd
      · rw [heven] at h
        exact Option.some.inj h ▸ hbelow
      · rw [hodd] at h
        exact Option.some.inj h ▸ habove
  case h_2 hbelow _ => exact Option.some.inj h ▸ hbelow
  case h_3 _ habove => exact Option.some.inj h ▸ habove
  case h_4 => cases h

theorem nearestPoint?_isSome (h : i.contains ((i.value / step + 1) * step) = true) (tie : Tie) :
    (i.nearestPoint? step tie).isSome = true := by
  unfold nearestPoint?
  dsimp only
  rw [h]
  cases i.contains (i.value / step * step) with
  | false => rfl
  | true =>
    dsimp only
    split
    · rfl
    split
    · rfl
    cases tie <;> rfl

/-- Whatever the grid that it is found on, a point that the refinement returns lies in the interval. -/
theorem contains_of_coarsest (h : i.coarsest tie k = some (digits, grid)) :
    i.contains (digits * (2 * unitsPerOne * 10 ^ grid)) = true := by
  induction k with
  | zero =>
    obtain ⟨found, hfound, heq⟩ := Option.map_eq_some_iff.1 h
    obtain ⟨rfl, rfl⟩ := Prod.mk.inj heq
    rw [Nat.pow_zero, Nat.mul_one]
    exact contains_of_nearestPoint? hfound
  | succ k ih =>
    unfold coarsest at h
    split at h
    case h_1 found hfound =>
      obtain ⟨rfl, rfl⟩ := Prod.mk.inj (Option.some.inj h)
      exact contains_of_nearestPoint? hfound
    case h_2 => exact ih h

/-- A refinement that finds a point on its last grid finds one. -/
theorem coarsest_isSome (h : (i.nearestPoint? (2 * unitsPerOne) tie).isSome = true) (k : Nat) :
    (i.coarsest tie k).isSome = true := by
  induction k with
  | zero => rwa [coarsest, Option.isSome_map]
  | succ k ih =>
    unfold coarsest
    split
    · rfl
    · exact ih

/-- The finest grid has a point in the rounding interval of any magnitude: the first one above the value. -/
theorem nearestPoint?_roundingInterval (m : Nat) (tie : Tie) :
    ((roundingInterval m).nearestPoint? (2 * unitsPerOne) tie).isSome = true := by
  have hfine : 2 * unitsPerOne < 10 ^ gridFloor := by decide +kernel
  have hstep : 0 < 2 * unitsPerOne := by decide +kernel
  have hbefore := unitsOf_strictMono.monotone (Nat.sub_le m 1)
  have hafter := unitsOf_strictMono (Nat.lt_add_one m)
  have hmod := Nat.mod_lt (roundingInterval m).value hstep
  have hdiv := Nat.div_add_mod' (roundingInterval m).value (2 * unitsPerOne)
  have hlow : (roundingInterval m).low ≤ (roundingInterval m).value := by
    rw [roundingInterval_eq]
    exact Nat.mul_le_mul_right _ (by omega)
  have hhigh : (roundingInterval m).value + 10 ^ gridFloor ≤ (roundingInterval m).high := by
    rw [roundingInterval_eq, ← Nat.succ_mul]
    exact Nat.mul_le_mul_right _ (by omega)
  refine nearestPoint?_isSome (contains_of_lt ?_ ?_) tie
  all_goals
    rw [Nat.succ_mul]
    omega

end RoundingInterval

/-! ## The shortest decimal -/

/-- **The value of the shortest decimal of a magnitude rounds to the magnitude.** -/
theorem roundsTo_shortest (m : Nat) (tie : Tie) :
    RoundsTo m ((shortest tie m).num * unitsPerOne) (shortest tie m).den := by
  unfold shortest
  split
  case isTrue hm =>
    have hnum : (⟨0, 0⟩ : Decimal).num = 0 := rfl
    rw [hm, hnum, Nat.zero_mul]
    exact .exact 0 Nat.one_pos
  case isFalse =>
    obtain ⟨⟨digits, grid⟩, hfound⟩ := Option.isSome_iff_exists.1
      (RoundingInterval.coarsest_isSome (RoundingInterval.nearestPoint?_roundingInterval m tie) gridCeiling)
    have hcontains := RoundingInterval.contains_of_coarsest hfound
    obtain ⟨factor, hfactor, hnum, hden⟩ := Decimal.exists_num_den_sub digits grid gridFloor
    rw [hfound]
    refine RoundsTo.of_mul_right hfactor ?_
    have hpoint : 2 * (digits * 10 ^ grid * unitsPerOne) = digits * (2 * unitsPerOne * 10 ^ grid) := by ring
    rw [Nat.mul_right_comm, hnum, hden, ← RoundingInterval.contains_roundingInterval_iff, hpoint]
    exact hcontains

end Number

end Dataflow
