import Dataflow.Text.Blank
/-!
Capitals, small letters and digits.

Names are brought to small letters in two places: those of settings in a document, and those of the infinities and of
NaN in a text. Both know the ASCII letters only, and what there is to know of these is where they stand. No character
but a capital is changed (`toLower_of_not_isUpper`), and none is a capital afterwards (`isUpper_toLower`), so a second
time nothing is changed. Digits stand apart from the capitals and from the blanks.
-/

set_option autoImplicit false

namespace Dataflow

variable {c : Char}

/-! ## Capitals -/

theorem isUpper_iff : c.isUpper = true ↔ c.val ≥ 'A'.val ∧ c.val ≤ 'Z'.val := decide_eq_true_iff

theorem isUpper_iff_toNat : c.isUpper = true ↔ 65 ≤ c.toNat ∧ c.toNat ≤ 90 :=
  isUpper_iff.trans (and_congr UInt32.le_iff_toNat_le UInt32.le_iff_toNat_le)

/-- Every small letter stands 32 places behind its capital. -/
theorem toNat_toLower (hc : c.isUpper = true) : c.toLower.toNat = c.toNat + 32 := by
  have hval : c.toLower.val = c.val + 32 := congrArg Char.val (dif_pos (isUpper_iff.1 hc))
  obtain ⟨-, hlast⟩ := isUpper_iff_toNat.1 hc
  rw [← Char.toNat_val, hval, UInt32.toNat_add, Char.toNat_val]
  refine Nat.mod_eq_of_lt ?_
  change c.toNat + 32 < 4294967296
  omega

theorem toLower_of_not_isUpper (hc : ¬ c.isUpper = true) : c.toLower = c := dif_neg (mt isUpper_iff.2 hc)

/-- A small letter is no capital, since the capitals take up fewer places than lie between the two. -/
theorem isUpper_toLower (c : Char) : c.toLower.isUpper = false := by
  rw [← Bool.not_eq_true]
  by_cases hc : c.isUpper = true
  · have hplace := toNat_toLower hc
    rw [isUpper_iff_toNat] at hc ⊢
    omega
  · rw [toLower_of_not_isUpper hc]
    exact hc

/-! ## Digits -/

theorem toNat_of_isDigit (hc : c.isDigit = true) : 48 ≤ c.toNat ∧ c.toNat ≤ 57 := Char.isDigit_iff_toNat.1 hc

theorem toLower_of_isDigit (hc : c.isDigit = true) : c.toLower = c := by
  have hdigit := toNat_of_isDigit hc
  refine toLower_of_not_isUpper fun hupper => ?_
  have hcapital := isUpper_iff_toNat.1 hupper
  omega

theorem isBlank_of_isDigit (hc : c.isDigit = true) : Text.isBlank c = false := by
  have hdigit := toNat_of_isDigit hc
  refine Bool.eq_false_iff.2 fun hblank => ?_
  simp only [Text.isBlank, Text.blanks, Text.CharSet.contains, Text.CharSet.containsCode, List.any_cons, List.any_nil,
    Bool.or_eq_true, Bool.and_eq_true, Nat.ble_eq, Bool.false_eq_true, or_false] at hblank
  omega

end Dataflow
