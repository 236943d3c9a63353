import Dataflow.Handler.Flow
import Dataflow.Proofs.Number.Finite
import Dataflow.Proofs.Number.Text
/-!
Numbers as text, and back.

A number with a fraction is written with the digits that read back as it. An integral one is written as an integer
held inside the signed 64 bit range, so its text is that of a number held inside that range (`heldUnits`), and that
number is what the text reads back as (`exists_toNumber?_text`). Both ends of the range read as themselves, though the
upper one is written with the integer before it, since that integer rounds to it. Whatever a number's text says
about it follows: the text is exact, tells the number from all others and reads back as it inside the range, and
says no more than the side beyond it.
-/

set_option autoImplicit false

namespace Dataflow

variable {x y : Number} {m : Nat} {n : Int}

/-! ## Integers -/

theorem positional_integer (k : Nat) : (⟨k, 0⟩ : Decimal).positional = natText k :=
  congrArg String.ofList (List.append_nil _)

theorem intText_eq_signed (n : Int) : intText n = (⟨n.natAbs, 0⟩ : Decimal).signed (decide (n < 0)) := by
  rw [intText, Decimal.signed, positional_integer]
  by_cases hn : n < 0
  · simp [hn]
  · simp [hn]

theorem toList_intText (n : Int) :
    (intText n).toList = (if n < 0 then ['-'] else []) ++ Nat.toDigits 10 n.natAbs := by
  unfold intText natText
  split
  · rw [String.toList_append, String.toList_ofList, String.toList_ofList]
  · rw [String.toList_ofList, List.nil_append]

theorem intText_injective : Function.Injective intText := by
  intro a b h
  have hsign {k : Nat} {rest : List Char} : '-' :: rest ≠ Nat.toDigits 10 k := fun heq =>
    absurd (isDigit_of_mem_toDigits (heq ▸ List.mem_cons_self)) (by decide)
  have hlist := congrArg String.toList h
  rw [toList_intText, toList_intText] at hlist
  have hdigits {k l : Nat} (heq : Nat.toDigits 10 k = Nat.toDigits 10 l) : k = l :=
    natText_injective (congrArg String.ofList heq)
  -- No digit is a minus, so the signs agree, and then the digits do.
  by_cases ha : a < 0 <;> by_cases hb : b < 0
  · rw [if_pos ha, if_pos hb] at hlist
    have := hdigits (List.append_cancel_left hlist)
    omega
  · rw [if_pos ha, if_neg hb] at hlist
    exact absurd hlist hsign
  · rw [if_neg ha, if_pos hb] at hlist
    exact absurd hlist.symm hsign
  · rw [if_neg ha, if_neg hb] at hlist
    have := hdigits hlist
    omega

namespace Number

/-! ## The range of written integers -/

/-- The end of the signed 64 bit range, `2^63`, in units. -/
def rangeEnd : Nat := 2 ^ 63 * unitsPerOne

/-- The value of a number, held inside the range of written integers. -/
def heldUnits (x : Number) : Int :=
  if rangeEnd ≤ x.units then rangeEnd else if x.units ≤ -rangeEnd then -rangeEnd else x.units

theorem heldUnits_eq_self_iff : x.heldUnits = x.units ↔ x.units.natAbs ≤ rangeEnd := by
  unfold heldUnits
  split_ifs <;> omega

theorem heldUnits_eq_iff : x.heldUnits = y.heldUnits ↔ x.units = y.units ∨
    rangeEnd ≤ x.units ∧ rangeEnd ≤ y.units ∨ x.units ≤ -rangeEnd ∧ y.units ≤ -rangeEnd := by
  have hpos : 0 < rangeEnd := by decide +kernel
  unfold heldUnits
  split_ifs <;> omega

/-- The magnitude of `2^63`. -/
def rangeEndMagnitude : Nat := 0x43E0000000000000

theorem unitsOf_rangeEndMagnitude : unitsOf rangeEndMagnitude = rangeEnd := by decide +kernel

/-- The last integer of the range is nearer to the end of the range than to any other number. -/
theorem roundsTo_rangeEndMagnitude : RoundsTo rangeEndMagnitude ((2 ^ 63 - 1) * unitsPerOne) 1 := by
  refine ⟨?_, ?_, fun _ => ?_⟩ <;> decide +kernel

/-- An integral number is written as the nearest integer of 64 bits. -/
theorem text_of_units_eq (hx : x.isFinite = true) (hn : x.units = n * unitsPerOne) :
    x.text = intText (Max.max (-2 ^ 63) (Min.min n (2 ^ 63 - 1))) := by
  rw [text, (isIntegral_iff hx).2 ⟨n, hn⟩, if_pos rfl, toInt64Range_eq hx hn]

/-- A number with a fraction is written with its shortest decimal. -/
theorem text_of_not_isIntegral (hx : x.isFinite = true) (hfraction : ¬ x.isIntegral = true) :
    x.text = (shortest .up x.magnitude).signed x.isNegative := by
  have hinfinite : x.isInfinite = false := decide_eq_false (of_decide_eq_true hx : _ < _).ne
  rw [text, if_neg hfraction, isNaN_of_isFinite hx, hinfinite]
  rfl

/-- A number at an end of the range or beyond is integral. -/
theorem exists_integer_of_rangeEnd_le (hx : x.isFinite = true) (h : rangeEnd ≤ x.units.natAbs) :
    ∃ n : Int, x.units = n * unitsPerOne := by
  refine (isIntegral_iff hx).1 ((isIntegral_iff_mod hx).2 ?_)
  refine unitsOf_mod_unitsPerOne (Nat.le_trans ?_ (h.trans_eq (natAbs_units x)))
  exact Nat.mul_le_mul_right unitsPerOne (by decide)

theorem intCast_rangeEnd : (rangeEnd : Int) = 2 ^ 63 * unitsPerOne := by
  rw [rangeEnd, Int.natCast_mul]
  exact congrArg (· * (unitsPerOne : Int)) (by decide)

theorem mul_unitsPerOne_le_iff {k : Int} : k * unitsPerOne ≤ n * unitsPerOne ↔ k ≤ n := by
  have hpos := Int.natCast_pos.2 unitsPerOne_pos
  exact ⟨fun h => Int.le_of_mul_le_mul_right h hpos, fun h => Int.mul_le_mul_of_nonneg_right h hpos.le⟩

theorem rangeEnd_le_iff : rangeEnd ≤ n * unitsPerOne ↔ 2 ^ 63 ≤ n := by
  rw [intCast_rangeEnd, mul_unitsPerOne_le_iff]

theorem le_neg_rangeEnd_iff : n * unitsPerOne ≤ -rangeEnd ↔ n ≤ -2 ^ 63 := by
  rw [intCast_rangeEnd, ← Int.neg_mul, mul_unitsPerOne_le_iff]

/-- From the upper end of the range on, all numbers have one text. -/
theorem text_of_rangeEnd_le (hx : x.isFinite = true) (h : rangeEnd ≤ x.units) : x.text = intText (2 ^ 63 - 1) := by
  obtain ⟨n, hn⟩ := exists_integer_of_rangeEnd_le hx (by omega)
  have hle := rangeEnd_le_iff.1 (hn ▸ h)
  rw [text_of_units_eq hx hn]
  exact congrArg intText (by omega)

/-- From the lower end of the range on, all numbers have one text. -/
theorem text_of_le_neg_rangeEnd (hx : x.isFinite = true) (h : x.units ≤ -rangeEnd) : x.text = intText (-2 ^ 63) := by
  obtain ⟨n, hn⟩ := exists_integer_of_rangeEnd_le hx (by omega)
  have hle := le_neg_rangeEnd_iff.1 (hn ▸ h)
  rw [text_of_units_eq hx hn]
  exact congrArg intText (by omega)

/-- Inside the range an integral number is written as the integer that it is. -/
theorem text_of_inside (hx : x.isFinite = true) (hn : x.units = n * unitsPerOne) (hinside : x.units.natAbs < rangeEnd) :
    x.text = intText n := by
  have hlow := (not_congr le_neg_rangeEnd_iff).1 (show ¬ n * unitsPerOne ≤ -rangeEnd by rw [← hn]; omega)
  have hhigh := (not_congr rangeEnd_le_iff).1 (show ¬ rangeEnd ≤ n * unitsPerOne by rw [← hn]; omega)
  rw [text_of_units_eq hx hn]
  exact congrArg intText (by omega)

/-- Numbers of one value have one text. -/
theorem text_congr (hx : x.isFinite = true) (hy : y.isFinite = true) (h : x.units = y.units) : x.text = y.text := by
  by_cases hinteger : ∃ n : Int, x.units = n * unitsPerOne
  · obtain ⟨n, hn⟩ := hinteger
    rw [text_of_units_eq hx hn, text_of_units_eq hy (h ▸ hn)]
  · have hne : x.units ≠ 0 := fun hzero => hinteger ⟨0, by rw [hzero, Int.zero_mul]⟩
    rw [eq_of_units_eq h hne]

end Number

/-! ## What a text reads as -/

section
open Number

/-- The text of an integer reads as the number that the integer rounds to. -/
theorem Value.toNumber?_intText {k : Nat} (hk : n.natAbs = k) (hfinite : m < infinityMagnitude)
    (h : RoundsTo m (k * unitsPerOne) 1) :
    toNumber? (.text (intText n)) = some (.ofParts (decide (n < 0)) m) := by
  rw [toNumber?, intText_eq_signed, hk]
  refine read?_signed hfinite ?_ _
  rw [show (⟨k, 0⟩ : Decimal).num = k from Nat.mul_one k]
  exact h

/-- Inside the range a number's text reads as a number of the same value. -/
theorem Value.exists_toNumber?_inside (hx : x.isFinite = true) (hinside : x.units.natAbs < rangeEnd) :
    ∃ y : Number, toNumber? (.text x.text) = some y ∧ y.isFinite = true ∧ y.units = x.units := by
  have hfinite : x.magnitude < infinityMagnitude := of_decide_eq_true hx
  by_cases hintegral : x.isIntegral = true
  · -- Every digit is there, so the integer that is read is the value itself and needs no rounding.
    obtain ⟨n, hn⟩ := (isIntegral_iff hx).1 hintegral
    have hvalue := unitsOf_of_units_eq hn
    have hexact := RoundsTo.exact x.magnitude Nat.one_pos
    rw [hvalue, Nat.mul_one] at hexact
    rw [text_of_inside hx hn hinside]
    refine ⟨_, toNumber?_intText rfl hfinite hexact, isFinite_ofParts _ hfinite, ?_⟩
    rw [units_ofParts _ hfinite, hvalue, hn, Int.natCast_mul, ← Int.neg_mul]
    by_cases hnegative : n < 0
    · rw [decide_eq_true hnegative, if_pos rfl, show -(n.natAbs : Int) = n by omega]
    · rw [decide_eq_false hnegative, if_neg Bool.false_ne_true, show (n.natAbs : Int) = n by omega]
  · refine ⟨x, ?_, hx, rfl⟩
    have hread := read?_signed hfinite (roundsTo_shortest x.magnitude .up) x.isNegative
    rw [ofParts_magnitude] at hread
    rw [toNumber?, text_of_not_isIntegral hx hintegral]
    exact hread

theorem rangeEndMagnitude_lt : rangeEndMagnitude < infinityMagnitude := by decide

/-- The text of the last integer of the range reads as the number after it. -/
theorem Value.toNumber?_upperEnd :
    toNumber? (.text (intText (2 ^ 63 - 1))) = some (.ofParts false rangeEndMagnitude) :=
  toNumber?_intText (by decide) rangeEndMagnitude_lt roundsTo_rangeEndMagnitude

/-- The text of the first integer of the range reads as that integer. -/
theorem Value.toNumber?_lowerEnd :
    toNumber? (.text (intText (-2 ^ 63))) = some (.ofParts true rangeEndMagnitude) := by
  have hexact := RoundsTo.exact rangeEndMagnitude Nat.one_pos
  rw [unitsOf_rangeEndMagnitude, Nat.mul_one, rangeEnd] at hexact
  exact toNumber?_intText (by decide) rangeEndMagnitude_lt hexact

/-- **A finite number's text reads as the number held inside the range of written integers.** -/
theorem Value.exists_toNumber?_text (hx : x.isFinite = true) :
    ∃ y : Number, toNumber? (.text x.text) = some y ∧ y.isFinite = true ∧ y.units = x.heldUnits := by
  have hend (negative : Bool) := units_ofParts negative rangeEndMagnitude_lt
  rw [unitsOf_rangeEndMagnitude] at hend
  by_cases hhigh : rangeEnd ≤ x.units
  · refine ⟨.ofParts false rangeEndMagnitude, ?_, isFinite_ofParts false rangeEndMagnitude_lt, ?_⟩
    · rw [text_of_rangeEnd_le hx hhigh, toNumber?_upperEnd]
    · rw [hend, heldUnits, if_pos hhigh]
      rfl
  by_cases hlow : x.units ≤ -rangeEnd
  · refine ⟨.ofParts true rangeEndMagnitude, ?_, isFinite_ofParts true rangeEndMagnitude_lt, ?_⟩
    · rw [text_of_le_neg_rangeEnd hx hlow, toNumber?_lowerEnd]
    · rw [hend, heldUnits, if_neg hhigh, if_pos hlow]
      rfl
  obtain ⟨y, hread, hfinite, hvalue⟩ := exists_toNumber?_inside hx (show x.units.natAbs < rangeEnd by omega)
  refine ⟨y, hread, hfinite, hvalue.trans ?_⟩
  rw [heldUnits, if_neg hhigh, if_neg hlow]

/-- Two finite numbers have one text exactly if they are one number when held inside the range. -/
theorem Number.text_eq_iff (hx : x.isFinite = true) (hy : y.isFinite = true) :
    x.text = y.text ↔ x.heldUnits = y.heldUnits := by
  constructor
  · intro h
    obtain ⟨readX, hreadX, -, hvalueX⟩ := Value.exists_toNumber?_text hx
    obtain ⟨readY, hreadY, -, hvalueY⟩ := Value.exists_toNumber?_text hy
    obtain rfl : readX = readY := Option.some.inj (hreadX.symm.trans (h ▸ hreadY))
    exact hvalueX.symm.trans hvalueY
  · rw [heldUnits_eq_iff]
    rintro (hsame | ⟨hhighX, hhighY⟩ | ⟨hlowX, hlowY⟩)
    · exact text_congr hx hy hsame
    · rw [text_of_rangeEnd_le hx hhighX, text_of_rangeEnd_le hy hhighY]
    · rw [text_of_le_neg_rangeEnd hx hlowX, text_of_le_neg_rangeEnd hy hlowY]

/-- An integral number is written as the integer that it is, inside the range of 64 bits and only there. -/
theorem Number.text_eq_intText_iff (hx : x.isFinite = true) (hn : x.units = n * unitsPerOne) :
    x.text = intText n ↔ -2 ^ 63 ≤ n ∧ n < 2 ^ 63 := by
  rw [text_of_units_eq hx hn, intText_injective.eq_iff]
  omega

/-- The operation that reads numbers takes a number by its text. -/
theorem mapTexts_invoke_number {config : Config} (hop : config.text? "op" = some "number")
    (hread : Value.toNumber? (.text x.text) = some y) :
    (mapTexts.invoke [.number x] config).result = .ok (.number y) := by
  have hconfig : TextOp.ofConfig config = .ok .number := by
    rw [TextOp.ofConfig, hop]
    rfl
  have hreply : (mapTexts.invoke [.number x] config).result = TextOp.number.applyText x.text := by
    rw [mapTexts_invoke hconfig]
    simp only [TextOp.apply, TextOp.applyLeaf, TextOp.needsText, Value.toText, Bool.false_eq_true, if_false]
  rw [hreply, TextOp.applyText, hread]

/-- **When a number survives being rendered as text.** Up to `2^63` in absolute value, and no further, its text reads
back as an equal number, also by the operation that reads numbers. The text of an integral number is that integer
inside the 64 bit range, and no further; and two numbers of one text are equal, or both at one end of the range or
beyond it. -/
theorem Value.number_survives_text_iff (hx : x.isFinite = true) :
    (∃ y, toNumber? (.text (toText (.number x))) = some y ∧ (y.same x = true ↔ x.units.natAbs ≤ rangeEnd)) ∧
    (∀ n : Int, x.units = n * unitsPerOne → (toText (.number x) = intText n ↔ -2 ^ 63 ≤ n ∧ n < 2 ^ 63)) ∧
    (∀ y : Number, y.isFinite = true → (toText (.number x) = toText (.number y) ↔
      x.same y = true ∨ rangeEnd ≤ x.units ∧ rangeEnd ≤ y.units ∨ x.units ≤ -rangeEnd ∧ y.units ≤ -rangeEnd)) ∧
    (∀ config : Config, config.text? "op" = some "number" → ∃ y,
      (mapTexts.invoke [.number x] config).result = .ok (.number y) ∧
        (y.same x = true ↔ x.units.natAbs ≤ rangeEnd)) := by
  obtain ⟨read, hread, hfinite, hvalue⟩ := exists_toNumber?_text hx
  have hsame : read.same x = true ↔ x.units.natAbs ≤ rangeEnd := by
    rw [same_iff hfinite hx, hvalue, heldUnits_eq_self_iff]
  simp only [toText]
  refine ⟨⟨read, hread, hsame⟩, fun n hn => text_eq_intText_iff hx hn, fun y hy => ?_, fun config hop => ?_⟩
  · rw [text_eq_iff hx hy, same_iff hx hy, heldUnits_eq_iff]
  · exact ⟨read, mapTexts_invoke_number hop hread, hsame⟩

/-- `2^53`, after which not every integer is a number, survives, and its text is not that of the next number. -/
theorem Value.number_survives_text_twoPow53 : (Number.ofNat (2 ^ 53)).isFinite = true ∧
    (∃ y, toNumber? (.text (toText (.number (.ofNat (2 ^ 53))))) = some y ∧ y.same (.ofNat (2 ^ 53)) = true) ∧
    toText (.number (.ofNat (2 ^ 53))) = intText (2 ^ 53) ∧
    toText (.number (.ofNat (2 ^ 53))) ≠ toText (.number (.ofNat (2 ^ 53 + 2))) ∧
    ∃ y, (mapTexts.invoke [.number (.ofNat (2 ^ 53))] (Dict.ofList [("op", .text "number")])).result =
      .ok (.number y) ∧ y.same (.ofNat (2 ^ 53)) = true := by
  have hfinite : (Number.ofNat (2 ^ 53)).isFinite = true := by decide +kernel
  have hinside : (Number.ofNat (2 ^ 53)).units.natAbs ≤ rangeEnd := by decide +kernel
  obtain ⟨⟨y, hread, hsame⟩, hexact, hdiffer, hop⟩ := number_survives_text_iff hfinite
  obtain ⟨z, hresult, hz⟩ := hop (Dict.ofList [("op", .text "number")]) (by decide +kernel)
  refine ⟨hfinite, ⟨y, hread, hsame.2 hinside⟩, ?_, fun heq => ?_, z, hresult, hz.2 hinside⟩
  · exact (hexact (2 ^ 53) (by decide +kernel)).2 (by decide)
  · exact absurd ((hdiffer (.ofNat (2 ^ 53 + 2)) (by decide +kernel)).1 heq) (by decide +kernel)

/-- **A number that is lost.** The text of `10^19` is the last integer of the range, and reads as `2^63`. -/
theorem Value.number_lost_tenPow19 : (Number.ofNat (10 ^ 19)).isFinite = true ∧
    (Number.ofNat (10 ^ 19)).units = 10 ^ 19 * unitsPerOne ∧
    toText (.number (.ofNat (10 ^ 19))) = "9223372036854775807" ∧
    toNumber? (.text (toText (.number (.ofNat (10 ^ 19))))) = some (.ofNat (2 ^ 63)) ∧
    (Number.ofNat (2 ^ 63)).same (.ofNat (10 ^ 19)) = false := by
  decide +kernel

end

end Dataflow
