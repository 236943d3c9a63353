import Mathlib.Data.List.TakeWhile
import Dataflow.Number.Text
import Dataflow.Proofs.Number.Decimal
import Dataflow.Proofs.Text.Letters
/-!
Decimals read back from their text.

A positional decimal is a run of digits, with at most one point inside it (`Decimal.exists_positional`). All that
the reader makes of such a text follows from that: it is no name of a number, has no blanks around it, and denotes
the value that the digits and the place of the point say. So a text with a sign in front of a decimal reads as the
number the decimal rounds to (`read?_signed`).
-/

set_option autoImplicit false

namespace Dataflow

variable {c : Char} {digits whole fraction : List Char}

/-! ## Digits -/

theorem digitsValue_toDigits (n : Nat) : digitsValue (Nat.toDigits 10 n) = n := Nat.ofDigitChars_ten_toDigits

/-- Zeros after a run of digits multiply its value. -/
theorem digitsValue_append_replicate (digits : List Char) (e : Nat) :
    digitsValue (digits ++ List.replicate e '0') = digitsValue digits * 10 ^ e := by
  change Nat.ofDigitChars 10 _ 0 = Nat.ofDigitChars 10 digits 0 * 10 ^ e
  rw [Nat.ofDigitChars_append, Nat.ofDigitChars_replicate_zero, Nat.mul_comm]

/-- Zeros before a run of digits do not change its value. -/
theorem digitsValue_replicate_append (k : Nat) (digits : List Char) :
    digitsValue (List.replicate k '0' ++ digits) = digitsValue digits := by
  change Nat.ofDigitChars 10 _ 0 = Nat.ofDigitChars 10 digits 0
  rw [Nat.ofDigitChars_append, Nat.ofDigitChars_replicate_zero, Nat.mul_zero]

theorem isDigit_of_mem_toDigits {n : Nat} (hc : c ∈ Nat.toDigits 10 n) : c.isDigit = true :=
  Nat.isDigit_of_mem_toDigits (by decide) (by decide) hc

theorem isDigit_of_mem_replicate {k : Nat} (hc : c ∈ List.replicate k '0') : c.isDigit = true := by
  rw [List.eq_of_mem_replicate hc]
  rfl

namespace Decimal

/-! ## Reading a decimal -/

theorem read?_digits (hne : digits ≠ []) (hdigits : ∀ c ∈ digits, c.isDigit = true) :
    read? digits = some ⟨digitsValue digits, 0⟩ := by
  unfold read?
  rw [List.takeWhile_eq_self_iff.2 hdigits, List.dropWhile_eq_nil_iff.2 hdigits]
  simp [hne, readExponent?]

theorem read?_point (hne : whole ≠ []) (hwhole : ∀ c ∈ whole, c.isDigit = true)
    (hfraction : ∀ c ∈ fraction, c.isDigit = true) :
    read? (whole ++ '.' :: fraction) = some ⟨digitsValue (whole ++ fraction), -fraction.length⟩ := by
  have htake : (whole ++ '.' :: fraction).takeWhile Char.isDigit = whole := by
    rw [List.takeWhile_append_of_pos hwhole, List.takeWhile_cons_of_neg (by decide), List.append_nil]
  have hdrop : (whole ++ '.' :: fraction).dropWhile Char.isDigit = '.' :: fraction := by
    rw [List.dropWhile_append_of_pos hwhole, List.dropWhile_cons_of_neg (by decide)]
  unfold read?
  simp [htake, hdrop, List.takeWhile_eq_self_iff.2 hfraction, List.dropWhile_eq_nil_iff.2 hfraction, hne, readExponent?]

/-- The characters of a positional decimal: digits, or digits with a point among them, that denote its value. -/
theorem exists_positional (d : Decimal) : ∃ whole fraction : List Char,
    whole ≠ [] ∧ (∀ c ∈ whole, c.isDigit = true) ∧ (∀ c ∈ fraction, c.isDigit = true) ∧
      digitsValue (whole ++ fraction) = d.num ∧ 10 ^ fraction.length = d.den ∧
      d.positional.toList = if fraction = [] then whole else whole ++ '.' :: fraction := by
  obtain ⟨digits, e | e⟩ := d
  · refine ⟨Nat.toDigits 10 digits ++ List.replicate e '0', [], ?_, ?_, ?_, ?_, ?_, ?_⟩
    · exact List.append_ne_nil_of_left_ne_nil Nat.toDigits_ne_nil _
    · exact fun c hc => (List.mem_append.1 hc).elim isDigit_of_mem_toDigits isDigit_of_mem_replicate
    · exact fun c hc => absurd hc List.not_mem_nil
    · rw [List.append_nil, digitsValue_append_replicate, digitsValue_toDigits]
      rfl
    · rfl
    · rw [if_pos rfl]
      exact String.toList_ofList
  · let padded := List.replicate (e + 2 - (Nat.toDigits 10 digits).length) '0' ++ Nat.toDigits 10 digits
    have hpadded : ∀ c ∈ padded, c.isDigit = true := fun c hc =>
      (List.mem_append.1 hc).elim isDigit_of_mem_replicate isDigit_of_mem_toDigits
    have hlength : e + 2 ≤ padded.length := by
      rw [List.length_append, List.length_replicate]
      omega
    have hfraction : (padded.drop (padded.length - (e + 1))).length = e + 1 := by
      rw [List.length_drop]
      omega
    refine ⟨padded.take (padded.length - (e + 1)), padded.drop (padded.length - (e + 1)), ?_, ?_, ?_, ?_, ?_, ?_⟩
    · exact List.ne_nil_of_length_pos (by rw [List.length_take]; omega)
    · exact fun c hc => hpadded c (List.mem_of_mem_take hc)
    · exact fun c hc => hpadded c (List.mem_of_mem_drop hc)
    · rw [List.take_append_drop, digitsValue_replicate_append, digitsValue_toDigits]
      rfl
    · rw [hfraction]
      rfl
    · rw [if_neg (List.ne_nil_of_length_pos (by omega))]
      exact String.toList_ofList

/-- A positional decimal reads as a decimal of the same value. -/
theorem exists_read?_positional (d : Decimal) :
    ∃ d', read? d.positional.toList = some d' ∧ d'.num = d.num ∧ d'.den = d.den := by
  obtain ⟨whole, fraction, hne, hwhole, hfraction, hnum, hden, htext⟩ := exists_positional d
  rw [htext, ← hnum, ← hden]
  split
  case isTrue hnil =>
    refine ⟨_, read?_digits hne hwhole, ?_, ?_⟩
    · rw [hnil, List.append_nil]
      exact Nat.mul_one _
    · rw [hnil]
      rfl
  case isFalse hfull =>
    refine ⟨_, read?_point hne hwhole hfraction, ?_⟩
    obtain ⟨e, he⟩ := Nat.exists_eq_succ_of_ne_zero (mt List.length_eq_zero_iff.1 hfull)
    rw [he]
    exact ⟨rfl, rfl⟩

theorem isDigit_or_eq_point_of_mem_positional {d : Decimal} (hc : c ∈ d.positional.toList) :
    c.isDigit = true ∨ c = '.' := by
  obtain ⟨whole, fraction, -, hwhole, hfraction, -, -, htext⟩ := exists_positional d
  rw [htext] at hc
  split at hc
  · exact .inl (hwhole c hc)
  · rcases List.mem_append.1 hc with hc | hc
    · exact .inl (hwhole c hc)
    · exact (List.mem_cons.1 hc).symm.imp_left (hfraction c)

theorem positional_begins (d : Decimal) : ∃ c rest, d.positional.toList = c :: rest ∧ c.isDigit = true := by
  obtain ⟨whole, fraction, hne, hwhole, -, -, -, htext⟩ := exists_positional d
  obtain ⟨c, rest, rfl⟩ := List.exists_cons_of_ne_nil hne
  rw [htext]
  split
  · exact ⟨c, _, rfl, hwhole c List.mem_cons_self⟩
  · exact ⟨c, _, rfl, hwhole c List.mem_cons_self⟩

end Decimal

/-! ## Reading a number -/

/-- A positional decimal with its sign, as numbers are written. -/
def Decimal.signed (negative : Bool) (d : Decimal) : String := (if negative then "-" else "") ++ d.positional

theorem Text.trim_eq_self {cs : List Char} (h : ∀ c ∈ cs, isBlank c = false) : trim cs = cs := by
  have hkeep (cs : List Char) (h : ∀ c ∈ cs, isBlank c = false) : cs.dropWhile isBlank = cs := by
    rw [List.dropWhile_eq_self_iff]
    exact fun hpos => by simp [h _ (List.getElem_mem hpos)]
  unfold trim
  rw [hkeep cs h, hkeep cs.reverse fun c hc => h c (List.mem_reverse.1 hc), List.reverse_reverse]

namespace Number

/-- A text that begins with a digit is no name of a number, and a sign before it is set apart. -/
theorem read?_of_isDigit {rest : List Char} (hc : c.isDigit = true) (negative : Bool) :
    read? ((if negative then "-" else "").toList ++ c :: rest) =
      (Decimal.read? (c :: rest)).map (ofDecimal negative) := by
  have hsplit : splitSign ((if negative then "-" else "").toList ++ c :: rest) = (negative, c :: rest) := by
    cases negative with
    | true => rfl
    | false =>
      change splitSign (c :: rest) = _
      unfold splitSign
      split
      case h_1 heq =>
        obtain ⟨rfl, -⟩ := List.cons.inj heq
        exact absurd hc (by decide)
      case h_2 heq =>
        obtain ⟨rfl, -⟩ := List.cons.inj heq
        exact absurd hc (by decide)
      case h_3 => rfl
  have hname (name : String) (hfirst : name.toList.head? ≠ some c) :
      (String.ofList ((c :: rest).map Char.toLower) == name) = false := by
    refine beq_eq_false_iff_ne.2 fun heq => hfirst ?_
    rw [← heq, String.toList_ofList, List.map_cons, List.head?_cons, toLower_of_isDigit hc]
  have hletter {letter : Char} (hletter : letter.isDigit = false) : some letter ≠ some c := by
    rintro ⟨⟩
    simp [hc] at hletter
  unfold read?
  rw [hsplit]
  dsimp only
  rw [hname "inf" (hletter (by decide)), hname "infinity" (hletter (by decide)), hname "nan" (hletter (by decide))]
  rfl

/-- **A signed decimal reads as the number that its value rounds to.** -/
theorem read?_signed {m : Nat} {d : Decimal} (hfinite : m < infinityMagnitude)
    (h : RoundsTo m (d.num * unitsPerOne) d.den) (negative : Bool) :
    read? (Text.trim (d.signed negative).toList) = some (ofParts negative m) := by
  obtain ⟨d', hread, hnum, hden⟩ := d.exists_read?_positional
  obtain ⟨c, rest, htext, hc⟩ := d.positional_begins
  have hblank : ∀ c ∈ (d.signed negative).toList, Text.isBlank c = false := by
    intro c hc
    rw [Decimal.signed, String.toList_append] at hc
    rcases List.mem_append.1 hc with hsign | hpositional
    · cases negative with
      | true =>
        obtain rfl := List.mem_singleton.1 hsign
        rfl
      | false => exact absurd hsign List.not_mem_nil
    · rcases Decimal.isDigit_or_eq_point_of_mem_positional hpositional with hdigit | rfl
      · exact isBlank_of_isDigit hdigit
      · rfl
  rw [Text.trim_eq_self hblank, Decimal.signed, String.toList_append, htext, read?_of_isDigit hc, ← htext, hread]
  exact congrArg some (ofDecimal_eq hfinite (by rwa [hnum, hden]) negative)

end Number

end Dataflow
