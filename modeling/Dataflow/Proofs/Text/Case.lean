import Dataflow.Text.Case
import Mathlib.Data.List.Infix
/-!
Lowering a piece of a text.

Every character is lowered by itself but one: a capital sigma takes its final form at the end of a word, and where a
word ends is seen from the letters on both sides. So a piece need not be lowered as the text around it is. Here is
what can differ. A piece is lowered between the texts before and after it (`lowerBetween`), and this comes to the same
as lowering it alone unless a sigma at one of its ends is left open (`OpenAtStart`, `OpenAtEnd`): then there is
nothing between the sigma and the end of the piece by which its form is settled.
-/

set_option autoImplicit false

namespace Dataflow.Text

/-! ## The next letter -/

/-- A text of nothing but characters that are looked through. -/
def Ignorable (cs : List Char) : Prop := ∀ c ∈ cs, caseIgnorable.contains c = true

theorem nextIsCased_append_of_ignorable {cs : List Char} (h : Ignorable cs) (rest : List Char) :
    nextIsCased (cs ++ rest) = nextIsCased rest := by
  unfold nextIsCased
  rw [List.dropWhile_append_of_pos h]

theorem nextIsCased_of_ignorable {cs : List Char} (h : Ignorable cs) : nextIsCased cs = false := by
  have happend := nextIsCased_append_of_ignorable h []
  rw [List.append_nil] at happend
  exact happend

/-- What a text has to say of its next letter, it says whatever comes after it. -/
theorem nextIsCased_append {cs : List Char} (h : ¬ Ignorable cs) (rest : List Char) :
    nextIsCased (cs ++ rest) = nextIsCased cs := by
  induction cs with
  | nil => exact absurd (fun c hc => by cases hc) h
  | cons c cs ih =>
    by_cases hc : caseIgnorable.contains c = true
    · have hcs : ¬ Ignorable cs := fun hcs => h (List.forall_mem_cons.2 ⟨hc, hcs⟩)
      have hskip (l : List Char) : nextIsCased (c :: l) = nextIsCased l := by
        unfold nextIsCased
        rw [List.dropWhile_cons_of_pos hc]
      rw [List.cons_append, hskip, hskip]
      exact ih hcs
    · unfold nextIsCased
      rw [List.cons_append, List.dropWhile_cons_of_neg hc, List.dropWhile_cons_of_neg hc]

/-! ## Between two texts -/

/-- The form of a lowered sigma between the text before it, in reverse, and the text after it. -/
def sigmaBetween (before after : List Char) : Char :=
  if nextIsCased before && !nextIsCased after then finalSigma else smallSigma

/-- A text lowered between the text before it, in reverse, and the text after it. -/
def lowerBetween (before after : List Char) : List Char → List Char
  | [] => []
  | c :: rest =>
    (if c = capitalSigma then [sigmaBetween before (rest ++ after)] else lowerChar c) ++
      lowerBetween (c :: before) after rest

theorem lowerAfter_eq_lowerBetween (before text : List Char) :
    lowerAfter before text = lowerBetween before [] text := by
  induction text generalizing before with
  | nil => rfl
  | cons c rest ih =>
    rw [lowerAfter, lowerBetween, ih, List.append_nil, sigmaBetween]
    by_cases hc : c = capitalSigma
    · rw [if_pos hc, if_pos hc]
      split <;> rfl
    · rw [if_neg hc, if_neg hc]

theorem lowerBetween_append (before after front back : List Char) :
    lowerBetween before after (front ++ back) =
      lowerBetween before (back ++ after) front ++ lowerBetween (front.reverse ++ before) after back := by
  induction front generalizing before with
  | nil => rfl
  | cons c front ih =>
    rw [List.cons_append, lowerBetween, lowerBetween, ih, List.append_assoc, List.append_assoc, List.reverse_cons,
      List.append_assoc]
    rfl

/-- A text lowered as a whole is its parts lowered where they stand. -/
theorem lower_append_append (front text back : List Char) :
    lower (front ++ text ++ back) =
      lowerBetween [] (text ++ back) front ++ lowerBetween front.reverse back text ++
        lowerBetween (text.reverse ++ front.reverse) [] back := by
  rw [lower, lowerAfter_eq_lowerBetween, lowerBetween_append, lowerBetween_append, List.append_nil, List.append_nil,
    List.reverse_append, List.append_nil]

/-- The form of a sigma does not change how long a text becomes. -/
theorem length_lowerBetween (before after before' after' text : List Char) :
    (lowerBetween before after text).length = (lowerBetween before' after' text).length := by
  induction text generalizing before before' with
  | nil => rfl
  | cons c rest ih =>
    rw [lowerBetween, lowerBetween, List.length_append, List.length_append, ih (c :: before) (c :: before')]
    by_cases hc : c = capitalSigma
    · rw [if_pos hc, if_pos hc]
      rfl
    · rw [if_neg hc, if_neg hc]

/-- Where every sigma takes the same form, a text is lowered in the same way. -/
theorem lowerBetween_congr {before after before' after' text : List Char}
    (h : ∀ front back, text = front ++ capitalSigma :: back →
      sigmaBetween (front.reverse ++ before) (back ++ after) =
        sigmaBetween (front.reverse ++ before') (back ++ after')) :
    lowerBetween before after text = lowerBetween before' after' text := by
  induction text generalizing before before' with
  | nil => rfl
  | cons c rest ih =>
    have hrest : lowerBetween (c :: before) after rest = lowerBetween (c :: before') after' rest := by
      refine ih fun front back hsplit => ?_
      have hform := h (c :: front) back (by rw [hsplit, List.cons_append])
      rw [List.reverse_cons, List.append_assoc, List.append_assoc] at hform
      exact hform
    rw [lowerBetween, lowerBetween, hrest]
    by_cases hc : c = capitalSigma
    · have hform := h [] rest (by rw [hc, List.nil_append])
      rw [if_pos hc, if_pos hc]
      exact congrArg (fun form => [form] ++ _) hform
    · rw [if_neg hc, if_neg hc]

/-- A sigma that takes another form makes another text. -/
theorem lowerBetween_ne {before after before' after' front back : List Char}
    (h : sigmaBetween (front.reverse ++ before) (back ++ after) ≠
      sigmaBetween (front.reverse ++ before') (back ++ after')) :
    lowerBetween before after (front ++ capitalSigma :: back) ≠
      lowerBetween before' after' (front ++ capitalSigma :: back) := by
  intro heq
  rw [lowerBetween_append, lowerBetween_append] at heq
  have hback := List.append_inj_right heq (length_lowerBetween _ _ _ _ front)
  rw [lowerBetween, lowerBetween, if_pos rfl, if_pos rfl] at hback
  exact h (List.cons.inj hback).1

/-! ## Sigmas left open -/

/-- The first character of a text that is not looked through is a capital sigma, and the next one is not cased or
missing. It becomes a final sigma if the text before ends in a cased character. -/
def OpenAtStart (text : List Char) : Prop :=
  ∃ front back, text = front ++ capitalSigma :: back ∧ Ignorable front ∧ nextIsCased back = false

/-- The last character of a text that is not looked through is a capital sigma, and the one before it is cased. It
becomes a final sigma unless the text after begins with a cased character. -/
def OpenAtEnd (text : List Char) : Prop :=
  ∃ front back, text = front ++ capitalSigma :: back ∧ Ignorable back ∧ nextIsCased front.reverse = true

/-- A character that is not looked through and is no capital sigma. -/
def Letter (c : Char) : Prop := caseIgnorable.contains c = false ∧ c ≠ capitalSigma

/-- Behind another letter a sigma is not open at the start. -/
theorem Letter.not_openAtStart_cons {c : Char} (hc : Letter c) (rest : List Char) : ¬ OpenAtStart (c :: rest) := by
  rintro ⟨front, back, hsplit, hfront, -⟩
  cases front with
  | nil => exact hc.2 (List.cons.inj hsplit).1
  | cons d front =>
    have hignorable := hfront d List.mem_cons_self
    rw [← (List.cons.inj hsplit).1, hc.1] at hignorable
    cases hignorable

/-- Before another letter a sigma is not open at the end. -/
theorem Letter.not_openAtEnd_append {c : Char} (hc : Letter c) (rest : List Char) : ¬ OpenAtEnd (rest ++ [c]) := by
  rintro ⟨front, back, hsplit, hback, -⟩
  have hlast := congrArg List.getLast? hsplit
  rw [List.getLast?_concat] at hlast
  rcases List.eq_nil_or_concat back with rfl | ⟨back, d, rfl⟩
  · rw [List.getLast?_concat] at hlast
    exact hc.2 (Option.some.inj hlast)
  · rw [List.concat_eq_append, ← List.cons_append, ← List.append_assoc, List.getLast?_concat] at hlast
    have hignorable := hback d (by simp)
    rw [← Option.some.inj hlast, hc.1] at hignorable
    cases hignorable

/-- What comes before a text does not count for its sigma unless the text leaves it open at its start. -/
theorem nextIsCased_reverse_append {front back before : List Char}
    (h : before = [] ∨ ¬ OpenAtStart (front ++ capitalSigma :: back)) (hback : nextIsCased back = false) :
    nextIsCased (front.reverse ++ before) = nextIsCased front.reverse := by
  by_cases hfront : Ignorable front.reverse
  · have hopen : OpenAtStart (front ++ capitalSigma :: back) :=
      ⟨front, back, rfl, fun c hc => hfront c (List.mem_reverse.2 hc), hback⟩
    rcases h with rfl | h
    · rw [List.append_nil]
    · exact absurd hopen h
  · exact nextIsCased_append hfront before

/-- What comes after a text does not count for its sigma unless the text leaves it open at its end. -/
theorem nextIsCased_append_after {front back after : List Char}
    (h : after = [] ∨ ¬ OpenAtEnd (front ++ capitalSigma :: back)) (hfront : nextIsCased front.reverse = true) :
    nextIsCased (back ++ after) = nextIsCased back := by
  by_cases hback : Ignorable back
  · rcases h with rfl | h
    · rw [List.append_nil]
    · exact absurd ⟨front, back, rfl, hback, hfront⟩ h
  · exact nextIsCased_append hback after

/-- **A text whose sigmas are settled is lowered as if it stood alone.** It is enough that they are settled on a side
where there is something. -/
theorem lowerBetween_eq_lower {before after text : List Char} (hbefore : before = [] ∨ ¬ OpenAtStart text)
    (hafter : after = [] ∨ ¬ OpenAtEnd text) : lowerBetween before after text = lower text := by
  rw [lower, lowerAfter_eq_lowerBetween]
  refine lowerBetween_congr fun front back hsplit => ?_
  rw [hsplit] at hbefore hafter
  rw [List.append_nil, List.append_nil, sigmaBetween, sigmaBetween]
  cases hback : nextIsCased back with
  | true =>
    -- A cased character comes after the sigma, so it is a small one on either side of the equation.
    have hsettled : ¬ Ignorable back := fun hignorable => by
      rw [nextIsCased_of_ignorable hignorable] at hback
      cases hback
    rw [nextIsCased_append hsettled, hback, Bool.not_true, Bool.and_false, Bool.and_false]
  | false =>
    rw [nextIsCased_reverse_append hbefore hback]
    cases hfront : nextIsCased front.reverse with
    | true => rw [nextIsCased_append_after hafter hfront, hback]
    | false => rw [Bool.false_and, Bool.false_and]

/-- Between cased characters a sigma left open at the end is a small one, and alone it is a final one. -/
theorem lowerBetween_ne_of_openAtEnd {text after : List Char} (h : OpenAtEnd text) (hafter : nextIsCased after = true) :
    lowerBetween [] after text ≠ lower text := by
  obtain ⟨front, back, rfl, hback, hfront⟩ := h
  rw [lower, lowerAfter_eq_lowerBetween]
  refine lowerBetween_ne ?_
  rw [List.append_nil, List.append_nil, sigmaBetween, sigmaBetween, hfront, nextIsCased_append_of_ignorable hback,
    hafter, nextIsCased_of_ignorable hback]
  decide

/-- After a cased character a sigma left open at the start is a final one, and alone it is a small one. -/
theorem lowerBetween_ne_of_openAtStart {text before : List Char} (h : OpenAtStart text)
    (hbefore : nextIsCased before = true) : lowerBetween before [] text ≠ lower text := by
  obtain ⟨front, back, rfl, hfront, hback⟩ := h
  have hreverse : Ignorable front.reverse := fun c hc => hfront c (List.mem_reverse.1 hc)
  rw [lower, lowerAfter_eq_lowerBetween]
  refine lowerBetween_ne ?_
  rw [List.append_nil, List.append_nil, sigmaBetween, sigmaBetween, nextIsCased_append_of_ignorable hreverse, hbefore,
    hback, nextIsCased_of_ignorable hreverse]
  decide

end Dataflow.Text
