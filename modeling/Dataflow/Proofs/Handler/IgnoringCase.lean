import Dataflow.Proofs.Handler.Items
import Dataflow.Proofs.Text.Case
/-!
Conditions that ignore case.

To ignore case, a condition lowers its operand and the text of the value, each as a whole, and compares them then. One
expects it to let through at least what the same condition lets through when case counts. For equality it does. A
piece of a text, though, need not be lowered as the text is: an operand that leaves a sigma open at one of its ends is
found in some text and, lowered, is not found there any more (`holds_contains_sigma`).

The main statement says for which operands this happens (`TextTest.keeps_iff_settles`): it does not where the operand
settles its sigmas on the sides where the test allows for more text, and for every other operand there is a value that
is lost.
-/

set_option autoImplicit false

namespace Dataflow

namespace Text

variable {needle text : List Char}

theorem lower_append (text back : List Char) :
    lower (text ++ back) = lowerBetween [] back text ++ lowerBetween text.reverse [] back := by
  have hparts := lower_append_append [] text back
  rw [lowerBetween, List.nil_append, List.nil_append, List.reverse_nil, List.append_nil] at hparts
  exact hparts

/-- A part of a text is lowered to a part, when its sigmas are settled on both sides. -/
theorem lower_infix (hstart : ¬ OpenAtStart needle) (hend : ¬ OpenAtEnd needle) (h : needle <:+: text) :
    lower needle <:+: lower text := by
  obtain ⟨front, back, rfl⟩ := h
  rw [lower_append_append, lowerBetween_eq_lower (.inr hstart) (.inr hend)]
  exact ⟨_, _, rfl⟩

/-- The beginning of a text is lowered to the beginning, when its sigmas are settled at its end. -/
theorem lower_prefix (hend : ¬ OpenAtEnd needle) (h : needle <+: text) : lower needle <+: lower text := by
  obtain ⟨back, rfl⟩ := h
  rw [lower_append, lowerBetween_eq_lower (.inl rfl) (.inr hend)]
  exact ⟨_, rfl⟩

/-- The end of a text is lowered to the end, when its sigmas are settled at its start. -/
theorem lower_suffix (hstart : ¬ OpenAtStart needle) (h : needle <:+ text) : lower needle <:+ lower text := by
  obtain ⟨front, rfl⟩ := h
  rw [lower_append, lowerBetween_eq_lower (.inr hstart) (.inl rfl)]
  exact ⟨_, rfl⟩

/-! ## Texts in which a needle is lost -/

/-- A list inside another one that is longer by its first element begins with that element, or is the rest. -/
theorem head?_of_infix_cons {l l' : List Char} {x : Char} (hlength : l.length = l'.length) (hne : l ≠ l')
    (h : l <:+: x :: l') : l.head? = some x := by
  rcases List.infix_cons_iff.1 h with hlead | hwithin
  · cases l with
    | nil => exact absurd (List.length_eq_zero_iff.1 hlength.symm).symm hne
    | cons y l => rw [(List.cons_prefix_cons.1 hlead).1, List.head?_cons]
  · exact absurd (hwithin.eq_of_length hlength) hne

theorem getLast?_of_infix_append_singleton {l l' : List Char} {x : Char} (hlength : l.length = l'.length) (hne : l ≠ l')
    (h : l <:+: l' ++ [x]) : l.getLast? = some x := by
  have hreverse : l.reverse <:+: x :: l'.reverse := by
    rw [← List.reverse_infix, List.reverse_append] at h
    exact h
  have hhead := head?_of_infix_cons (by simpa using hlength) (fun heq => hne (List.reverse_injective heq)) hreverse
  rw [List.head?_reverse] at hhead
  exact hhead

/-- A letter that can be put beside a needle: a cased one that is lowered to itself. -/
def PlainLetter (x : Char) : Prop := nextIsCased [x] = true ∧ x ≠ capitalSigma ∧ lowerChar x = [x]

theorem plainLetter_a : PlainLetter 'a' := by
  refine ⟨?_, ?_, ?_⟩ <;> decide +kernel

theorem plainLetter_b : PlainLetter 'b' := by
  refine ⟨?_, ?_, ?_⟩ <;> decide +kernel

theorem PlainLetter.lowerBetween_eq {x : Char} (hx : PlainLetter x) (before after : List Char) :
    lowerBetween before after [x] = [x] := by
  obtain ⟨-, hsigma, hlower⟩ := hx
  rw [lowerBetween, lowerBetween, if_neg hsigma, hlower, List.append_nil]

/-- With a letter after it, a needle that is open at its end is lowered to something else of the same length. -/
theorem exists_lower_append_letter (h : OpenAtEnd needle) {x : Char} (hx : PlainLetter x) :
    ∃ lowered, lower (needle ++ [x]) = lowered ++ [x] ∧ (lower needle).length = lowered.length ∧
      lower needle ≠ lowered := by
  refine ⟨lowerBetween [] [x] needle, ?_, ?_, (lowerBetween_ne_of_openAtEnd h hx.1).symm⟩
  · rw [lower_append, hx.lowerBetween_eq]
  · rw [lower, lowerAfter_eq_lowerBetween]
    exact length_lowerBetween [] [] [] [x] needle

/-- With a letter before it, a needle that is open at its start is lowered to something else of the same length. -/
theorem exists_lower_letter_cons (h : OpenAtStart needle) {x : Char} (hx : PlainLetter x) :
    ∃ lowered, lower (x :: needle) = x :: lowered ∧ (lower needle).length = lowered.length ∧
      lower needle ≠ lowered := by
  refine ⟨lowerBetween [x] [] needle, ?_, ?_, (lowerBetween_ne_of_openAtStart h hx.1).symm⟩
  · have hparts := lower_append [x] needle
    rw [hx.lowerBetween_eq] at hparts
    exact hparts
  · rw [lower, lowerAfter_eq_lowerBetween]
    exact length_lowerBetween [] [] [x] [] needle

theorem not_lower_prefix (h : OpenAtEnd needle) : ¬ lower needle <+: lower (needle ++ ['a']) := by
  obtain ⟨lowered, hlower, hlength, hne⟩ := exists_lower_append_letter h plainLetter_a
  rw [hlower]
  rintro ⟨rest, hrest⟩
  exact hne (List.append_inj_left hrest hlength)

theorem not_lower_suffix (h : OpenAtStart needle) : ¬ lower needle <:+ lower ('a' :: needle) := by
  obtain ⟨lowered, hlower, hlength, hne⟩ := exists_lower_letter_cons h plainLetter_a
  rw [hlower]
  rintro ⟨rest, hrest⟩
  have hinj : rest ++ lower needle = ['a'] ++ lowered := hrest
  exact hne (List.append_inj_right' hinj hlength)

/-- A needle that is open at its end and found in both of two texts would end in two letters. -/
theorem not_lower_infix_of_openAtEnd (h : OpenAtEnd needle) :
    ¬ (lower needle <:+: lower (needle ++ ['a']) ∧ lower needle <:+: lower (needle ++ ['b'])) := by
  have hlast {x : Char} (hx : PlainLetter x) (hwithin : lower needle <:+: lower (needle ++ [x])) :
      (lower needle).getLast? = some x := by
    obtain ⟨lowered, hlower, hlength, hne⟩ := exists_lower_append_letter h hx
    rw [hlower] at hwithin
    exact getLast?_of_infix_append_singleton hlength hne hwithin
  rintro ⟨ha, hb⟩
  have heq := (hlast plainLetter_a ha).symm.trans (hlast plainLetter_b hb)
  exact absurd heq (by decide)

/-- A needle that is open at its start and found in both of two texts would begin with two letters. -/
theorem not_lower_infix_of_openAtStart (h : OpenAtStart needle) :
    ¬ (lower needle <:+: lower ('a' :: needle) ∧ lower needle <:+: lower ('b' :: needle)) := by
  have hhead {x : Char} (hx : PlainLetter x) (hwithin : lower needle <:+: lower (x :: needle)) :
      (lower needle).head? = some x := by
    obtain ⟨lowered, hlower, hlength, hne⟩ := exists_lower_letter_cons h hx
    rw [hlower] at hwithin
    exact head?_of_infix_cons hlength hne hwithin
  rintro ⟨ha, hb⟩
  have heq := (hhead plainLetter_a ha).symm.trans (hhead plainLetter_b hb)
  exact absurd heq (by decide)

end Text

/-! ## Tests of texts -/

namespace TextTest

/-- The names of a test in settings. -/
def names : TextTest → List String
  | .contains => ["contains"]
  | .equals => ["equals"]
  | .startsWith => ["starts-with", "startsWith"]
  | .endsWith => ["ends-with", "endsWith"]

/-- Whether an operand settles its sigmas wherever a test allows for more text beside it. -/
def Settles (test : TextTest) (operand : List Char) : Prop :=
  match test with
  | .equals => True
  | .startsWith => ¬ Text.OpenAtEnd operand
  | .endsWith => ¬ Text.OpenAtStart operand
  | .contains => ¬ Text.OpenAtStart operand ∧ ¬ Text.OpenAtEnd operand

theorem holds_lower {test : TextTest} {operand text : List Char} (hsettles : test.Settles operand)
    (h : test.holds operand text = true) : test.holds (Text.lower operand) (Text.lower text) = true := by
  cases test with
  | contains => exact Text.contains_iff.2 (Text.lower_infix hsettles.1 hsettles.2 (Text.contains_iff.1 h))
  | equals =>
    rw [holds, beq_iff_eq] at h ⊢
    rw [h]
  | startsWith => exact Text.startsWith_iff.2 (Text.lower_prefix hsettles (Text.startsWith_iff.1 h))
  | endsWith => exact Text.endsWith_iff.2 (Text.lower_suffix hsettles (Text.endsWith_iff.1 h))

/-- **Where nothing is lost, the operand is settled.** An open operand with a letter on its open side is the text in
which it is lost; inside a text it may still be found beside that place, but not for both of two letters. -/
theorem settles_of_holds_lower {test : TextTest} {operand : List Char}
    (h : ∀ text, test.holds operand text = true → test.holds (Text.lower operand) (Text.lower text) = true) :
    test.Settles operand := by
  cases test with
  | contains =>
    have hwithin {text : List Char} (htext : operand <:+: text) : Text.lower operand <:+: Text.lower text :=
      Text.contains_iff.1 (h text (Text.contains_iff.2 htext))
    refine ⟨fun hstart => ?_, fun hend => ?_⟩
    · exact Text.not_lower_infix_of_openAtStart hstart
        ⟨hwithin (List.suffix_cons 'a' operand).isInfix, hwithin (List.suffix_cons 'b' operand).isInfix⟩
    · exact Text.not_lower_infix_of_openAtEnd hend
        ⟨hwithin (List.prefix_append operand ['a']).isInfix, hwithin (List.prefix_append operand ['b']).isInfix⟩
  | equals => trivial
  | startsWith =>
    intro hend
    have hlead := h (operand ++ ['a']) (Text.startsWith_iff.2 (List.prefix_append operand ['a']))
    exact Text.not_lower_prefix hend (Text.startsWith_iff.1 hlead)
  | endsWith =>
    intro hstart
    have hsuffix := h ('a' :: operand) (Text.endsWith_iff.2 (List.suffix_cons 'a' operand))
    exact Text.not_lower_suffix hstart (Text.endsWith_iff.1 hsuffix)

end TextTest

/-! ## Conditions and filters -/

namespace Condition

/-- By each of its names a test is asked for with the operand as text and the setting for case as it is. -/
theorem ofOperator_of_mem_names {test : TextTest} {name : String} (hname : name ∈ test.names) (operand : Option Value)
    (caseSensitive : Bool) :
    ofOperator name operand caseSensitive = .ok (.text test (Operator.operandText operand) caseSensitive) := by
  cases test with
  | contains | equals =>
    obtain rfl := List.mem_singleton.1 hname
    rfl
  | startsWith | endsWith =>
    rcases List.mem_pair.1 hname with rfl | rfl <;> rfl

/-- Settings that ask for a test by name ask for the same one when their setting for case is changed. -/
theorem ofConfig_insert_caseSensitive {config : Config} {test : TextTest} {name : String}
    (hcondition : config.get? "condition" = some (.text name)) (hname : name ∈ test.names) (caseSensitive : Bool) :
    ofConfig (config.insert "case_sensitive" (.bool caseSensitive)) =
      .ok (.text test (Operator.operandText (config.get? "value")) caseSensitive) := by
  have hcase : Config.bool? (config.insert "case_sensitive" (.bool caseSensitive)) "case_sensitive" =
      some caseSensitive := by
    rw [Config.bool?, Dict.get?_insert, if_pos rfl]
    rfl
  unfold ofConfig
  rw [hcase, Dict.get?_insert, if_neg (by decide), hcondition, Dict.get?_insert, if_neg (by decide)]
  exact ofOperator_of_mem_names hname (config.get? "value") caseSensitive

end Condition

/-- **When a condition that ignores case keeps all that one that does not ignore it keeps.** It does for an operand
whose sigmas are settled, and for no other; a filter by such an operand then keeps at least the same items. -/
theorem TextTest.keeps_iff_settles (test : TextTest) (operand : String) :
    ((∀ v, Condition.holds v (.text test operand true) = true → Condition.holds v (.text test operand false) = true) ↔
      test.Settles operand.toList) ∧
    (test.Settles operand.toList → ∀ (config : Config) (name : String) (v : Value),
      config.get? "condition" = some (.text name) → name ∈ test.names →
      Operator.operandText (config.get? "value") = operand →
      ∃ kept keptMore,
        (filterItems.invoke [v] (config.insert "case_sensitive" (.bool true))).result = .ok (.list kept) ∧
        (filterItems.invoke [v] (config.insert "case_sensitive" (.bool false))).result = .ok (.list keptMore) ∧
        kept.Sublist keptMore) := by
  have hkeeps (hsettles : test.Settles operand.toList) (v : Value)
      (h : Condition.holds v (.text test operand true) = true) :
      Condition.holds v (.text test operand false) = true := by
    rw [Condition.holds_text] at h ⊢
    exact TextTest.holds_lower hsettles h
  refine ⟨⟨fun h => ?_, hkeeps⟩, fun hsettles config name v hcondition hname hoperand => ?_⟩
  · refine TextTest.settles_of_holds_lower fun text htext => ?_
    have hv := h (.text (String.ofList text))
    rw [Condition.holds_text, Condition.holds_text] at hv
    simp only [Value.toText, Operator.folded, if_true, String.toList_ofList] at hv
    exact hv htext
  · have hread := Condition.ofConfig_insert_caseSensitive hcondition hname
    rw [hoperand] at hread
    refine ⟨_, _, Condition.filterItems_invoke (hread true) v, Condition.filterItems_invoke (hread false) v, ?_⟩
    exact List.monotone_filter_right v.items (hkeeps hsettles)

/-- The settings of a filter by a sigma between two letters. -/
def sigmaInside : Config := .ofList [("condition", .text "contains"), ("value", .text "ΟΣΟ")]

/-- A sigma between two letters is settled. -/
theorem TextTest.keeps_iff_settles_inside : TextTest.Settles .contains "ΟΣΟ".toList ∧
    (∀ v, Condition.holds v (.text .contains "ΟΣΟ" true) = true →
      Condition.holds v (.text .contains "ΟΣΟ" false) = true) ∧
    ∃ kept keptMore,
      (filterItems.invoke [.list [.text "ΟΣΟ", .text "οσο"]]
        (sigmaInside.insert "case_sensitive" (.bool true))).result = .ok (.list kept) ∧
      (filterItems.invoke [.list [.text "ΟΣΟ", .text "οσο"]]
        (sigmaInside.insert "case_sensitive" (.bool false))).result = .ok (.list keptMore) ∧
      kept.Sublist keptMore := by
  have hsettles : TextTest.Settles .contains "ΟΣΟ".toList := by
    have hletter : Text.Letter 'Ο' := by
      refine ⟨?_, ?_⟩ <;> decide +kernel
    exact ⟨hletter.not_openAtStart_cons ['Σ', 'Ο'], hletter.not_openAtEnd_append ['Ο', 'Σ']⟩
  have hkeeps := TextTest.keeps_iff_settles .contains "ΟΣΟ"
  exact ⟨hsettles, hkeeps.1.2 hsettles,
    hkeeps.2 hsettles sigmaInside "contains" (.list [.text "ΟΣΟ", .text "οσο"]) rfl (by decide) rfl⟩

/-- **A match that is lost.** The sigma at the end of the operand is lowered to a final one, and the text goes on
behind it. -/
theorem Condition.holds_contains_sigma :
    holds (.text "ΟΔΟΣΗΜΑΝΣΗ") (.text .contains "ΟΔΟΣ" true) = true ∧
      holds (.text "ΟΔΟΣΗΜΑΝΣΗ") (.text .contains "ΟΔΟΣ" false) = false := by
  decide +kernel

end Dataflow
