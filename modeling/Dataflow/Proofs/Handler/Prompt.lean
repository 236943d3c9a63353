import Dataflow.Handler.Completion
import Dataflow.Proofs.Text.Pieces
/-!
Prompts made from a template.

A template is first cut at the longer placeholder, and in what lies between the shorter one is replaced. Since the
shorter one stands inside the longer one, it is not plain that this comes to reading the template once from the left,
with the longer placeholder tried first wherever one may begin (`fill`). It does, because a placeholder has no opening
brace but its first ones: a shorter one that begins before a longer one ends before it as well.

Both ways leave the same literal pieces of the template (`literals`), and the input goes between these. They are made
without the input, so a placeholder inside the input is never looked at.
-/

set_option autoImplicit false

namespace Dataflow.Completion

open Text (after? pieces)

/-! ## One pass over the template -/

/-- What follows a placeholder at the beginning of a text. The longer one is tried first. -/
def afterPlaceholder? (text : List Char) : Option (List Char) :=
  (after? outerPlaceholder text).orElse fun _ => after? innerPlaceholder text

theorem eq_append_of_afterPlaceholder? {text tail : List Char} (h : afterPlaceholder? text = some tail) :
    text = outerPlaceholder ++ tail ∨ ¬ outerPlaceholder <+: text ∧ text = innerPlaceholder ++ tail := by
  unfold afterPlaceholder? at h
  cases houter : after? outerPlaceholder text with
  | some found =>
    rw [houter] at h
    obtain rfl := Option.some.inj h
    exact .inl (Text.eq_append_of_after? houter)
  | none =>
    rw [houter] at h
    exact .inr ⟨Text.after?_eq_none_iff.1 houter, Text.eq_append_of_after? h⟩

theorem afterPlaceholder?_eq_none_iff {text : List Char} :
    afterPlaceholder? text = none ↔ ¬ outerPlaceholder <+: text ∧ ¬ innerPlaceholder <+: text := by
  rw [← Text.after?_eq_none_iff, ← Text.after?_eq_none_iff, afterPlaceholder?]
  cases after? outerPlaceholder text <;> simp

theorem outerPlaceholder_ne_nil : outerPlaceholder ≠ [] := by decide

theorem innerPlaceholder_ne_nil : innerPlaceholder ≠ [] := by decide

theorem length_lt_of_afterPlaceholder? {text tail : List Char} (h : afterPlaceholder? text = some tail) :
    tail.length < text.length := by
  have houter := List.length_pos_of_ne_nil outerPlaceholder_ne_nil
  have hinner := List.length_pos_of_ne_nil innerPlaceholder_ne_nil
  rcases eq_append_of_afterPlaceholder? h with rfl | ⟨-, rfl⟩
  all_goals
    rw [List.length_append]
    omega

/-- A template read once from the left: a placeholder that begins at a place gives way to the input, and where none
begins the character is copied. -/
def fill (input : List Char) (template : List Char) : List Char :=
  match template with
  | [] => []
  | c :: rest =>
    match h : afterPlaceholder? (c :: rest) with
    | some tail =>
      have := length_lt_of_afterPlaceholder? h
      input ++ fill input tail
    | none => c :: fill input rest
termination_by template.length
decreasing_by
  · exact this
  · exact Nat.lt_succ_self rest.length

theorem fill_of_some {input rest tail : List Char} {c : Char} (h : afterPlaceholder? (c :: rest) = some tail) :
    fill input (c :: rest) = input ++ fill input tail := by
  rw [fill]
  split
  · rename_i found hfound
    rw [h] at hfound
    obtain rfl := Option.some.inj hfound
    rfl
  · rename_i hnone
    rw [h] at hnone
    cases hnone

theorem fill_of_none {input rest : List Char} {c : Char} (h : afterPlaceholder? (c :: rest) = none) :
    fill input (c :: rest) = c :: fill input rest := by
  rw [fill]
  split
  · rename_i found hfound
    rw [h] at hfound
    cases hfound
  · rfl

/-! ## The pieces of a template -/

/-- The text of a template between its placeholders. -/
def literals (template : List Char) : List (List Char) :=
  (pieces outerPlaceholder template).flatMap (pieces innerPlaceholder)

theorem literals_ne_nil (template : List Char) : literals template ≠ [] := by
  obtain ⟨piece, others, hpieces, -⟩ := Text.exists_pieces_eq_cons outerPlaceholder_ne_nil template
  rw [literals, hpieces, List.flatMap_cons]
  exact List.append_ne_nil_of_left_ne_nil (Text.pieces_ne_nil innerPlaceholder_ne_nil piece) _

theorem literals_nil : literals [] = [[]] := by
  rw [literals, Text.pieces_nil outerPlaceholder_ne_nil, List.flatMap_cons, List.flatMap_nil,
    Text.pieces_nil innerPlaceholder_ne_nil]
  rfl

/-- No piece holds a placeholder, neither the shorter one nor the longer one around it. -/
theorem not_infix_of_mem_literals {template piece : List Char} (h : piece ∈ literals template) :
    ¬ innerPlaceholder <:+: piece := by
  obtain ⟨between, -, hpiece⟩ := List.mem_flatMap.1 h
  exact Text.not_infix_of_mem_pieces innerPlaceholder_ne_nil hpiece

/-- Where the longer placeholder begins, a piece ends. -/
theorem literals_outer (tail : List Char) : literals (outerPlaceholder ++ tail) = [] :: literals tail := by
  rw [literals, Text.pieces_append outerPlaceholder_ne_nil, List.flatMap_cons,
    Text.pieces_nil innerPlaceholder_ne_nil]
  rfl

/-- The longer placeholder begins at no place inside the shorter one but the first: there is no other brace to begin
with. So the first cut leaves a shorter one whole. -/
theorem pieces_outer_append_inner {tail : List Char} (h : ¬ outerPlaceholder <+: innerPlaceholder ++ tail) :
    pieces outerPlaceholder (innerPlaceholder ++ tail) =
      (pieces outerPlaceholder tail).modifyHead (innerPlaceholder ++ ·) := by
  have hbrace : outerPlaceholder.head outerPlaceholder_ne_nil ∉ innerPlaceholder.tail := by decide
  have hrest : pieces outerPlaceholder (innerPlaceholder.tail ++ tail) =
      (pieces outerPlaceholder tail).modifyHead (innerPlaceholder.tail ++ ·) :=
    Text.pieces_append_of_head outerPlaceholder_ne_nil hbrace
  have hcons : innerPlaceholder = '\x7b' :: innerPlaceholder.tail := by decide
  rw [hcons, List.cons_append] at h ⊢
  rw [Text.pieces_cons outerPlaceholder_ne_nil h, hrest, List.modifyHead_modifyHead]
  rfl

/-- Where the shorter placeholder begins and not the longer one, a piece ends as well. -/
theorem literals_inner {tail : List Char} (h : ¬ outerPlaceholder <+: innerPlaceholder ++ tail) :
    literals (innerPlaceholder ++ tail) = [] :: literals tail := by
  obtain ⟨piece, others, hpieces, -⟩ := Text.exists_pieces_eq_cons outerPlaceholder_ne_nil tail
  have hinner : pieces innerPlaceholder (innerPlaceholder ++ piece) = [] :: pieces innerPlaceholder piece :=
    Text.pieces_append innerPlaceholder_ne_nil piece
  rw [literals, literals, pieces_outer_append_inner h, hpieces, List.modifyHead_cons, List.flatMap_cons,
    List.flatMap_cons, hinner]
  rfl

/-- Elsewhere a piece goes on by one character. -/
theorem literals_cons {c : Char} {rest : List Char} (houter : ¬ outerPlaceholder <+: c :: rest)
    (hinner : ¬ innerPlaceholder <+: c :: rest) : literals (c :: rest) = (literals rest).modifyHead (c :: ·) := by
  obtain ⟨piece, others, hpieces, hlead⟩ := Text.exists_pieces_eq_cons outerPlaceholder_ne_nil rest
  obtain ⟨first, more, hfirst, -⟩ := Text.exists_pieces_eq_cons innerPlaceholder_ne_nil piece
  -- The piece begins as the rest does, so the shorter placeholder does not begin there either.
  have hpiece : ¬ innerPlaceholder <+: c :: piece :=
    fun h => hinner (h.trans (List.cons_prefix_cons.2 ⟨rfl, hlead⟩))
  rw [literals, literals, Text.pieces_cons outerPlaceholder_ne_nil houter, hpieces, List.modifyHead_cons,
    List.flatMap_cons, List.flatMap_cons, Text.pieces_cons innerPlaceholder_ne_nil hpiece, hfirst]
  rfl

/-! ## Both ways -/

/-- One pass puts the input between the pieces. -/
theorem fill_eq_intercalate (input template : List Char) :
    fill input template = input.intercalate (literals template) := by
  induction hlength : template.length using Nat.strong_induction_on generalizing template with
  | _ length ih =>
    cases template with
    | nil => rw [fill, literals_nil, List.intercalate_singleton]
    | cons c rest =>
      cases hfound : afterPlaceholder? (c :: rest) with
      | some tail =>
        have hrest : fill input tail = input.intercalate (literals tail) :=
          ih tail.length (hlength ▸ length_lt_of_afterPlaceholder? hfound) tail rfl
        have hpieces : literals (c :: rest) = [] :: literals tail := by
          rcases eq_append_of_afterPlaceholder? hfound with htext | ⟨houter, htext⟩
          · rw [htext, literals_outer]
          · rw [htext] at houter ⊢
            exact literals_inner houter
        rw [fill_of_some hfound, hrest, hpieces, List.intercalate_cons_of_ne_nil (literals_ne_nil tail)]
        rfl
      | none =>
        have hrest : fill input rest = input.intercalate (literals rest) :=
          ih rest.length (by rw [← hlength, List.length_cons]; omega) rest rfl
        obtain ⟨houter, hinner⟩ := afterPlaceholder?_eq_none_iff.1 hfound
        rw [fill_of_none hfound, hrest, literals_cons houter hinner,
          Text.intercalate_modifyHead_cons (literals_ne_nil rest)]

/-- So does cutting and replacing. -/
theorem renderPrompt_eq_intercalate (template input : List Char) :
    renderPrompt template input = input.intercalate (literals template) :=
  (Text.intercalate_flatMap fun piece _ => Text.pieces_ne_nil innerPlaceholder_ne_nil piece).symm

/-- The template in the settings of a node. -/
def templateOf (config : Config) : String :=
  match config.text? "prompt", config.text? "user_prompt" with
  | some template, _ => template
  | none, some template => template
  | none, none => "\x7b\x7binput\x7d\x7d"

theorem request_prompt (config : Config) (input : String) :
    (request config input).prompt = String.ofList (renderPrompt (templateOf config).toList input.toList) := by
  unfold request templateOf
  cases config.text? "prompt" <;> cases config.text? "user_prompt" <;> rfl

/-- **A prompt is made in one pass over its template.** What a request asks for is the template read once from the
left, with the input in the places of the placeholders. So a template has literal pieces, without a placeholder in any
of them, that stand in every prompt made from it with the input between them. -/
theorem prompt_eq_fill (config : Config) :
    (∀ input : String, (request config input).prompt =
      String.ofList (fill input.toList (templateOf config).toList)) ∧
    ∀ template : List Char, (∀ input, renderPrompt template input = fill input template) ∧
      ∃ pieces : List (List Char), pieces ≠ [] ∧ (∀ piece ∈ pieces, ¬ innerPlaceholder <:+: piece) ∧
        ∀ input, renderPrompt template input = input.intercalate pieces := by
  have hfill (template input : List Char) : renderPrompt template input = fill input template := by
    rw [renderPrompt_eq_intercalate, fill_eq_intercalate]
  refine ⟨?_, ?_⟩
  · intro input
    rw [request_prompt, hfill]
  · intro template
    exact ⟨hfill template, literals template, literals_ne_nil template, fun _ => not_infix_of_mem_literals,
      renderPrompt_eq_intercalate template⟩

/-- Braces that are left over stay, and a placeholder in the input does as well. -/
example : renderPrompt "\x7b\x7b\x7binput\x7d\x7d \x7binput\x7d\x7d".toList "\x7binput\x7d".toList =
    "\x7b\x7binput\x7d \x7binput\x7d\x7d".toList := by cbv

end Dataflow.Completion
