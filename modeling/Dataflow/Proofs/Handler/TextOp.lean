import Dataflow.Handler.Flow
import Dataflow.Proofs.Value.NumberText
/-!
Text operations on lists of lists.

An operation works on the leaves of a value and leaves its lists as they are. Which leaves it takes is said here leaf by
leaf, apart from how it goes through them (`TextOp.Takes`), and so are what becomes of a leaf that is taken
(`TextOp.Makes`) and the error for one that is not (`TextOp.refusal`). A run through a value then ends in one of two
ways: all leaves are taken, or all before some leaf are and that one is refused (`TextOp.Outcome`). The ways are closed
under doing one part after the other (`TextOp.Outcome.both`), which carries the induction over values and over lists of
them.
-/

set_option autoImplicit false

namespace Dataflow

/-! ## Leaves -/

namespace Value

/-- A value that is no list. -/
def IsLeaf : Value → Prop
  | .list _ => False
  | .null | .bool _ | .number _ | .text _ | .map _ => True

/-- A boolean or a number. -/
def IsScalar : Value → Prop
  | .bool _ | .number _ => True
  | .null | .text _ | .list _ | .map _ => False

mutual

/-- The values in a list of lists that are no lists, from the left. The one leaf of any other value is the value. -/
def leaves : Value → List Value
  | .list items => leavesOf items
  | leaf => [leaf]

def leavesOf : List Value → List Value
  | [] => []
  | v :: vs => v.leaves ++ leavesOf vs

end

/-- Two values with the same lists in them, and with leaves that are related place by place. -/
inductive Leafwise (r : Value → Value → Prop) : Value → Value → Prop where
  | leaf {v image : Value} (hv : v.IsLeaf) (himage : image.IsLeaf) (h : r v image) : Leafwise r v image
  | list {vs images : List Value} (h : List.Forall₂ (Leafwise r) vs images) : Leafwise r (.list vs) (.list images)

theorem leaves_of_isLeaf {v : Value} (h : v.IsLeaf) : v.leaves = [v] := by
  cases v with
  | list vs => exact absurd h id
  | null | bool b | number x | text s | map entries =>
    rw [leaves]
    intro items h
    cases h

theorem IsScalar.isLeaf {v : Value} (h : v.IsScalar) : v.IsLeaf := by
  cases v with
  | null | text s | list vs | map entries => exact absurd h id
  | bool b | number x => exact trivial

end Value

/-! ## Texts that denote numbers -/

/-- Whether a text denotes a number, once the blanks around it are cut away. -/
def Numeric (s : String) : Prop := ∃ x, Number.read? (Text.trim s.toList) = some x

theorem numeric_iff {s : String} : Numeric s ↔ ∃ x, Value.toNumber? (.text s) = some x := Iff.rfl

theorem not_numeric_boolText (b : Bool) : ¬ Numeric (Value.boolText b) := by
  have hnone : Number.read? (Text.trim (Value.boolText b).toList) = none := by
    cases b <;> decide +kernel
  intro h
  obtain ⟨x, hx⟩ := h
  rw [hnone] at hx
  cases hx

/-- The text of a number denotes a number, also where the number is an infinity or none at all. -/
theorem numeric_text (x : Number) : Numeric x.text := by
  by_cases hfinite : x.isFinite = true
  · obtain ⟨y, hy, -⟩ := Value.exists_toNumber?_text hfinite
    exact ⟨y, hy⟩
  have hintegral : ¬ x.isIntegral = true := by
    intro h
    exact hfinite (Bool.and_eq_true_iff.1 h).1
  -- What is left is written as one of three words, and all three are read.
  rw [Number.text, if_neg hintegral]
  by_cases hnan : x.isNaN = true
  · rw [if_pos hnan]
    exact ⟨.ofParts false Number.quietMagnitude, by decide +kernel⟩
  · have hinfinite : x.isInfinite = true := by
      simp only [Number.isFinite, Number.isNaN, Number.isInfinite, decide_eq_true_eq] at *
      omega
    rw [if_neg hnan, if_pos hinfinite]
    cases x.isNegative with
    | false => exact ⟨.infinity false, by decide +kernel⟩
    | true => exact ⟨.infinity true, by decide +kernel⟩

namespace TextOp

/-! ## What an operation does with a leaf -/

/-- The operations that take booleans and numbers. -/
def TakesScalars : TextOp → Prop
  | .prepend _ | .append _ | .template _ | .length | .number => True
  | .uppercase | .lowercase | .trim => False

/-- The texts that an operation takes: all, unless it reads them as numbers. -/
def TakesText (op : TextOp) (s : String) : Prop := op = .number → Numeric s

/-- The leaves that an operation takes. -/
def Takes (op : TextOp) (leaf : Value) : Prop :=
  match leaf with
  | .null => True
  | .text s => op.TakesText s
  | .bool _ | .number _ => op.TakesScalars ∧ op.TakesText leaf.toText
  | .list _ | .map _ => False

/-- What becomes of a leaf: null stays, and any other leaf gives way to what is made of its text. -/
def Makes (op : TextOp) (leaf image : Value) : Prop :=
  leaf = .null ∧ image = .null ∨ leaf ≠ .null ∧ op.applyText leaf.toText = .ok image

/-- The mismatch by which a leaf is refused. It shows the leaf, or the text of the leaf where no number is found in
it. -/
def refusal (op : TextOp) (leaf : Value) : HandlerError :=
  match leaf with
  | .map entries => .typeMismatch op.name "text or list of text" (.map entries)
  | leaf =>
    if op = .number then .typeMismatch op.name "numeric text" (.text leaf.toText)
    else .typeMismatch op.name "text or list of text" leaf

/-- How an operation can end that goes through leaves from the left: all are taken, or it stops at the first one that
is not. -/
inductive Outcome (op : TextOp) {α : Type} (leaves : List Value) (made : α → Prop) : Except HandlerError α → Prop where
  | done {image : α} (htakes : ∀ leaf ∈ leaves, op.Takes leaf) (himage : made image) :
      Outcome op leaves made (.ok image)
  | refused (front : List Value) (leaf : Value) (back : List Value) (hleaves : leaves = front ++ leaf :: back)
      (hfront : ∀ l ∈ front, op.Takes l) (hleaf : ¬ op.Takes leaf) :
      Outcome op leaves made (.error (op.refusal leaf))

variable {op : TextOp}

namespace Outcome

variable {α β γ : Type} {leaves more : List Value} {made : α → Prop} {made' : β → Prop} {made'' : γ → Prop}

theorem of_takes {leaf : Value} {image : α} (h : op.Takes leaf) (himage : made image) :
    Outcome op [leaf] made (.ok image) := by
  refine .done ?_ himage
  intro l hl
  rw [List.mem_singleton.1 hl]
  exact h

theorem of_not_takes {leaf : Value} (h : ¬ op.Takes leaf) : Outcome op [leaf] made (.error (op.refusal leaf)) :=
  .refused [] leaf [] rfl (List.forall_mem_nil _) h

theorem map {x : Except HandlerError α} {f : α → β} (h : Outcome op leaves made x)
    (hf : ∀ image, made image → made' (f image)) : Outcome op leaves made' (x.map f) := by
  cases h with
  | done htakes himage => exact .done htakes (hf _ himage)
  | refused front leaf back hleaves hfront hleaf => exact .refused front leaf back hleaves hfront hleaf

/-- One part after the other. The second is reached when all leaves of the first are taken. -/
theorem both {x : Except HandlerError α} {y : Except HandlerError β} {f : α → β → γ} (hx : Outcome op leaves made x)
    (hy : Outcome op more made' y) (hf : ∀ a b, made a → made' b → made'' (f a b)) :
    Outcome op (leaves ++ more) made'' (do let a ← x; let b ← y; .ok (f a b)) := by
  cases hx with
  | refused front leaf back hleaves hfront hleaf =>
    -- The leaves of the second part are behind the one that is refused, and are not looked at.
    refine .refused front leaf (back ++ more) ?_ hfront hleaf
    rw [hleaves, List.append_assoc, List.cons_append]
  | done htakes himage =>
    cases hy with
    | done htakes' himage' =>
      refine .done ?_ (hf _ _ himage himage')
      intro leaf hleaf
      rcases List.mem_append.1 hleaf with hleaf | hleaf
      · exact htakes leaf hleaf
      · exact htakes' leaf hleaf
    | refused front leaf back hleaves hfront hleaf =>
      refine .refused (leaves ++ front) leaf back ?_ ?_ hleaf
      · rw [hleaves, List.append_assoc]
      · intro l hl
        rcases List.mem_append.1 hl with hl | hl
        · exact htakes l hl
        · exact hfront l hl

end Outcome

/-! ## Leaf by leaf -/

theorem takesScalars_iff : op.TakesScalars ↔ op.needsText = false := by
  cases op <;> simp [TakesScalars, needsText]

/-- A text is refused by the reading of numbers alone. -/
theorem applyText_cases (op : TextOp) (s : String) :
    (op.TakesText s ∧ ∃ image, op.applyText s = .ok image ∧ image.IsLeaf) ∨
      (op = .number ∧ ¬ op.TakesText s ∧
        op.applyText s = .error (.typeMismatch "number" "numeric text" (.text s))) := by
  cases op with
  | number =>
    rw [applyText]
    cases hread : Value.toNumber? (.text s) with
    | some x => exact .inl ⟨fun _ => ⟨x, hread⟩, .number x, rfl, trivial⟩
    | none =>
      refine .inr ⟨rfl, ?_, rfl⟩
      intro htakes
      obtain ⟨x, hx⟩ := numeric_iff.1 (htakes rfl)
      rw [hread] at hx
      cases hx
  | uppercase | lowercase | trim | prepend p | append p | template t | length =>
    refine .inl ⟨?_, _, rfl, trivial⟩
    intro h
    cases h

/-- A leaf that is taken for its text. -/
theorem outcome_applyText {v : Value} (hv : v.IsLeaf) (hnull : v ≠ .null)
    (htakes : op.Takes v ↔ op.TakesText v.toText)
    (hrefusal : op = .number → op.refusal v = .typeMismatch "number" "numeric text" (.text v.toText)) :
    Outcome op [v] (v.Leafwise op.Makes) (op.applyText v.toText) := by
  rcases op.applyText_cases v.toText with ⟨htext, image, hmade, himage⟩ | ⟨hop, htext, herror⟩
  · rw [hmade]
    exact .of_takes (htakes.2 htext) (.leaf hv himage (.inr ⟨hnull, hmade⟩))
  · rw [herror, ← hrefusal hop]
    exact .of_not_takes fun h => htext (htakes.1 h)

theorem takes_of_isScalar {v : Value} (hv : v.IsScalar) :
    op.Takes v ↔ op.needsText = false ∧ op.TakesText v.toText := by
  rw [← takesScalars_iff]
  cases v with
  | null | text s | list vs | map entries => exact absurd hv id
  | bool b | number x => exact Iff.rfl

theorem refusal_of_isScalar {v : Value} (hv : v.IsScalar) : op.refusal v =
    if op = .number then .typeMismatch op.name "numeric text" (.text v.toText)
    else .typeMismatch op.name "text or list of text" v := by
  cases v with
  | null | text s | list vs | map entries => exact absurd hv id
  | bool b | number x => rfl

theorem applyLeaf_of_isScalar {v : Value} (hv : v.IsScalar) : op.applyLeaf v =
    if op.needsText then .error (.typeMismatch op.name "text or list of text" v) else op.applyText v.toText := by
  cases v with
  | null | text s | list vs | map entries => exact absurd hv id
  | bool b | number x => rfl

/-- A boolean or a number is refused by the operations that want a text, whatever its own text is. -/
theorem outcome_scalar {v : Value} (hv : v.IsScalar) : Outcome op [v] (v.Leafwise op.Makes) (op.applyLeaf v) := by
  rw [applyLeaf_of_isScalar hv]
  by_cases hneeds : op.needsText = true
  · have hno : ¬ op.Takes v := by
      rw [takes_of_isScalar hv, hneeds]
      exact fun h => Bool.noConfusion h.1
    -- Numbers are not read by an operation that wants a text, so the mismatch shows the leaf.
    have hop : op ≠ .number := by
      rintro rfl
      cases hneeds
    have hrefusal : op.refusal v = .typeMismatch op.name "text or list of text" v := by
      rw [refusal_of_isScalar hv, if_neg hop]
    rw [if_pos hneeds, ← hrefusal]
    exact .of_not_takes hno
  · have hnull : v ≠ .null := by
      rintro rfl
      exact hv
    rw [if_neg hneeds]
    refine outcome_applyText hv.isLeaf hnull ?_ ?_
    · rw [takes_of_isScalar hv, Bool.not_eq_true _ |>.mp hneeds]
      exact and_iff_right rfl
    · rintro rfl
      rw [refusal_of_isScalar hv, if_pos rfl]
      rfl

theorem outcome_applyLeaf {v : Value} (hv : v.IsLeaf) : Outcome op [v] (v.Leafwise op.Makes) (op.applyLeaf v) := by
  cases v with
  | null => exact .of_takes trivial (.leaf trivial trivial (.inl ⟨rfl, rfl⟩))
  | list vs => exact absurd hv id
  | text s =>
    refine outcome_applyText trivial ?_ Iff.rfl ?_
    · intro h
      cases h
    · rintro rfl
      rfl
  | bool b => exact outcome_scalar trivial
  | number x => exact outcome_scalar trivial
  | map entries => exact .of_not_takes id

/-! ## Lists of lists -/

theorem apply_of_isLeaf {v : Value} (hv : v.IsLeaf) : op.apply v = op.applyLeaf v := by
  cases v with
  | list vs => exact absurd hv id
  | null | bool b | number x | text s | map entries =>
    rw [apply]
    intro items h
    cases h

theorem outcome_leaf {v : Value} (hv : v.IsLeaf) : Outcome op v.leaves (v.Leafwise op.Makes) (op.apply v) := by
  rw [Value.leaves_of_isLeaf hv, apply_of_isLeaf hv]
  exact outcome_applyLeaf hv

mutual

/-- **An operation goes through the leaves of a value and keeps its lists.** -/
theorem outcome_apply : (v : Value) → Outcome op v.leaves (v.Leafwise op.Makes) (op.apply v)
  | .list vs => by
    rw [apply, Value.leaves]
    exact (outcome_applyItems vs).map fun _ himages => .list himages
  | .null => outcome_leaf trivial
  | .bool _ => outcome_leaf trivial
  | .number _ => outcome_leaf trivial
  | .text _ => outcome_leaf trivial
  | .map _ => outcome_leaf trivial

theorem outcome_applyItems :
    (vs : List Value) → Outcome op (Value.leavesOf vs) (List.Forall₂ (Value.Leafwise op.Makes) vs) (op.applyItems vs)
  | [] => .done (List.forall_mem_nil _) .nil
  | v :: vs => (outcome_apply v).both (outcome_applyItems vs) fun _ _ => .cons

end

/-- **A text operation maps every leaf or reports the first one that it does not take.** No boolean denotes a number,
and every number does. -/
theorem apply_leafwise (op : TextOp) (v : Value) :
    ((∃ image, op.apply v = .ok image) ↔ ∀ leaf ∈ v.leaves, op.Takes leaf) ∧
    (∀ image, op.apply v = .ok image → v.Leafwise op.Makes image) ∧
    ((¬ ∀ leaf ∈ v.leaves, op.Takes leaf) → ∃ front leaf back, v.leaves = front ++ leaf :: back ∧
      (∀ l ∈ front, op.Takes l) ∧ ¬ op.Takes leaf ∧ op.apply v = .error (op.refusal leaf)) ∧
    (∀ b, ¬ number.Takes (.bool b)) ∧ (∀ x, number.Takes (.number x)) ∧
    (∀ config, ofConfig config = .ok op → (mapTexts.invoke [v] config).result = op.apply v) := by
  have hbool : ∀ b, ¬ number.Takes (.bool b) := fun b h => not_numeric_boolText b (h.2 rfl)
  have hnumber : ∀ x, number.Takes (.number x) := fun x => ⟨trivial, fun _ => numeric_text x⟩
  have hmap : ∀ config, ofConfig config = .ok op → (mapTexts.invoke [v] config).result = op.apply v :=
    fun _ hop => mapTexts_invoke hop v
  have houtcome : Outcome op v.leaves (v.Leafwise op.Makes) (op.apply v) := outcome_apply v
  -- From here on only the way in which the run ended counts.
  generalize op.apply v = result at houtcome hmap ⊢
  cases houtcome with
  | done htakes himage =>
    refine ⟨⟨fun _ => htakes, fun _ => ⟨_, rfl⟩⟩, ?_, fun h => absurd htakes h, hbool, hnumber, hmap⟩
    intro image heq
    rwa [← Except.ok.inj heq]
  | refused front leaf back hleaves hfront hleaf =>
    have hnot : ¬ ∀ leaf ∈ v.leaves, op.Takes leaf := by
      intro h
      refine hleaf (h leaf ?_)
      rw [hleaves]
      exact List.mem_append_right front List.mem_cons_self
    refine ⟨⟨?_, fun h => absurd h hnot⟩, ?_, ?_, hbool, hnumber, hmap⟩
    · rintro ⟨image, h⟩
      cases h
    · intro image h
      cases h
    · intro _
      exact ⟨front, leaf, back, hleaves, hfront, hleaf, rfl⟩

/-- A list in a list, with a boolean in it. -/
def answers : Value := .list [.text " 1 ", .list [.bool true, .null]]

/-- The settings of a node that measures texts. -/
def measuring : Config := .ofList [("op", .text "length")]

/-- Measured, the boolean has the length of its text; read as a number, it is refused, and the text before it is not. -/
theorem apply_leafwise_answers :
    ofConfig measuring = .ok .length ∧
    (∃ image, (mapTexts.invoke [answers] measuring).result = .ok image ∧ answers.Leafwise length.Makes image) ∧
    ∃ front leaf back, [.text " 1 ", .bool true, .null] = front ++ leaf :: back ∧ ¬ number.Takes leaf ∧
      number.apply answers = .error (number.refusal leaf) := by
  have hleaves : answers.leaves = [.text " 1 ", .bool true, .null] := by
    simp [answers, Value.leaves, Value.leavesOf]
  have hop : ofConfig measuring = .ok .length := rfl
  obtain ⟨hiff, hmakes, -, -, -, hinvoke⟩ := apply_leafwise .length answers
  obtain ⟨-, -, hrefused, hbool, -⟩ := apply_leafwise .number answers
  have htakes : ∀ leaf ∈ answers.leaves, length.Takes leaf := by
    rw [hleaves]
    simp [Takes, TakesScalars, TakesText]
  have hnot : ¬ ∀ leaf ∈ answers.leaves, number.Takes leaf := by
    rw [hleaves]
    intro h
    exact hbool true (h (.bool true) (by simp))
  refine ⟨hop, ?_, ?_⟩
  · obtain ⟨image, himage⟩ := hiff.2 htakes
    exact ⟨image, (hinvoke measuring hop).trans himage, hmakes image himage⟩
  · obtain ⟨front, leaf, back, hsplit, -, hleaf, herror⟩ := hrefused hnot
    exact ⟨front, leaf, back, hleaves ▸ hsplit, hleaf, herror⟩

end TextOp

end Dataflow
