import Dataflow.Handler.Condition
import Dataflow.Proofs.Text.Search
/-!
The language of conditions.

A condition is read once from a node's settings and then asked about every value. The language is given here
without conditions and without that order of work: `Description.WellFormed` says which data describe a condition,
`Description.Means` what a description says of a value, both by recursion on the data. Reading and asking come to
the same (`ofConfig_reads`): `Condition.ofConfig` succeeds on the well-formed descriptions only, and what it
returns holds of the values that the description means.

The setting for case comes from the operator's own object, else from the settings of the node; an object that
combines others hands the node's setting on and never its own.
-/

set_option autoImplicit false

namespace Dataflow

/-! ## Operators -/

inductive Operator where
  | contains
  | excludes
  | equals
  | startsWith
  | endsWith
  | regex
  | minLength
  | greaterThan
  | lessThan
  | isEmpty

namespace Operator

/-- The names of the operators; three of them go by two. -/
def names : List (String × Operator) := [
  ("contains", .contains), ("excludes", .excludes), ("equals", .equals),
  ("starts-with", .startsWith), ("startsWith", .startsWith), ("ends-with", .endsWith), ("endsWith", .endsWith),
  ("regex", .regex), ("min-length", .minLength), ("length", .minLength),
  ("greater-than", .greaterThan), ("less-than", .lessThan), ("is-empty", .isEmpty)]

def named? (name : String) : Option Operator := names.lookup name

/-- An operand as text; a missing one is the empty text. -/
def operandText (operand : Option Value) : String := (operand.map Value.toText).getD ""

/-- An operand as a number, when there is one and it stands for a number. -/
def operandNumber? (operand : Option Value) : Option Number := operand.bind Value.toNumber?

/-- The characters of a text that count when case counts, or does not. -/
def folded (caseSensitive : Bool) (s : String) : List Char :=
  if caseSensitive then s.toList else Text.lower s.toList

/-- Whether an operator can do with an operand. A bound on the length must not be below zero, which a NaN is
not. -/
def Accepts (op : Operator) (caseSensitive : Bool) (operand : Option Value) : Prop :=
  match op with
  | .regex => ∃ p, Pattern.read (!caseSensitive) (operandText operand) = .ok p
  | .minLength => ∃ x, operandNumber? operand = some x ∧ x.lt .zero = false
  | .greaterThan | .lessThan => ∃ x, operandNumber? operand = some x
  | .contains | .excludes | .equals | .startsWith | .endsWith | .isEmpty => True

/-- A value in which there is nothing: null, a text of blanks, or a container without parts. -/
def Vacant : Value → Prop
  | .null => True
  | .text s => ∀ c ∈ s.toList, Text.isBlank c = true
  | .list items => items = []
  | .map entries => entries = []
  | .bool _ | .number _ => False

/-- What an operator with an operand says of a value. -/
def Holds (op : Operator) (caseSensitive : Bool) (operand : Option Value) (v : Value) : Prop :=
  match op with
  | .contains => folded caseSensitive (operandText operand) <:+: folded caseSensitive v.toText
  | .excludes => ¬ folded caseSensitive (operandText operand) <:+: folded caseSensitive v.toText
  | .equals => folded caseSensitive v.toText = folded caseSensitive (operandText operand)
  | .startsWith => folded caseSensitive (operandText operand) <+: folded caseSensitive v.toText
  | .endsWith => folded caseSensitive (operandText operand) <:+ folded caseSensitive v.toText
  | .regex => ∃ p, Pattern.read (!caseSensitive) (operandText operand) = .ok p ∧ p.search v.toText.toList = true
  | .minLength => ∃ x, operandNumber? operand = some x ∧ x.toCount ≤ v.toText.toList.length
  | .greaterThan => ∃ bound x, operandNumber? operand = some bound ∧ v.toNumber? = some x ∧ bound.lt x = true
  | .lessThan => ∃ bound x, operandNumber? operand = some bound ∧ v.toNumber? = some x ∧ x.lt bound = true
  | .isEmpty => Vacant v

end Operator

/-- An operator by name, with what it is given. -/
structure Leaf where
  name : String
  operand : Option Value
  caseSensitive : Bool

namespace Leaf

/-- The operator that an object names in its `op` entry. Its own case setting wins over the one around it. -/
def ofEntries? (caseSensitive : Bool) (entries : List (String × Value)) : Option Leaf :=
  ((entries.lookup "op").bind Value.text?).map fun name =>
    ⟨name, entries.lookup "value", ((entries.lookup "case_sensitive").bind Value.bool?).getD caseSensitive⟩

def Accepted (leaf : Leaf) : Prop :=
  ∃ op, Operator.named? leaf.name = some op ∧ op.Accepts leaf.caseSensitive leaf.operand

def Means (leaf : Leaf) (v : Value) : Prop :=
  ∃ op, Operator.named? leaf.name = some op ∧ op.Holds leaf.caseSensitive leaf.operand v

end Leaf

/-! ## Descriptions -/

namespace Description

/-- What an object says first of all. -/
inductive Form where
  | all (conditions : Value)
  | any (conditions : Value)
  | not (condition : Value)
  | operator

/-- The part of an object that decides what it says. -/
def Form.part? : Form → Option Value
  | .all v | .any v | .not v => some v
  | .operator => none

/-- The entry that decides what an object says: `all`, else `any`, else `not`, and without them an operator. -/
def form (entries : List (String × Value)) : Form :=
  match entries.lookup "all", entries.lookup "any", entries.lookup "not" with
  | some conditions, _, _ => .all conditions
  | none, some conditions, _ => .any conditions
  | none, none, some condition => .not condition
  | none, none, none => .operator

/-- The descriptions of conditions, under the case setting of the node. -/
inductive WellFormed (caseSensitive : Bool) : Value → Prop where
  | all {entries : List (String × Value)} {items : List Value} (decided : form entries = .all (.list items))
      (each : ∀ item ∈ items, WellFormed caseSensitive item) : WellFormed caseSensitive (.map entries)
  | any {entries : List (String × Value)} {items : List Value} (decided : form entries = .any (.list items))
      (each : ∀ item ∈ items, WellFormed caseSensitive item) : WellFormed caseSensitive (.map entries)
  | not {entries : List (String × Value)} {inner : Value} (decided : form entries = .not inner)
      (inside : WellFormed caseSensitive inner) : WellFormed caseSensitive (.map entries)
  | operator {entries : List (String × Value)} {leaf : Leaf} (decided : form entries = .operator)
      (named : Leaf.ofEntries? caseSensitive entries = some leaf) (accepted : leaf.Accepted) :
      WellFormed caseSensitive (.map entries)

theorem sizeOf_lookup {entries : List (String × Value)} {key : String} {v : Value}
    (h : entries.lookup key = some v) : sizeOf v < sizeOf entries := by
  induction entries with
  | nil => simp at h
  | cons e entries ih =>
    obtain ⟨k, w⟩ := e
    rw [List.lookup_cons] at h
    split at h
    · cases h
      simp
      omega
    · have := ih h
      simp
      omega

/-- What decides an object is a part of it. -/
theorem sizeOf_part {entries : List (String × Value)} {v : Value} (h : (form entries).part? = some v) :
    sizeOf v < sizeOf entries := by
  unfold form at h
  split at h
  · cases h
    exact sizeOf_lookup ‹entries.lookup "all" = some v›
  · cases h
    exact sizeOf_lookup ‹entries.lookup "any" = some v›
  · cases h
    exact sizeOf_lookup ‹entries.lookup "not" = some v›
  · cases h

theorem sizeOf_item {entries : List (String × Value)} {items : List Value}
    (h : (form entries).part? = some (.list items)) {item : Value} (hitem : item ∈ items) :
    sizeOf item < sizeOf entries := by
  have hitems := List.sizeOf_lt_of_mem hitem
  have hpart := sizeOf_part h
  simp at hpart
  omega

/-- What a description says of a value. -/
def Means (caseSensitive : Bool) (description v : Value) : Prop :=
  match description with
  | .map entries =>
    match _h : form entries with
    | .all (.list items) => ∀ item ∈ items, Means caseSensitive item v
    | .any (.list items) => ∃ item, ∃ _ : item ∈ items, Means caseSensitive item v
    | .not inner => ¬ Means caseSensitive inner v
    | .operator => ∃ leaf, Leaf.ofEntries? caseSensitive entries = some leaf ∧ leaf.Means v
    | _ => False
  | _ => False
termination_by sizeOf description
decreasing_by
  · have := sizeOf_item (show (form entries).part? = some (.list items) by rw [_h]; rfl) ‹_ ∈ items›
    simp
    omega
  · have := sizeOf_item (show (form entries).part? = some (.list items) by rw [_h]; rfl) ‹_ ∈ items›
    simp
    omega
  · have := sizeOf_part (show (form entries).part? = some inner by rw [_h]; rfl)
    simp
    omega

section

variable {caseSensitive : Bool} {entries : List (String × Value)} {v : Value}

/-- An object is well-formed when what decides it is. -/
theorem wellFormed_map_iff : WellFormed caseSensitive (.map entries) ↔
    match form entries with
    | .all conditions | .any conditions =>
      ∃ items, conditions = .list items ∧ ∀ item ∈ items, WellFormed caseSensitive item
    | .not inner => WellFormed caseSensitive inner
    | .operator => ∃ leaf, Leaf.ofEntries? caseSensitive entries = some leaf ∧ leaf.Accepted := by
  constructor
  · rintro (⟨decided, each⟩ | ⟨decided, each⟩ | ⟨decided, inside⟩ | ⟨decided, named, accepted⟩)
    · rw [decided]
      exact ⟨_, rfl, each⟩
    · rw [decided]
      exact ⟨_, rfl, each⟩
    · rw [decided]
      exact inside
    · rw [decided]
      exact ⟨_, named, accepted⟩
  · intro h
    cases decided : form entries with
    | all conditions =>
      rw [decided] at h
      obtain ⟨items, rfl, each⟩ := h
      exact .all decided each
    | any conditions =>
      rw [decided] at h
      obtain ⟨items, rfl, each⟩ := h
      exact .any decided each
    | not inner =>
      rw [decided] at h
      exact .not decided h
    | operator =>
      rw [decided] at h
      obtain ⟨leaf, named, accepted⟩ := h
      exact .operator decided named accepted

theorem means_all_iff {items : List Value} (h : form entries = .all (.list items)) :
    Means caseSensitive (.map entries) v ↔ ∀ item ∈ items, Means caseSensitive item v := by
  rw [Means]
  split <;> simp_all

theorem means_any_iff {items : List Value} (h : form entries = .any (.list items)) :
    Means caseSensitive (.map entries) v ↔ ∃ item ∈ items, Means caseSensitive item v := by
  rw [Means]
  split <;> simp_all

theorem means_not_iff {inner : Value} (h : form entries = .not inner) :
    Means caseSensitive (.map entries) v ↔ ¬ Means caseSensitive inner v := by
  rw [Means]
  split <;> simp_all

theorem means_operator_iff (h : form entries = .operator) :
    Means caseSensitive (.map entries) v ↔
      ∃ leaf, Leaf.ofEntries? caseSensitive entries = some leaf ∧ leaf.Means v := by
  rw [Means]
  split <;> simp_all

end

end Description

/-! ## Reading -/

namespace Condition

open Description (form WellFormed Means wellFormed_map_iff means_all_iff means_any_iff means_not_iff
  means_operator_iff)

/-- What a reader comes to: it succeeds on what is well-formed and on nothing else, and what it returns is right. -/
structure Reads {α : Type} (r : Except ConditionFault α) (wellFormed : Prop) (right : α → Prop) : Prop where
  accepts : (∃ a, r = .ok a) ↔ wellFormed
  sound : ∀ a, r = .ok a → right a

namespace Reads

variable {α β γ : Type} {wellFormed wellFormed' : Prop} {right right' : α → Prop}

theorem ok {a : α} (accepted : wellFormed) (ha : right a) : Reads (.ok a) wellFormed right where
  accepts := ⟨fun _ => accepted, fun _ => ⟨a, rfl⟩⟩
  sound := by
    intro b hb
    cases hb
    exact ha

theorem error {fault : ConditionFault} (refused : ¬ wellFormed) : Reads (.error fault) wellFormed right where
  accepts := by
    constructor
    · rintro ⟨_, h⟩
      cases h
    · intro h
      exact absurd h refused
  sound := fun _ h => nomatch h

theorem congr {r : Except ConditionFault α} (reads : Reads r wellFormed right) (hw : wellFormed ↔ wellFormed')
    (hr : ∀ a, right a → right' a) : Reads r wellFormed' right' where
  accepts := reads.accepts.trans hw
  sound := fun a ha => hr a (reads.sound a ha)

theorem map {r : Except ConditionFault α} (reads : Reads r wellFormed right) {f : α → β} {right' : β → Prop}
    (hf : ∀ a, right a → right' (f a)) : Reads (r.map f) wellFormed right' := by
  cases r with
  | error fault => exact error fun h => nomatch (reads.accepts.2 h).choose_spec
  | ok a => exact ok (reads.accepts.1 ⟨a, rfl⟩) (hf a (reads.sound a rfl))

/-- Two readers one after the other. -/
theorem both {r : Except ConditionFault α} {s : Except ConditionFault β} {right' : β → Prop}
    (first : Reads r wellFormed right) (second : Reads s wellFormed' right') {f : α → β → γ} {right'' : γ → Prop}
    (hf : ∀ a b, right a → right' b → right'' (f a b)) :
    Reads (do let a ← r; let b ← s; .ok (f a b)) (wellFormed ∧ wellFormed') right'' := by
  cases r with
  | error fault => exact error fun h => nomatch (first.accepts.2 h.1).choose_spec
  | ok a =>
    cases s with
    | error fault => exact error fun h => nomatch (second.accepts.2 h.2).choose_spec
    | ok b =>
      exact ok ⟨first.accepts.1 ⟨a, rfl⟩, second.accepts.1 ⟨b, rfl⟩⟩ (hf a b (first.sound a rfl) (second.sound b rfl))

end Reads

/-- A condition holds of the values that a description means and of no others. -/
def Says (c : Condition) (means : Value → Prop) : Prop := ∀ v, holds v c = true ↔ means v

section

variable {caseSensitive : Bool} {operand : Option Value} {entries : List (String × Value)} {v : Value}

/-! ### Operators -/

/-- The two texts are lowered or not, but never one of them alone. -/
theorem holds_text (test : TextTest) (operand : String) (caseSensitive : Bool) (v : Value) :
    holds v (.text test operand caseSensitive) =
      test.holds (Operator.folded caseSensitive operand) (Operator.folded caseSensitive v.toText) := by
  cases caseSensitive <;> simp [holds, Operator.folded]

theorem isEmptyValue_iff : isEmptyValue v = true ↔ Operator.Vacant v := by
  cases v with
  | text s =>
    unfold isEmptyValue Operator.Vacant
    rw [List.isEmpty_iff, Text.trim_eq_nil_iff]
  | _ => simp [isEmptyValue, Operator.Vacant]

theorem holds_greaterThan_iff {bound : Number} :
    holds v (.greaterThan bound) = true ↔ ∃ x, v.toNumber? = some x ∧ bound.lt x = true := by
  cases h : v.toNumber? <;> simp [holds, h]

theorem holds_lessThan_iff {bound : Number} :
    holds v (.lessThan bound) = true ↔ ∃ x, v.toNumber? = some x ∧ x.lt bound = true := by
  cases h : v.toNumber? <;> simp [holds, h]

/-- Only the operator that a name stands for has a say. -/
theorem Reads.of_named {r : Except ConditionFault Condition} {name : String} (op : Operator)
    (named : Operator.named? name = some op)
    (reads : Reads r (op.Accepts caseSensitive operand) (Says · (op.Holds caseSensitive operand))) :
    Reads r (Leaf.Accepted ⟨name, operand, caseSensitive⟩) (Says · (Leaf.Means ⟨name, operand, caseSensitive⟩)) := by
  refine reads.congr ?_ fun c hc v => ?_
  · simp [Leaf.Accepted, named]
  · rw [hc v]
    simp [Leaf.Means, named]

section

variable {number : Except ConditionFault Number} {fault : ConditionFault}
  (hnumber : number = match Operator.operandNumber? operand with
    | some x => .ok x
    | none => .error fault)

include hnumber

theorem minLength_reads :
    Reads (do let x ← number; if x.lt .zero then .error .negativeLength else .ok (.minLength x.toCount))
      (Operator.minLength.Accepts caseSensitive operand) (Says · (Operator.minLength.Holds caseSensitive operand)) := by
  subst hnumber
  cases h : Operator.operandNumber? operand with
  | none => exact .error (by simp [Operator.Accepts, h])
  | some x =>
    -- The bound is refused when it is below zero, and a NaN is below nothing.
    cases hx : x.lt .zero with
    | true =>
      simp only [bind, Except.bind, hx]
      exact .error (by simp [Operator.Accepts, h, hx])
    | false =>
      simp only [bind, Except.bind, hx]
      exact .ok ⟨x, h, hx⟩ fun v => by simp [Operator.Holds, holds, h]

/-- A bound is read from any operand that stands for a number. -/
theorem bound_reads {make : Number → Condition} {within : Number → Number → Bool}
    (hmake : ∀ bound v, holds v (make bound) = true ↔ ∃ x, v.toNumber? = some x ∧ within bound x = true) :
    Reads (number.map make) (∃ x, Operator.operandNumber? operand = some x)
      (Says · fun v => ∃ bound x, Operator.operandNumber? operand = some bound ∧ v.toNumber? = some x ∧
        within bound x = true) := by
  subst hnumber
  cases h : Operator.operandNumber? operand with
  | none => exact .error (by simp)
  | some bound => exact .ok ⟨bound, rfl⟩ fun v => by simpa using hmake bound v

end

theorem ofOperator_reads (name : String) (operand : Option Value) (caseSensitive : Bool) :
    Reads (ofOperator name operand caseSensitive) (Leaf.Accepted ⟨name, operand, caseSensitive⟩)
      (Says · (Leaf.Means ⟨name, operand, caseSensitive⟩)) := by
  -- One case for each name, and one for all other texts.
  fun_cases ofOperator name operand caseSensitive with
  | case1 =>
    refine .of_named .contains rfl (.ok trivial fun v => ?_)
    rw [holds_text]
    exact Text.contains_iff
  | case2 =>
    refine .of_named .excludes rfl (.ok trivial fun v => ?_)
    rw [holds, holds_text, Bool.not_eq_true', ← Bool.not_eq_true]
    exact not_congr Text.contains_iff
  | case3 =>
    refine .of_named .equals rfl (.ok trivial fun v => ?_)
    rw [holds_text]
    exact beq_iff_eq
  | case4 | case5 =>
    refine .of_named .startsWith rfl (.ok trivial fun v => ?_)
    rw [holds_text]
    exact Text.startsWith_iff
  | case6 | case7 =>
    refine .of_named .endsWith rfl (.ok trivial fun v => ?_)
    rw [holds_text]
    exact Text.endsWith_iff
  | case8 text p hp =>
    refine .of_named .regex rfl (.ok ⟨p, hp⟩ fun v => ?_)
    constructor
    · intro h
      exact ⟨p, hp, h⟩
    · rintro ⟨q, hq, h⟩
      -- A text is read as one pattern only.
      cases hp.symm.trans hq
      exact h
  | case9 text fault hfault =>
    refine .of_named .regex rfl (.error ?_)
    rintro ⟨p, hp⟩
    cases hfault.symm.trans hp
  | case10 | case11 => exact .of_named .minLength rfl (minLength_reads rfl)
  | case12 => exact .of_named .greaterThan rfl (bound_reads rfl fun _ _ => holds_greaterThan_iff)
  | case13 => exact .of_named .lessThan rfl (bound_reads rfl fun _ _ => holds_lessThan_iff)
  | case14 => exact .of_named .isEmpty rfl (.ok trivial fun v => isEmptyValue_iff)
  | case15 =>
    have unnamed : Operator.named? name = none := by
      unfold Operator.named?
      rw [List.lookup_eq_none_iff]
      simp_all [Operator.names]
    exact .error (by simp [Leaf.Accepted, unnamed])

/-! ### Objects and lists -/

theorem combinations_eq (caseSensitive : Bool) (entries : List (String × Value)) :
    combinations caseSensitive entries =
      { all := (entries.lookup "all").map (ofList caseSensitive)
        any := (entries.lookup "any").map (ofList caseSensitive)
        not := (entries.lookup "not").map (ofObject .notWantsObject caseSensitive) } := by
  induction entries with
  | nil => simp [combinations]
  | cons e entries ih =>
    obtain ⟨key, v⟩ := e
    -- An entry writes over what is found behind it, as the first of two is the one that a look-up finds.
    simp only [combinations, ih, List.lookup_cons]
    split_ifs with hall hany hnot
    · simp [hall]
    · simp [hany]
    · simp [hnot]
    · have ne {other : String} (h : ¬ key = other) : (other == key) = false := by simpa using Ne.symm h
      simp [ne hall, ne hany, ne hnot]

/-- An object is read by the entry that decides it; the others are not looked at. -/
theorem ofCombinations_eq (caseSensitive : Bool) (entries : List (String × Value)) :
    ofCombinations caseSensitive (combinations caseSensitive entries) entries =
      match form entries with
      | .all conditions => (ofList caseSensitive conditions).map .all
      | .any conditions => (ofList caseSensitive conditions).map .any
      | .not condition => (ofObject .notWantsObject caseSensitive condition).map .not
      | .operator => ofLeaf caseSensitive entries := by
  rw [combinations_eq]
  unfold form
  cases entries.lookup "all" with
  | some conditions => rfl
  | none =>
    cases entries.lookup "any" with
    | some conditions => rfl
    | none => cases entries.lookup "not" <;> rfl

theorem ofList_of_ne_list {conditions : Value} (h : ∀ items, conditions ≠ .list items) :
    ofList caseSensitive conditions = .error .combinationWantsList := by
  cases conditions with
  | list items => exact absurd rfl (h items)
  | _ => rfl

theorem ofLeaf_reads (h : form entries = .operator) :
    Reads (ofLeaf caseSensitive entries) (WellFormed caseSensitive (.map entries))
      (Says · (Means caseSensitive (.map entries))) := by
  unfold ofLeaf
  cases hop : (entries.lookup "op").bind Value.text? with
  | none =>
    refine .error ?_
    rw [wellFormed_map_iff, h]
    simp [Leaf.ofEntries?, hop]
  | some name =>
    refine (ofOperator_reads name _ _).congr ?_ fun c hc v => ?_
    · rw [wellFormed_map_iff, h]
      simp [Leaf.ofEntries?, hop]
    · rw [hc v, means_operator_iff h]
      simp [Leaf.ofEntries?, hop]

/-- Item by item, the conditions say what the descriptions mean. -/
abbrev SayAll (caseSensitive : Bool) (items : List Value) (conditions : List Condition) : Prop :=
  List.Forall₂ (fun item c => Says c (Means caseSensitive item)) items conditions

theorem allHold_iff {items : List Value} {conditions : List Condition} (h : SayAll caseSensitive items conditions) :
    allHold v conditions = true ↔ ∀ item ∈ items, Means caseSensitive item v := by
  induction h with
  | nil => simp [allHold]
  | cons head _ ih => rw [allHold, Bool.and_eq_true, head v, ih, List.forall_mem_cons]

theorem anyHolds_iff {items : List Value} {conditions : List Condition} (h : SayAll caseSensitive items conditions) :
    anyHolds v conditions = true ↔ ∃ item ∈ items, Means caseSensitive item v := by
  induction h with
  | nil => simp [anyHolds]
  | cons head _ ih => rw [anyHolds, Bool.or_eq_true, head v, ih, List.exists_mem_cons_iff]

theorem ofItems_reads {items : List Value}
    (each : ∀ item ∈ items, Reads (ofObject .nestedWantsObject caseSensitive item) (WellFormed caseSensitive item)
      (Says · (Means caseSensitive item))) :
    Reads (ofItems caseSensitive items) (∀ item ∈ items, WellFormed caseSensitive item)
      (SayAll caseSensitive items) := by
  induction items with
  | nil => exact .ok (by simp) .nil
  | cons item items ih =>
    rw [ofItems, List.forall_mem_cons]
    have head := each item List.mem_cons_self
    have tail := ih fun other hother => each other (List.mem_cons_of_mem _ hother)
    exact head.both tail fun c cs hc hcs => .cons hc hcs

theorem ofList_reads {conditions : Value}
    (each : ∀ items, conditions = .list items → ∀ item ∈ items,
      Reads (ofObject .nestedWantsObject caseSensitive item) (WellFormed caseSensitive item)
        (Says · (Means caseSensitive item))) :
    Reads (ofList caseSensitive conditions)
      (∃ items, conditions = .list items ∧ ∀ item ∈ items, WellFormed caseSensitive item)
      (fun cs => ∃ items, conditions = .list items ∧ SayAll caseSensitive items cs) := by
  by_cases h : ∃ items, conditions = .list items
  · obtain ⟨items, rfl⟩ := h
    refine (ofItems_reads (each items rfl)).congr ?_ fun cs hcs => ⟨items, rfl, hcs⟩
    simp
  · rw [ofList_of_ne_list fun items hitems => h ⟨items, hitems⟩]
    refine .error ?_
    rintro ⟨items, hitems, -⟩
    exact h ⟨items, hitems⟩

/-- An object is read right when the parts of it are. -/
theorem ofCombinations_reads
    (parts : ∀ otherwise (part : Value), sizeOf part < sizeOf entries →
      Reads (ofObject otherwise caseSensitive part) (WellFormed caseSensitive part)
        (Says · (Means caseSensitive part))) :
    Reads (ofCombinations caseSensitive (combinations caseSensitive entries) entries)
      (WellFormed caseSensitive (.map entries)) (Says · (Means caseSensitive (.map entries))) := by
  rw [ofCombinations_eq]
  cases h : form entries with
  -- `all` and `any` read the list in the same way and ask different things of it.
  | all conditions =>
    have each (items : List Value) (hitems : conditions = .list items) (item : Value) (hitem : item ∈ items) :=
      parts .nestedWantsObject item (Description.sizeOf_item (by rw [h, hitems]; rfl) hitem)
    rw [wellFormed_map_iff, h]
    refine (ofList_reads each).map ?_
    rintro cs ⟨items, rfl, hcs⟩ v
    rw [holds, means_all_iff h]
    exact allHold_iff hcs
  | any conditions =>
    have each (items : List Value) (hitems : conditions = .list items) (item : Value) (hitem : item ∈ items) :=
      parts .nestedWantsObject item (Description.sizeOf_item (by rw [h, hitems]; rfl) hitem)
    rw [wellFormed_map_iff, h]
    refine (ofList_reads each).map ?_
    rintro cs ⟨items, rfl, hcs⟩ v
    rw [holds, means_any_iff h]
    exact anyHolds_iff hcs
  | not inner =>
    rw [wellFormed_map_iff, h]
    refine (parts .notWantsObject inner (Description.sizeOf_part (by rw [h]; rfl))).map ?_
    intro c hc v
    rw [holds, means_not_iff h, Bool.not_eq_true', ← Bool.not_eq_true, hc v]
  | operator => exact ofLeaf_reads h

/-- By induction on the data: what decides an object is smaller than the object. -/
theorem ofObject_reads (otherwise : ConditionFault) (caseSensitive : Bool) (description : Value) :
    Reads (ofObject otherwise caseSensitive description) (WellFormed caseSensitive description)
      (Says · (Means caseSensitive description)) := by
  cases description with
  | map entries =>
    rw [ofObject]
    exact ofCombinations_reads fun otherwise part hpart => ofObject_reads otherwise caseSensitive part
  | _ => exact .error nofun
termination_by sizeOf description
decreasing_by
  simp
  omega

/-- A combination hands on the setting for case that it was given, and not its own. -/
example : ofObject .notWantsObject false
    (.map [("case_sensitive", .bool true), ("not", .map [("op", .text "equals"), ("value", .text "a")])]) =
      .ok (.not (.text .equals "a" false)) := rfl

end

end Condition

/-! ## Settings -/

namespace Description

/-- Whether case counts, by the settings of a node. -/
def caseSetting (config : Config) : Bool := (config.bool? "case_sensitive").getD false

/-- The settings that describe a condition: none at all, an operator by name, or an object. -/
def InSettings (config : Config) : Prop :=
  match config.get? "condition" with
  | none => True
  | some (.text name) => Leaf.Accepted ⟨name, config.get? "value", caseSetting config⟩
  | some (.map entries) => WellFormed (caseSetting config) (.map entries)
  | some _ => False

/-- What the settings of a node say of a value. Without a condition they let it through. -/
def SettingsMean (config : Config) (v : Value) : Prop :=
  match config.get? "condition" with
  | none => True
  | some (.text name) => Leaf.Means ⟨name, config.get? "value", caseSetting config⟩ v
  | some (.map entries) => Means (caseSetting config) (.map entries) v
  | some _ => False

end Description

namespace Condition

open Description (caseSetting InSettings SettingsMean)

theorem says_contains_empty (caseSensitive : Bool) : Says (.text .contains "" caseSensitive) fun _ => True := by
  intro v
  rw [holds_text, iff_true]
  refine Text.contains_iff.2 ?_
  have hempty : Operator.folded caseSensitive "" = [] := by cases caseSensitive <;> rfl
  rw [hempty]
  exact List.nil_infix

theorem ofConfig_reads (config : Config) :
    Reads (ofConfig config) (InSettings config) (Says · (SettingsMean config)) := by
  unfold ofConfig InSettings SettingsMean
  cases config.get? "condition" with
  | none => exact .ok trivial (says_contains_empty _)
  | some description =>
    cases description with
    | text name => exact ofOperator_reads name _ _
    | map entries =>
      have reads := ofObject_reads .notWantsObject (caseSetting config) (.map entries)
      rw [ofObject] at reads
      exact reads
    | _ => exact .error id

/-- **The language of conditions.** Settings are read without a fault when they describe a condition and only then,
and the condition that comes out holds of the values that the settings mean. -/
theorem ofConfig_iff_and_holds_iff (config : Config) :
    ((∃ c, ofConfig config = .ok c) ↔ InSettings config) ∧
      ∀ c, ofConfig config = .ok c → ∀ v, holds v c = true ↔ SettingsMean config v :=
  ⟨(ofConfig_reads config).accepts, (ofConfig_reads config).sound⟩

/-- Headings in either case, and whatever is not empty and does not end in a full stop. -/
def headings : Config :=
  .ofList [("case_sensitive", .bool true),
    ("condition", .map [("any", .list [
      .map [("case_sensitive", .bool false), ("op", .text "starts-with"), ("value", .text "H: ")],
      .map [("all", .list [
        .map [("not", .map [("op", .text "is-empty")])],
        .map [("not", .map [("op", .text "ends-with"), ("value", .text ".")])]])]])])]

/-- A heading is meant whatever its case, and another sentence is not. -/
theorem ofConfig_iff_and_holds_iff_headings : InSettings headings ∧ SettingsMean headings (.text "h: one.") ∧
    ¬ SettingsMean headings (.text "one.") := by
  have hread : ofConfig headings = .ok (.any [.text .startsWith "H: " false,
      .all [.not .isEmpty, .not (.text .endsWith "." true)]]) := rfl
  obtain ⟨haccepts, hmeans⟩ := ofConfig_iff_and_holds_iff headings
  refine ⟨haccepts.1 ⟨_, hread⟩, (hmeans _ hread _).1 ?_, ?_⟩
  · decide +kernel
  · rw [← hmeans _ hread]
    decide +kernel

end Condition

end Dataflow
