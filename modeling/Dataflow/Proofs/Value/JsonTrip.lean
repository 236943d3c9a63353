import Dataflow.Inputs
import Dataflow.Proofs.Value.Json
import Mathlib.Data.List.Basic
/-!
What a trip through JSON does to a value, part by part.

What comes back is the finite part of what was sent (`Value.ofJson_toJson`). Here this is said from three more sides. A
value comes back as it is if and only if all its numbers are finite; whatever comes back makes the same trip again
without a change; and a look into what comes back, along any path, finds the finite part of what the same look found
before (`Value.at?_finitePart`), so a number that is lost disturbs nothing around it. Inputs go through JSON value by
value.
-/

set_option autoImplicit false

namespace Dataflow

/-! ## Parts -/

namespace Value

/-- One step into a value. -/
inductive Place where
  | item (index : Nat)
  | entry (key : String)

/-- The item of a list or the entry of a map. -/
def part? : Value → Place → Option Value
  | .list items, .item index => items[index]?
  | .map entries, .entry key => entries.lookup key
  | _, _ => none

/-- The part of a value at the end of a path. -/
def at? (v : Value) : List Place → Option Value
  | [] => some v
  | place :: path => (v.part? place).bind (·.at? path)

theorem finiteItems_eq_map (vs : List Value) : finiteItems vs = vs.map finitePart := by
  induction vs with
  | nil => rw [finiteItems, List.map_nil]
  | cons v vs ih => rw [finiteItems, List.map_cons, ih]

theorem lookup_finiteEntries (key : String) (es : List (String × Value)) :
    (finiteEntries es).lookup key = (es.lookup key).map finitePart := by
  induction es with
  | nil => rw [finiteEntries, List.lookup_nil, Option.map_none]
  | cons e es ih =>
    obtain ⟨k, v⟩ := e
    rw [finiteEntries, List.lookup_cons, List.lookup_cons, ih]
    by_cases hkey : key = k
    · simp [hkey]
    · have hne : (key == k) = false := by simpa using hkey
      simp [hne]

theorem part?_finitePart (v : Value) (place : Place) : v.finitePart.part? place = (v.part? place).map finitePart := by
  cases v with
  | null => rfl
  | bool b => rfl
  | text s => rfl
  | number x =>
    -- Neither the number nor the null in its place has parts.
    have hnone : (Value.number x).part? place = none := rfl
    rw [hnone, finitePart]
    by_cases hx : x.isFinite = true
    · rw [if_pos hx]
      rfl
    · rw [if_neg hx]
      rfl
  | list items =>
    rw [finitePart, finiteItems_eq_map]
    cases place with
    | item index => exact List.getElem?_map
    | entry key => rfl
  | map entries =>
    rw [finitePart]
    cases place with
    | item index => rfl
    | entry key => exact lookup_finiteEntries key entries

/-- To look into the finite part is to look into the value and take the finite part of what is there. -/
theorem at?_finitePart (v : Value) (path : List Place) : v.finitePart.at? path = (v.at? path).map finitePart := by
  induction path generalizing v with
  | nil => rfl
  | cons place path ih =>
    rw [at?, at?, part?_finitePart]
    cases v.part? place with
    | none => rfl
    | some u => exact ih u

/-! ## What stays -/

mutual

theorem finite_finitePart : (v : Value) → v.finitePart.Finite
  | .null | .bool _ | .text _ => trivial
  | .number x => by
    rw [finitePart]
    by_cases hx : x.isFinite = true
    · rw [if_pos hx]
      exact hx
    · rw [if_neg hx]
      trivial
  | .list items => by
    rw [finitePart]
    exact finiteItems_finiteItems items
  | .map entries => by
    rw [finitePart]
    exact finiteEntries_finiteEntries entries

theorem finiteItems_finiteItems : (vs : List Value) → FiniteItems (finiteItems vs)
  | [] => trivial
  | v :: vs => ⟨finite_finitePart v, finiteItems_finiteItems vs⟩

theorem finiteEntries_finiteEntries : (es : List (String × Value)) → FiniteEntries (finiteEntries es)
  | [] => trivial
  | (_, v) :: es => ⟨finite_finitePart v, finiteEntries_finiteEntries es⟩

end

/-- Nothing but numbers that are not finite is taken from a value. -/
theorem finitePart_eq_self_iff {v : Value} : v.finitePart = v ↔ v.Finite := by
  constructor
  · intro h
    rw [← h]
    exact finite_finitePart v
  · exact finitePart_eq_self v

theorem finitePart_finitePart (v : Value) : v.finitePart.finitePart = v.finitePart :=
  finitePart_eq_self_iff.2 (finite_finitePart v)

end Value

/-! ## Inputs -/

namespace Inputs

variable (inputs : Inputs)

theorem ofMembers_toMembers : ofMembers inputs.toMembers = inputs.mapValues Value.finitePart := by
  unfold ofMembers toMembers Dict.mapValues
  simp only [List.map_map, Function.comp_def, Value.ofJson_toJson]

theorem mapValues_finitePart_eq_self_iff :
    inputs.mapValues Value.finitePart = inputs ↔ ∀ v ∈ inputs.values, v.Finite := by
  have hentries : inputs.mapValues Value.finitePart = inputs ↔
      inputs.entries.map (fun e => (e.1, e.2.finitePart)) = inputs.entries.map id := by
    rw [List.map_id]
    constructor
    · intro h
      exact congrArg Dict.entries h
    · intro h
      obtain ⟨entries, hsorted⟩ := inputs
      unfold Dict.mapValues
      simp only [h]
  rw [hentries, List.map_inj_left, Dict.values, List.forall_mem_map]
  refine forall₂_congr fun e _ => ?_
  rw [← Value.finitePart_eq_self_iff, id, Prod.ext_iff]
  exact and_iff_right rfl

end Inputs

/-! ## The trip -/

/-- **What JSON does to values.** A value comes back with null for every number that is not finite and with nothing else
changed, at no place inside it; so it comes back as it is if and only if all its numbers are finite, and a second trip
changes nothing. The same holds of the inputs of a run, value by value. -/
theorem Value.json_trip :
    (∀ v : Value, ofJson v.toJson = v.finitePart ∧ (ofJson v.toJson = v ↔ v.Finite) ∧
      ofJson (ofJson v.toJson).toJson = ofJson v.toJson ∧
      ∀ path, (ofJson v.toJson).at? path = (v.at? path).map finitePart) ∧
    ∀ inputs : Inputs, Inputs.ofMembers inputs.toMembers = inputs.mapValues finitePart ∧
      (Inputs.ofMembers inputs.toMembers = inputs ↔ ∀ v ∈ inputs.values, v.Finite) ∧
      Inputs.ofMembers (Inputs.ofMembers inputs.toMembers).toMembers = Inputs.ofMembers inputs.toMembers := by
  constructor
  · intro v
    rw [ofJson_toJson, ofJson_toJson]
    exact ⟨rfl, finitePart_eq_self_iff, finitePart_finitePart v, at?_finitePart v⟩
  · intro inputs
    rw [Inputs.ofMembers_toMembers, Inputs.ofMembers_toMembers]
    refine ⟨rfl, Inputs.mapValues_finitePart_eq_self_iff inputs, ?_⟩
    rw [Inputs.mapValues_finitePart_eq_self_iff, Dict.values, List.forall_mem_map]
    intro e he
    obtain ⟨_, _, rfl⟩ := List.mem_map.1 he
    exact finite_finitePart _

end Dataflow
