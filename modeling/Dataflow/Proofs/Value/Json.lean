import Dataflow.Value.Json
/-!
Values on the way through JSON and back.

JSON has no infinities and no NaN. `Value.finitePart` says what becomes of a value for that reason, with no word about
JSON: null stands wherever a number is not finite. It is what comes back (`ofJson_toJson`), and it changes nothing
in a value that has finite numbers only.
-/

set_option autoImplicit false

namespace Dataflow

/-! ## Finite numbers -/

namespace Value

mutual

/-- All numbers inside are finite. -/
def Finite : Value → Prop
  | .number x => x.isFinite = true
  | .list items => FiniteItems items
  | .map entries => FiniteEntries entries
  | .null | .bool _ | .text _ => True

def FiniteItems : List Value → Prop
  | [] => True
  | v :: vs => v.Finite ∧ FiniteItems vs

def FiniteEntries : List (String × Value) → Prop
  | [] => True
  | (_, v) :: es => v.Finite ∧ FiniteEntries es

end

mutual

/-- A value with null for every number that is not finite. -/
def finitePart : Value → Value
  | .number x => if x.isFinite then .number x else .null
  | .list items => .list (finiteItems items)
  | .map entries => .map (finiteEntries entries)
  | .null => .null
  | .bool b => .bool b
  | .text s => .text s

def finiteItems : List Value → List Value
  | [] => []
  | v :: vs => v.finitePart :: finiteItems vs

def finiteEntries : List (String × Value) → List (String × Value)
  | [] => []
  | (k, v) :: es => (k, v.finitePart) :: finiteEntries es

end

mutual

/-- A value with finite numbers only is its finite part. -/
theorem finitePart_eq_self : (v : Value) → v.Finite → v.finitePart = v
  | .null, _ | .bool _, _ | .text _, _ => by rw [finitePart]
  | .number x, h => by
    have hx : x.isFinite = true := h
    rw [finitePart, if_pos hx]
  | .list items, h => by rw [finitePart, finiteItems_eq_self items h]
  | .map entries, h => by rw [finitePart, finiteEntries_eq_self entries h]

theorem finiteItems_eq_self : (vs : List Value) → FiniteItems vs → finiteItems vs = vs
  | [], _ => by rw [finiteItems]
  | v :: vs, h => by rw [finiteItems, finitePart_eq_self v h.1, finiteItems_eq_self vs h.2]

theorem finiteEntries_eq_self : (es : List (String × Value)) → FiniteEntries es → finiteEntries es = es
  | [], _ => by rw [finiteEntries]
  | (k, v) :: es, h => by rw [finiteEntries, finitePart_eq_self v h.1, finiteEntries_eq_self es h.2]

end

end Value

/-! ## From values to JSON and back -/

namespace Value

mutual

/-- **What comes back from JSON** is the finite part of what went there. -/
theorem ofJson_toJson : (v : Value) → ofJson v.toJson = v.finitePart
  | .null | .bool _ | .text _ => by rw [toJson, ofJson, finitePart]
  | .number x => by
    rw [toJson, finitePart]
    by_cases hx : x.isFinite = true
    · rw [if_pos hx, if_pos hx, ofJson, JsonNumber.toNumber]
    · rw [if_neg hx, if_neg hx, ofJson]
  | .list items => by rw [toJson, ofJson, finitePart, ofJsonItems_toJsonItems items]
  | .map entries => by rw [toJson, ofJson, finitePart, ofJsonMembers_toJsonEntries entries]

theorem ofJsonItems_toJsonItems : (vs : List Value) → ofJsonItems (toJsonItems vs) = finiteItems vs
  | [] => by rw [toJsonItems, ofJsonItems, finiteItems]
  | v :: vs => by rw [toJsonItems, ofJsonItems, finiteItems, ofJson_toJson v, ofJsonItems_toJsonItems vs]

theorem ofJsonMembers_toJsonEntries :
    (es : List (String × Value)) → ofJsonMembers (toJsonEntries es) = finiteEntries es
  | [] => by rw [toJsonEntries, ofJsonMembers, finiteEntries]
  | (k, v) :: es => by
    rw [toJsonEntries, ofJsonMembers, finiteEntries, ofJson_toJson v, ofJsonMembers_toJsonEntries es]

end

end Value

/-! ## From JSON to values -/

namespace Json

mutual

/-- All numbers inside are finite as binary64 numbers. -/
def Finite : Json → Prop
  | .number n => n.toNumber.isFinite = true
  | .array items => FiniteItems items
  | .object members => FiniteMembers members
  | .null | .bool _ | .string _ => True

def FiniteItems : List Json → Prop
  | [] => True
  | j :: js => j.Finite ∧ FiniteItems js

def FiniteMembers : List (String × Json) → Prop
  | [] => True
  | (_, j) :: ms => j.Finite ∧ FiniteMembers ms

end

mutual

/-- What has finite numbers only in JSON has them as a value. -/
theorem finite_ofJson : (j : Json) → j.Finite → (Value.ofJson j).Finite
  | .null, _ | .bool _, _ | .string _, _ => trivial
  | .number _, h => h
  | .array items, h => finiteItems_ofJsonItems items h
  | .object members, h => finiteEntries_ofJsonMembers members h

theorem finiteItems_ofJsonItems : (js : List Json) → FiniteItems js → Value.FiniteItems (Value.ofJsonItems js)
  | [], _ => trivial
  | j :: js, h => ⟨finite_ofJson j h.1, finiteItems_ofJsonItems js h.2⟩

theorem finiteEntries_ofJsonMembers :
    (ms : List (String × Json)) → FiniteMembers ms → Value.FiniteEntries (Value.ofJsonMembers ms)
  | [], _ => trivial
  | (_, j) :: ms, h => ⟨finite_ofJson j h.1, finiteEntries_ofJsonMembers ms h.2⟩

end

end Json

end Dataflow
