import Dataflow.Dict
import Dataflow.Number.Basic
/-!
The values that flow along connections.

A map is kept as its entries in ascending order of keys. The type itself does not ask for that order; whatever
builds a map does, and `Value.Canonical` says it where a proof needs it.
-/

namespace Dataflow

inductive Value where
  | null
  | bool (b : Bool)
  | number (x : Number)
  | text (s : String)
  | list (items : List Value)
  | map (entries : List (String × Value))
deriving Inhabited

namespace Value

/-! ## Equality -/

mutual

/-- Equality of values can be decided; numbers are compared by their bits. -/
def decEq : (a b : Value) → Decidable (a = b)
  | .null, b => match b with
    | .null => isTrue rfl
    | .bool _ | .number _ | .text _ | .list _ | .map _ => isFalse nofun
  | .bool x, b => match b with
    | .bool y => if h : x = y then isTrue (h ▸ rfl) else isFalse fun e => h (Value.bool.inj e)
    | .null | .number _ | .text _ | .list _ | .map _ => isFalse nofun
  | .number x, b => match b with
    | .number y => if h : x = y then isTrue (h ▸ rfl) else isFalse fun e => h (Value.number.inj e)
    | .null | .bool _ | .text _ | .list _ | .map _ => isFalse nofun
  | .text x, b => match b with
    | .text y => if h : x = y then isTrue (h ▸ rfl) else isFalse fun e => h (Value.text.inj e)
    | .null | .bool _ | .number _ | .list _ | .map _ => isFalse nofun
  | .list xs, b => match b with
    | .list ys => match decEqItems xs ys with
      | isTrue h => isTrue (h ▸ rfl)
      | isFalse h => isFalse fun e => h (Value.list.inj e)
    | .null | .bool _ | .number _ | .text _ | .map _ => isFalse nofun
  | .map xs, b => match b with
    | .map ys => match decEqEntries xs ys with
      | isTrue h => isTrue (h ▸ rfl)
      | isFalse h => isFalse fun e => h (Value.map.inj e)
    | .null | .bool _ | .number _ | .text _ | .list _ => isFalse nofun

def decEqItems : (a b : List Value) → Decidable (a = b)
  | [], b => match b with
    | [] => isTrue rfl
    | _ :: _ => isFalse nofun
  | x :: xs, b => match b with
    | [] => isFalse nofun
    | y :: ys => match decEq x y with
      | isFalse h => isFalse fun e => h (List.cons.inj e).1
      | isTrue h => match decEqItems xs ys with
        | isTrue hs => isTrue (h ▸ hs ▸ rfl)
        | isFalse hs => isFalse fun e => hs (List.cons.inj e).2

def decEqEntries : (a b : List (String × Value)) → Decidable (a = b)
  | [], b => match b with
    | [] => isTrue rfl
    | _ :: _ => isFalse nofun
  | (k, x) :: xs, b => match b with
    | [] => isFalse nofun
    | (l, y) :: ys =>
      if hk : k = l then
        match decEq x y with
        | isFalse h => isFalse fun e => h (Prod.mk.inj (List.cons.inj e).1).2
        | isTrue h => match decEqEntries xs ys with
          | isTrue hs => isTrue (hk ▸ h ▸ hs ▸ rfl)
          | isFalse hs => isFalse fun e => hs (List.cons.inj e).2
      else isFalse fun e => hk (Prod.mk.inj (List.cons.inj e).1).1

end

instance : DecidableEq Value := decEq

mutual

/-- Equality as users see it: numbers are compared as numbers, so the two zeros are the same and a value with a
NaN anywhere inside is not even the same as itself. -/
def same : Value → Value → Bool
  | .null, .null => true
  | .bool x, .bool y => x == y
  | .number x, .number y => x.same y
  | .text x, .text y => x == y
  | .list xs, .list ys => sameItems xs ys
  | .map xs, .map ys => sameEntries xs ys
  | _, _ => false

def sameItems : List Value → List Value → Bool
  | [], [] => true
  | x :: xs, y :: ys => x.same y && sameItems xs ys
  | _, _ => false

def sameEntries : List (String × Value) → List (String × Value) → Bool
  | [], [] => true
  | (k, x) :: xs, (l, y) :: ys => k == l && x.same y && sameEntries xs ys
  | _, _ => false

end

/-! ## Canonical values -/

mutual

/-- Every map inside has ascending keys. -/
def Canonical : Value → Prop
  | .list items => CanonicalItems items
  | .map entries => Entries.Sorted entries ∧ CanonicalEntries entries
  | _ => True

def CanonicalItems : List Value → Prop
  | [] => True
  | v :: vs => v.Canonical ∧ CanonicalItems vs

def CanonicalEntries : List (String × Value) → Prop
  | [] => True
  | (_, v) :: es => v.Canonical ∧ CanonicalEntries es

end

/-! ## Shape -/

/-- The name of the kind of value, as messages give it. -/
def typeName : Value → String
  | .null => "null"
  | .bool _ => "bool"
  | .number _ => "number"
  | .text _ => "text"
  | .list _ => "list"
  | .map _ => "map"

def isNull : Value → Bool
  | .null => true
  | _ => false

def bool? : Value → Option Bool
  | .bool b => some b
  | _ => none

def number? : Value → Option Number
  | .number x => some x
  | _ => none

def text? : Value → Option String
  | .text s => some s
  | _ => none

def list? : Value → Option (List Value)
  | .list items => some items
  | _ => none

def map? : Value → Option (List (String × Value))
  | .map entries => some entries
  | _ => none

/-- A map from entries in any order; of two with the same key the later one stays. -/
def mapOf (entries : List (String × Value)) : Value := .map (Entries.ofList entries)

end Value

end Dataflow
