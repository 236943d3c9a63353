import Dataflow.Dict
import Dataflow.Number.Arithmetic
/-!
JSON documents as data.

A number keeps the form it was read in: integers that fit 64 bits stay integers, everything else is binary64.
An object read from text has its members in ascending order of names.
-/

namespace Dataflow

/-- A JSON number: `positive n`, `negative n` for `-n`, or a binary64 number. -/
inductive JsonNumber where
  | positive (n : Nat)
  | negative (n : Nat)
  | float (x : Number)
deriving DecidableEq, Inhabited

inductive Json where
  | null
  | bool (b : Bool)
  | number (n : JsonNumber)
  | string (s : String)
  | array (items : List Json)
  | object (members : List (String × Json))
deriving Inhabited

/-- The nearest binary64 number. -/
def JsonNumber.toNumber : JsonNumber → Number
  | .positive n => .ofNat n
  | .negative n => .ofInt (-n)
  | .float x => x

namespace Json

/-- An object from members in any order; of two with the same name the later one stays. -/
def objectOf (members : List (String × Json)) : Json := .object (Entries.ofList members)

end Json

end Dataflow
