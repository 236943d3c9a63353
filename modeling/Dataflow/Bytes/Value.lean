import Dataflow.Bytes.Basic
import Dataflow.Config
/-!
The stored form of values: the number of the kind of value, and its parts.
-/

namespace Dataflow

mutual

def Value.toBytes : Value → Bytes
  | .null => [0]
  | .bool b => 1 :: Bytes.ofBool b
  | .number x => 2 :: Bytes.littleEndian 8 x.bits.toNat
  | .text s => 3 :: Bytes.ofText s
  | .list items => 4 :: (Bytes.ofNat items.length ++ Value.itemBytes items)
  | .map entries => 5 :: (Bytes.ofNat entries.length ++ Value.entryBytes entries)

def Value.itemBytes : List Value → Bytes
  | [] => []
  | v :: vs => v.toBytes ++ Value.itemBytes vs

def Value.entryBytes : List (String × Value) → Bytes
  | [] => []
  | (k, v) :: es => Bytes.ofText k ++ v.toBytes ++ Value.entryBytes es

end

namespace Decoder

/-- A value with fewer than `depth` levels inside it. -/
def valueBelow : Nat → Decoder Value
  | 0 => failure
  | depth + 1 => do
    match ← alternative with
    | 0 => return .null
    | 1 => .bool <$> bool
    | 2 => return .number ⟨UInt64.ofNat (← littleEndian 8)⟩
    | 3 => .text <$> text
    | 4 => .list <$> list (valueBelow depth)
    | 5 => Value.mapOf <$> list (do return (← text, ← valueBelow depth))
    | _ => failure

/-- A value. Each level takes a byte at least, so the bytes there are bound the levels. -/
def value : Decoder Value := do
  valueBelow (← get).length

end Decoder

def Config.toBytes (c : Config) : Bytes := Bytes.ofDict Value.toBytes c

def Decoder.config : Decoder Config := dict value

end Dataflow
