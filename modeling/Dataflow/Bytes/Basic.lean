import Dataflow.Dict
/-!
Bytes: the elements of the stored form.

Everything is written front to back without padding. A natural number takes one byte up to 250; a larger one
follows a marker that tells its width, with its low byte first. A text is its length and its UTF-8 form, a list is
its length and its items, and a choice is the number of the alternative. A decoder takes what it needs from the
front and leaves the rest, so decoders are put together like the forms they read.
-/

namespace Dataflow

abbrev Bytes := List UInt8

namespace Bytes

/-! ## Writing -/

/-- The low `width` bytes of a number, lowest first. -/
def littleEndian : Nat → Nat → Bytes
  | 0, _ => []
  | width + 1, n => UInt8.ofNat n :: littleEndian width (n / 256)

/-- A number below `2^64`. The markers 251, 252 and 253 stand for two, four and eight bytes. -/
def ofNat (n : Nat) : Bytes :=
  if n ≤ 250 then [UInt8.ofNat n]
  else if n < 0x10000 then 251 :: littleEndian 2 n
  else if n < 0x100000000 then 252 :: littleEndian 4 n
  else 253 :: littleEndian 8 n

def ofBool (b : Bool) : Bytes := if b then [1] else [0]

def ofText (s : String) : Bytes :=
  let utf8 := s.toUTF8.data.toList
  ofNat utf8.length ++ utf8

def ofOption {α : Type} (item : α → Bytes) : Option α → Bytes
  | none => [0]
  | some x => 1 :: item x

def ofList {α : Type} (item : α → Bytes) (items : List α) : Bytes := ofNat items.length ++ items.flatMap item

/-- The entries of a dictionary in order, each as its key and its value. -/
def ofDict {α : Type} (item : α → Bytes) (d : Dict α) : Bytes :=
  ofList (fun e : String × α => ofText e.1 ++ item e.2) d.entries

end Bytes

/-! ## Reading -/

/-- Takes a value from the front of bytes, if one stands there. -/
abbrev Decoder := StateT Bytes Option

namespace Decoder

def byte : Decoder UInt8 := fun
  | [] => none
  | b :: rest => some (b, rest)

/-- So many bytes. -/
def bytes : Nat → Decoder Bytes
  | 0 => pure []
  | n + 1 => do
    let b ← byte
    let rest ← bytes n
    return b :: rest

/-- A number of so many bytes, lowest first. -/
def littleEndian : Nat → Decoder Nat
  | 0 => pure 0
  | width + 1 => do
    let low ← byte
    let high ← littleEndian width
    return low.toNat + 256 * high

/-- A number of at most `widest` bytes. Each marker doubles the width of the one before it. -/
def varint (widest : Nat) : Decoder Nat := do
  let first ← byte
  if first.toNat ≤ 250 then return first.toNat
  let width := Nat.pow 2 (first.toNat - 250)
  if width ≤ widest then littleEndian width else failure

/-- A number below `2^64`. -/
def nat : Decoder Nat := varint 8

/-- The number of an alternative, which has four bytes at most. -/
def alternative : Decoder Nat := varint 4

def bool : Decoder Bool := do
  match ← byte with
  | 0 => return false
  | 1 => return true
  | _ => failure

def text : Decoder String := do
  let utf8 ← bytes (← nat)
  match String.fromUTF8? ⟨utf8.toArray⟩ with
  | some s => return s
  | none => failure

def option {α : Type} (item : Decoder α) : Decoder (Option α) := do
  match ← byte with
  | 0 => return none
  | 1 => some <$> item
  | _ => failure

/-- So many items. -/
def times {α : Type} (item : Decoder α) : Nat → Decoder (List α)
  | 0 => pure []
  | n + 1 => do
    let x ← item
    let xs ← times item n
    return x :: xs

def list {α : Type} (item : Decoder α) : Decoder (List α) := do
  times item (← nat)

/-- Entries as a dictionary. They may stand in any order, and of two with one key the later one stays. -/
def dict {α : Type} (item : Decoder α) : Decoder (Dict α) :=
  Dict.ofList <$> list (do return (← text, ← item))

/-- What stands at the front of bytes; whatever follows it is ignored. -/
def decode? {α : Type} (d : Decoder α) (bytes : Bytes) : Option α := (d.run bytes).map (·.1)

end Decoder

end Dataflow
