import Dataflow.Json.Printer
import Dataflow.Json.Token
import Dataflow.Text.Quoted
/-!
Reading documents of a known shape from JSON tokens, in one pass.

A reader consumes tokens from the left and stops at the first fault, be it a place that is no JSON or a value of
the wrong shape; so of several faults in a document the leftmost is reported. A structure is read from an object,
or from an array of its fields in order.
-/

namespace Dataflow.Json

/-! ## Faults -/

/-- What was found where something else was expected. -/
inductive Found where
  | null
  | bool (b : Bool)
  | number (n : JsonNumber)
  | string (s : String)
  | array
  | object

/-- Why a document cannot be read. -/
inductive Fault where
  /-- The text is no JSON, or nests deeper than the reader goes. -/
  | malformed
  | wrongType (found : Found) (expected : String)
  | wrongLength (found : Nat) (expected : String)
  | missingField (name : String)
  | duplicateField (name : String)
  | unknownVariant (found : String) (variants : List String)

def Found.message : Found → String
  | .null => "null"
  | .bool b => "boolean `" ++ (if b then "true" else "false") ++ "`"
  | .number (.float x) => "floating point `" ++ floatText x ++ "`"
  | .number n => "integer `" ++ numberText n ++ "`"
  | .string s => "string " ++ Text.quoted s
  | .array => "sequence"
  | .object => "map"

def Fault.message : Fault → String
  | .malformed => "malformed JSON"
  | .wrongType found expected => "invalid type: " ++ found.message ++ ", expected " ++ expected
  | .wrongLength found expected => "invalid length " ++ natText found ++ ", expected " ++ expected
  | .missingField name => "missing field `" ++ name ++ "`"
  | .duplicateField name => "duplicate field `" ++ name ++ "`"
  | .unknownVariant found variants =>
    "unknown variant `" ++ found ++ "`, expected one of "
      ++ ", ".intercalate (variants.map fun v => "`" ++ v ++ "`")

/-! ## Readers -/

/-- The tokens still to be read, with their number, which bounds every loop over them. -/
structure Cursor where
  tokens : List Token
  left : Nat

/-- A step that takes tokens from the front. -/
abbrev Reader := StateT Cursor (Except Fault)

namespace Reader

/-- The next token, which is taken. -/
def next : Reader Token := do
  match ← get with
  | ⟨[], _⟩ | ⟨.fault :: _, _⟩ => throw .malformed
  | ⟨token :: rest, left⟩ => set (Cursor.mk rest (left - 1)); pure token

/-- The next token, which stays. -/
def peek : Reader Token := do
  match ← get with
  | ⟨[], _⟩ | ⟨.fault :: _, _⟩ => throw .malformed
  | ⟨token :: _, _⟩ => pure token

/-- Takes the given token. -/
def expect (token : Token) : Reader Unit := do
  if (← next) = token then pure () else throw .malformed

/-- The fault of finding `token` at the start of a value of another type. -/
def wrongType (token : Token) (expected : String) : Fault :=
  match token with
  | .null => .wrongType .null expected
  | .bool b => .wrongType (.bool b) expected
  | .number (some n) => .wrongType (.number n) expected
  | .string (some s) => .wrongType (.string s) expected
  | .beginArray => .wrongType .array expected
  | .beginObject => .wrongType .object expected
  | _ => .malformed

/-- Moves to the next item of an array whose bracket has been taken; false at its end. -/
def nextItem (first : Bool) : Reader Bool := do
  match ← peek with
  | .endArray => pure false
  | .comma =>
    if first then throw .malformed
    let _ ← next
    if (← peek) = .endArray then throw .malformed else pure true
  | _ => if first then pure true else throw .malformed

/-- The name of the next member of an object whose brace has been taken, or `none` at its end. -/
def nextName (first : Bool) : Reader (Option (Option String)) := do
  match ← peek with
  | .endObject => pure none
  | token =>
    if !first then
      if token ≠ .comma then throw .malformed
      let _ ← next
    match ← next with
    | .string name => pure (some name)
    | _ => throw .malformed

/-- The items of an array whose bracket has been taken, at most `limit` of them, and its end. -/
def itemsUpTo {α : Type} (item : Reader α) : Nat → Bool → Reader (List α)
  | 0, _ => throw .malformed
  | limit + 1, first => do
    if ← nextItem first then
      let x ← item
      return x :: (← itemsUpTo item limit false)
    else
      expect .endArray
      return []

/-- The items of an array whose bracket has been taken. Each takes a token, so those left bound their number. -/
def items {α : Type} (item : Reader α) : Reader (List α) := do
  itemsUpTo item ((← get).left + 1) true

/-- The members of an object whose brace has been taken, collected by `member` up to the end, which stays. -/
def membersUpTo {σ : Type} (member : Option String → σ → Reader σ) : Nat → Bool → σ → Reader σ
  | 0, _, _ => throw .malformed
  | limit + 1, first, acc => do
    match ← nextName first with
    | some name => membersUpTo member limit false (← member name acc)
    | none => pure acc

/-- The members of an object whose brace has been taken, collected by `member` up to the end, which stays. -/
def members {σ : Type} (member : Option String → σ → Reader σ) (start : σ) : Reader σ := do
  membersUpTo member ((← get).left + 1) true start

/-! ## Values -/

/-- A value without parts. A `lenient` reading puts up with numbers and strings that have no value. -/
def scalar (lenient : Bool) : Token → Reader Json
  | .null => pure .null
  | .bool b => pure (.bool b)
  | .number (some n) => pure (.number n)
  | .string (some s) => pure (.string s)
  | .number none | .string none => if lenient then pure .null else throw .malformed
  | _ => throw .malformed

/-- A value of any shape with at most `depth` levels of containers. A `lenient` reading checks only the grammar. -/
def value (lenient : Bool) : Nat → Reader Json
  | 0 => do scalar lenient (← next)
  | depth + 1 => do
    match ← next with
    | .beginArray => return .array (← items (value lenient depth))
    | .beginObject =>
      let member (name : Option String) (acc : List (String × Json)) : Reader (List (String × Json)) := do
        expect .colon
        let v ← value lenient depth
        match name with
        | some name => pure ((name, v) :: acc)
        | none => if lenient then pure acc else throw .malformed
      let found ← members member []
      expect .endObject
      return objectOf found.reverse
    | token => scalar lenient token

/-- Passes over a value of any depth. -/
def skip : Reader Unit := do
  let _ ← value true (← get).left

def string : Reader String := do
  match ← next with
  | .string (some s) => pure s
  | token => throw (wrongType token "a string")

/-- A string, or null for its absence. -/
def string? : Reader (Option String) := do
  match ← peek with
  | .null => let _ ← next; pure none
  | _ => some <$> string

/-- An array of items of one shape. -/
def array {α : Type} (item : Reader α) : Reader (List α) := do
  match ← next with
  | .beginArray => items item
  | token => throw (wrongType token "a sequence")

/-- An object of members of any name; a name may come again, and its last value stays. -/
def dict (depth : Nat) : Reader (Dict Json) := do
  match ← next with
  | .beginObject =>
    let member (name : Option String) (acc : List (String × Json)) : Reader (List (String × Json)) := do
      match name with
      | none => throw .malformed
      | some name =>
        expect .colon
        return (name, ← value false depth) :: acc
    let found ← members member []
    expect .endObject
    return .ofList found.reverse
  | token => throw (wrongType token "a map")

/-! ## Structures -/

/-- A structure: an object whose members `member` collects, or an array from which `fields` takes them in order.
A member may be collected once; what `finish` finds missing is reported at the end of the object. -/
def record {σ α : Type} (expected : String) (start : σ) (member : String → σ → Reader σ)
    (finish : σ → Except Fault α) (fields : Reader α) : Reader α := do
  match ← next with
  | .beginObject =>
    let named (name : Option String) (acc : σ) : Reader σ :=
      match name with
      | some name => member name acc
      | none => throw .malformed
    let found ← members named start
    let result ← finish found
    expect .endObject
    return result
  | .beginArray =>
    let result ← fields
    expect .endArray
    return result
  | token => throw (wrongType token expected)

/-- The value of a member that must not come twice. -/
def once {α : Type} (name : String) (current : Option α) (read : Reader α) : Reader (Option α) := do
  if current.isSome then throw (.duplicateField name)
  expect .colon
  some <$> read

/-- The value of a member that the structure does not have. -/
def ignored : Reader Unit := do
  expect .colon
  skip

/-- A field in a structure written as an array, or `none` at the end of the array. -/
def positional {α : Type} (index : Nat) (read : Reader α) : Reader (Option α) := do
  if ← nextItem (index == 0) then some <$> read else pure none

end Reader

/-! ## Documents -/

/-- How many levels of containers a document may nest. -/
def depthLimit : Nat := 127

/-- Reads a whole text, which holds nothing after the value. -/
def readAll {α : Type} (reader : Reader α) (text : String) : Except Fault α := do
  let all := tokens text
  let (result, rest) ← reader.run ⟨all, all.length⟩
  if rest.tokens.isEmpty then pure result else throw .malformed

/-- Reads a document of any shape. -/
def parse (text : String) : Except Fault Json := readAll (Reader.value false depthLimit) text

end Dataflow.Json
