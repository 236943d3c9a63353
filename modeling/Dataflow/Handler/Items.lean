import Dataflow.Handler.Flow
import Dataflow.Number.Arithmetic
/-!
Handlers that work on the items of a value: filter, sort, aggregate, and split, which makes items of a text.
-/

namespace Dataflow

/-! ## Filter -/

/-- Keeps the items of which its condition holds. -/
def filterItems : Handler :=
  .ofSettings (.exactly 1)
    (fun config => match Condition.ofConfig config with
      | .ok condition => .ok condition
      | .error fault => .error (.other fault.message))
    fun condition inbound _ => .ok (.list ((firstValue inbound).items.filter condition.holds))

/-! ## Sort -/

inductive SortKey where
  | alphabetical
  | numerical
  | length
deriving DecidableEq

def SortKey.names : List (String × Option SortKey) :=
  [("none", none), ("alphabetical", some .alphabetical), ("numerical", some .numerical), ("length", some .length)]

/-- Whether a sort is descending, by the names of the setting. -/
def sortOrderNames : List (String × Bool) := [("asc", false), ("desc", true)]

/-- The number that an item is sorted by; what is no number, or a NaN, counts as 0. -/
def sortNumber (v : Value) : Number :=
  match v.toNumber? with
  | some x => if x.isNaN then .zero else x
  | none => .zero

/-- Whether an item may stand before another in ascending order. -/
def SortKey.le (key : SortKey) (a b : Value) : Bool :=
  match key with
  | .alphabetical => decide (a.toText ≤ b.toText)
  | .numerical => decide ((sortNumber a).totalRank ≤ (sortNumber b).totalRank)
  | .length => decide (a.toText.toList.length ≤ b.toText.toList.length)

/-- Items in order; items of equal rank keep their order, in descending order as well. -/
def sortBy (key : SortKey) (descending : Bool) (items : List Value) : List Value :=
  items.mergeSort fun a b => if descending then key.le b a else key.le a b

/-- Sorts the items of its input; without a key they keep their order. -/
def sortItems : Handler :=
  .ofSettings (.exactly 1)
    (fun config => do
      let key ← config.choose "by" "none" SortKey.names
      let descending ← config.choose "order" "asc" sortOrderNames
      .ok (key, descending))
    fun (key, descending) inbound _ =>
      let items := (firstValue inbound).items
      .ok <| .list <| match key with
        | none => items
        | some key => sortBy key descending items

/-! ## Aggregate -/

inductive AggregateOp where
  | count
  | sum
  | average
  | min
  | max
  | concat
  | list
deriving DecidableEq

def AggregateOp.names : List (String × AggregateOp) :=
  [("count", .count), ("sum", .sum), ("average", .average), ("min", .min), ("max", .max), ("concat", .concat),
    ("list", .list)]

/-- The number of an item in a sum; what is no number counts as 0. -/
def itemNumber (v : Value) : Number := v.toNumber?.getD .zero

/-- The sum from the left. It starts from `-0`, which no number changes, so the sum of nothing is `-0`. -/
def sumNumbers (numbers : List Number) : Number := numbers.foldl Number.add .negativeZero

/-- Combines numbers from the left; of none there is no result. -/
def reduceNumbers (f : Number → Number → Number) : List Number → Value
  | [] => .null
  | x :: xs => .number (xs.foldl f x)

def AggregateOp.apply (op : AggregateOp) (config : Config) (items : List Value) : Value :=
  let numbers := items.map itemNumber
  match op with
  | .count => .number (.ofNat items.length)
  | .sum => .number (sumNumbers numbers)
  | .average =>
    if items.isEmpty then .null else .number ((sumNumbers numbers).div (.ofNat items.length))
  | .min => reduceNumbers Number.min numbers
  | .max => reduceNumbers Number.max numbers
  | .concat => joinTexts config items
  | .list => .list items

/-- Reduces the items of all its inputs to one value. -/
def aggregate : Handler :=
  .ofSettings (.atLeast 1) (·.choose "op" "list" AggregateOp.names) fun op inbound config =>
    .ok (op.apply config (inbound.flatMap Value.items))

theorem aggregate_invoke {config : Config} {name : String} {op : AggregateOp}
    (hname : config.textD "op" "list" = name) (hop : AggregateOp.names.lookup name = some op) (inbound : List Value) :
    (aggregate.invoke inbound config).result = .ok (op.apply config (inbound.flatMap Value.items)) := by
  rw [aggregate, Handler.invoke_ofSettings (Config.choose_of_lookup hname hop)]

/-! ## Split -/

inductive SplitMode where
  | whole
  | delimiter
  | chunk
  | lines
  | whitespace
deriving DecidableEq

def SplitMode.names : List (String × SplitMode) :=
  [("whole", .whole), ("delimiter", .delimiter), ("chunk", .chunk), ("lines", .lines),
    ("whitespace", .whitespace)]

/-- Pieces of `size + 1` characters; the last may be shorter. -/
def chunks (size : Nat) (cs : List Char) : List (List Char) :=
  match cs with
  | [] => []
  | c :: rest => (c :: rest.take size) :: chunks size (rest.drop size)
termination_by cs.length
decreasing_by simp only [List.length_drop, List.length_cons]; omega

/-- The size of chunks: a hundred characters unless set, and at least one. -/
def chunkSize (config : Config) : Nat := Nat.max ((config.count? "chunk_size").getD 100) 1

def SplitMode.apply (mode : SplitMode) (config : Config) (text : List Char) : List (List Char) :=
  match mode with
  | .whole => [text]
  | .delimiter => (Text.pieces (config.textD "delimiter" ",").toList text).map Text.trim
  | .chunk => chunks (chunkSize config - 1) text
  | .lines => text.splitOn '\n'
  | .whitespace => Text.words text

/-- A chunk size that is set must be a positive count. -/
def checkChunkSize (mode : SplitMode) (config : Config) : Except ConfigFault Unit :=
  if mode = .chunk ∧ config.contains "chunk_size" then
    match config.count? "chunk_size" with
    | some (_ + 1) => .ok ()
    | _ => .error (.notPositive "chunk_size")
  else .ok ()

/-- Splits the text of its input into items. A chunk size that is no positive count is refused by the check of
settings; an invocation makes do with what it finds. -/
def splitText : Handler where
  arity := .exactly 1
  validate config := do
    let mode ← config.choose "mode" "whole" SplitMode.names
    checkChunkSize mode config
  invoke inbound config :=
    match config.choose "mode" "whole" SplitMode.names with
    | .ok mode =>
      let parts := mode.apply config (firstValue inbound).toText.toList
      ⟨.ok (.list (parts.map fun part => .text (String.ofList part))), false⟩
    | .error fault => ⟨.error (.invalidConfig fault.message), false⟩

end Dataflow
