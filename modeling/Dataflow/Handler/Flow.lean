import Dataflow.Handler.Condition
import Dataflow.Handler.TextOp
import Dataflow.Json.Printer
import Dataflow.Value.Json
/-!
Handlers that label, join and reshape values.
-/

namespace Dataflow

/-! ## Branch -/

/-- Labels its input by a condition and passes it on beside the label. -/
def predicateBranch : Handler :=
  .ofSettings (.exactly 1)
    (fun config => match Condition.ofConfig config with
      | .ok condition => .ok condition
      | .error fault => .error (.other fault.message))
    fun condition inbound config =>
      let data := firstValue inbound
      let matched := condition.holds data
      let label := if matched then config.textD "true_label" "true" else config.textD "false_label" "false"
      .ok (Value.mapOf [("branch", .text label), ("matched", .bool matched), ("data", data)])

/-! ## Merge -/

inductive MergeStrategy where
  | concat
  | list
  | object
deriving DecidableEq

def MergeStrategy.names : List (String × MergeStrategy) :=
  [("concat", .concat), ("list", .list), ("array", .list), ("object", .object)]

/-- The texts of values with a separator between them. -/
def joinTexts (config : Config) (values : List Value) : Value :=
  .text ((config.textD "separator" "\n").intercalate (values.map Value.toText))

/-- The values under numbered keys. -/
def numbered (values : List Value) : Value :=
  Value.mapOf (values.zipIdx.map fun (v, i) => ("input_" ++ natText i, v))

/-- Joins all its inputs into one value. -/
def merge : Handler :=
  .ofSettings (.atLeast 1) (·.choose "strategy" "concat" MergeStrategy.names) fun strategy inbound config =>
    .ok <| match strategy with
      | .concat => joinTexts config inbound
      | .list => .list inbound
      | .object => numbered inbound

/-! ## Text operations -/

/-- The names of the text operations, in the order of messages. -/
def TextOp.names : List String :=
  ["uppercase", "lowercase", "trim", "prefix", "suffix", "template", "length", "number"]

/-- The text operation in the settings of a node. -/
def TextOp.ofConfig (config : Config) : Except ConfigFault TextOp :=
  match config.text? "op" with
  | none => .error (.opMissing TextOp.names)
  | some op =>
    let operand := config.textD "value" ""
    match op with
    | "uppercase" => .ok .uppercase
    | "lowercase" => .ok .lowercase
    | "trim" => .ok .trim
    | "prefix" => .ok (.prepend operand)
    | "suffix" => .ok (.append operand)
    | "template" =>
      match config.text? "template" with
      | some t => .ok (.template t)
      | none => .error .templateMissing
    | "length" => .ok .length
    | "number" => .ok .number
    | other => .error (.opUnknown other TextOp.names)

/-- Applies the text operation of its settings to its input. -/
def mapTexts : Handler :=
  .ofSettings (.exactly 1) TextOp.ofConfig fun op inbound _ => op.apply (firstValue inbound)

theorem mapTexts_invoke {op : TextOp} {config : Config} (h : TextOp.ofConfig config = .ok op) (v : Value) :
    (mapTexts.invoke [v] config).result = op.apply v := by
  rw [mapTexts, Handler.invoke_ofSettings h]
  rfl

/-- Applies one text operation, whatever the settings. -/
def fixedTextOp (op : TextOp) : Handler :=
  .ofFunction (.exactly 1) fun inbound _ => op.apply (firstValue inbound)

/-! ## Transform -/

inductive Rendering where
  | none
  | text
  | json
deriving DecidableEq

def Rendering.names : List (String × Rendering) := [("none", .none), ("text", .text), ("json", .json)]

/-- Renders its input as text or as JSON, or leaves it as it is. -/
def transform : Handler :=
  .ofSettings (.exactly 1) (·.choose "op" "none" Rendering.names) fun rendering inbound _ =>
    let v := firstValue inbound
    .ok <| match rendering with
      | .none => v
      | .text => .text v.toText
      | .json => .text v.toJson.pretty

end Dataflow
