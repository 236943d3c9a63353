import Dataflow.Conversion
import Dataflow.Document.Reader
import Dataflow.Value.Json
/-!
Between documents and workflows.

The editor's names in a node's data become the names of settings: words are joined by underscores instead of
capitals, and some names are replaced. Where two names become one, the entry stays whose name in the document
comes last. A workflow becomes a document under the names of its settings, so what was replaced on the way in
stays replaced.
-/

namespace Dataflow

/-! ## Names -/

/-- The role that a kind implies. -/
def Role.implied (kind : String) : Role :=
  if kind ∈ ["input", "constant", "constant-input"] then .source
  else if kind ∈ ["output", "collect", "collect-output"] then .sink
  else .transform

namespace Document

/-- A name with an underscore and a small letter for every capital but the first character. -/
def snakeCase : List Char → List Char
  | [] => []
  | c :: rest => c.toLower :: rest.flatMap fun c => if c.isUpper then ['_', c.toLower] else [c]

/-- Names in the editor's data, and the settings that they stand for. -/
def renames : List (String × String) := [
  ("default_value", "default"),
  ("merge_type", "strategy"),
  ("sort_type", "by"),
  ("sort_order", "order"),
  ("split_type", "mode"),
  ("aggregate_type", "op"),
  ("transform_type", "op"),
  ("output_format", "format"),
  ("filter_type", "condition"),
  ("filter_value", "value"),
  ("true_output", "true_label"),
  ("false_output", "false_label")]

/-- The setting that a name in the editor's data stands for. -/
def settingName (name : String) : String :=
  let name := String.ofList (snakeCase name.toList)
  (renames.lookup name).getD name

/-! ## Documents to workflows -/

def toConfig (data : Dict Json) : Config :=
  .ofList (data.entries.map fun (name, v) => (settingName name, Value.ofJson v))

def toNode (n : DocumentNode) : Node where
  id := n.id
  role := n.role.getD (Role.implied n.kind)
  kind := n.kind
  config := toConfig n.data

/-- The workflow of a document, if it is sound. -/
def toWorkflow (d : Document) : Except ConversionError Workflow :=
  let w := { Workflow.ofParts d.name (d.nodes.map toNode) d.connections with description := d.description }
  match w.checkIntegrity with
  | .ok () => .ok w
  | .error error => .error (.unsound error)

/-- Reads a document that is to become a workflow. -/
def read (text : String) : Except ConversionError Document :=
  match ofText text with
  | .ok d => .ok d
  | .error fault => .error (.unreadable fault)

/-! ## Workflows to documents -/

def ofNode (n : Node) : DocumentNode where
  id := n.id
  kind := n.kind
  role := if Role.implied n.kind = n.role then none else some n.role
  data := n.config.mapValues Value.toJson

/-- The version of the form of documents. -/
def currentVersion : String := "1.0"

def ofWorkflow (w : Workflow) : Document where
  name := w.name
  description := w.description
  version := some currentVersion
  nodes := w.nodes.map ofNode
  connections := w.connections

end Document

end Dataflow
