import Dataflow.Graph.Edit
import Dataflow.Graph.Integrity
import Dataflow.Json.Reader
/-!
Workflows from other forms of data, and the reasons why there is none.

The simplest other form is a pipeline: steps of which each takes what the one before it puts out.
-/

namespace Dataflow

/-- Why data is no workflow. -/
inductive ConversionError where
  | unreadable (fault : Json.Fault)
  | unsound (error : IntegrityError)
  | graph (error : GraphError)
  | connection (error : ConnectionError)

def ConversionError.message : ConversionError → String
  | .unreadable fault => "Invalid custom data: invalid workflow JSON: " ++ fault.message
  | .unsound error => "Invalid custom data: " ++ error.message
  | .graph error => "Failed to rebuild the workflow graph: " ++ error.message
  | .connection error => "Failed to rebuild a connection: " ++ error.message

/-! ## Pipelines -/

structure PipelineStep where
  id : String
  kind : String

structure Pipeline where
  steps : List PipelineStep
  /-- A step that the last one passes its output on to. -/
  loopTo : Option String := none

namespace Workflow

/-- Adds a node, as part of a conversion. -/
def withNode (w : Workflow) (n : Node) : Except ConversionError Workflow :=
  match w.addNode n with
  | .ok w => .ok w
  | .error error => .error (.graph error)

/-- Joins two nodes, as part of a conversion. -/
def withConnection (w : Workflow) (origin target : String) : Except ConversionError Workflow :=
  match w.connect origin target with
  | .ok (_, w) => .ok w
  | .error error => .error (.connection error)

/-- Adds the steps after `last`, each joined to the one before, and gives the last step of all. -/
def withSteps (w : Workflow) (last : String) : List PipelineStep → Except ConversionError (String × Workflow)
  | [] => .ok (last, w)
  | s :: steps => do
    let w ← w.withNode { id := s.id, role := .transform, kind := s.kind }
    let w ← w.withConnection last s.id
    withSteps w s.id steps

end Workflow

/-- The workflow of a pipeline: its first step is a source. -/
def Pipeline.toWorkflow (p : Pipeline) : Except ConversionError Workflow :=
  match p.steps with
  | [] => .ok { name := "pipeline" }
  | s :: steps => do
    let start : Workflow := { name := "pipeline" }
    let w ← start.withNode { id := s.id, role := .source, kind := s.kind }
    let (last, w) ← w.withSteps s.id steps
    match p.loopTo with
    | some target => w.withConnection last target
    | none => .ok w

end Dataflow
