import Dataflow.Plan
/-!
Runs: the steps of a plan, one after the other, on given inputs.

A step that fails ends the run, and so does a request to cancel it that stands when a step is about to start. What
finished before that keeps its outputs; only a run that comes to its end has collected outputs. A run is a
function of the plan, the inputs and the requests to cancel. It takes no time here: a host that has a clock puts
the times into the result.
-/

namespace Dataflow

/-! ## Results -/

/-- Why a step has no output. -/
inductive RunError where
  | handler (error : HandlerError)
  | cancelled
deriving DecidableEq

def RunError.message : RunError → String
  | .handler error => error.message
  | .cancelled => "Run was cancelled before the step started"

/-- The step that ended a run, and the reason. -/
structure RunFailure where
  nodeId : String
  kind : String
  cause : RunError
deriving DecidableEq

inductive StepOutcome where
  /-- The summary of the output. -/
  | completed (summary : String)
  | failed (message : String)
deriving DecidableEq

/-- A line of the log: a step that was attempted. -/
structure TraceEntry where
  /-- The place in the plan, from zero. -/
  index : Nat
  nodeId : String
  kind : String
  outcome : StepOutcome
  elapsedMs : Nat := 0
deriving DecidableEq

def TraceEntry.completed (e : TraceEntry) : Bool :=
  match e.outcome with
  | .completed _ => true
  | .failed _ => false

inductive RunStatus where
  | succeeded
  | failed
deriving DecidableEq

structure RunResult where
  /-- The output of every step that completed. -/
  outputs : Dict Value
  /-- The outputs of the sinks. -/
  collected : Dict Value
  log : List TraceEntry
  status : RunStatus
  failure : Option RunFailure
  elapsedMs : Nat := 0
deriving DecidableEq

namespace RunResult

def succeeded (r : RunResult) : Bool := r.status == .succeeded

def output? (r : RunResult) (nodeId : String) : Option Value := r.outputs.get? nodeId

/-- The collected output, where there is exactly one. -/
def single? (r : RunResult) : Option Value :=
  match r.collected.entries with
  | [(_, v)] => some v
  | _ => none

end RunResult

/-! ## Equality

Equality as users see it compares the numbers in values as numbers. -/

def RunError.same : RunError → RunError → Bool
  | .handler (.typeMismatch operation expected found), .handler (.typeMismatch operation' expected' found') =>
    operation == operation' && expected == expected' && found.same found'
  | e, f => e == f

def RunFailure.same (f g : RunFailure) : Bool :=
  f.nodeId == g.nodeId && f.kind == g.kind && f.cause.same g.cause

def RunResult.same (r s : RunResult) : Bool :=
  Value.sameEntries r.outputs.entries s.outputs.entries
    && Value.sameEntries r.collected.entries s.collected.entries && r.log == s.log && r.status == s.status
    && r.failure.toList.isEqv s.failure.toList RunFailure.same && r.elapsedMs == s.elapsedMs

/-! ## Steps -/

/-- When a run is asked to end. -/
structure Cancellation where
  /-- Whether the host has asked by the time the step at an index is about to start. -/
  byHost : Nat → Bool
  /-- Whether a handler's asking is heeded. -/
  byHandlers : Bool

namespace Cancellation

/-- Nothing ends the run early. -/
def ignored : Cancellation := ⟨fun _ => false, false⟩

/-- Handlers may end the run. -/
def heeded : Cancellation := ⟨fun _ => false, true⟩

/-- The host has asked before the run. -/
def atOnce : Cancellation := ⟨fun _ => true, true⟩

end Cancellation

/-- The values for a step. A source without connections takes the input of its name, which is a setting, or else
its id; every other step takes the outputs of the nodes before it. -/
def Step.gather (s : Step) (inputs outputs : Dict Value) : List Value :=
  if s.role = .source ∧ s.inbound = [] then (inputs.get? (s.config.textD "name" s.nodeId)).toList
  else s.inbound.map fun id => (outputs.get? id).getD .null

/-- What the handler of a step makes of its values. -/
def Plan.invoke (p : Plan) (s : Step) (inbound : List Value) : Reply :=
  match p.handler? s with
  | some handler => handler.invoke inbound s.config
  | none => ⟨.error (.failed ("no handler bound for kind '" ++ s.handlerKind ++ "'")), false⟩

/-- How many characters of an output the log keeps. -/
def summaryLength : Nat := 80

/-- An output in the log, cut where it gets long. -/
def summary (v : Value) : String :=
  let text := v.display.toList
  if text.length ≤ summaryLength then String.ofList text
  else String.ofList (text.take summaryLength ++ ['.', '.', '.'])

/-! ## Runs -/

/-- What some steps of a run leave behind. -/
structure Trail where
  outputs : Dict Value
  log : List TraceEntry
  failure : Option RunFailure

namespace Plan

/-- The steps from an index on, given whether a handler has asked for the end and what has been put out. -/
def runSteps (p : Plan) (inputs : Dict Value) (c : Cancellation) (index : Nat) (asked : Bool)
    (outputs : Dict Value) : List Step → Trail
  | [] => ⟨outputs, [], none⟩
  | s :: rest =>
    let stop (cause : RunError) : Trail :=
      ⟨outputs, [⟨index, s.nodeId, s.kind, .failed cause.message, 0⟩], some ⟨s.nodeId, s.kind, cause⟩⟩
    if asked || c.byHost index then stop .cancelled
    else
      let reply := p.invoke s (s.gather inputs outputs)
      match reply.result with
      | .error error => stop (.handler error)
      | .ok v =>
        let trail := runSteps p inputs c (index + 1) (c.byHandlers && reply.cancels)
          (outputs.insert s.nodeId v) rest
        { trail with log := ⟨index, s.nodeId, s.kind, .completed (summary v), 0⟩ :: trail.log }

/-- The outputs of the sinks. -/
def collect (p : Plan) (outputs : Dict Value) : Dict Value :=
  .ofList ((p.steps.filter (·.role == .sink)).filterMap fun s => (outputs.get? s.nodeId).map (s.nodeId, ·))

def run (p : Plan) (inputs : Dict Value) (c : Cancellation) : RunResult :=
  let trail := p.runSteps inputs c 0 false .empty p.steps
  match trail.failure with
  | none => ⟨trail.outputs, p.collect trail.outputs, trail.log, .succeeded, none, 0⟩
  | some failure => ⟨trail.outputs, .empty, trail.log, .failed, some failure, 0⟩

end Plan

end Dataflow
