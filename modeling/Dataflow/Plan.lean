import Dataflow.Graph.Integrity
import Dataflow.Graph.Order
import Dataflow.Registry
/-!
Plans: the steps of a workflow in the order in which they run.

A plan is made from a workflow that is sound, free of cycles, and whose every node has a handler that accepts both
the number of connections into the node and its settings. It holds all that a run needs, so a later edit of the
workflow does not touch it. Nothing runs while a plan is made.
-/

namespace Dataflow

/-! ## Plans -/

/-- A node, with the nodes that it takes from. -/
structure Step where
  nodeId : String
  role : Role
  /-- The kind that the node names. -/
  kind : String
  /-- The kind that a handler is registered under, where `kind` is an alias. -/
  handlerKind : String
  /-- The nodes that the step takes from, oldest connection first. -/
  inbound : List String
  config : Config
deriving DecidableEq

structure Plan where
  steps : List Step
  handlers : Dict Handler

namespace Plan

/-- The first step for a node. -/
def step? (p : Plan) (nodeId : String) : Option Step := p.steps.find? (·.nodeId == nodeId)

/-- The handler that does the work of a step. -/
def handler? (p : Plan) (s : Step) : Option Handler := p.handlers.get? s.handlerKind

/-- The nodes in execution order. -/
def order (p : Plan) : List String := p.steps.map (·.nodeId)

/-- Steps with their handlers as a plan. -/
def ofSteps (steps : List (Step × Handler)) : Plan where
  steps := steps.map (·.1)
  handlers := .ofList (steps.map fun (s, h) => (s.handlerKind, h))

end Plan

/-- Equality of steps as users see it, which compares the numbers in their settings as numbers. -/
def Step.same (s t : Step) : Bool :=
  s.nodeId == t.nodeId && s.role == t.role && s.kind == t.kind && s.handlerKind == t.handlerKind
    && s.inbound == t.inbound && s.config.same t.config

/-- Plans are compared by their steps. -/
def Plan.same (p q : Plan) : Bool := p.steps.isEqv q.steps Step.same

/-! ## Listing -/

/-- The place of a line in a listing: counted from one, at the right of three columns or more. -/
def placeText (index : Nat) : String :=
  let digits := Nat.toDigits 10 (index + 1)
  String.ofList (List.replicate (3 - digits.length) ' ' ++ digits)

def Step.line (index : Nat) (s : Step) : String :=
  placeText index ++ ". " ++ s.nodeId ++ " [" ++ s.role.name ++ " " ++ s.kind ++ "]"
    ++ (if s.inbound.isEmpty then "" else " <- " ++ ", ".intercalate s.inbound)

/-- A line per step. -/
def Plan.listing (p : Plan) : String :=
  String.join (p.steps.zipIdx.map fun (s, i) => s.line i ++ "\n")

/-! ## Making a plan -/

/-- Why a workflow has no plan. -/
inductive CompileError where
  | integrity (error : IntegrityError)
  | cycle (cycle : Cycle)
  | unknownKind (nodeId kind : String)
  | arity (nodeId kind : String) (expected : Arity) (found : Nat)
  | invalidConfig (nodeId : String) (fault : ConfigFault)
deriving DecidableEq

def CompileError.message : CompileError → String
  | .integrity error => error.message
  | .cycle ⟨node, path⟩ =>
    "Circular dependency detected involving node '" ++ node ++ "' (cycle: " ++ " -> ".intercalate path ++ ")"
  | .unknownKind nodeId kind => "Node '" ++ nodeId ++ "' has an unregistered kind: '" ++ kind ++ "'"
  | .arity nodeId kind expected found =>
    "Node '" ++ nodeId ++ "' of kind '" ++ kind ++ "' expects " ++ expected.text
      ++ " inbound connection(s), but has " ++ natText found
  | .invalidConfig nodeId fault =>
    "Node '" ++ nodeId ++ "' has an invalid configuration: " ++ fault.message

namespace Registry

/-- The step for a node and its handler. Of several faults of a node, the kind comes before the connections and
those before the settings. -/
def compileNode (r : Registry) (w : Workflow) (n : Node) : Except CompileError (Step × Handler) :=
  match r.resolve? n.kind with
  | none => .error (.unknownKind n.id n.kind)
  | some (handlerKind, handler) =>
    let inbound := (w.inbound n.id).map (·.origin)
    if handler.arity.accepts inbound.length then
      match handler.validate n.config with
      | .ok () => .ok (⟨n.id, n.role, n.kind, handlerKind, inbound, n.config⟩, handler)
      | .error fault => .error (.invalidConfig n.id fault)
    else .error (.arity n.id n.kind handler.arity inbound.length)

/-- The steps for nodes, or the fault of the first node that has one. -/
def compileNodes (r : Registry) (w : Workflow) : List Node → Except CompileError (List (Step × Handler))
  | [] => .ok []
  | n :: nodes => do
    let step ← r.compileNode w n
    let steps ← compileNodes r w nodes
    .ok (step :: steps)

/-- The plan of a workflow with the handlers of a registry. -/
def compile (r : Registry) (w : Workflow) : Except CompileError Plan :=
  match w.checkIntegrity with
  | .error error => .error (.integrity error)
  | .ok () => match w.executionOrder with
    | .error cycle => .error (.cycle cycle)
    | .ok order => (r.compileNodes w (order.filterMap w.node?)).map Plan.ofSteps

end Registry

end Dataflow
