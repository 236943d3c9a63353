import Dataflow.Graph.Connect
/-!
Editing a workflow.

An edit yields the changed workflow or a reason why there is none; it never changes part of a workflow. Ids of
connections are numbered upwards and skip those in use, so an id is not handed out again while the numbering
goes on.
-/

namespace Dataflow

/-- Why a node cannot be edited. -/
inductive GraphError where
  | duplicateNode (id : String)
  | nodeNotFound (id : String)
deriving DecidableEq

def GraphError.message : GraphError → String
  | .duplicateNode id => "A node with id '" ++ id ++ "' already exists"
  | .nodeNotFound id => "Node '" ++ id ++ "' does not exist in the workflow"

namespace Workflow

/-! ## Nodes -/

def addNode (w : Workflow) (n : Node) : Except GraphError Workflow :=
  if (w.node? n.id).isSome then .error (.duplicateNode n.id)
  else .ok { w with nodes := w.nodes ++ [n] }

/-- Takes out a node with every connection that touches it. -/
def removeNode (w : Workflow) (id : String) : Option (Node × Workflow) :=
  (w.node? id).map fun n =>
    (n, { w with
      nodes := w.nodes.eraseP (·.id == id)
      connections := w.connections.filter fun c => c.origin != id && c.target != id })

/-- Changes the settings of the first node with the given id. -/
def setConfig (id : String) (config : Config) : List Node → List Node
  | [] => []
  | n :: nodes => if n.id = id then { n with config := config } :: nodes else n :: setConfig id config nodes

def updateConfig (w : Workflow) (id : String) (config : Config) : Except GraphError Workflow :=
  if (w.node? id).isSome then .ok { w with nodes := setConfig id config w.nodes }
  else .error (.nodeNotFound id)

/-! ## Connections -/

/-- The id of the connection with the given number. -/
def connectionId (number : Nat) : String := "conn-" ++ natText number

/-- The first number from the given one on whose id is free, among that many and the next. -/
def freeNumber (connections : List Connection) : Nat → Nat → Nat
  | 0, number => number
  | rounds + 1, number =>
    if connections.any (·.id == connectionId number) then freeNumber connections rounds (number + 1) else number

/-- The number of the next connection. Of one more number than there are connections, one is free. -/
def nextNumber (w : Workflow) : Nat := freeNumber w.connections w.connections.length (w.lastNumber + 1)

def connect (w : Workflow) (origin target : String) : Except ConnectionError (Connection × Workflow) := do
  w.checkConnection origin target
  let number := w.nextNumber
  let c : Connection := ⟨connectionId number, origin, target⟩
  .ok (c, { w with connections := w.connections ++ [c], lastNumber := number })

def removeConnection (w : Workflow) (id : String) : Option (Connection × Workflow) :=
  (w.connection? id).map fun c => (c, { w with connections := w.connections.eraseP (·.id == id) })

/-! ## The whole -/

/-- Takes out all nodes and connections; the numbering goes on. -/
def clear (w : Workflow) : Workflow := { w with nodes := [], connections := [] }

end Workflow

end Dataflow
