import Dataflow.Graph.Connect
/-!
Integrity: what editing guarantees, checked on a workflow that came from elsewhere.
-/

namespace Dataflow

/-- The first thing wrong with a workflow. -/
inductive IntegrityError where
  | duplicateNode (id : String)
  | duplicateConnection (id : String)
  | invalidConnection (id : String) (reason : ConnectionError)
deriving DecidableEq

def IntegrityError.message : IntegrityError → String
  | .duplicateNode id => "Node id '" ++ id ++ "' appears more than once in the workflow"
  | .duplicateConnection id => "Connection id '" ++ id ++ "' appears more than once in the workflow"
  | .invalidConnection id reason => "Connection '" ++ id ++ "' is invalid: " ++ reason.message

namespace Workflow

/-- The first text in a list that also stands before it, given those before the list. -/
def firstRepeated (before : List String) : List String → Option String
  | [] => none
  | x :: xs => if x ∈ before then some x else firstRepeated (x :: before) xs

/-- Checks each connection against the graph as it stood before that one. -/
def checkConnections (w : Workflow) (before : List Connection) : List Connection → Except IntegrityError Unit
  | [] => .ok ()
  | c :: rest =>
    match { w with connections := before }.checkConnection c.origin c.target with
    | .error reason => .error (.invalidConnection c.id reason)
    | .ok () => checkConnections w (before ++ [c]) rest

/-- Ids of nodes first, then ids of connections, then every connection in turn. -/
def checkIntegrity (w : Workflow) : Except IntegrityError Unit :=
  match firstRepeated [] (w.nodes.map (·.id)) with
  | some id => .error (.duplicateNode id)
  | none => match firstRepeated [] (w.connections.map (·.id)) with
    | some id => .error (.duplicateConnection id)
    | none => w.checkConnections [] w.connections

end Workflow

end Dataflow
