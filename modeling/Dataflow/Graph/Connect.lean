import Dataflow.Graph.Basic
/-!
The rules for a new connection.

Several rules may speak against one connection. They are asked in a fixed order, and the first that does is the
reason given.
-/

namespace Dataflow

/-- Why two nodes cannot be joined. -/
inductive ConnectionError where
  | selfLoop (id : String)
  | nodeNotFound (id : String)
  | targetIsSource (id : String)
  | originIsSink (id : String)
  | duplicate (origin target : String)
  | sourceToSink (origin target : String)
deriving DecidableEq

def ConnectionError.message : ConnectionError → String
  | .selfLoop id => "Node '" ++ id ++ "' cannot be connected to itself"
  | .nodeNotFound id => "Node '" ++ id ++ "' does not exist in the workflow"
  | .targetIsSource id => "Node '" ++ id ++ "' is a source and cannot receive a connection"
  | .originIsSink id => "Node '" ++ id ++ "' is a sink and cannot originate a connection"
  | .duplicate origin target => "A connection from '" ++ origin ++ "' to '" ++ target ++ "' already exists"
  | .sourceToSink origin target =>
    "Direct connections from source '" ++ origin ++ "' to sink '" ++ target ++ "' are not allowed"

namespace Workflow

/-- Whether a connection may be added, and if not, the first rule that it breaks. -/
def checkConnection (w : Workflow) (origin target : String) : Except ConnectionError Unit :=
  if origin = target then .error (.selfLoop origin)
  else match w.node? origin with
  | none => .error (.nodeNotFound origin)
  | some a => match w.node? target with
    | none => .error (.nodeNotFound target)
    | some b =>
      if b.role = .source then .error (.targetIsSource target)
      else if a.role = .sink then .error (.originIsSink origin)
      else if w.hasConnection origin target then .error (.duplicate origin target)
      else if w.rules.forbidSourceToSink ∧ a.role = .source ∧ b.role = .sink then
        .error (.sourceToSink origin target)
      else .ok ()

def isLegal (w : Workflow) (origin target : String) : Bool := (w.checkConnection origin target).isOk

end Workflow

end Dataflow
