import Dataflow.Config
/-!
Workflows: nodes joined by directed connections.

Nodes and connections keep the order in which they came, because the execution order and the inputs of a step
follow from it. A workflow as data may break every rule of the graph; `Graph.Integrity` says which do not.
-/

namespace Dataflow

/-- What a node may be joined to: a source receives nothing, a sink passes nothing on. -/
inductive Role where
  | source
  | transform
  | sink
deriving DecidableEq, Inhabited

def Role.name : Role → String
  | .source => "source"
  | .transform => "transform"
  | .sink => "sink"

/-- A unit of work. Its kind names the handler that does it. -/
structure Node where
  id : String
  role : Role
  kind : String
  config : Config := .empty
deriving DecidableEq, Inhabited

/-- The node `target` takes what the node `origin` puts out. -/
structure Connection where
  id : String
  origin : String
  target : String
deriving DecidableEq, Inhabited

/-- What is asked of a connection beyond the structure of the graph. -/
structure Rules where
  /-- A source must not be joined to a sink directly. -/
  forbidSourceToSink : Bool := false
deriving DecidableEq, Inhabited

def Rules.strict : Rules := ⟨true⟩

structure Workflow where
  name : String
  description : String := ""
  nodes : List Node := []
  connections : List Connection := []
  rules : Rules := {}
  /-- The number of the connection id handed out last. -/
  lastNumber : Nat := 0
deriving DecidableEq, Inhabited

namespace Workflow

/-! ## Look-up -/

def node? (w : Workflow) (id : String) : Option Node := w.nodes.find? (·.id == id)

def connection? (w : Workflow) (id : String) : Option Connection := w.connections.find? (·.id == id)

/-- Whether two nodes are joined already. -/
def hasConnection (w : Workflow) (origin target : String) : Bool :=
  w.connections.any fun c => c.origin == origin && c.target == target

/-- The connections into a node, oldest first. -/
def inbound (w : Workflow) (id : String) : List Connection := w.connections.filter (·.target == id)

/-- The connections out of a node, oldest first. -/
def outbound (w : Workflow) (id : String) : List Connection := w.connections.filter (·.origin == id)

def sources (w : Workflow) : List Node := w.nodes.filter (·.role == .source)

def sinks (w : Workflow) : List Node := w.nodes.filter (·.role == .sink)

/-- A workflow from parts that nobody has checked. Connection numbers go on after as many as there are. -/
def ofParts (name : String) (nodes : List Node) (connections : List Connection) : Workflow where
  name := name
  nodes := nodes
  connections := connections
  lastNumber := connections.length

end Workflow

/-! ## Equality

Equality as users see it compares the numbers in settings as numbers. -/

def Node.same (m n : Node) : Bool :=
  m.id == n.id && m.role == n.role && m.kind == n.kind && m.config.same n.config

def Workflow.same (v w : Workflow) : Bool :=
  v.name == w.name && v.description == w.description && v.nodes.isEqv w.nodes Node.same
    && v.connections == w.connections && v.rules == w.rules && v.lastNumber == w.lastNumber

end Dataflow
