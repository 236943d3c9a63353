import Dataflow.Bytes.Value
import Dataflow.Graph.Basic
/-!
The stored form of workflows: their parts one after the other.
-/

namespace Dataflow

/-! ## Parts -/

def Role.toBytes : Role → Bytes
  | .source => [0]
  | .transform => [1]
  | .sink => [2]

def Decoder.role : Decoder Role := do
  match ← alternative with
  | 0 => return .source
  | 1 => return .transform
  | 2 => return .sink
  | _ => failure

def Node.toBytes (n : Node) : Bytes :=
  Bytes.ofText n.id ++ n.role.toBytes ++ Bytes.ofText n.kind ++ n.config.toBytes

def Decoder.node : Decoder Node := do
  return ⟨← text, ← role, ← text, ← config⟩

def Connection.toBytes (c : Connection) : Bytes :=
  Bytes.ofText c.id ++ Bytes.ofText c.origin ++ Bytes.ofText c.target

def Decoder.connection : Decoder Connection := do
  return ⟨← text, ← text, ← text⟩

/-! ## Workflows -/

def Workflow.toBytes (w : Workflow) : Bytes :=
  Bytes.ofText w.name ++ Bytes.ofText w.description ++ Bytes.ofList Node.toBytes w.nodes
    ++ Bytes.ofList Connection.toBytes w.connections ++ Bytes.ofBool w.rules.forbidSourceToSink
    ++ Bytes.ofNat w.lastNumber

def Decoder.workflow : Decoder Workflow := do
  return ⟨← text, ← text, ← list node, ← list connection, ⟨← bool⟩, ← nat⟩

end Dataflow
