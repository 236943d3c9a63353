import Dataflow.Bytes.Value
import Dataflow.Run
/-!
The stored form of run results: their parts one after the other.
-/

namespace Dataflow

/-! ## Failures -/

def HandlerError.toBytes : HandlerError → Bytes
  | .typeMismatch operation expected found =>
    0 :: (Bytes.ofText operation ++ Bytes.ofText expected ++ found.toBytes)
  | .invalidConfig message => 1 :: Bytes.ofText message
  | .completion message => 2 :: Bytes.ofText message
  | .failed message => 3 :: Bytes.ofText message

def Decoder.handlerError : Decoder HandlerError := do
  match ← alternative with
  | 0 => return .typeMismatch (← text) (← text) (← value)
  | 1 => .invalidConfig <$> text
  | 2 => .completion <$> text
  | 3 => .failed <$> text
  | _ => failure

def RunError.toBytes : RunError → Bytes
  | .handler error => 0 :: error.toBytes
  | .cancelled => [1]

def Decoder.runError : Decoder RunError := do
  match ← alternative with
  | 0 => .handler <$> handlerError
  | 1 => return .cancelled
  | _ => failure

def RunFailure.toBytes (f : RunFailure) : Bytes :=
  Bytes.ofText f.nodeId ++ Bytes.ofText f.kind ++ f.cause.toBytes

def Decoder.runFailure : Decoder RunFailure := do
  return ⟨← text, ← text, ← runError⟩

/-! ## Log -/

def StepOutcome.toBytes : StepOutcome → Bytes
  | .completed summary => 0 :: Bytes.ofText summary
  | .failed message => 1 :: Bytes.ofText message

def Decoder.stepOutcome : Decoder StepOutcome := do
  match ← alternative with
  | 0 => .completed <$> text
  | 1 => .failed <$> text
  | _ => failure

def TraceEntry.toBytes (e : TraceEntry) : Bytes :=
  Bytes.ofNat e.index ++ Bytes.ofText e.nodeId ++ Bytes.ofText e.kind ++ e.outcome.toBytes
    ++ Bytes.ofNat e.elapsedMs

def Decoder.traceEntry : Decoder TraceEntry := do
  return ⟨← nat, ← text, ← text, ← stepOutcome, ← nat⟩

/-! ## Results -/

def RunStatus.toBytes : RunStatus → Bytes
  | .succeeded => [0]
  | .failed => [1]

def Decoder.runStatus : Decoder RunStatus := do
  match ← alternative with
  | 0 => return .succeeded
  | 1 => return .failed
  | _ => failure

def RunResult.toBytes (r : RunResult) : Bytes :=
  Bytes.ofDict Value.toBytes r.outputs ++ Bytes.ofDict Value.toBytes r.collected
    ++ Bytes.ofList TraceEntry.toBytes r.log ++ r.status.toBytes ++ Bytes.ofOption RunFailure.toBytes r.failure
    ++ Bytes.ofNat r.elapsedMs

def Decoder.runResult : Decoder RunResult := do
  return ⟨← dict value, ← dict value, ← list traceEntry, ← runStatus, ← option runFailure, ← nat⟩

end Dataflow
