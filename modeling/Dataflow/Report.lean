import Dataflow.Run
import Dataflow.Text.Quoted
/-!
The report of a run: a line for its status, one for each attempted step, and what it collected.

Texts stand in the report as they are, so one with line breaks takes more than a line. Only collected texts are
set off: quoted while they fit a line, and otherwise as a block below their node.
-/

namespace Dataflow

/-- A collected value. A text of several lines is a block of indented lines. -/
def Value.reportText : Value → String
  | .text s =>
    if s.toList.contains '\n' then
      "|" ++ String.join ((Text.shownLines s.toList).map fun line => "\n      " ++ String.ofList line)
    else Text.quoted s
  | v => v.display

/-- The line of an attempted step. -/
def TraceEntry.line (e : TraceEntry) : String :=
  let (mark, detail) := match e.outcome with
    | .completed summary => ("ok", summary)
    | .failed message => ("!!", message)
  "  [" ++ mark ++ "] " ++ placeText e.index ++ ". " ++ e.nodeId ++ " (" ++ e.kind ++ ") " ++ natText e.elapsedMs
    ++ " ms: " ++ detail ++ "\n"

def RunStatus.reportText : RunStatus → String
  | .succeeded => "succeeded"
  | .failed => "FAILED"

def RunFailure.line (f : RunFailure) : String :=
  "Stopped at '" ++ f.nodeId ++ "' (" ++ f.kind ++ "): " ++ f.cause.message ++ "\n"

namespace RunResult

def statusLine (r : RunResult) : String :=
  "Run " ++ r.status.reportText ++ " (" ++ natText r.log.length ++ " step(s), " ++ natText r.elapsedMs ++ " ms)\n"

/-- The part of the report on the steps. -/
def logText (r : RunResult) : String := r.statusLine ++ String.join (r.log.map TraceEntry.line)

/-- The part of the report on the collected outputs. -/
def outputText (r : RunResult) : String :=
  if r.collected.isEmpty then ""
  else
    "Output:\n"
      ++ String.join (r.collected.entries.map fun (id, v) => "  " ++ id ++ " => " ++ v.reportText ++ "\n")

def report (r : RunResult) : String :=
  r.logText ++ ((r.failure.map RunFailure.line).getD "") ++ r.outputText

end RunResult

end Dataflow
