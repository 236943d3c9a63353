import Dataflow.CommandLine
import Dataflow.Document.Conversion
import Dataflow.Inputs
import Dataflow.Report
import Dataflow.Store
/-!
Runs a workflow document from the command line and prints the report. The exit code is 1 for a fault on the way
to the run and 2 for a run that failed.
-/

namespace Dataflow.Main

/-- Ends with a message. -/
def fail (message : String) : IO UInt32 := do
  IO.eprintln ("\nError: " ++ message)
  return 1

/-- Saves the workflow and the run below a folder. -/
def save (folder : String) (w : Workflow) (r : RunResult) : IO Unit := do
  IO.FS.createDirAll folder
  for (key, bytes) in [("workflow", w.toBytes), ("last-run", r.toBytes)] do
    IO.FS.writeBinFile (folder ++ "/" ++ Folder.fileName key) ⟨bytes.toArray⟩

/-- Compiles and runs a workflow on inputs. -/
def runWorkflow (options : Options) (w : Workflow) (inputs : Inputs) : IO UInt32 := do
  let registry := Registry.builtin.withService (Completion.echo options.echoLead)
  match registry.compile w with
  | .error error => fail ("Compilation failed: " ++ error.message)
  | .ok plan =>
    IO.println ("Compiled '" ++ w.name ++ "': " ++ natText plan.steps.length ++ " step(s)")
    if options.showPlan then IO.print plan.listing
    let started ← IO.monoMsNow
    let result := plan.run inputs .ignored
    let report := { result with elapsedMs := (← IO.monoMsNow) - started }.report
    IO.println ""
    IO.print report
    match options.saveIn with
    | some folder =>
      try
        save folder w result
        IO.println ("Saved workflow and run result to '" ++ folder ++ "'")
      catch error =>
        return ← fail ("Failed to save state: " ++ toString error)
    | none => pure ()
    return if result.succeeded then 0 else 2

/-- Reads the inputs file, where there is one. -/
def readInputs (options : Options) : IO (Except String Inputs) := do
  match options.inputs with
  | none => return .ok .empty
  | some path =>
    try
      match Inputs.ofJsonText (← IO.FS.readFile path) with
      | .ok inputs => return .ok inputs
      | .error fault => return .error ("Failed to load inputs from '" ++ path ++ "': " ++ fault.message)
    catch error =>
      return .error ("Failed to load inputs from '" ++ path ++ "': " ++ toString error)

/-- Reads the workflow document. -/
def readWorkflow (options : Options) : IO (Except String Workflow) := do
  try
    match Document.read (← IO.FS.readFile options.workflow) with
    | .error error => return .error ("Failed to parse workflow JSON: " ++ error.message)
    | .ok document => match document.toWorkflow with
      | .error error => return .error ("Failed to convert workflow: " ++ error.message)
      | .ok w => return .ok (if options.strict then { w with rules := .strict } else w)
  catch error =>
    return .error ("Failed to read workflow file '" ++ options.workflow ++ "': " ++ toString error)

end Dataflow.Main

open Dataflow in
def main (args : List String) : IO UInt32 := do
  match Options.ofArgs args with
  | .error error => Main.fail error.message
  | .ok options => match ← Main.readWorkflow options with
    | .error message => Main.fail message
    | .ok w => match ← Main.readInputs options with
      | .error message => Main.fail message
      | .ok inputs => Main.runWorkflow options w inputs
