/-!
The arguments of the command line: a workflow document and how to run it.
-/

namespace Dataflow

structure Options where
  /-- Where the workflow document is. -/
  workflow : String
  /-- Where the inputs are, if there are any. -/
  inputs : Option String := none
  /-- The text in front of every answer of the echo service. -/
  echoLead : String := ""
  /-- Whether a source may not be joined to a sink directly. -/
  strict : Bool := false
  /-- Whether the plan is shown before the run. -/
  showPlan : Bool := false
  /-- The folder to save the workflow and the run in, if they are to be saved. -/
  saveIn : Option String := none
deriving DecidableEq

/-- Why arguments cannot be understood. -/
inductive UsageError where
  | unknownFlag (flag : String)
  | valueMissing (flag : String)
  | tooMany (argument : String)
  | noWorkflow
deriving DecidableEq

def UsageError.message : UsageError → String
  | .unknownFlag flag => "unexpected argument '" ++ flag ++ "'"
  | .valueMissing flag => "a value is required for '" ++ flag ++ "'"
  | .tooMany argument => "unexpected argument '" ++ argument ++ "'"
  | .noWorkflow => "a workflow file is required"

namespace Options

/-- Takes arguments from the left, given what those before them ask for. -/
def addArgs (found : Options) (workflow : Option String) : List String → Except UsageError Options
  | [] => match workflow with
    | some path => .ok { found with workflow := path }
    | none => .error .noWorkflow
  | "--strict" :: rest => addArgs { found with strict := true } workflow rest
  | "--show-plan" :: rest => addArgs { found with showPlan := true } workflow rest
  | "--inputs" :: path :: rest | "-i" :: path :: rest => addArgs { found with inputs := some path } workflow rest
  | "--echo-prefix" :: lead :: rest => addArgs { found with echoLead := lead } workflow rest
  | "--save-dir" :: folder :: rest => addArgs { found with saveIn := some folder } workflow rest
  | argument :: rest =>
    if argument ∈ ["--inputs", "-i", "--echo-prefix", "--save-dir"] then .error (.valueMissing argument)
    else if argument.toList.head? = some '-' then .error (.unknownFlag argument)
    else match workflow with
      | some _ => .error (.tooMany argument)
      | none => addArgs found (some argument) rest

def ofArgs (args : List String) : Except UsageError Options := addArgs ⟨"", none, "", false, false, none⟩ none args

end Options

end Dataflow
