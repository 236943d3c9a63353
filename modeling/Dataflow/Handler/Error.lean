import Dataflow.Value.Text
/-!
What a handler reports when it cannot produce a value.
-/

namespace Dataflow

inductive HandlerError where
  /-- An operation met a value of a type it does not take. -/
  | typeMismatch (operation expected : String) (found : Value)
  | invalidConfig (message : String)
  /-- The completion service gave no text. -/
  | completion (message : String)
  | failed (message : String)
deriving DecidableEq

def HandlerError.message : HandlerError → String
  | .typeMismatch operation expected found =>
    "Type mismatch during operation '" ++ operation ++ "': expected " ++ expected ++ ", but found value '"
      ++ found.display ++ "'"
  | .invalidConfig message => "Invalid configuration: " ++ message
  | .completion message => "Completion service failed: " ++ message
  | .failed message => message

end Dataflow
