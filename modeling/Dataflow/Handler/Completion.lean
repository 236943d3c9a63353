import Dataflow.Handler.Basic
import Dataflow.Number.Arithmetic
/-!
Prompts and the service that completes them.

The service itself belongs to the host; here it is any function from requests to texts. A prompt is a template in
which placeholders stand for the joined inputs. Only the template is searched for placeholders, so those inside
an input stay as they are.
-/

namespace Dataflow

structure CompletionRequest where
  prompt : String
  systemPrompt : String
  model : String
  temperature : Number
  maxTokens : Nat
deriving DecidableEq

abbrev CompletionService := CompletionRequest → Except HandlerError String

namespace Completion

def innerPlaceholder : List Char := "\x7binput\x7d".toList

def outerPlaceholder : List Char := '\x7b' :: innerPlaceholder ++ ['\x7d']

/-- A template with the input in the places of both placeholders; the longer one is cut out first. -/
def renderPrompt (template input : List Char) : List Char :=
  input.intercalate ((Text.pieces outerPlaceholder template).map (Text.replace innerPlaceholder input))

/-- The temperature of a request that sets none, 0.7. -/
def defaultTemperature : Number := .ofDecimal false ⟨7, -1⟩

/-- The request for a node's settings and the text of its inputs. -/
def request (config : Config) (input : String) : CompletionRequest :=
  let template :=
    ((config.text? "prompt").orElse fun _ => config.text? "user_prompt").getD (String.ofList outerPlaceholder)
  { prompt := String.ofList (renderPrompt template.toList input.toList)
    systemPrompt := config.textD "system_prompt" "You are a helpful assistant."
    model := config.textD "model" "gpt-3.5-turbo"
    temperature := (config.number? "temperature").getD defaultTemperature
    maxTokens := (config.count? "max_tokens").getD 2000 }

/-- The service that answers with the prompt, behind a fixed text. -/
def echo (lead : String) : CompletionService := fun r => .ok (lead ++ r.prompt)

def checkTemperature (config : Config) : Except ConfigFault Unit :=
  match config.number? "temperature" with
  | none => .ok ()
  | some t => if Number.zero.le t && t.le (.ofNat 2) then .ok () else .error (.temperature t)

def checkMaxTokens (config : Config) : Except ConfigFault Unit :=
  if config.contains "max_tokens" then
    match config.count? "max_tokens" with
    | some (_ + 1) => .ok ()
    | _ => .error (.notPositive "max_tokens")
  else .ok ()

/-- Asks a service to complete the prompt made from all inputs. -/
def invokeModel (service : CompletionService) : Handler where
  arity := .any
  validate config := do
    checkTemperature config
    checkMaxTokens config
  invoke inbound config :=
    let input := "\n".intercalate (inbound.map Value.toText)
    ⟨(service (request config input)).map .text, false⟩

end Completion

end Dataflow
