import Dataflow.Handler.Basic
import Dataflow.Json.Printer
import Dataflow.Value.Json
/-!
The ends of a workflow: constants that feed it and sinks that gather what comes out.
-/

namespace Dataflow

/-! ## Constants -/

/-- Puts out the input given to the run, else the setting `value`, else `default`, else null. -/
def constantInput : Handler :=
  .ofFunction (.exactly 0) fun inbound config =>
    .ok <| match inbound with
      | v :: _ => v
      | [] => ((config.get? "value").orElse fun _ => config.get? "default").getD .null

/-! ## Sinks -/

/-- The form in which a sink keeps what it gathers. -/
inductive OutputFormat where
  | raw
  | text
  | json
  | markdown
  | html
deriving DecidableEq

def OutputFormat.names : List (String × OutputFormat) :=
  [("raw", .raw), ("text", .text), ("json", .json), ("markdown", .markdown), ("html", .html)]

/-- One value as it is, several as a list. -/
def gather : List Value → Value
  | [] => .null
  | [v] => v
  | vs => .list vs

/-- A text for display inside a page: the ampersand first, so that the entities written later stay whole. -/
def escapeHtml (text : List Char) : List Char :=
  Text.replace ['>'] "&gt;".toList
    (Text.replace ['<'] "&lt;".toList
      (Text.replace ['&'] "&amp;".toList text))

def OutputFormat.apply (format : OutputFormat) (v : Value) : Value :=
  match format with
  | .raw => v
  | .text => .text v.toText
  | .json => .text v.toJson.pretty
  | .markdown => .text ("```\n" ++ v.toText ++ "\n```")
  | .html => .text ("<pre>" ++ String.ofList (escapeHtml v.toText.toList) ++ "</pre>")

def collectOutput : Handler :=
  .ofSettings .any (·.choose "format" "raw" OutputFormat.names) fun format inbound _ =>
    .ok (format.apply (gather inbound))

theorem collectOutput_invoke {config : Config} {name : String} {format : OutputFormat}
    (hname : config.textD "format" "raw" = name) (hformat : OutputFormat.names.lookup name = some format)
    (inbound : List Value) : (collectOutput.invoke inbound config).result = .ok (format.apply (gather inbound)) := by
  rw [collectOutput, Handler.invoke_ofSettings (Config.choose_of_lookup hname hformat)]

end Dataflow
