import Dataflow.Handler.Completion
import Dataflow.Handler.Endpoint
import Dataflow.Handler.Items
/-!
Registries: which handler does the work of which kind.

A kind is known by the name it was registered under or by an alias. A registration wins over an alias of the same
name, and an alias leads to a registration only, never to another alias.
-/

namespace Dataflow

structure Registry where
  handlers : Dict Handler
  aliases : Dict String

namespace Registry

def empty : Registry := ⟨.empty, .empty⟩

instance : Inhabited Registry := ⟨empty⟩

def register (r : Registry) (kind : String) (handler : Handler) : Registry :=
  { r with handlers := r.handlers.insert kind handler }

/-- Lets a name stand for a registered kind. -/
def addAlias (r : Registry) (name kind : String) : Registry := { r with aliases := r.aliases.insert name kind }

/-- The registered kind that a name stands for, with its handler. -/
def resolve? (r : Registry) (kind : String) : Option (String × Handler) :=
  match r.handlers.get? kind with
  | some handler => some (kind, handler)
  | none => do
    let target ← r.aliases.get? kind
    let handler ← r.handlers.get? target
    some (target, handler)

def contains (r : Registry) (kind : String) : Bool := (r.resolve? kind).isSome

/-- The registered kinds in ascending order. -/
def kinds (r : Registry) : List String := r.handlers.keys

/-! ## Built-in kinds -/

/-- The kind of prompts to a model. It is registered together with a service. -/
def invokeModelKind : String := "invoke-model"

def builtinHandlers : List (String × Handler) := [
  ("constant-input", constantInput),
  ("predicate-branch", predicateBranch),
  ("merge", merge),
  ("map", mapTexts),
  ("transform", transform),
  ("filter", filterItems),
  ("sort", sortItems),
  ("aggregate", aggregate),
  ("split", splitText),
  ("collect-output", collectOutput),
  ("uppercase", fixedTextOp .uppercase),
  ("lowercase", fixedTextOp .lowercase),
  ("trim", fixedTextOp .trim)]

def builtinAliases : List (String × String) := [
  ("constant", "constant-input"),
  ("input", "constant-input"),
  ("branch", "predicate-branch"),
  ("collect", "collect-output"),
  ("output", "collect-output"),
  ("llm", invokeModelKind)]

/-- All built-in kinds but the one that needs a service. -/
def builtin : Registry := ⟨.ofList builtinHandlers, .ofList builtinAliases⟩

def withService (r : Registry) (service : CompletionService) : Registry :=
  r.register invokeModelKind (Completion.invokeModel service)

end Registry

end Dataflow
