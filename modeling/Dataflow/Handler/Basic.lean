import Dataflow.Config
import Dataflow.Handler.Error
/-!
Handlers: what does the work of one kind of node.

A handler says how many connections it takes, which settings it accepts, and what it makes of the values that
come in. It is a function of those values and the settings; besides its result it may ask for the whole run to be
cancelled, which takes effect before the next step.
-/

namespace Dataflow

/-! ## Arity -/

/-- How many inbound connections a kind takes. -/
inductive Arity where
  | exactly (n : Nat)
  | atLeast (n : Nat)
  | any
deriving DecidableEq

namespace Arity

def accepts : Arity → Nat → Bool
  | .exactly n, count => count == n
  | .atLeast n, count => decide (n ≤ count)
  | .any, _ => true

def text : Arity → String
  | .exactly n => "exactly " ++ natText n
  | .atLeast n => "at least " ++ natText n
  | .any => "any number of"

end Arity

/-! ## Settings -/

/-- Why a handler refuses the settings of a node. -/
inductive ConfigFault where
  | notOneOf (key : String) (allowed : List String) (found : String)
  | opMissing (allowed : List String)
  | opUnknown (found : String) (allowed : List String)
  | templateMissing
  | notPositive (key : String)
  | temperature (found : Number)
  /-- A fault with wording of its own. -/
  | other (message : String)
deriving DecidableEq

def ConfigFault.message : ConfigFault → String
  | .notOneOf key allowed found =>
    "'" ++ key ++ "' must be one of [" ++ ", ".intercalate allowed ++ "], found '" ++ found ++ "'"
  | .opMissing allowed => "'op' is required, one of [" ++ ", ".intercalate allowed ++ "]"
  | .opUnknown found allowed =>
    "unknown op '" ++ found ++ "', expected one of [" ++ ", ".intercalate allowed ++ "]"
  | .templateMissing => "'template' op needs a 'template' string"
  | .notPositive key => "'" ++ key ++ "' must be a positive integer"
  | .temperature found => "'temperature' must be within 0.0..=2.0, found " ++ found.fullText
  | .other message => message

/-- The value of a setting that has one of a few names; a missing setting has the name given as default. -/
def Config.choose {α : Type} (c : Config) (key default : String) (options : List (String × α)) :
    Except ConfigFault α :=
  let found := c.textD key default
  match options.lookup found with
  | some choice => .ok choice
  | none => .error (.notOneOf key (options.map (·.1)) found)

/-- A setting is read as what its name stands for. -/
theorem Config.choose_eq_ok_iff {α : Type} {config : Config} {key default : String} {options : List (String × α)}
    {choice : α} : config.choose key default options = .ok choice ↔
      options.lookup (config.textD key default) = some choice := by
  unfold Config.choose
  dsimp only
  cases options.lookup (config.textD key default) with
  | none => exact ⟨nofun, nofun⟩
  | some found => rw [Except.ok.injEq, Option.some.injEq]

theorem Config.choose_of_lookup {α : Type} {config : Config} {key default name : String} {options : List (String × α)}
    {choice : α} (hname : config.textD key default = name) (hchoice : options.lookup name = some choice) :
    config.choose key default options = .ok choice := by
  rw [Config.choose_eq_ok_iff, hname, hchoice]

/-! ## Handlers -/

/-- The outcome of an invocation. -/
structure Reply where
  result : Except HandlerError Value
  /-- Whether the handler asks for the run to end. -/
  cancels : Bool := false

structure Handler where
  arity : Arity
  validate : Config → Except ConfigFault Unit
  invoke : List Value → Config → Reply

instance : Inhabited Handler := ⟨⟨.any, fun _ => .ok (), fun _ _ => ⟨.ok .null, false⟩⟩⟩

namespace Handler

/-- A handler that accepts all settings. -/
def ofFunction (arity : Arity) (f : List Value → Config → Except HandlerError Value) : Handler where
  arity := arity
  validate _ := .ok ()
  invoke inbound config := ⟨f inbound config, false⟩

/-- A handler that first reads its settings into a form of their own; settings that cannot be read are refused,
and reported again by an invocation with them. -/
def ofSettings {σ : Type} (arity : Arity) (read : Config → Except ConfigFault σ)
    (f : σ → List Value → Config → Except HandlerError Value) : Handler where
  arity := arity
  validate config := (read config).map fun _ => ()
  invoke inbound config :=
    match read config with
    | .ok settings => ⟨f settings inbound config, false⟩
    | .error fault => ⟨.error (.invalidConfig fault.message), false⟩

theorem invoke_ofSettings {σ : Type} {arity : Arity} {read : Config → Except ConfigFault σ}
    {f : σ → List Value → Config → Except HandlerError Value} {config : Config} {settings : σ}
    (h : read config = .ok settings) (inbound : List Value) :
    (ofSettings arity read f).invoke inbound config = ⟨f settings inbound config, false⟩ := by
  simp only [ofSettings, h]

end Handler

/-- The value of a handler with one input; without any it is null. -/
def firstValue (inbound : List Value) : Value := inbound.headD .null

end Dataflow
