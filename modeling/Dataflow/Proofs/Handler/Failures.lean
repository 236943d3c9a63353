import Dataflow.Proofs.Handler.TextOp
import Dataflow.Registry
/-!
How the built-in handlers fail.

A handler meets the settings of its node twice: when a plan is made it checks them, and in every run it reads them
again. That the second reading finds what the first has accepted is proved here once for all handlers that read their
settings into a form of their own (`Handler.failsOnly_ofSettings`), and apart for the two that do not. What is left to
fail is the work itself, which is of two kinds: an operation on texts meets a value that is none (`TextOp`), or the
service behind a prompt gives no text. Nothing else fails (`Registry.withService_failsOnly`).
-/

set_option autoImplicit false

namespace Dataflow

/-- A function on results does not fail. -/
theorem error_of_map {ε α β : Type} {error : ε} {x : Except ε α} {f : α → β} (h : x.map f = .error error) :
    x = .error error := by
  cases x with
  | error e => rw [Except.error.inj h]
  | ok a => cases h

/-! ## Text operations -/

/-- An operation met a value of a type that it does not take. -/
def HandlerError.IsMismatch (error : HandlerError) : Prop :=
  ∃ operation expected found, error = .typeMismatch operation expected found

namespace TextOp

/-- The errors by which an operation refuses a value: mismatches that name the operation. -/
def Refuses (op : TextOp) (error : HandlerError) : Prop :=
  ∃ expected found, error = .typeMismatch op.name expected found

variable {op : TextOp} {error : HandlerError}

theorem Refuses.isMismatch (h : op.Refuses error) : error.IsMismatch := by
  obtain ⟨expected, found, rfl⟩ := h
  exact ⟨op.name, expected, found, rfl⟩

theorem refuses_refusal (op : TextOp) (leaf : Value) : op.Refuses (op.refusal leaf) := by
  unfold refusal
  split
  · exact ⟨_, _, rfl⟩
  · split
    · exact ⟨_, _, rfl⟩
    · exact ⟨_, _, rfl⟩

/-- **An operation fails by a mismatch only, and the mismatch names it.** -/
theorem refuses_of_apply (v : Value) (h : op.apply v = .error error) : op.Refuses error := by
  have houtcome : Outcome op v.leaves (v.Leafwise op.Makes) (op.apply v) := outcome_apply v
  rw [h] at houtcome
  cases houtcome with
  | refused front leaf back hleaves hfront hleaf => exact op.refuses_refusal leaf

end TextOp

/-! ## Handlers -/

namespace Handler

/-- With settings that it accepts, a handler reports errors of one sort only, and never asks for the end of the
run. -/
def FailsOnly (h : Handler) (sort : HandlerError → Prop) : Prop :=
  ∀ config, h.validate config = .ok () → ∀ inbound, (h.invoke inbound config).cancels = false ∧
    ∀ error, (h.invoke inbound config).result = .error error → sort error

variable {sort : HandlerError → Prop}

/-- **What the check has read, the invocation reads.** So a handler that reads its settings first fails in its work
only. -/
theorem failsOnly_ofSettings {σ : Type} {arity : Arity} {read : Config → Except ConfigFault σ}
    {f : σ → List Value → Config → Except HandlerError Value}
    (hf : ∀ settings inbound config error, f settings inbound config = .error error → sort error) :
    (ofSettings arity read f).FailsOnly sort := by
  intro config hvalid inbound
  cases hread : read config with
  | error fault => simp [ofSettings, hread, Except.map] at hvalid
  | ok settings =>
    rw [invoke_ofSettings hread]
    exact ⟨rfl, hf settings inbound config⟩

/-- A handler whose work always comes to something does not fail. -/
theorem failsOnly_ofSettings_ok {σ : Type} {arity : Arity} {read : Config → Except ConfigFault σ}
    {f : σ → List Value → Config → Value} :
    (ofSettings arity read fun settings inbound config => .ok (f settings inbound config)).FailsOnly sort :=
  failsOnly_ofSettings fun _ _ _ _ h => by cases h

theorem failsOnly_ofFunction {arity : Arity} {f : List Value → Config → Except HandlerError Value}
    (hf : ∀ inbound config error, f inbound config = .error error → sort error) :
    (ofFunction arity f).FailsOnly sort := by
  intro config _ inbound
  exact ⟨rfl, hf inbound config⟩

end Handler

/-- The pieces of a text do not fail, once the mode has been read. -/
theorem splitText_failsOnly {sort : HandlerError → Prop} : splitText.FailsOnly sort := by
  intro config hvalid inbound
  cases hmode : config.choose "mode" "whole" SplitMode.names with
  | error fault => simp [splitText, hmode, bind, Except.bind] at hvalid
  | ok mode =>
    simp only [splitText, hmode]
    refine ⟨trivial, ?_⟩
    intro error h
    cases h

/-- Behind a prompt the service fails, and the handler with the error that it gives. -/
theorem Completion.invokeModel_failsOnly (service : CompletionService) :
    (invokeModel service).FailsOnly fun error => ∃ request, service request = .error error := by
  intro config _ inbound
  refine ⟨rfl, ?_⟩
  intro error h
  exact ⟨request config ("\n".intercalate (inbound.map Value.toText)), error_of_map h⟩

/-! ## Registries -/

namespace Registry

/-- With settings that they accept, the handlers of a registry report errors of sorts that go by their kinds. -/
def FailsOnly (r : Registry) (sort : String → HandlerError → Prop) : Prop :=
  ∀ kind h, r.handlers.get? kind = some h → h.FailsOnly (sort kind)

/-- The kinds that do nothing but apply an operation to texts. -/
def textKinds : List String := ["uppercase", "lowercase", "trim", "map"]

/-- Of the built-in kinds, those that apply an operation to texts fail by a mismatch, and the others do not fail. -/
theorem builtinHandlers_failsOnly :
    ∀ entry ∈ builtinHandlers, entry.2.FailsOnly fun error => entry.1 ∈ textKinds ∧ error.IsMismatch := by
  have hfixed (op : TextOp) (kind : String) (hkind : kind ∈ textKinds) :
      (fixedTextOp op).FailsOnly fun error => kind ∈ textKinds ∧ error.IsMismatch :=
    Handler.failsOnly_ofFunction fun _ _ _ h => ⟨hkind, (TextOp.refuses_of_apply _ h).isMismatch⟩
  have hmap : mapTexts.FailsOnly fun error => "map" ∈ textKinds ∧ error.IsMismatch :=
    Handler.failsOnly_ofSettings fun _ _ _ _ h => ⟨by decide, (TextOp.refuses_of_apply _ h).isMismatch⟩
  unfold builtinHandlers
  simp only [List.forall_mem_cons]
  refine ⟨?constantInput, ?predicateBranch, ?merge, hmap, ?transform, ?filter, ?sort, ?aggregate, splitText_failsOnly,
    ?collectOutput, hfixed _ _ (by decide), hfixed _ _ (by decide), hfixed _ _ (by decide), by simp⟩
  case constantInput => exact Handler.failsOnly_ofFunction fun _ _ _ h => by cases h
  case predicateBranch => exact Handler.failsOnly_ofSettings_ok
  case merge => exact Handler.failsOnly_ofSettings_ok
  case transform => exact Handler.failsOnly_ofSettings_ok
  case filter => exact Handler.failsOnly_ofSettings_ok
  case sort => exact Handler.failsOnly_ofSettings_ok
  case aggregate => exact Handler.failsOnly_ofSettings_ok
  case collectOutput => exact Handler.failsOnly_ofSettings_ok

theorem builtin_failsOnly : builtin.FailsOnly fun kind error => kind ∈ textKinds ∧ error.IsMismatch := by
  intro kind h hget
  exact builtinHandlers_failsOnly (kind, h) (Dict.mem_of_get?_ofList hget)

/-- **How the built-in kinds fail.** Those that apply an operation to texts fail by a mismatch, the prompt fails as
its service does, and the others do not fail. -/
theorem withService_failsOnly (service : CompletionService) :
    (builtin.withService service).FailsOnly fun kind error =>
      (kind ∈ textKinds ∧ error.IsMismatch) ∨ (kind = invokeModelKind ∧ ∃ request, service request = .error error) := by
  intro kind h hget config hvalid inbound
  have hinsert : (builtin.handlers.insert invokeModelKind (Completion.invokeModel service)).get? kind = some h := hget
  rw [Dict.get?_insert] at hinsert
  by_cases hkind : kind = invokeModelKind
  · rw [if_pos hkind] at hinsert
    obtain rfl := Option.some.inj hinsert
    obtain ⟨hcancels, herror⟩ := Completion.invokeModel_failsOnly service config hvalid inbound
    exact ⟨hcancels, fun error h => .inr ⟨hkind, herror error h⟩⟩
  · rw [if_neg hkind] at hinsert
    obtain ⟨hcancels, herror⟩ := builtin_failsOnly kind h hinsert config hvalid inbound
    exact ⟨hcancels, fun error h => .inl (herror error h)⟩

/-- The built-in kinds, as they are or with the service that answers with the prompt. -/
inductive Standard : Registry → Prop where
  | plain : Standard builtin
  | echo (lead : String) : Standard (builtin.withService (Completion.echo lead))

/-- The service that answers with the prompt always answers. -/
theorem Standard.failsOnly {r : Registry} (hr : r.Standard) :
    r.FailsOnly fun kind error => kind ∈ textKinds ∧ error.IsMismatch := by
  cases hr with
  | plain => exact builtin_failsOnly
  | echo lead =>
    intro kind h hget config hvalid inbound
    obtain ⟨hcancels, herror⟩ := withService_failsOnly _ kind h hget config hvalid inbound
    refine ⟨hcancels, ?_⟩
    intro error hresult
    rcases herror error hresult with hmismatch | ⟨-, request, hservice⟩
    · exact hmismatch
    · cases hservice

end Registry

end Dataflow
