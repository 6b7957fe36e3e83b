import OperateBench.Core.Events
import OperateBench.Core.ReadContract

/-! # The seam between Core and a domain

Core runs an operation it does not understand. A domain gives it a plan of the
world, a state and three reductions. A reduction answers with a verdict, the state
it leaves and what it asked of the environment, in that order of asking.
-/

namespace OperateBench

open Foundation

inductive TriggerKind where
  | action
  | event
  deriving DecidableEq

def TriggerKind.text : TriggerKind → String
  | action => "action"
  | event => "event"

structure PlannedTrigger where
  kind : TriggerKind
  typeName : String
  cycleId : Option String

def PlannedTrigger.matches (trigger : PlannedTrigger) (kind : TriggerKind) (typeName : String)
    (cycleId : Option String) : Bool :=
  if trigger.kind ≠ kind ∨ trigger.typeName ≠ typeName then false
  else trigger.cycleId = none ∨ trigger.cycleId = cycleId

/-- An authored event: it happens at an instant, or some minutes after its cause. -/
structure PlannedEvent where
  eventId : String
  eventType : String
  actorId : String
  sequence : Int
  payload : Fields
  triggersAgent : Bool
  instant : Option String
  trigger : Option PlannedTrigger
  delayMinutes : Int

structure EpisodePlan where
  startsAt : String
  events : List PlannedEvent
  horizonMinutes : Int
  maxTurnsPerInvocation : Int
  maxInvocations : Int := 200
  maxRetrievalBatchesPerInvocation : Int := 6

abbrev Bindings := Dict String String

structure Verdict where
  accepted : Bool
  code : String
  detail : String
  cycleId : Option String
  observational : Bool
  bindings : Bindings

namespace Verdict

def ok (code : String) (cycleId : Option String) (bindings : Bindings) : Verdict :=
  ⟨true, code, "", cycleId, false, bindings⟩

def refused (code detail : String) : Verdict := ⟨false, code, detail, none, false, Dict.empty⟩

@[simp] theorem accepted_ok (code : String) (cycleId : Option String) (bindings : Bindings) :
    (ok code cycleId bindings).accepted = true := rfl

@[simp] theorem accepted_refused (code detail : String) :
    (refused code detail).accepted = false := rfl

end Verdict

/-- What a domain may ask of the environment while it reduces something. -/
inductive Effect where
  | record (recordType : String) (payload : Fields)
  | scheduleTimer (eventId eventType actorId : String) (delayMinutes : Int) (payload : Fields)
      (triggersAgent : Bool)
  | cancelTimer (eventId : String)

/-- What a domain may look at while it reduces something. -/
structure EnvironmentContext where
  now : String
  isPending : String → Bool
  dispatchFails : String → Bool

structure Reduction (σ : Type) where
  verdict : Verdict
  state : σ
  effects : List Effect

/-- A refusal in the state, having asked nothing. -/
def Reduction.refused {σ : Type} (state : σ) (code detail : String) : Reduction σ :=
  ⟨.refused code detail, state, []⟩

structure AgentObservation where
  now : String
  operationId : String
  operationInstanceId : String
  invocationIndex : ℕ
  turnIndex : ℕ
  policy : Fields
  actors : Dict String String
  messageFixtureIds : List String
  actionSchemas : Fields
  wakeEventTypes : List String
  lastRejection : Option Fields
  phase : String
  event : Option Fields
  retrieval : Fields

structure OperationDomain (σ : Type) where
  buildPlan : EpisodePlan
  initialState : σ
  canonicalState : σ → Fields
  coarsePhase : σ → String
  eventAuthority : String → String → String
  retrievalCatalogue : Catalogue
  retrievalRecordContract : List Value
  readRequirements : ActionEvidenceContract
  serveRetrieval : σ → List RetrievalRequest → String → Except PyError (List ToolResult)
  policyView : Fields
  actorRoles : Dict String String
  messageFixtureIds : List String
  actionSchemas : Except PyError Fields
  wakeEventVocabulary : List String
  isReplayFinal : σ → Bool
  terminalOutcome : σ → Option String
  reduceEvent : EnvironmentContext → σ → Event → Except PyError (Reduction σ)
  applyAction : EnvironmentContext → σ → String → Fields → List String →
    Except PyError (Reduction σ)
  applyTerminal : EnvironmentContext → σ → List String → Except PyError (Reduction σ)

/-- What an agent decides on: everything it was shown in the episode, the newest last. Its
memory and its begin-of-episode identity are part of the function. -/
abbrev OperationAgent := List AgentObservation → Except PyError Answer

end OperateBench
