import OperateBench.Core.Ledger
import OperateBench.Core.Protocol

/-! # The engine's state and its bookkeeping

Everything one episode holds between two turns of the loop, with the point the
program is at. The operations here write one row, arm or disarm one timer, or
schedule what an accepted cause has set off.
-/

namespace OperateBench

open Foundation

structure Engine (σ : Type) where
  domain : OperationDomain σ
  agent : OperationAgent
  operationId : String
  operationInstanceId : String
  dispatchFailures : List String
  sha256 : Value → String

def Engine.plan {σ : Type} (E : Engine σ) : EpisodePlan := E.domain.buildPlan

/-- Execution statuses: the episode ran out, which is no way for the operation to end. -/
inductive Halt where
  | deadlock
  | horizon
  deriving DecidableEq

def Halt.text : Halt → String
  | deadlock => "operation_deadlock"
  | horizon => "operational_horizon_exhausted"

inductive Disposition where
  | accepted
  | rejected
  | audit
  | postTerminal
  deriving DecidableEq

def Disposition.text : Disposition → String
  | accepted => "accepted"
  | rejected => "rejected"
  | audit => "audit"
  | postTerminal => "post_terminal"

/-- What the agent is told about its last refused proposal. -/
structure Rejection where
  actionType : String
  code : String
  detail : String

def Rejection.asDict (rejection : Rejection) : Fields := .ofList
  [("action_type", .str rejection.actionType), ("code", .str rejection.code),
    ("detail", .str rejection.detail)]

/-- Where the program stands: at the head of the delivery loop, before a call of the agent
inside an invocation, or behind the loop. -/
inductive Control where
  | head
  | turn (trigger : Option Event) (business turn : ℕ)
  | done

def timerSequenceBase : Int := 1000000

structure EngineState (σ : Type) where
  clock : SimulatedClock
  queue : EventQueue
  ledger : TrajectoryLedger
  state : σ
  conditionals : List PlannedEvent
  delivered : List Fields
  timerCounter : ℕ
  proposalCounter : ℕ
  invocations : ℕ
  activeWait : Option Wait
  fallbackAt : Option String
  lastRejection : Option Rejection
  halt : Option Halt
  served : Dict String ToolResult
  retrievalBatches : ℕ
  readHistory : Dict String String
  claimValues : List String
  triggerIsAuthoritative : Bool
  turnIndex : ℕ
  control : Control
  asked : List AgentObservation

/-- Write what the cause established over the fields the authored payload declares. -/
def rebind (payload : Fields) (bindings : Bindings) : Fields :=
  bindings.entries.foldl (fun payload e =>
    if payload.contains e.1 then payload.set e.1 (.str e.2) else payload) payload

def toEvent (planned : PlannedEvent) (instant : String) (causedBy : Option String)
    (bindings : Bindings) : Event where
  eventId := planned.eventId
  eventType := planned.eventType
  actorId := planned.actorId
  instant := instant
  sequence := planned.sequence
  payload := rebind planned.payload bindings
  triggersAgent := planned.triggersAgent
  causedBy := causedBy

/-- Every string the waking event carried, as the set an agent could cite. -/
def claimValuesOf : Option Event → List String
  | none => []
  | some event => (event.eventId ::
      event.payload.values.filterMap fun v => v.asStr?.filter fun s => s ≠ "").dedup

def cycleOf (event : Event) : Option String := (event.payload.get? "cycle_id").bind Value.asStr?

/-- Schedule the planned events whose trigger matches, and keep the others. -/
def fireMatching (now : String) (kind : TriggerKind) (typeName : String)
    (cycleId : Option String) (bindings : Bindings) :
    List PlannedEvent → EventQueue → Except PyError (List PlannedEvent × EventQueue)
  | [], queue => .ok ([], queue)
  | planned :: events, queue =>
    match planned.trigger with
    | none => .error .assertion
    | some trigger =>
      if trigger.matches kind typeName cycleId then do
        let instant ← shiftMinutes now planned.delayMinutes s!"authored event {planned.eventId}"
        let queue ← queue.schedule
          (toEvent planned instant (some s!"{kind.text}:{typeName}") bindings)
        fireMatching now kind typeName cycleId bindings events queue
      else do
        let (remaining, queue) ← fireMatching now kind typeName cycleId bindings events queue
        return (planned :: remaining, queue)

namespace EngineState

variable {σ : Type}

def log (s : EngineState σ) (recordType : String) (payload : List (String × Value)) :
    Except PyError (EngineState σ) := do
  let ledger ← s.ledger.append s.clock.now recordType (.ofList payload)
  return { s with ledger }

/-- Arm a timer. Its identity is the domain's, so it can disarm it later. -/
def scheduleTimer (s : EngineState σ) (eventId eventType actorId : String) (delayMinutes : Int)
    (payload : Fields) (triggersAgent : Bool) : Except PyError (EngineState σ) := do
  let instant ← shiftMinutes s.clock.now delayMinutes s!"timer {eventId}"
  let queue ← s.queue.schedule {
    eventId, eventType, actorId, instant
    sequence := timerSequenceBase + (s.timerCounter + 1)
    payload, triggersAgent
    causedBy := some "timer" }
  log { s with queue, timerCounter := s.timerCounter + 1 } "timer_scheduled"
    [("event_id", .str eventId), ("event_type", .str eventType), ("due_at", .str instant)]

def cancelTimer (s : EngineState σ) (eventId : String) : Except PyError (EngineState σ) :=
  let (cancelled, queue) := s.queue.cancel eventId
  if cancelled then log { s with queue } "timer_cancelled" [("event_id", .str eventId)]
  else .ok { s with queue }

def applyEffect (s : EngineState σ) : Effect → Except PyError (EngineState σ)
  | .record recordType payload => do
    let ledger ← s.ledger.append s.clock.now recordType payload
    return { s with ledger }
  | .scheduleTimer eventId eventType actorId delayMinutes payload triggersAgent =>
    s.scheduleTimer eventId eventType actorId delayMinutes payload triggersAgent
  | .cancelTimer eventId => s.cancelTimer eventId

/-- Take over what a domain's reduction left behind. -/
def commit (s : EngineState σ) (reduction : Reduction σ) : Except PyError (EngineState σ) :=
  reduction.effects.foldlM applyEffect { s with state := reduction.state }

def fireConditionals (s : EngineState σ) (kind : TriggerKind) (typeName : String)
    (cycleId : Option String) (bindings : Bindings) : Except PyError (EngineState σ) := do
  let (conditionals, queue) ←
    fireMatching s.clock.now kind typeName cycleId bindings s.conditionals s.queue
  return { s with conditionals, queue }

def clearWait (s : EngineState σ) : EngineState σ :=
  { s with activeWait := none, fallbackAt := none }

def noteDelivery (s : EngineState σ) (event : Event) (disposition : Disposition)
    (code : String) : EngineState σ :=
  let row : Fields := .ofList (event.asDict ++
    [("disposition", .str disposition.text), ("verdict_code", .str code)])
  { s with delivered := s.delivered ++ [row] }

def refuseInvocation (s : EngineState σ) (code detail : String) :
    Except PyError (EngineState σ) := do
  let s ← s.log "critical_violation" [("code", .str code), ("detail", .str detail)]
  return { s with halt := some .deadlock }

def refuseWait (s : EngineState σ) (code detail : String) : Except PyError (EngineState σ) := do
  let s ← s.log "wait_rejected" [("code", .str code), ("detail", .str detail)]
  return { s with lastRejection := some ⟨"wait", code, detail⟩ }

def refuseOutcome (s : EngineState σ) (turn : ℕ) (detail : String) :
    Except PyError (EngineState σ) := do
  let s ← s.log "outcome_rejected"
    [("invocation_index", .int s.invocations), ("turn_index", .int turn),
      ("code", .str malformedOutcomeCode), ("detail", .str detail)]
  return { s with lastRejection := some ⟨"<malformed outcome>", malformedOutcomeCode, detail⟩ }

/-- Drop every served result and say why. -/
def invalidateDerivedContext (s : EngineState σ) (cause : InvalidationCause) (turnIndex : ℕ)
    (actionType : Option String) : Except PyError (EngineState σ) :=
  let cleared := sortTexts s.served.keys
  let s := { s with served := Dict.empty }
  let s := if cause = .wake then { s with retrievalBatches := 0 } else s
  s.log "derived_context_invalidated"
    [("invocation_index", .int s.invocations), ("turn_index", .int turnIndex),
      ("cause", .str cause.text), ("action_type", .ofText? actionType),
      ("cleared_tools", .ofTexts cleared)]

/-- Did the agent expect to be woken by this? -/
def checkDeclaredWake (s : EngineState σ) (event : Event) : Except PyError (EngineState σ) :=
  match s.activeWait with
  | none => .ok s
  | some wait =>
    if wait.wakeOn = [] ∨ event.eventType ∈ wait.wakeOn then .ok s
    else s.log "wait_rejected"
      [("code", .str "UNDECLARED_WAKE_EVENT"),
        ("detail", .str (s!"woken by {pyRepr event.eventType}, which the standing wait did not " ++
          s!"declare (declared: {reprList wait.wakeOn})")),
        ("event_id", .str event.eventId)]

/-- The instant of the declared fallback, when it comes before the next event. -/
def fallbackDueBefore (s : EngineState σ) (upcoming : Option Event) :
    Except PyError (Option String) :=
  match s.fallbackAt, upcoming with
  | none, _ => .ok none
  | some fallbackAt, none => .ok (some fallbackAt)
  | some fallbackAt, some upcoming => do
    let fallback ← parseTimestamp fallbackAt "wait fallback"
    let event ← parseTimestamp upcoming.instant s!"event {upcoming.eventId}"
    return if fallback < event then some fallbackAt else none

end EngineState

namespace Engine

variable {σ : Type} (E : Engine σ)

def context (s : EngineState σ) : EnvironmentContext where
  now := s.clock.now
  isPending eventId := s.queue.pending.any fun event => event.eventId == eventId
  dispatchFails messageFixtureId := messageFixtureId ∈ E.dispatchFailures

def beyondHorizon (s : EngineState σ) (moment : String) : Except PyError Bool := do
  let limit := s.clock.startSeconds + E.plan.horizonMinutes * 60
  let instant ← parseTimestamp moment "horizon check"
  return limit < instant

/-- Has the declared allowance already been spent? Asked before invoking. -/
def outOfInvocations (s : EngineState σ) : Except PyError (Bool × EngineState σ) :=
  if s.invocations < E.plan.maxInvocations then .ok (false, s)
  else do
    let s ← s.refuseInvocation "INVOCATION_LIMIT_EXCEEDED"
      (s!"the agent was invoked {s.invocations} times, the whole declared allowance of " ++
        s!"{E.plan.maxInvocations}, and the operation still requires another invocation to " ++
        "reach a terminal state")
    return (true, s)

end Engine

end OperateBench
