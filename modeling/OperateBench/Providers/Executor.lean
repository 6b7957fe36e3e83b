import OperateBench.Providers.Telemetry

/-! # The provider call of one turn

The retry loop of a turn over caller-supplied functions. Each of them sees all that was
called before it and returns or raises what it likes. The state of the turn keeps that
history, the cost guard, and what the turn has published.
-/

namespace OperateBench.Providers

open Foundation Boundary

/-- An exception, as far as the loop tells them apart. -/
inductive Raised
  | adapterProvider (fault : ProviderFault) (detail : String)
  | providerConfiguration
  | costCapExceeded
  | reservationBreached (measuredUsd : Option Decimal)
  | guard (error : GuardError)
  | attributeError
  | other (name : String)

/-- What a classification returns: nothing, a fault, or an object of another type. -/
inductive Verdict
  | unrecognised
  | fault (fault : Fault)
  | foreign

/-- What a reader of usage returns: two counts, or an object of another type. -/
inductive Usage
  | tokens (inputTokens outputTokens : Count)
  | foreign

/-- Both counts were reported. -/
def Usage.measurable : Usage → Bool
  | .tokens inputTokens outputTokens => inputTokens ≠ .absent ∧ outputTokens ≠ .absent
  | .foreign => false

/-- A call that the loop made and what came of it. -/
inductive Called (T ρ : Type)
  | clock (result : Except Raised T)
  | cancelled (result : Except Raised Bool)
  | authorized (result : Except GuardError Decimal)
  | checkedBeforeDispatch (result : Except Raised Unit)
  | dispatched (result : Except Raised ρ)
  | classified (result : Except Raised Verdict)
  | checkedIdentity (result : Except Raised Unit)
  | usageRead (result : Except Raised Usage)
  | slept (result : Except Raised Unit)
  | settled (result : Except GuardError (Option Decimal))
  | forfeited (result : Except GuardError Unit)
  | cancelledReservation (result : Except GuardError Unit)

/-- The functions a caller supplies, over the history of the turn. -/
structure Callbacks (T ρ : Type) where
  clock : List (Called T ρ) → Except Raised T
  sleep : T → List (Called T ρ) → Except Raised Unit
  cancelled : List (Called T ρ) → Except Raised Bool
  dispatch : T → List (Called T ρ) → Except Raised ρ
  checkBeforeDispatch : List (Called T ρ) → Except Raised Unit
  classify : Raised → List (Called T ρ) → Except Raised Verdict
  checkIdentity : ρ → List (Called T ρ) → Except Raised Unit
  usageOf : ρ → List (Called T ρ) → Except Raised Usage

/-- The arithmetic of a clock's readings. -/
structure Instants (T : Type) where
  zero : T
  sub : T → T → T
  mul : T → T → T
  le : T → T → Bool

structure ProviderRetryPolicy (T : Type) where
  maxAttempts : ℤ
  initialBackoffSeconds : T
  backoffMultiplier : T

structure TurnDeadline (T : Type) where
  remainingSeconds : T
  startedAt : Option T

/-- What the loop needs of the cost control of a run. -/
class CostGuard (γ : Type) where
  authorize : Count → EStateM GuardError γ Decimal
  settle : Operand → Count → Count → EStateM GuardError γ (Option Decimal)
  cancel : Operand → Count → EStateM GuardError γ Unit
  forfeit : Operand → EStateM GuardError γ Unit

instance : CostGuard RunCostGuard where
  authorize := RunCostGuard.authorize
  settle := RunCostGuard.settle
  cancel := RunCostGuard.cancel
  forfeit := RunCostGuard.forfeit

/-- What a turn changes. Nothing is published until the loop leaves. -/
structure GuardedState (γ T ρ : Type) where
  guard : Option γ
  history : List (Called T ρ) := []
  published : Option (ProviderTelemetry T) := none
  usage : Option (AdapterUsage T) := none

/-- The state of a turn under the guard of a run. -/
abbrev TurnState (T ρ : Type) := GuardedState RunCostGuard T ρ

/-- What stays the same throughout a turn. -/
structure Turn (T ρ : Type) where
  time : Instants T
  retry : ProviderRetryPolicy T
  deadline : TurnDeadline T
  tokenBound : Count
  callbacks : Callbacks T ρ

namespace Turn

variable {γ T ρ α : Type}

abbrev TurnM (γ T ρ : Type) := EStateM Raised (GuardedState γ T ρ)

/-- Call a function and hand back what came of it. -/
def consult (function : List (Called T ρ) → Except Raised α)
    (called : Except Raised α → Called T ρ) : TurnM γ T ρ (Except Raised α) := do
  let result := function (← get).history
  modify fun s => { s with history := s.history ++ [called result] }
  return result

/-- Call a function, and let what it raises out. -/
def call (function : List (Called T ρ) → Except Raised α)
    (called : Except Raised α → Called T ρ) : TurnM γ T ρ α := do
  let result ← consult function called
  raising id result

def guarded (guard : γ) (operation : EStateM GuardError γ α)
    (called : Except GuardError α → Called T ρ) : TurnM γ T ρ (Except GuardError α) := do
  match operation guard with
  | .ok a after =>
    modify fun s => { s with guard := some after, history := s.history ++ [called (.ok a)] }
    return .ok a
  | .error e after =>
    modify fun s => { s with guard := some after, history := s.history ++ [called (.error e)] }
    return .error e

variable [CostGuard γ]

/-- Resolve an outstanding reservation as exposure, if there is one. -/
def forfeit (reservation : Option Decimal) : TurnM γ T ρ Unit := do
  match (← get).guard, reservation with
  | some guard, some reserved =>
    let result ← guarded guard (CostGuard.forfeit (.finite reserved)) .forfeited
    raising .guard result
  | _, _ => pure ()

variable (turn : Turn T ρ)

/-- Publish what the turn has done so far. -/
def commit (started : T) (record : List (ProviderAttempt T)) (now : T) (reason : TurnEnd) :
    TurnM γ T ρ Unit :=
  modify fun s => { s with published := some ⟨record, turn.time.sub now started, reason⟩ }

/-- Publish, and raise. -/
def leave (started : T) (record : List (ProviderAttempt T)) (now : T) (reason : TurnEnd)
    (error : Raised) : TurnM γ T ρ α := do
  turn.commit started record now reason
  throw error

def authorize (started : T) (record : List (ProviderAttempt T)) :
    TurnM γ T ρ (Option Decimal) := do
  match (← get).guard with
  | none => return none
  | some guard =>
    match ← guarded guard (CostGuard.authorize turn.tokenBound) .authorized with
    | .ok reservation => return some reservation
    | .error (.costCapExceeded ..) =>
      let now ← call turn.callbacks.clock .clock
      turn.leave started record now .costCapExhausted .costCapExceeded
    | .error e => throw (.guard e)

/-- Release a reservation whose request was never dispatched, if there is one. -/
def cancel (reservation : Option Decimal) : TurnM γ T ρ Unit := do
  match (← get).guard, reservation with
  | some guard, some reserved =>
    let result ← guarded guard (CostGuard.cancel (.finite reserved) turn.tokenBound)
      .cancelledReservation
    raising .guard result
  | _, _ => return ()

/-- The last local admission: a configuration error cancels the reservation. -/
def admission (started : T) (record : List (ProviderAttempt T)) (reservation : Option Decimal) :
    TurnM γ T ρ Unit := do
  match ← consult turn.callbacks.checkBeforeDispatch .checkedBeforeDispatch with
  | .ok _ => return ()
  | .error .providerConfiguration =>
    let now ← call turn.callbacks.clock .clock
    turn.commit started record now .preDispatchRefused
    turn.cancel reservation
    throw .providerConfiguration
  | .error e => throw e

/-- Settle a response at its usage: how the reservation was resolved, what it cost, and the
breach that the guard reported. -/
def settleUsage (usage : Usage) (inputTokens outputTokens : Count)
    (reservation : Option Decimal) :
    TurnM γ T ρ (Option AttemptSettlement × Option Decimal × Option Raised) := do
  match (← get).guard, reservation with
  | some guard, some reserved =>
    if usage.measurable then
      match ← guarded guard (CostGuard.settle (.finite reserved) inputTokens outputTokens)
        .settled with
      | .ok (some cost) => return (some .measured, some cost, none)
      | .ok none => return (some .forfeited, none, none)
      | .error (.reservationBreached measured _ _) =>
        return (some .measured, some measured, some (.reservationBreached (some measured)))
      | .error e => throw (.guard e)
    else
      forfeit (some reserved)
      return (some .forfeited, none, none)
  | _, _ => return (none, none, none)

/-- One turn's measurement, which is kept even when the settlement is a breach. -/
def recordUsage (usage : Usage) (seconds : T) (reservation : Option Decimal) :
    TurnM γ T ρ (Option AttemptSettlement × Option Raised) :=
  match usage with
  | .foreign => throw .attributeError
  | .tokens inputTokens outputTokens => do
    let (settlement, costUsd, breach) ← settleUsage usage inputTokens outputTokens reservation
    modify fun s => { s with usage := some ⟨inputTokens, outputTokens, costUsd, seconds⟩ }
    return (settlement, breach)

/-- A forfeited settlement, exactly when there is a reservation. -/
def forfeitedIf (reservation : Option Decimal) : Option AttemptSettlement :=
  reservation.map fun _ => .forfeited

/-- Whether the retry is abandoned: the episode is cancelled or the pause does not fit. -/
def abandons (origin pause : T) (cancelled : Bool) : TurnM γ T ρ Bool :=
  if cancelled then return true
  else do
    let now ← call turn.callbacks.clock .clock
    let left := turn.time.sub turn.deadline.remainingSeconds (turn.time.sub now origin)
    return turn.time.le left pause

/-- A classified fault is on record: leave the loop, or pause and go on with the next wait. -/
def onFault (started origin failedAt pause : T) (attempts : ℕ)
    (record : List (ProviderAttempt T)) (fault : Fault) : TurnM γ T ρ T :=
  if !fault.fault.retryable then
    turn.leave started record failedAt .faultNotRetryable
      (.adapterProvider fault.fault (faultDetail fault attempts
        ("this fault is not retried, because repeating the same request cannot change the " ++
          "answer")))
  else if turn.retry.maxAttempts ≤ attempts then
    turn.leave started record failedAt .retriesExhausted
      (.adapterProvider fault.fault (faultDetail fault attempts
        "the adapter's bounded retry policy is exhausted and no answer was received"))
  else do
    let cancelled ← call turn.callbacks.cancelled .cancelled
    let abandoned ← turn.abandons origin pause cancelled
    if abandoned then
      turn.leave started record failedAt
        (if cancelled then .deadlineExceeded else .backoffUnaffordable)
        (.adapterProvider fault.fault (faultDetail fault attempts
          ("the turn's remaining wall-clock budget cannot pay for the next backoff and the " ++
            "request after it, so the retry was abandoned rather than started")))
    else
      call (turn.callbacks.sleep pause) .slept
      return turn.time.mul pause turn.retry.backoffMultiplier

/-- The dispatch raised: leave the loop, or go on with the next wait and the record. -/
def onFailure (started origin attemptStarted pause : T) (attempts : ℕ)
    (record : List (ProviderAttempt T)) (reservation : Option Decimal) (exception : Raised) :
    TurnM γ T ρ (T × List (ProviderAttempt T)) := do
  let failedAt ← call turn.callbacks.clock .clock
  forfeit reservation
  match ← consult (turn.callbacks.classify exception) .classified with
  | .error e => throw e
  | .ok .foreign => throw .attributeError
  | .ok .unrecognised =>
    let attempt : ProviderAttempt T :=
      { index := attempts, outcome := .unclassified,
        latencySeconds := turn.time.sub failedAt attemptStarted,
        costReservationUsd := reservation.map usdText,
        costSettlement := forfeitedIf reservation }
    turn.leave started (record ++ [attempt]) failedAt .unclassified exception
  | .ok (.fault fault) =>
    let attempt : ProviderAttempt T :=
      { index := attempts, outcome := .fault, fault := some fault.fault,
        httpStatus := fault.status, latencySeconds := turn.time.sub failedAt attemptStarted,
        responseReceived := fault.responseReceived,
        costReservationUsd := reservation.map usdText,
        costSettlement := forfeitedIf reservation }
    let wait ← turn.onFault started origin failedAt pause attempts (record ++ [attempt]) fault
    return (wait, record ++ [attempt])

/-- A response that is not measured: forfeit, record the refusal and raise it. -/
def refuse (started attemptStarted answeredAt : T) (attempts : ℕ)
    (record : List (ProviderAttempt T)) (reservation : Option Decimal)
    (fault : Option ProviderFault) (error : Raised) : TurnM γ T ρ α := do
  forfeit reservation
  let attempt : ProviderAttempt T :=
    { index := attempts, outcome := if fault.isSome then .fault else .unclassified, fault,
      latencySeconds := turn.time.sub answeredAt attemptStarted, responseReceived := true,
      costReservationUsd := reservation.map usdText, costSettlement := forfeitedIf reservation }
  turn.leave started (record ++ [attempt]) answeredAt
    (if fault.isSome then .faultNotRetryable else .unclassified) error

/-- The dispatch returned: check whose answer it is, measure it and leave the loop. -/
def onResponse (started attemptStarted : T) (attempts : ℕ) (record : List (ProviderAttempt T))
    (reservation : Option Decimal) (response : ρ) : TurnM γ T ρ ρ := do
  let answeredAt ← call turn.callbacks.clock .clock
  match ← consult (turn.callbacks.checkIdentity response) .checkedIdentity with
  | .error (.adapterProvider fault detail) =>
    turn.refuse started attemptStarted answeredAt attempts record reservation
      (some .responseInvalid) (.adapterProvider fault detail)
  | .error e => throw e
  | .ok _ =>
    match ← consult (turn.callbacks.usageOf response) .usageRead with
    | .error (.adapterProvider fault detail) =>
      turn.refuse started attemptStarted answeredAt attempts record reservation (some fault)
        (.adapterProvider fault detail)
    | .error e =>
      turn.refuse started attemptStarted answeredAt attempts record reservation none e
    | .ok usage =>
      let (settlement, breach) ← recordUsage usage (turn.time.sub answeredAt started) reservation
      let attempt : ProviderAttempt T :=
        { index := attempts, outcome := .response,
          latencySeconds := turn.time.sub answeredAt attemptStarted, responseReceived := true,
          usageReported := usage.measurable, costReservationUsd := reservation.map usdText,
          costSettlement := settlement }
      turn.commit started (record ++ [attempt]) answeredAt .response
      match breach with
      | some e => throw e
      | none => return response

/-- The remaining budget is spent, or the episode is cancelled. -/
def expired (budget : T) : TurnM γ T ρ Bool :=
  if turn.time.le budget turn.time.zero then return true
  else call turn.callbacks.cancelled .cancelled

/-- The loop, for as many more attempts as the policy can allow. -/
def loop (started origin : T) : ℕ → T → ℕ → List (ProviderAttempt T) → TurnM γ T ρ ρ
  | 0, _, _, _ => throw (.other "unreachable")
  | fuel + 1, wait, attempts, record => do
    let attemptStarted ← call turn.callbacks.clock .clock
    let budget := turn.time.sub turn.deadline.remainingSeconds
      (turn.time.sub attemptStarted origin)
    if ← turn.expired budget then
      turn.leave started record attemptStarted .deadlineExceeded
        (.adapterProvider .timeout (faultDetail ⟨.timeout, none, false⟩ attempts
          ("the turn's remaining wall-clock budget was spent or cancelled before a request " ++
            "could be made")))
    else
      let reservation ← turn.authorize started record
      turn.admission started record reservation
      match ← consult (turn.callbacks.dispatch budget) .dispatched with
      | .error exception =>
        let next ← turn.onFailure started origin attemptStarted wait (attempts + 1) record
          reservation exception
        loop started origin fuel next.1 (attempts + 1) next.2
      | .ok response =>
        turn.onResponse started attemptStarted (attempts + 1) record reservation response

def run : TurnM γ T ρ ρ := do
  let started ← call turn.callbacks.clock .clock
  let origin := turn.deadline.startedAt.getD started
  turn.loop started origin (turn.retry.maxAttempts.toNat + 1) turn.retry.initialBackoffSeconds 0 []

end Turn

end OperateBench.Providers
