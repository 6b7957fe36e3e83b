import OperateBench.Core.Consultation
import OperateBench.Core.Engine
import OperateBench.ReturnRefund.Actions
import OperateBench.ReturnRefund.Reducers

/-! # Accepted changes of the record

The reductions are put together as the domain that the engine runs. `Commit` has one constructor
for every way in which an accepted call changes the record, with the guards that call has passed,
what it did to the obligations and the timers it moved. The handlers are taken apart into these
cases once; invariants are proved by cases on them.
-/

namespace OperateBench.ReturnRefund

open Foundation

section Disclosure

def schemaFields (fields : List (String × PayloadKind)) : Value :=
  .ofFields (fields.map fun (name, kind) => (name, .str kind.text))

/-- The contract of one outcome as it is handed to the agent. -/
def outcomeSchema (schema : PayloadSchema) (outcomeKey : String) : Value := .ofFields
  [("required", schemaFields schema.required), ("optional", schemaFields schema.optional),
    ("reads", actionEvidenceContract.schemaPart outcomeKey),
    ("evidence_refs", actionEvidenceContract.evidenceSchemaPart outcomeKey)]

end Disclosure

namespace ReturnRefundOperation

variable (op : ReturnRefundOperation)

def buildPlan : EpisodePlan where
  startsAt := op.scenario.startsAt
  events := op.scenario.events
  horizonMinutes := op.policy.horizonMinutes
  maxTurnsPerInvocation := op.policy.maxTurnsPerInvocation
  maxRetrievalBatchesPerInvocation := op.policy.maxRetrievalBatchesPerInvocation

def initialState : ReturnRefundState := { hidden := op.spec.hiddenState }

def eventAuthority (actorId : String) : String :=
  let role := ((op.spec.actors.get? actorId).map ActorSpec.role).getD ""
  (roleAuthority.get? role).getD Authority.actorClaim

def policyView : Fields := .ofList
  [("currency", .str op.policy.currency),
    ("refund_amount_minor", .int op.policy.refundAmountMinor),
    ("approval_threshold_minor", .int op.policy.approvalThresholdMinor),
    ("handover_reminder_after_minutes", .int op.policy.handoverReminderAfterMinutes),
    ("handover_deadline_after_minutes", .int op.policy.handoverDeadlineAfterMinutes),
    ("approval_deadline_after_minutes", .int op.policy.approvalDeadlineAfterMinutes),
    ("provisional_close_minutes", .int op.policy.provisionalCloseMinutes),
    ("completion_notice_within_minutes", .int op.policy.completionNoticeWithinMinutes)]

/-- The actions the agent may propose, and the terminal beside them. -/
def actionSchemas : Except PyError Fields :=
  match op.spec.actors.get? "agent" with
  | none => .error (.key "agent")
  | some agent =>
    let offered := ActionType.all.filter fun action => agent.holds action.text
    .ok (.ofList ((offered.map fun action =>
      (action.text, outcomeSchema (actionPayloadSchema action) action.text)) ++
        [(completeOutcomeKey, outcomeSchema ⟨[], []⟩ completeOutcomeKey)]))

/-- Answer one canonical batch from the roots its tools project. -/
def serveRetrieval (sha256 : Value → String) (state : ReturnRefundState)
    (requests : List RetrievalRequest) (asOf : String) : Except PyError (List ToolResult) := do
  let specs ← requests.mapM fun request =>
    match retrievalTool? request.tool with
    | some spec => .ok spec
    | none => .error (.key request.tool)
  let observable ← state.project (sortedSet (specs.flatMap RetrievalToolSpec.roots))
  serveRequests sha256 observable asOf requests

def domain (sha256 : Value → String) : OperationDomain ReturnRefundState where
  buildPlan := op.buildPlan
  initialState := op.initialState
  canonicalState := ReturnRefundState.canonical
  coarsePhase state := state.phase.text
  eventAuthority actorId _ := op.eventAuthority actorId
  retrievalCatalogue := retrievalCatalogue
  retrievalRecordContract := retrievalRecordContract
  readRequirements := actionEvidenceContract
  serveRetrieval := serveRetrieval sha256
  policyView := op.policyView
  actorRoles := .ofList (op.spec.actors.entries.map fun (actorId, actor) => (actorId, actor.role))
  messageFixtureIds := sortTexts op.spec.messageFixtures.keys
  actionSchemas := op.actionSchemas
  wakeEventVocabulary := wakeEventTypes
  isReplayFinal state := state.replayFinal
  terminalOutcome state := state.terminal.map fun terminal => terminal.outcome.text
  reduceEvent context state event := op.reduceEvent state event context
  applyAction context state actionType payload evidenceRefs :=
    op.applyAction state payload evidenceRefs context actionType
  applyTerminal context state evidenceRefs := op.applyTerminal state evidenceRefs context

/-- The engine on one scenario of the operation, with an agent. -/
def engine (sha256 : Value → String) (agent : OperationAgent)
    (operationId operationInstanceId : String) : Engine ReturnRefundState where
  domain := op.domain sha256
  agent
  operationId
  operationInstanceId
  dispatchFailures := op.scenario.dispatchFailures
  sha256

end ReturnRefundOperation

section Duties

abbrev Duties := Registry Obligation.obligationId

/-- Open a duty unless its identity is taken. -/
def openDuty (now obligationId : String) (kind : ObligationKind) (cycleId : Option String)
    (dueAfterMinutes : Int) (duties : Duties) : Except PyError Duties :=
  if duties.contains obligationId then .ok duties
  else do
    let dueAt ← shiftMinutes now dueAfterMinutes s!"obligation {obligationId}"
    return duties.put { obligationId, kind, cycleId, openedAt := now, dueAt }

/-- Close a duty that is open. Any other is left as it is. -/
def closeDuty (now obligationId : String) (closure : Closure) (duties : Duties) :
    Except PyError Duties :=
  match duties.get? obligationId with
  | none => .ok duties
  | some obligation =>
    if obligation.status ≠ .opened then .ok duties
    else do
      let closure ← Transaction.lateClosure obligation now closure
      return duties.put { obligation with status := closure.status, closedAt := some now }

/-- The effects that move a timer, in their order. -/
def timersOf (effects : List Effect) : List Effect :=
  effects.filter fun effect => match effect with
    | .record _ _ => false
    | _ => true

namespace Transaction

variable {t t' : Transaction}

@[simp] theorem state_begin (state : ReturnRefundState) : (begin state).state = state := rfl

@[simp] theorem state_record (t : Transaction) (recordType : String)
    (payload : List (String × Value)) : (t.record recordType payload).state = t.state := rfl

@[simp] theorem state_cancelTimer (t : Transaction) (eventId : String) :
    (t.cancelTimer eventId).state = t.state := rfl

@[simp] theorem state_scheduleTimer (t : Transaction) (eventId : String) (eventType : EventType)
    (delay : Int) (payload : List (String × Value)) :
    (t.scheduleTimer eventId eventType delay payload).state = t.state := rfl

@[simp] theorem timers_begin (state : ReturnRefundState) : timersOf (begin state).effects = [] :=
  rfl

@[simp] theorem timers_record (t : Transaction) (recordType : String)
    (payload : List (String × Value)) :
    timersOf (t.record recordType payload).effects = timersOf t.effects := by
  simp [timersOf, record]

@[simp] theorem timers_cancelTimer (t : Transaction) (eventId : String) :
    timersOf (t.cancelTimer eventId).effects = timersOf t.effects ++ [.cancelTimer eventId] := by
  simp [timersOf, cancelTimer]

@[simp] theorem timers_scheduleTimer (t : Transaction) (eventId : String) (eventType : EventType)
    (delay : Int) (payload : List (String × Value)) :
    timersOf (t.scheduleTimer eventId eventType delay payload).effects = timersOf t.effects ++
      [.scheduleTimer eventId eventType.text "scheduler" delay (.ofList payload) true] := by
  simp [timersOf, scheduleTimer]

/-- Only the duties have changed, by the given operation, and no timer was moved. -/
structure Dealt (f : Duties → Except PyError Duties) (t t' : Transaction) : Prop where
  duties : f t.state.obligations = .ok t'.state.obligations
  state : t'.state = { t.state with obligations := t'.state.obligations }
  timers : timersOf t'.effects = timersOf t.effects

theorem openObligation_ok {now obligationId : String} {kind : ObligationKind}
    {cycleId : Option String} {minutes : Int}
    (h : t.openObligation now obligationId kind cycleId minutes = .ok t') :
    Dealt (openDuty now obligationId kind cycleId minutes) t t' := by
  unfold openObligation at h
  split at h
  · rename_i hc
    obtain rfl := Except.ok.inj h
    exact ⟨by rw [openDuty, if_pos hc], rfl, rfl⟩
  · rename_i hc
    obtain ⟨dueAt, hd, h⟩ := bind_ok h
    obtain rfl := pure_ok h
    refine ⟨?_, rfl, timers_record _ _ _⟩
    rw [openDuty, if_neg hc, hd]
    rfl

theorem closeObligation_ok {now obligationId : String} {closure : Closure}
    (h : t.closeObligation now obligationId closure = .ok t') :
    Dealt (closeDuty now obligationId closure) t t' := by
  unfold closeObligation at h
  split at h
  · rename_i hg
    obtain rfl := Except.ok.inj h
    exact ⟨by rw [closeDuty, hg], rfl, rfl⟩
  · rename_i obligation hg
    split at h
    · rename_i hs
      obtain rfl := Except.ok.inj h
      exact ⟨by rw [closeDuty, hg]; exact if_pos hs, rfl, rfl⟩
    · rename_i hs
      obtain ⟨late, hl, h⟩ := bind_ok h
      obtain rfl := pure_ok h
      refine ⟨?_, rfl, timers_record _ _ _⟩
      rw [closeDuty, hg]
      simp only [if_neg hs, hl]
      rfl

theorem Dealt.trans {u : Transaction} {f g : Duties → Except PyError Duties} (h₁ : Dealt f t t')
    (h₂ : Dealt g t' u) : Dealt (fun duties => f duties >>= g) t u := by
  refine ⟨?_, ?_, h₂.timers.trans h₁.timers⟩
  · rw [h₁.duties]
    exact h₂.duties
  · rw [h₂.state, h₁.state]

end Transaction

end Duties

namespace ReturnRefundOperation

variable (op : ReturnRefundOperation)

/-- One call of the operation. -/
def respond (call : Call) (state : ReturnRefundState) : Result :=
  match call.cause with
  | .event event => op.reduceEvent state event call.context
  | .action actionType payload evidenceRefs =>
    op.applyAction state payload evidenceRefs call.context actionType
  | .terminal evidenceRefs => op.applyTerminal state evidenceRefs call.context

theorem reduce_domain (sha256 : Value → String) : (op.domain sha256).reduce = op.respond := by
  funext call state
  obtain ⟨context, cause⟩ := call
  cases cause <;> rfl

theorem respond_of_engine {sha256 : Value → String} {agent : OperationAgent}
    {operationId instanceId : String} {call : Call} {state : ReturnRefundState}
    {r : Reduction ReturnRefundState}
    (h : (op.engine sha256 agent operationId instanceId).domain.reduce call state = .ok r) :
    op.respond call state = .ok r := by
  rwa [show (op.engine sha256 agent operationId instanceId).domain = op.domain sha256 from rfl,
    op.reduce_domain sha256] at h

/-- The operation on its own: one call that returned. -/
def Step (s : ReturnRefundState) (call : Call) (s' : ReturnRefundState) : Prop :=
  ∃ reduction, op.respond call s = .ok reduction ∧ reduction.state = s'

theorem step_domain (sha256 : Value → String) : (op.domain sha256).Step = op.Step := by
  funext s call s'
  simp only [OperationDomain.Step, Step, reduce_domain]

/-- The event passes the checks made before its reducer is asked. -/
structure Admits (event : Event) (eventType : EventType) : Prop where
  named : EventType.ofText? event.eventType = some eventType
  authorised : ∃ actor, op.spec.actors.get? event.actorId = some actor ∧
    actor.holds eventType.authority = true
  valid : validatePayload (eventPayloadSchema eventType) event.payload s!"event {event.eventId}"
    event.eventType = .ok ()

end ReturnRefundOperation

/-- The action passes the checks made before its handler is asked. -/
structure Admitted (s : ReturnRefundState) (actionType : String) (payload : Fields)
    (evidenceRefs : List String) (action : ActionType) : Prop where
  live : s.replayFinal = false
  named : ActionType.ofText? actionType = some action
  valid : validatePayload (actionPayloadSchema action) payload s!"action {actionType}"
    actionType = .ok ()
  evidence : unresolvedEvidence s evidenceRefs = none

/-- The event is the runtime's own firing of the timer. -/
structure IsTimer (event : Event) (timerId : String) : Prop where
  cause : event.causedBy = some "timer"
  actor : event.actorId = "scheduler"
  identity : event.eventId = timerId

/-- The payload names the case, the cycle, the amount and the currency it is expected to. -/
structure Names (payload : Fields) (cycleId : Option String) (amountMinor : Option Int)
    (currency : Option String) : Prop where
  cycle : payload.text? "cycle_id" = cycleId
  amount : int? payload "amount_minor" = amountMinor
  currency : payload.text? "currency" = currency

/-- Nothing is open that stands in the way of the terminal. -/
structure Unblocked (s : ReturnRefundState) (evidenceRefs : List String) : Prop where
  live : s.replayFinal = false
  evidence : unresolvedEvidence s evidenceRefs = none
  checkpoints : s.openCheckpoints = []
  obligations : s.openObligations = []

/-- A denial or an expiry that ends the operation at once. -/
inductive ClosesAs : Phase → Phase → TerminalOutcome → Prop
  | denied : ClosesAs .refundDenied .finalRefundDenied .closedRefundDenied
  | expired : ClosesAs .returnExpired .finalReturnExpired .closedReturnExpired

/-- The accepted changes of the record `s` at the instant `now`, with what caused them. -/
inductive Commit (op : ReturnRefundOperation) (now : String) (s : ReturnRefundState) :
    Cause → Transaction → Prop
  | returnRequested {event : Event} {effects : List Effect}
      (admitted : op.Admits event .customerReturnRequested) (first : s.phase = .new)
      (named : Names event.payload (some firstRefundCycle)
        (some op.policy.refundAmountMinor.1) (some op.policy.currency))
      (timers : timersOf effects = []) :
      Commit op now s (.event event) ⟨{ s with
        returnId := some (event.payload.text "return_id")
        orderId := some (event.payload.text "order_id")
        amountMinor := some op.policy.refundAmountMinor.1
        currency := some op.policy.currency
        currentCycleId := some firstRefundCycle
        phase := .returnRequested }, effects⟩
  | handoverClaimed {event : Event} {effects : List Effect}
      (admitted : op.Admits event .customerHandoverClaimed)
      (fresh : s.customerClaims.get? (event.payload.text "claim_id") = none)
      (timers : timersOf effects = []) :
      Commit op now s (.event event) ⟨{ s with
        customerClaims := s.customerClaims.put {
          claimId := event.payload.text "claim_id"
          returnId := s.returnId
          authorisationId := event.payload.text "authorisation_id"
          cycleId := s.currentCycleId
          claimedAt := now } }, effects⟩
  | handoverVerified {event : Event} {authorisation : Authorisation} {obligations : Duties}
      {effects : List Effect} (admitted : op.Admits event .carrierHandoverVerified)
      (onFile : s.authorisations.get? (event.payload.text "authorisation_id") =
        some authorisation)
      (issued : authorisation.status = .issued)
      (case : event.payload.text? "return_id" = s.returnId)
      (cycle : event.payload.text? "cycle_id" = authorisation.cycleId)
      (handed : (event.payload.get "handed_over").truthy = true)
      (fresh : s.carrierRecords.get? (event.payload.text "carrier_record_id") = none)
      (duties : (closeDuty now (handoverObligation (event.payload.text "authorisation_id"))
        .discharged s.obligations >>= closeDuty now
          (handoverReminderObligation (event.payload.text "authorisation_id")) .cancelled) =
        .ok obligations)
      (timers : timersOf effects =
        [.cancelTimer (handoverReminderTimer (event.payload.text "authorisation_id")),
          .cancelTimer (handoverDeadlineTimer (event.payload.text "authorisation_id"))]) :
      Commit op now s (.event event) ⟨{ s with
        carrierRecords := s.carrierRecords.put {
          carrierRecordId := event.payload.text "carrier_record_id"
          returnId := s.returnId
          authorisationId := event.payload.text "authorisation_id"
          cycleId := event.payload.text "cycle_id"
          verifiedAt := now }
        authorisations := s.authorisations.put { authorisation with
          status := .verified
          verifiedAt := some now }
        obligations
        phase := .awaitingInspection }, effects⟩
  | inspected {event : Event} {cycleId : String} {phase : Phase} {obligations : Duties}
      {effects : List Effect} (admitted : op.Admits event .warehouseInspectionCompleted)
      (awaited : s.phase = .awaitingInspection) (verified : hasVerifiedHandover s = true)
      (current : s.currentCycleId = some cycleId)
      (case : event.payload.text? "return_id" = s.returnId)
      (named : Names event.payload (some cycleId) s.amountMinor s.currency)
      (fresh : s.inspections.get? (event.payload.text "inspection_id") = none)
      (outcome : event.payload.text "disposition" ≠ eligibleDisposition ∧ phase = .refundDenied ∧
          openDuty now (denialNoticeObligation cycleId) .refundDenialNotice (some cycleId)
            op.policy.completionNoticeWithinMinutes s.obligations = .ok obligations ∨
        event.payload.text "disposition" = eligibleDisposition ∧ obligations = s.obligations ∧
          phase = if op.policy.approvalThresholdMinor < s.amountMinor.getD 0 then
            .awaitingApproval else .readyToRefund)
      (timers : timersOf effects = []) :
      Commit op now s (.event event) ⟨{ s with
        inspections := s.inspections.put {
          inspectionId := event.payload.text "inspection_id"
          returnId := s.returnId
          cycleId
          disposition := event.payload.text "disposition"
          amountMinor := s.amountMinor
          currency := s.currency
          inspectedAt := now }
        obligations
        phase }, effects⟩
  | decided {event : Event} {checkpoint : Checkpoint} {decision : Decision} {phase : Phase}
      {obligations : Duties} {effects : List Effect}
      (admitted : op.Admits event .refundApprovalReceived)
      (onFile : s.checkpoints.get? (event.payload.text "checkpoint_id") = some checkpoint)
      (opened : checkpoint.status = .opened)
      (inspection : event.payload.text? "inspection_id" = some checkpoint.inspectionId)
      (named : Names event.payload checkpoint.cycleId checkpoint.amountMinor checkpoint.currency)
      (decides : Decision.ofText? (event.payload.text "decision") = some decision)
      (outcome : decision = .approved ∧ phase = .readyToRefund ∧
          closeDuty now (approvalObligation (event.payload.text "checkpoint_id")) .discharged
            s.obligations = .ok obligations ∨
        decision = .rejected ∧ phase = .refundDenied ∧
          (closeDuty now (approvalObligation (event.payload.text "checkpoint_id")) .discharged
            s.obligations >>= openDuty now (denialNoticeObligation (textOr checkpoint.cycleId))
              .refundDenialNotice (some (textOr checkpoint.cycleId))
              op.policy.completionNoticeWithinMinutes) = .ok obligations)
      (timers : timersOf effects =
        [.cancelTimer (approvalDeadlineTimer (event.payload.text "checkpoint_id"))]) :
      Commit op now s (.event event) ⟨{ s with
        checkpoints := s.checkpoints.put { checkpoint with
          decision := some decision
          status := decision.status
          resolvedAt := some now }
        obligations
        phase }, effects⟩
  | settled {event : Event} {refund : Refund} {obligations : Duties} {effects : List Effect}
      (admitted : op.Admits event .refundSettlementConfirmed)
      (onFile : s.refunds.get? (event.payload.text "refund_request_id") = some refund)
      (requested : refund.status = .requested)
      (inspection : event.payload.text? "inspection_id" = some refund.inspectionId)
      (named : Names event.payload (some refund.cycleId) refund.amountMinor refund.currency)
      (duties : (closeDuty now (settlementObligation (event.payload.text "refund_request_id"))
        .discharged s.obligations >>= openDuty now (completionNoticeObligation refund.cycleId)
          .refundCompletionNotice (some refund.cycleId)
          op.policy.completionNoticeWithinMinutes) = .ok obligations)
      (timers : timersOf effects = []) :
      Commit op now s (.event event) ⟨{ s with
        refunds := s.refunds.put { refund with
          status := .settled
          settlementId := some (event.payload.text "settlement_id")
          settledAt := some now }
        obligations
        phase := .refundSettled }, effects⟩
  | reversed {event : Event} {refund : Refund} {provisional : Provisional} {obligations : Duties}
      {effects : List Effect} (admitted : op.Admits event .refundSettlementReversed)
      (onFile : s.refunds.get? (event.payload.text "refund_request_id") = some refund)
      (settled : refund.status = .settled)
      (cycle : event.payload.text? "cycle_id" = some refund.cycleId)
      (closed : s.provisional = some provisional)
      (named : provisional.refundRequestId = event.payload.text "refund_request_id")
      (duties : openDuty now (recoveryObligation recoveryRefundCycle) .refundRecovery
        (some recoveryRefundCycle) op.policy.horizonMinutes s.obligations = .ok obligations)
      (timers : timersOf effects = [.cancelTimer provisional.timerEventId]) :
      Commit op now s (.event event) ⟨{ s with
        refunds := s.refunds.put { refund with
          status := .reversed
          reversalId := some (event.payload.text "reversal_id")
          reversalReasonCode := some (event.payload.text "reason_code")
          reversedAt := some now }
        provisional := none
        currentCycleId := some recoveryRefundCycle
        obligations
        phase := .refundReopened }, effects⟩
  | reminderFired {event : Event} {authorisation : Authorisation} {obligations : Duties}
      {effects : List Effect} (admitted : op.Admits event .handoverReminderDue)
      (timer : IsTimer event (handoverReminderTimer (event.payload.text "authorisation_id")))
      (onFile : s.authorisations.get? (event.payload.text "authorisation_id") =
        some authorisation)
      (issued : authorisation.status = .issued)
      (duties : openDuty now (handoverReminderObligation (event.payload.text "authorisation_id"))
        .handoverReminder (some (textOr authorisation.cycleId))
        (op.policy.handoverDeadlineAfterMinutes - op.policy.handoverReminderAfterMinutes)
        s.obligations = .ok obligations)
      (timers : timersOf effects = []) :
      Commit op now s (.event event) ⟨{ s with
        authorisations := s.authorisations.put { authorisation with reminderDue := true }
        obligations }, effects⟩
  | returnExpired {event : Event} {authorisation : Authorisation} {obligations : Duties}
      {effects : List Effect} (admitted : op.Admits event .handoverDeadlineDue)
      (timer : IsTimer event (handoverDeadlineTimer (event.payload.text "authorisation_id")))
      (onFile : s.authorisations.get? (event.payload.text "authorisation_id") =
        some authorisation)
      (issued : authorisation.status = .issued)
      (duties : (closeDuty now (handoverObligation (event.payload.text "authorisation_id"))
        .breached s.obligations >>= fun duties => closeDuty now
          (handoverReminderObligation (event.payload.text "authorisation_id")) .breached duties >>=
        openDuty now (expiryNoticeObligation (textOr authorisation.cycleId)) .returnExpiryNotice
          (some (textOr authorisation.cycleId)) op.policy.completionNoticeWithinMinutes) =
        .ok obligations)
      (timers : timersOf effects = []) :
      Commit op now s (.event event) ⟨{ s with
        authorisations := s.authorisations.put { authorisation with
          status := .expired
          expiredAt := some now }
        obligations
        phase := .returnExpired }, effects⟩
  | approvalExpired {event : Event} {checkpoint : Checkpoint} {obligations : Duties}
      {effects : List Effect} (admitted : op.Admits event .approvalDeadlineDue)
      (timer : IsTimer event (approvalDeadlineTimer (event.payload.text "checkpoint_id")))
      (onFile : s.checkpoints.get? (event.payload.text "checkpoint_id") = some checkpoint)
      (opened : checkpoint.status = .opened)
      (duties : (closeDuty now (approvalObligation (event.payload.text "checkpoint_id")) .breached
        s.obligations >>= openDuty now (denialNoticeObligation (textOr checkpoint.cycleId))
          .refundDenialNotice (some (textOr checkpoint.cycleId))
          op.policy.completionNoticeWithinMinutes) = .ok obligations)
      (timers : timersOf effects = []) :
      Commit op now s (.event event) ⟨{ s with
        checkpoints := s.checkpoints.put { checkpoint with
          status := .expired
          resolvedAt := some now }
        obligations
        phase := .refundDenied }, effects⟩
  | finalized {event : Event} {provisional : Provisional} {refund : Refund} {fired bound : Int}
      {effects : List Effect} (admitted : op.Admits event .resolutionCooldownExpired)
      (cooling : s.phase = .provisional) (closed : s.provisional = some provisional)
      (timer : IsTimer event provisional.timerEventId)
      (moment : strptime event.instant = .ok fired)
      (limit : strptime provisional.expiresAt = .ok bound) (late : bound ≤ fired)
      (request : provisional.refundRequestId = event.payload.text "refund_request_id")
      (cycle : provisional.cycleId = event.payload.text "cycle_id")
      (onFile : s.refunds.get? provisional.refundRequestId = some refund)
      (settled : refund.status = .settled) (checkpoints : s.openCheckpoints = [])
      (obligations : s.openObligations = []) (timers : timersOf effects = []) :
      Commit op now s (.event event) ⟨{ s with
        provisional := none
        phase := .finalSuccess
        replayFinal := true
        terminal := some ⟨.completedRefundSettled, now, some provisional.cycleId,
          some provisional.refundRequestId⟩ }, effects⟩
  | authorised {actionType : String} {payload : Fields} {evidenceRefs : List String}
      {obligations : Duties} {effects : List Effect}
      (admitted : Admitted s actionType payload evidenceRefs .issueReturnAuthorisation)
      (awaited : s.phase = .returnRequested)
      (case : payload.text? "return_id" = s.returnId)
      (cycle : payload.text? "cycle_id" = s.currentCycleId)
      (duties : openDuty now
        (handoverObligation (allocate "return_authorisation" s.authorisations.keys))
        .authoritativeHandover s.currentCycleId op.policy.handoverDeadlineAfterMinutes
        s.obligations = .ok obligations)
      (timers : timersOf effects =
        [.scheduleTimer
          (handoverReminderTimer (allocate "return_authorisation" s.authorisations.keys))
          EventType.handoverReminderDue.text "scheduler" op.policy.handoverReminderAfterMinutes
          (.ofList [("authorisation_id",
              .str (allocate "return_authorisation" s.authorisations.keys)),
            ("cycle_id", .ofText? s.currentCycleId)]) true,
        .scheduleTimer
          (handoverDeadlineTimer (allocate "return_authorisation" s.authorisations.keys))
          EventType.handoverDeadlineDue.text "scheduler" op.policy.handoverDeadlineAfterMinutes
          (.ofList [("authorisation_id",
              .str (allocate "return_authorisation" s.authorisations.keys)),
            ("cycle_id", .ofText? s.currentCycleId)]) true]) :
      Commit op now s (.action actionType payload evidenceRefs) ⟨{ s with
        authorisations := s.authorisations.put {
          authorisationId := allocate "return_authorisation" s.authorisations.keys
          returnId := s.returnId
          cycleId := s.currentCycleId
          issuedAt := now }
        obligations
        phase := .awaitingHandover }, effects⟩
  | reviewRequested {actionType : String} {payload : Fields} {evidenceRefs : List String}
      {inspection : Inspection} {deadlineAt : String} {obligations : Duties}
      {effects : List Effect}
      (admitted : Admitted s actionType payload evidenceRefs .requestRefundApproval)
      (awaited : s.phase = .awaitingApproval)
      (onFile : s.inspections.get? (payload.text "inspection_id") = some inspection)
      (eligible : inspection.disposition = eligibleDisposition)
      (cycle : payload.text? "cycle_id" = s.currentCycleId)
      (unreviewed : ∀ row ∈ s.checkpoints.values, row.inspectionId ≠ inspection.inspectionId)
      (deadline : shiftMinutes now op.policy.approvalDeadlineAfterMinutes
        "refund approval deadline" = .ok deadlineAt)
      (duties : openDuty now (approvalObligation (allocate "refund_checkpoint" s.checkpoints.keys))
        .refundApprovalDecision s.currentCycleId op.policy.approvalDeadlineAfterMinutes
        s.obligations = .ok obligations)
      (timers : timersOf effects =
        [.scheduleTimer
          (approvalDeadlineTimer (allocate "refund_checkpoint" s.checkpoints.keys))
          EventType.approvalDeadlineDue.text "scheduler" op.policy.approvalDeadlineAfterMinutes
          (.ofList [("checkpoint_id", .str (allocate "refund_checkpoint" s.checkpoints.keys)),
            ("cycle_id", .ofText? s.currentCycleId)]) true]) :
      Commit op now s (.action actionType payload evidenceRefs) ⟨{ s with
        checkpoints := s.checkpoints.put {
          checkpointId := allocate "refund_checkpoint" s.checkpoints.keys
          inspectionId := inspection.inspectionId
          cycleId := s.currentCycleId
          amountMinor := s.amountMinor
          currency := s.currency
          openedAt := now
          deadlineAt }
        obligations }, effects⟩
  | refundRequested {actionType : String} {payload : Fields} {evidenceRefs : List String}
      {inspection : Inspection} {obligations : Duties} {effects : List Effect}
      (admitted : Admitted s actionType payload evidenceRefs .requestRefund)
      (ready : s.phase = .readyToRefund ∨ s.phase = .refundReopened)
      (cycle : s.currentCycleId = some (payload.text "cycle_id"))
      (unasked : ∀ refund ∈ s.refunds.values, refund.cycleId ≠ payload.text "cycle_id")
      (onFile : s.inspections.get? (payload.text "inspection_id") = some inspection)
      (eligible : inspection.disposition = eligibleDisposition)
      (verified : hasVerifiedHandover s = true)
      (approval : op.approvalProblem s payload inspection = none)
      (cited : payload.text "inspection_id" ∈ evidenceRefs)
      (duties : (closeDuty now (recoveryObligation (payload.text "cycle_id")) .discharged
        s.obligations >>= openDuty now
          (settlementObligation (allocate "refund_request" s.refunds.keys))
          .authoritativeRefundSettlement (some (payload.text "cycle_id"))
          op.policy.horizonMinutes) = .ok obligations)
      (timers : timersOf effects = []) :
      Commit op now s (.action actionType payload evidenceRefs) ⟨{ s with
        refunds := s.refunds.put {
          refundRequestId := allocate "refund_request" s.refunds.keys
          inspectionId := inspection.inspectionId
          approvalCheckpointId := payload.text? "approval_checkpoint_id"
          cycleId := payload.text "cycle_id"
          amountMinor := s.amountMinor
          currency := s.currency
          requestedAt := now }
        obligations
        phase := .refundPending }, effects⟩
  | messageSent {actionType : String} {payload : Fields} {evidenceRefs : List String}
      {obligationId : String} {dispatched : Bool} {obligations : Duties} {effects : List Effect}
      (admitted : Admitted s actionType payload evidenceRefs .sendMessage)
      (recipient : payload.text "recipient_actor_id" = customerActorId)
      (unsent : ∀ row ∈ s.communications.values,
        ¬(row.messageFixtureId = payload.text "message_fixture_id" ∧
          row.cycleId = ReturnRefundOperation.messageCycle s payload))
      (notice : ReturnRefundOperation.noticeObligation s (payload.text "message_fixture_id")
        (ReturnRefundOperation.messageCycle s payload) = .ok obligationId)
      (duties : closeDuty now obligationId .discharged s.obligations = .ok obligations)
      (timers : timersOf effects = []) :
      Commit op now s (.action actionType payload evidenceRefs) ⟨{ s with
        communications := s.communications.put {
          communicationId := allocate "communication" s.communications.keys
          recipientActorId := payload.text "recipient_actor_id"
          messageFixtureId := payload.text "message_fixture_id"
          cycleId := ReturnRefundOperation.messageCycle s payload
          committedAt := now
          dispatched }
        obligations }, effects⟩
  | closed {evidenceRefs : List String} {phase : Phase} {outcome : TerminalOutcome}
      {effects : List Effect} (unblocked : Unblocked s evidenceRefs)
      (closes : ClosesAs s.phase phase outcome) (timers : timersOf effects = []) :
      Commit op now s (.terminal evidenceRefs) ⟨{ s with
        phase
        replayFinal := true
        terminal := some ⟨outcome, now, s.currentCycleId, none⟩ }, effects⟩
  | provisionallyClosed {evidenceRefs : List String} {refund : Refund} {expiresAt : String}
      {effects : List Effect} (unblocked : Unblocked s evidenceRefs)
      (awaited : s.phase = .refundSettled) (current : s.currentRefund = some refund)
      (settled : refund.status = .settled)
      (told : messageCommitted s msgRefundComplete refund.cycleId = true)
      (expiry : shiftMinutes now op.policy.provisionalCloseMinutes
        "refund resolution cooldown" = .ok expiresAt)
      (timers : timersOf effects =
        [.scheduleTimer (cooldownTimer refund.refundRequestId)
          EventType.resolutionCooldownExpired.text "scheduler" op.policy.provisionalCloseMinutes
          (.ofList [("refund_request_id", .str refund.refundRequestId),
            ("cycle_id", .str refund.cycleId)]) true]) :
      Commit op now s (.terminal evidenceRefs) ⟨{ s with
        phase := .provisional
        provisional := some {
          refundRequestId := refund.refundRequestId
          cycleId := refund.cycleId
          acceptedAt := now
          expiresAt
          timerEventId := cooldownTimer refund.refundRequestId } }, effects⟩

end OperateBench.ReturnRefund
