import OperateBench.ReturnRefund.Transaction

/-! # Event reducers

One reducer for every event type. A reducer either refuses by name or commits what
the event establishes; a claim is recorded and never made true.
-/

namespace OperateBench.ReturnRefund

open Foundation

namespace ReturnRefundOperation

variable (op : ReturnRefundOperation) (state : ReturnRefundState) (event : Event)
  (context : EnvironmentContext)

section Notices

/-- Owe the customer the news that the refund is denied. -/
def oweDenialNotice (t : Transaction) (now cycleId : String) : Except PyError Transaction :=
  t.openObligation now (denialNoticeObligation cycleId) .refundDenialNotice (some cycleId)
    op.policy.completionNoticeWithinMinutes

/-- Where a finished inspection leads: to a denial, to a human or straight to the refund. -/
def afterInspection (t : Transaction) (now cycleId disposition : String) :
    Except PyError Transaction :=
  if disposition ≠ eligibleDisposition then
    op.oweDenialNotice { t with state.phase := .refundDenied } now cycleId
  else if op.policy.approvalThresholdMinor < t.state.amountMinor.getD 0 then
    .ok { t with state.phase := .awaitingApproval }
  else .ok { t with state.phase := .readyToRefund }

end Notices

section Returns

def reduceReturnRequested : Result :=
  if state.phase ≠ .new then refuse state "DUPLICATE_RETURN_REQUEST" "return already exists"
  else if int? event.payload "amount_minor" ≠ some op.policy.refundAmountMinor.1 ∨
      event.payload.text? "currency" ≠ some op.policy.currency ∨
      event.payload.text? "cycle_id" ≠ some firstRefundCycle then
    refuse state "RETURN_POLICY_MISMATCH"
      "the return must match the authored amount, currency and first cycle"
  else
    let returnId := event.payload.text "return_id"
    let cycleId := event.payload.text "cycle_id"
    let t := Transaction.begin { state with
      returnId := some returnId
      orderId := some (event.payload.text "order_id")
      amountMinor := some (event.payload.number "amount_minor")
      currency := some (event.payload.text "currency")
      currentCycleId := some cycleId
      phase := .returnRequested }
    let t := t.record "return_requested"
      [("return_id", .str returnId), ("cycle_id", .str cycleId)]
    t.accept (.ok "ACCEPTED" (some cycleId) Dict.empty)

def reduceHandoverClaimed : Result :=
  if event.payload.text? "return_id" ≠ state.returnId ∨
      event.payload.text? "cycle_id" ≠ state.currentCycleId ∨
      !state.authorisations.contains (event.payload.text "authorisation_id") then
    refuse state "CUSTOMER_CLAIM_BINDING_MISMATCH"
      "the claim does not name the current return authorisation"
  else
    let claimId := event.payload.text "claim_id"
    if state.customerClaims.contains claimId then
      refuse state "DUPLICATE_CUSTOMER_CLAIM" "claim id already exists"
    else
      let claim : CustomerClaim := {
        claimId
        returnId := state.returnId
        authorisationId := event.payload.text "authorisation_id"
        cycleId := state.currentCycleId
        claimedAt := context.now }
      let t := Transaction.begin { state with customerClaims := state.customerClaims.put claim }
      let t := t.record "actor_claim_recorded"
        [("claim_id", .str claimId), ("authoritative", .bool false)]
      t.accept ⟨true, "CUSTOMER_CLAIM_RECORDED", "", state.currentCycleId, true, Dict.empty⟩

def reduceHandoverVerified : Result :=
  let authorisationId := event.payload.text "authorisation_id"
  match state.authorisations.get? authorisationId with
  | none => refuse state "UNKNOWN_RETURN_AUTHORISATION" "no such authorisation"
  | some authorisation =>
    if event.payload.text? "return_id" ≠ state.returnId ∨
        event.payload.text? "cycle_id" ≠ authorisation.cycleId ∨
        !(event.payload.get "handed_over").truthy then
      refuse state "CARRIER_BINDING_MISMATCH"
        "carrier verification must affirm the current authorised return"
    else if authorisation.status ≠ .issued then
      refuse state "RETURN_AUTHORISATION_NOT_OPEN"
        s!"authorisation is {authorisation.status.text}"
    else
      let recordId := event.payload.text "carrier_record_id"
      if state.carrierRecords.contains recordId then
        refuse state "DUPLICATE_CARRIER_RECORD" "record id already exists"
      else do
        let record : CarrierRecord := {
          carrierRecordId := recordId
          returnId := state.returnId
          authorisationId
          cycleId := event.payload.text "cycle_id"
          verifiedAt := context.now }
        let t := Transaction.begin { state with
          carrierRecords := state.carrierRecords.put record
          authorisations := state.authorisations.put { authorisation with
            status := .verified
            verifiedAt := some context.now } }
        let t := t.cancelTimer (handoverReminderTimer authorisationId)
        let t := t.cancelTimer (handoverDeadlineTimer authorisationId)
        let t ← t.closeObligation context.now (handoverObligation authorisationId) .discharged
        let t ← t.closeObligation context.now (handoverReminderObligation authorisationId)
          .cancelled
        let t := { t with state.phase := .awaitingInspection }
        t.accept (.ok "ACCEPTED" state.currentCycleId
          (.ofList [("authorisation_id", authorisationId)]))

def reduceInspectionCompleted : Result :=
  if state.phase ≠ .awaitingInspection then
    refuse state "INSPECTION_NOT_EXPECTED"
      s!"warehouse inspection cannot be accepted from {state.phase.text}"
  else if !hasVerifiedHandover state then
    refuse state "HANDOVER_NOT_VERIFIED"
      "warehouse inspection cannot precede authoritative carrier handover"
  else
    match state.currentCycleId with
    | none => refuse state "NO_ACTIVE_REFUND_CYCLE"
        "warehouse inspection arrived without an active return cycle"
    | some cycleId =>
      if event.payload.text? "return_id" ≠ state.returnId ∨
          event.payload.text? "cycle_id" ≠ some cycleId ∨
          int? event.payload "amount_minor" ≠ state.amountMinor ∨
          event.payload.text? "currency" ≠ state.currency then
        refuse state "INSPECTION_BINDING_MISMATCH"
          "inspection does not match the current return, amount and currency"
      else
        let inspectionId := event.payload.text "inspection_id"
        if state.inspections.contains inspectionId then
          refuse state "DUPLICATE_INSPECTION" "inspection already exists"
        else do
          let disposition := event.payload.text "disposition"
          let inspection : Inspection := {
            inspectionId
            returnId := state.returnId
            cycleId, disposition
            amountMinor := state.amountMinor
            currency := state.currency
            inspectedAt := context.now }
          let t := Transaction.begin { state with inspections := state.inspections.put inspection }
          let t ← op.afterInspection t context.now cycleId disposition
          t.accept (.ok "ACCEPTED" (some cycleId) Dict.empty)

end Returns

section Approval

def reduceApprovalReceived : Result :=
  let checkpointId := event.payload.text "checkpoint_id"
  match state.checkpoints.get? checkpointId with
  | none => refuse state "UNKNOWN_CHECKPOINT" "no such refund checkpoint"
  | some checkpoint =>
    if checkpoint.status ≠ .opened then
      refuse state "CHECKPOINT_NOT_OPEN" "checkpoint is not open"
    else if event.payload.text? "inspection_id" ≠ some checkpoint.inspectionId ∨
        event.payload.text? "cycle_id" ≠ checkpoint.cycleId ∨
        int? event.payload "amount_minor" ≠ checkpoint.amountMinor ∨
        event.payload.text? "currency" ≠ checkpoint.currency then
      refuse state "APPROVAL_BINDING_MISMATCH"
        "decision does not match the checkpoint's inspection and amount"
    else
      match Decision.ofText? (event.payload.text "decision") with
      | none => refuse state "UNKNOWN_APPROVAL_DECISION" "unknown decision"
      | some decision => do
        let t := Transaction.begin { state with
          checkpoints := state.checkpoints.put { checkpoint with
            decision := some decision
            status := decision.status
            resolvedAt := some context.now } }
        let t := t.cancelTimer (approvalDeadlineTimer checkpointId)
        let t ← t.closeObligation context.now (approvalObligation checkpointId) .discharged
        let cycleId := textOr checkpoint.cycleId
        match decision with
        | .approved =>
          let t := { t with state.phase := .readyToRefund }
          t.accept (.ok "REFUND_APPROVED" (some cycleId) Dict.empty)
        | .rejected => do
          let t ← op.oweDenialNotice { t with state.phase := .refundDenied } context.now cycleId
          t.accept (.ok "REFUND_DENIED" (some cycleId) Dict.empty)

end Approval

section Money

def reduceSettlementConfirmed : Result :=
  let requestId := event.payload.text "refund_request_id"
  match state.refunds.get? requestId with
  | none => refuse state "UNKNOWN_REFUND_REQUEST" "no such refund request"
  | some refund =>
    if refund.status ≠ .requested then
      refuse state "REFUND_REQUEST_NOT_OPEN" s!"refund is {refund.status.text}"
    else if event.payload.text? "inspection_id" ≠ some refund.inspectionId ∨
        event.payload.text? "cycle_id" ≠ some refund.cycleId ∨
        int? event.payload "amount_minor" ≠ refund.amountMinor ∨
        event.payload.text? "currency" ≠ refund.currency then
      refuse state "REFUND_SETTLEMENT_BINDING_MISMATCH"
        "settlement does not match the exact refund request"
    else do
      let t := Transaction.begin { state with
        refunds := state.refunds.put { refund with
          status := .settled
          settlementId := some (event.payload.text "settlement_id")
          settledAt := some context.now }
        phase := .refundSettled }
      let t ← t.closeObligation context.now (settlementObligation requestId) .discharged
      let t ← t.openObligation context.now (completionNoticeObligation refund.cycleId)
        .refundCompletionNotice (some refund.cycleId) op.policy.completionNoticeWithinMinutes
      t.accept (.ok "ACCEPTED" (some refund.cycleId) Dict.empty)

/-- Only a provisionally closed refund can be reversed; the recovery has a cycle of its own. -/
def reduceSettlementReversed : Result :=
  let requestId := event.payload.text "refund_request_id"
  match state.refunds.get? requestId with
  | none => refuse state "UNKNOWN_REFUND_REQUEST" "no such refund request"
  | some refund =>
    let mismatch := refuse state "REVERSAL_BINDING_MISMATCH"
      "reversal must name the provisionally closed settled refund"
    match state.provisional with
    | none => mismatch
    | some provisional =>
      if refund.status ≠ .settled ∨ event.payload.text? "cycle_id" ≠ some refund.cycleId ∨
          provisional.refundRequestId ≠ requestId then mismatch
      else do
        let t := Transaction.begin { state with
          refunds := state.refunds.put { refund with
            status := .reversed
            reversalId := some (event.payload.text "reversal_id")
            reversalReasonCode := some (event.payload.text "reason_code")
            reversedAt := some context.now }
          provisional := none
          currentCycleId := some recoveryRefundCycle
          phase := .refundReopened }
        let t := t.cancelTimer provisional.timerEventId
        let t ← t.openObligation context.now (recoveryObligation recoveryRefundCycle)
          .refundRecovery (some recoveryRefundCycle) op.policy.horizonMinutes
        let t := t.record "refund_reopened"
          [("reversed_refund_request_id", .str requestId),
            ("new_cycle_id", .str recoveryRefundCycle)]
        t.accept (.ok "REFUND_REOPENED" (some recoveryRefundCycle) Dict.empty)

end Money

section Timers

def reduceReminderDue : Result := do
  let authorisationId := event.payload.text "authorisation_id"
  match ← timerEventVerdict event (handoverReminderTimer authorisationId) none with
  | some (code, detail) => refuse state code detail
  | none =>
    let refusal := refuse state "RETURN_AUTHORISATION_NOT_OPEN" "reminder has no open authorisation"
    match state.authorisations.get? authorisationId with
    | none => refusal
    | some authorisation =>
      if authorisation.status ≠ .issued then refusal
      else if event.payload.text? "cycle_id" ≠ authorisation.cycleId then
        refuse state "TIMER_BINDING_MISMATCH" "wrong reminder cycle"
      else
        let cycleId := textOr authorisation.cycleId
        let t := Transaction.begin { state with
          authorisations := state.authorisations.put { authorisation with reminderDue := true } }
        let t ← t.openObligation context.now (handoverReminderObligation authorisationId)
          .handoverReminder (some cycleId)
          (op.policy.handoverDeadlineAfterMinutes - op.policy.handoverReminderAfterMinutes)
        t.accept (.ok "ACCEPTED" (some cycleId) Dict.empty)

def reduceDeadlineDue : Result := do
  let authorisationId := event.payload.text "authorisation_id"
  match ← timerEventVerdict event (handoverDeadlineTimer authorisationId) none with
  | some (code, detail) => refuse state code detail
  | none =>
    let refusal := refuse state "RETURN_AUTHORISATION_NOT_OPEN" "deadline has no open authorisation"
    match state.authorisations.get? authorisationId with
    | none => refusal
    | some authorisation =>
      if authorisation.status ≠ .issued then refusal
      else if event.payload.text? "cycle_id" ≠ authorisation.cycleId then
        refuse state "TIMER_BINDING_MISMATCH" "wrong deadline cycle"
      else
        let cycleId := textOr authorisation.cycleId
        let t := Transaction.begin { state with
          authorisations := state.authorisations.put { authorisation with
            status := .expired
            expiredAt := some context.now }
          phase := .returnExpired }
        let t ← t.closeObligation context.now (handoverObligation authorisationId) .breached
        let t ← t.closeObligation context.now (handoverReminderObligation authorisationId)
          .breached
        let t ← t.openObligation context.now (expiryNoticeObligation cycleId) .returnExpiryNotice
          (some cycleId) op.policy.completionNoticeWithinMinutes
        t.accept (.ok "RETURN_EXPIRED" (some cycleId) Dict.empty)

def reduceApprovalDeadlineDue : Result := do
  let checkpointId := event.payload.text "checkpoint_id"
  match ← timerEventVerdict event (approvalDeadlineTimer checkpointId) none with
  | some (code, detail) => refuse state code detail
  | none =>
    let refusal := refuse state "CHECKPOINT_NOT_OPEN" "approval deadline is stale"
    match state.checkpoints.get? checkpointId with
    | none => refusal
    | some checkpoint =>
      if checkpoint.status ≠ .opened then refusal
      else if event.payload.text? "cycle_id" ≠ checkpoint.cycleId then
        refuse state "TIMER_BINDING_MISMATCH" "wrong checkpoint cycle"
      else
        let cycleId := textOr checkpoint.cycleId
        let t := Transaction.begin { state with
          checkpoints := state.checkpoints.put { checkpoint with
            status := .expired
            resolvedAt := some context.now }
          phase := .refundDenied }
        let t ← t.closeObligation context.now (approvalObligation checkpointId) .breached
        let t ← op.oweDenialNotice t context.now cycleId
        t.accept (.ok "REFUND_APPROVAL_EXPIRED" (some cycleId) Dict.empty)

def reduceCooldownExpired : Result :=
  let refusal := refuse state "NO_PROVISIONAL_REFUND" "there is no provisional refund to finalize"
  if state.phase ≠ .provisional then refusal
  else
    match state.provisional with
    | none => refusal
    | some provisional => do
      let requestId := event.payload.text "refund_request_id"
      let cycleId := event.payload.text "cycle_id"
      match ← timerEventVerdict event provisional.timerEventId (some provisional.expiresAt) with
      | some (code, detail) => refuse state code detail
      | none =>
        if provisional.refundRequestId ≠ requestId ∨ provisional.cycleId ≠ cycleId then
          refuse state "COOLDOWN_BINDING_MISMATCH" "cooldown names a different refund"
        else if (state.refunds.get? requestId).all fun refund => refund.status ≠ .settled then
          refuse state "REFUND_NOT_SETTLED" "a reversed or missing refund cannot finalize"
        else if state.openCheckpoints ≠ [] ∨ state.openObligations ≠ [] then
          refuse state "OPEN_WORK_AT_FINALIZATION" "checkpoints or obligations remain open"
        else
          let t := Transaction.begin { state with
            provisional := none
            phase := .finalSuccess
            replayFinal := true
            terminal := some {
              outcome := .completedRefundSettled
              instant := context.now
              cycleId := some cycleId
              refundRequestId := some requestId } }
          let t := t.record "terminal_accepted"
            [("outcome", .str TerminalOutcome.completedRefundSettled.text),
              ("replay_final", .bool true), ("cycle_id", .str cycleId)]
          t.accept (.ok "REFUND_FINALIZED" (some cycleId)
            (.ofList [("refund_request_id", requestId)]))

end Timers

def reducer : EventType → Result
  | .customerReturnRequested => op.reduceReturnRequested state event
  | .customerHandoverClaimed => reduceHandoverClaimed state event context
  | .carrierHandoverVerified => reduceHandoverVerified state event context
  | .warehouseInspectionCompleted => op.reduceInspectionCompleted state event context
  | .refundApprovalReceived => op.reduceApprovalReceived state event context
  | .refundSettlementConfirmed => op.reduceSettlementConfirmed state event context
  | .refundSettlementReversed => op.reduceSettlementReversed state event context
  | .handoverReminderDue => op.reduceReminderDue state event context
  | .handoverDeadlineDue => op.reduceDeadlineDue state event context
  | .approvalDeadlineDue => op.reduceApprovalDeadlineDue state event context
  | .resolutionCooldownExpired => reduceCooldownExpired state event context

/-- Deliver one external event, or refuse it by name. -/
def reduceEvent : Result :=
  match op.spec.actors.get? event.actorId with
  | none => refuse state "UNKNOWN_ACTOR" "event actor is not registered"
  | some actor =>
    match EventType.ofText? event.eventType with
    | none => refuse state "UNKNOWN_EVENT_TYPE" s!"no reducer for {pyRepr event.eventType}"
    | some eventType =>
      if !actor.holds eventType.authority then
        refuse state "EVENT_ACTOR_LACKS_AUTHORITY"
          s!"actor {pyRepr event.actorId} lacks {pyRepr eventType.authority}"
      else
        match validatePayload (eventPayloadSchema eventType) event.payload
            s!"event {event.eventId}" event.eventType with
        | .error complaint => refuse state "MALFORMED_EVENT_PAYLOAD" complaint
        | .ok () => op.reducer state event context eventType

end ReturnRefundOperation

end OperateBench.ReturnRefund
