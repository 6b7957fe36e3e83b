import OperateBench.ReturnRefund.Transaction

/-! # Action handlers and the terminal

One handler for every action an agent may propose, and the guarded terminal. A denial
and an expiry end the operation at once; a settled refund enters its cooldown, which
only a timer ends.
-/

namespace OperateBench.ReturnRefund

open Foundation

namespace ReturnRefundOperation

variable (op : ReturnRefundOperation) (state : ReturnRefundState) (payload : Fields)
  (evidenceRefs : List String) (context : EnvironmentContext)

section Authorisations

def actIssueReturnAuthorisation : Result :=
  if state.phase ≠ .returnRequested then
    refuse state "DUPLICATE_RETURN_AUTHORISATION"
      "a return authorisation may be issued exactly once"
  else if payload.text? "return_id" ≠ state.returnId ∨
      payload.text? "cycle_id" ≠ state.currentCycleId then
    refuse state "RETURN_AUTHORISATION_BINDING_MISMATCH"
      "authorisation must name the current return and cycle"
  else do
    let authorisationId := allocate "return_authorisation" state.authorisations.keys
    let authorisation : Authorisation := {
      authorisationId
      returnId := state.returnId
      cycleId := state.currentCycleId
      issuedAt := context.now }
    let named := [("authorisation_id", Value.str authorisationId),
      ("cycle_id", .ofText? state.currentCycleId)]
    let t := Transaction.begin { state with
      authorisations := state.authorisations.put authorisation
      phase := .awaitingHandover }
    let t := t.scheduleTimer (handoverReminderTimer authorisationId) .handoverReminderDue
      op.policy.handoverReminderAfterMinutes named
    let t := t.scheduleTimer (handoverDeadlineTimer authorisationId) .handoverDeadlineDue
      op.policy.handoverDeadlineAfterMinutes named
    let t ← t.openObligation context.now (handoverObligation authorisationId)
      .authoritativeHandover state.currentCycleId op.policy.handoverDeadlineAfterMinutes
    t.accept (.ok "ACCEPTED" state.currentCycleId
      (.ofList [("authorisation_id", authorisationId)]))

end Authorisations

section Checkpoints

/-- Is the inspection one that a human has to review? -/
def needsReview (inspection : Inspection) : Except PyError Bool :=
  if inspection.disposition ≠ eligibleDisposition then .ok false
  else do
    let amount ← intOf inspection.amountMinor
    return decide (op.policy.approvalThresholdMinor < amount) && state.phase = .awaitingApproval

def actRequestRefundApproval : Result :=
  let refusal := refuse state "UNNECESSARY_CHECKPOINT_ATTEMPT"
    "no eligible above-threshold authoritative inspection needs review"
  match state.inspections.get? (payload.text "inspection_id") with
  | none => refusal
  | some inspection => do
    if !(← op.needsReview state inspection) then refusal
    else if payload.text? "cycle_id" ≠ state.currentCycleId then
      refuse state "STALE_REFUND_CYCLE" "approval names a stale cycle"
    else if state.checkpoints.values.any fun row =>
        row.inspectionId = inspection.inspectionId then
      refuse state "DUPLICATE_CHECKPOINT" "inspection already has review"
    else
      match ← requiredEvidenceProblem state .requestRefundApproval payload evidenceRefs with
      | some detail => refuse state "MISSING_INSPECTION_EVIDENCE" detail
      | none =>
        let checkpointId := allocate "refund_checkpoint" state.checkpoints.keys
        let deadlineAt ← shiftMinutes context.now op.policy.approvalDeadlineAfterMinutes
          "refund approval deadline"
        let checkpoint : Checkpoint := {
          checkpointId
          inspectionId := inspection.inspectionId
          cycleId := state.currentCycleId
          amountMinor := state.amountMinor
          currency := state.currency
          openedAt := context.now
          deadlineAt }
        let t := Transaction.begin { state with
          checkpoints := state.checkpoints.put checkpoint }
        let t := t.scheduleTimer (approvalDeadlineTimer checkpointId) .approvalDeadlineDue
          op.policy.approvalDeadlineAfterMinutes
          [("checkpoint_id", .str checkpointId), ("cycle_id", .ofText? state.currentCycleId)]
        let t ← t.openObligation context.now (approvalObligation checkpointId)
          .refundApprovalDecision state.currentCycleId op.policy.approvalDeadlineAfterMinutes
        let t := t.record "checkpoint_opened"
          [("checkpoint_id", .str checkpointId),
            ("checkpoint_type", .str checkpointHighValueRefund), ("required", .bool true)]
        t.accept (.ok "ACCEPTED" state.currentCycleId (.ofList [("checkpoint_id", checkpointId)]))

end Checkpoints

section Refunds

/-- Does the checkpoint approve the inspection for the amount of the return? -/
def approves (checkpoint : Checkpoint) (inspection : Inspection) : Bool :=
  checkpoint.status = .approved && checkpoint.inspectionId = inspection.inspectionId &&
    checkpoint.amountMinor = state.amountMinor && checkpoint.currency = state.currency

/-- Why a refund that needs a human decision does not have it. -/
def approvalProblem (inspection : Inspection) : Option String :=
  if op.policy.approvalThresholdMinor < state.amountMinor.getD 0 then
    match (payload.text? "approval_checkpoint_id").bind state.checkpoints.get? with
    | none => some "above-threshold refund has no matching approved checkpoint"
    | some checkpoint =>
      if approves state checkpoint inspection then none
      else some "checkpoint does not approve this exact inspection and amount"
  else none

def actRequestRefund : Result :=
  let cycleId := payload.text "cycle_id"
  if some cycleId ≠ state.currentCycleId then
    refuse state "STALE_REFUND_CYCLE" "refund names a stale cycle"
  else if state.refunds.values.any fun refund => refund.cycleId = cycleId then
    refuse state "DUPLICATE_REFUND_REQUEST" "this refund cycle already has a request"
  else
    let ineligible := refuse state "INSPECTION_NOT_ELIGIBLE" "refund needs an eligible inspection"
    match state.inspections.get? (payload.text "inspection_id") with
    | none => ineligible
    | some inspection =>
      if inspection.disposition ≠ eligibleDisposition then ineligible
      else if !hasVerifiedHandover state then
        refuse state "HANDOVER_NOT_VERIFIED" "customer claim cannot replace carrier record"
      else
        match op.approvalProblem state payload inspection with
        | some detail => refuse state "REFUND_APPROVAL_BYPASSED" detail
        | none =>
          if state.phase ≠ .readyToRefund ∧ state.phase ≠ .refundReopened then
            refuse state "REFUND_NOT_READY" s!"refund cannot be requested from {state.phase.text}"
          else do
            match ← requiredEvidenceProblem state .requestRefund payload evidenceRefs with
            | some detail => refuse state "MISSING_INSPECTION_EVIDENCE" detail
            | none =>
              let requestId := allocate "refund_request" state.refunds.keys
              let refund : Refund := {
                refundRequestId := requestId
                inspectionId := inspection.inspectionId
                approvalCheckpointId := payload.text? "approval_checkpoint_id"
                cycleId
                amountMinor := state.amountMinor
                currency := state.currency
                requestedAt := context.now }
              let t := Transaction.begin { state with
                refunds := state.refunds.put refund
                phase := .refundPending }
              let t ← t.closeObligation context.now (recoveryObligation cycleId) .discharged
              let t ← t.openObligation context.now (settlementObligation requestId)
                .authoritativeRefundSettlement (some cycleId) op.policy.horizonMinutes
              t.accept (.ok "ACCEPTED" (some cycleId)
                (.ofList [("refund_request_id", requestId)]))

end Refunds

section Messages

/-- The obligation that a notice discharges, or why there is nothing to announce. -/
def noticeObligation (fixtureId cycleId : String) : Except (String × String) String :=
  if fixtureId = msgHandoverReminder then
    match (currentAuthorisation state).filter Authorisation.reminderDue with
    | none => .error ("REMINDER_NOT_DUE", "handover reminder is not due")
    | some authorisation => .ok (handoverReminderObligation authorisation.authorisationId)
  else if fixtureId = msgReturnExpired then
    if state.phase ≠ .returnExpired then .error ("RETURN_NOT_EXPIRED", "no expiry to announce")
    else .ok (expiryNoticeObligation cycleId)
  else if fixtureId = msgRefundComplete then
    if state.phase ≠ .refundSettled then
      .error ("REFUND_NOT_SETTLED", "no settlement to announce")
    else .ok (completionNoticeObligation cycleId)
  else if fixtureId = msgRefundDenied then
    if state.phase ≠ .refundDenied then .error ("REFUND_NOT_DENIED", "no denial to announce")
    else .ok (denialNoticeObligation cycleId)
  else .error ("MESSAGE_HAS_NO_OPERATIONAL_PURPOSE",
    "fixture is diagnostic and has no valid transition")

/-- The cycle a message is about: the one it names, or else the current one. -/
def messageCycle : String :=
  match payload.text? "cycle_id" with
  | some cycleId => if cycleId = "" then state.currentCycleId.getD "" else cycleId
  | none => state.currentCycleId.getD ""

/-- The decision to send is committed whether or not the dispatch succeeds. -/
def actSendMessage : Result :=
  let recipient := payload.text "recipient_actor_id"
  let fixtureId := payload.text "message_fixture_id"
  let cycleId := messageCycle state payload
  if !op.spec.actors.contains recipient then
    refuse state "UNKNOWN_RECIPIENT" "recipient is not registered"
  else if recipient ≠ customerActorId then
    refuse state "MESSAGE_RECIPIENT_MISMATCH"
      "return/refund operational notices must be sent to the customer"
  else if !op.spec.messageFixtures.contains fixtureId then
    refuse state "UNKNOWN_MESSAGE_FIXTURE" "message is not declared"
  else if state.communications.values.any fun row =>
      row.messageFixtureId = fixtureId && row.cycleId = cycleId then
    refuse state "DUPLICATE_MESSAGE" "message already committed"
  else
    match noticeObligation state fixtureId cycleId with
    | .error (code, detail) => refuse state code detail
    | .ok obligationId =>
      if (state.obligations.get? obligationId).all fun row => row.status ≠ .opened then
        refuse state "MESSAGE_OBLIGATION_NOT_OPEN" "message is not owed"
      else do
        let communicationId := allocate "communication" state.communications.keys
        let dispatched := !context.dispatchFails fixtureId
        let communication : Communication := {
          communicationId
          recipientActorId := recipient
          messageFixtureId := fixtureId
          cycleId
          committedAt := context.now
          dispatched }
        let t := Transaction.begin { state with
          communications := state.communications.put communication }
        let t ← t.closeObligation context.now obligationId .discharged
        let t := t.record (if dispatched then "side_effect" else "side_effect_failed")
          [("channel", .str "message_dispatch"), ("message_fixture_id", .str fixtureId),
            ("recipient_actor_id", .str recipient), ("committed_decision_preserved", .bool true),
            ("status", .str (if dispatched then "DELIVERED" else "FAILED"))]
        t.accept (.ok "ACCEPTED" (some cycleId) (.ofList [("communication_id", communicationId)]))

end Messages

def handler : ActionType → Result
  | .issueReturnAuthorisation => op.actIssueReturnAuthorisation state payload context
  | .requestRefundApproval => op.actRequestRefundApproval state payload evidenceRefs context
  | .requestRefund => op.actRequestRefund state payload evidenceRefs context
  | .sendMessage => op.actSendMessage state payload context

/-- Validate one proposed action and, if it survives, commit its effect. -/
def applyAction (actionType : String) : Result :=
  if state.replayFinal then
    refuse state "OPERATION_IS_REPLAY_FINAL" "operation accepts no more actions"
  else
    match op.spec.actors.get? "agent" with
    | none => .error (.key "agent")
    | some agent =>
      if !agent.holds actionType then
        refuse state "ACTION_OUTSIDE_AGENT_AUTHORITY" s!"agent lacks {pyRepr actionType}"
      else
        match ActionType.ofText? actionType with
        | none => refuse state "UNKNOWN_ACTION_TYPE" "unknown action"
        | some action =>
          match validatePayload (actionPayloadSchema action) payload s!"action {actionType}"
              actionType with
          | .error complaint => refuse state "MALFORMED_ACTION_PAYLOAD" complaint
          | .ok () =>
            match unresolvedEvidence state evidenceRefs with
            | some (code, detail) => refuse state code detail
            | none => op.handler state payload evidenceRefs context action

section Terminal

def finalizeImmediately (phase : Phase) (outcome : TerminalOutcome) (code : String) : Result :=
  let t := Transaction.begin { state with
    phase
    replayFinal := true
    terminal := some ⟨outcome, context.now, state.currentCycleId, none⟩ }
  let t := t.record "terminal_accepted"
    [("outcome", .str outcome.text), ("replay_final", .bool true),
      ("cycle_id", .ofText? state.currentCycleId)]
  t.accept (.ok code state.currentCycleId Dict.empty)

/-- Why a settled refund does not rest on its evidence, as code and detail. -/
def settlementProblem (refund : Refund) : Except PyError (Option (String × String)) :=
  if !hasVerifiedHandover state then
    .ok (some ("HANDOVER_NOT_VERIFIED", "carrier record is absent"))
  else if (state.inspections.get? refund.inspectionId).all fun inspection =>
      inspection.disposition ≠ eligibleDisposition then
    .ok (some ("INSPECTION_NOT_ELIGIBLE", "inspection is not eligible"))
  else do
    let amount ← intOf refund.amountMinor
    if op.policy.approvalThresholdMinor < amount ∧
        (state.checkpoints.get? (textOr refund.approvalCheckpointId)).all fun checkpoint =>
          checkpoint.status ≠ .approved then
      return some ("REFUND_APPROVAL_BYPASSED", "settled refund lacks approval")
    else if !messageCommitted state msgRefundComplete refund.cycleId then
      return some ("REFUND_NOTICE_NOT_SENT", "customer has not been told of settlement")
    else return none

/-- Enter the cooldown of a settled refund and arm the timer that ends it. -/
def enterCooldown (refund : Refund) : Result := do
  let timerId := cooldownTimer refund.refundRequestId
  let expiresAt ← shiftMinutes context.now op.policy.provisionalCloseMinutes
    "refund resolution cooldown"
  let named := [("refund_request_id", Value.str refund.refundRequestId),
    ("cycle_id", .str refund.cycleId)]
  let t := Transaction.begin { state with
    phase := .provisional
    provisional := some {
      refundRequestId := refund.refundRequestId
      cycleId := refund.cycleId
      acceptedAt := context.now
      expiresAt
      timerEventId := timerId } }
  let t := t.scheduleTimer timerId .resolutionCooldownExpired op.policy.provisionalCloseMinutes
    named
  let t := t.record "provisional_close_entered"
    (named ++ [("expires_at", .str expiresAt), ("replay_final", .bool false)])
  t.accept (.ok "PROVISIONAL_REFUND_CLOSE" (some refund.cycleId)
    (.ofList [("refund_request_id", refund.refundRequestId)]))

/-- The guarded terminal. -/
def applyTerminal : Result :=
  if state.replayFinal then refuse state "OPERATION_IS_REPLAY_FINAL" "operation has ended"
  else
    match unresolvedEvidence state evidenceRefs with
    | some (code, detail) => refuse state code detail
    | none =>
      let openCheckpoints := sortTexts (state.openCheckpoints.map Checkpoint.checkpointId)
      let openObligations := sortTexts (state.openObligations.map Obligation.obligationId)
      if state.phase = .provisional then
        refuse state "ALREADY_PROVISIONAL" "only the cooldown can finalize this refund"
      else if openCheckpoints ≠ [] then
        refuse state "OPEN_CHECKPOINT" s!"open checkpoint(s): {reprList openCheckpoints}"
      else if openObligations ≠ [] then
        refuse state "OPEN_OBLIGATION" s!"open obligation(s): {reprList openObligations}"
      else if state.phase = .refundDenied then
        finalizeImmediately state context .finalRefundDenied .closedRefundDenied
          "REFUND_DENIAL_CLOSED"
      else if state.phase = .returnExpired then
        finalizeImmediately state context .finalReturnExpired .closedReturnExpired
          "RETURN_EXPIRY_CLOSED"
      else if state.phase ≠ .refundSettled then
        refuse state "PREMATURE_COMPLETION" s!"cannot complete from {state.phase.text}"
      else
        match state.currentRefund.filter fun refund => refund.status = .settled with
        | none => refuse state "REFUND_NOT_SETTLED" "current cycle has no settled refund"
        | some refund => do
          match ← op.settlementProblem state refund with
          | some (code, detail) => refuse state code detail
          | none => op.enterCooldown state context refund

end Terminal

end ReturnRefundOperation

end OperateBench.ReturnRefund
