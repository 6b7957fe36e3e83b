import OperateBench.Maintenance.Transaction

/-! # Action handlers and the terminal

One handler for every action an agent may propose, and the guarded terminal with
its two doors: the transfer to a human, which ends the operation, and the
provisional close, which opens a confirmation window and arms its timer.
-/

namespace OperateBench.Maintenance

open Foundation

namespace MaintenanceOperation

variable (op : MaintenanceOperation) (state : MaintenanceState) (payload : Fields)
  (evidenceRefs : List String) (context : EnvironmentContext)

section Visits

def armVisitFollowup (t : Transaction) (now cycleId : String) : Except PyError Transaction :=
  let t := t.scheduleTimer (visitTimerId cycleId) .visitFollowupDue
    op.policy.visitFollowupAfterMinutes [("cycle_id", .str cycleId)]
  t.openObligation now (visitObligationId cycleId) .visitProgress (some cycleId)
    op.policy.visitFollowupAfterMinutes

def actRequestVisit : Result :=
  let cycleId := payload.text "cycle_id"
  match state.cycles.get? cycleId with
  | none => refuse state "UNKNOWN_WORK_CYCLE" s!"no cycle {pyRepr cycleId}"
  | some cycle =>
    let visitType := payload.text "visit_type"
    if some cycleId ≠ state.currentCycleId then
      refuse state "STALE_WORK_CYCLE"
        (s!"cycle {pyRepr cycleId} is not the operation's current cycle " ++
          s!"({reprText? state.currentCycleId})")
    else if cycle.visitStatus ≠ .none then
      refuse state "DUPLICATE_VISIT_REQUEST"
        (s!"cycle {pyRepr cycleId} already has visit {reprText? cycle.visitId} at " ++
          cycle.visitStatus.text)
    else if cycle.kind = .approvedWork then
      refuse state "WORK_REQUIRES_AUTHORISATION"
        ("an approved-work visit is created by authorise_supplier_work, " ++
          "never by an unapproved visit request")
    else if visitType ≠ cycle.kind.text then
      refuse state "VISIT_TYPE_MISMATCH"
        s!"cycle {pyRepr cycleId} is a {cycle.kind.text} cycle, not {visitType}"
    else do
      let cycle := { cycle with
        visitId := some (allocateVisitId state)
        visitStatus := .requested }
      let t := Transaction.begin { state with
        cycles := state.cycles.put cycle
        phase := .waitingVisit }
      let t ← op.armVisitFollowup t context.now cycleId
      t.accept (.ok "ACCEPTED" (some cycleId) (visitBindings cycle))

/-- Has the validity of the quote passed? -/
def quoteLapsed (quote : Quote) (now : String) : Except PyError Bool :=
  match quote.validUntil with
  | none => .ok false
  | some validUntil => do
    let now ← parseTimestamp now "now"
    let limit ← parseTimestamp validUntil "quote validity"
    return decide (limit < now)

def actAuthoriseSupplierWork : Result :=
  let checkpointId := payload.text "approval_checkpoint_id"
  match state.approvals.get? checkpointId with
  | none => refuse state "UNKNOWN_CHECKPOINT" s!"no approval checkpoint {pyRepr checkpointId}"
  | some approval =>
    if approval.status ≠ .approved then
      refuse state "WORK_NOT_APPROVED"
        (s!"checkpoint {pyRepr checkpointId} is {approval.status.text}; above-threshold " ++
          "work cannot be authorised without a current approval")
    else do
      let citation ← requiredEvidenceProblem state .authoriseSupplierWork payload evidenceRefs
      match citation with
      | some detail => refuse state "MISSING_AUTHORITY_EVIDENCE" detail
      | none =>
        let quoteId := payload.text "quote_id"
        let version := payload.number "quote_version"
        if (approval.quoteId, approval.quoteVersion) ≠ (quoteId, version) then
          refuse state "STALE_APPROVAL"
            (s!"checkpoint {pyRepr checkpointId} approved " ++
              s!"{quoteKey approval.quoteId approval.quoteVersion}, which is not " ++
              quoteKey quoteId version)
        else
          let unapproved := refuse state "QUOTE_NOT_APPROVED"
            s!"quote {quoteKey quoteId version} is not an approved quote"
          match state.quote quoteId version with
          | none => unapproved
          | some quote =>
            if quote.status ≠ .approved then unapproved
            else do
              let lapsed ← quoteLapsed quote context.now
              if lapsed then
                refuse state "QUOTE_EXPIRED"
                  (s!"quote {quote.key} expired at " ++ quote.validUntil.getD "None")
              else
                match state.cycles.get? quote.cycleId with
                | none => .error (.key quote.cycleId)
                | some cycle =>
                  if cycle.visitStatus ≠ .none then
                    refuse state "DUPLICATE_WORK_AUTHORISATION"
                      s!"cycle {pyRepr cycle.cycleId} already has visit {reprText? cycle.visitId}"
                  else
                    -- The supplier that quoted the work agreed to do it: authorising books it.
                    let cycle := { cycle with
                      visitId := some (allocateVisitId state)
                      visitStatus := .scheduled }
                    let t := Transaction.begin { state with
                      cycles := state.cycles.put cycle
                      currentCycleId := some cycle.cycleId
                      phase := .waitingVisit }
                    let t ← op.armVisitFollowup t context.now cycle.cycleId
                    t.accept (.ok "ACCEPTED" (some cycle.cycleId) (visitBindings cycle))

end Visits

section Checkpoints

def actRequestApproval : Result :=
  match state.quote (payload.text "quote_id") (payload.number "quote_version") with
  | none => refuse state "UNKNOWN_QUOTE"
      ("no quote " ++ (payload.get "quote_id").repr ++ " version " ++
        (payload.get "quote_version").repr)
  | some quote =>
    let deadlineMinutes := payload.number "deadline_after_minutes"
    if quote.status ≠ .received then
      refuse state "QUOTE_NOT_OPEN" s!"quote {quote.key} is {quote.status.text}"
    else if quote.amountMinor ≠ payload.number "amount_minor" ∨
        quote.currency ≠ payload.text "currency" ∨
        quote.scopeDigest ≠ payload.text "scope_digest" ∨
        quote.cycleId ≠ payload.text "cycle_id" then
      refuse state "QUOTE_BINDING_MISMATCH"
        ("an approval must be requested for the exact quote version, amount, " ++
          "currency, scope and cycle that is on the table")
    else if quote.amountMinor ≤ op.policy.approvalThresholdMinor then
      refuse state "APPROVAL_NOT_REQUIRED"
        (s!"{quote.amountMinor} is within the authored threshold of " ++
          s!"{op.policy.approvalThresholdMinor.1}; asking a human here is " ++
          "unnecessary human load")
    else if deadlineMinutes ≠ op.policy.approvalDeadlineAfterMinutes then
      refuse state "DEADLINE_OUTSIDE_POLICY"
        ("the authored approval deadline is " ++
          s!"{op.policy.approvalDeadlineAfterMinutes.1} minutes, not {deadlineMinutes}")
    else if state.approvals.values.any fun approval =>
        approval.quoteId = quote.quoteId && approval.quoteVersion = quote.version &&
          approval.cycleId = quote.cycleId then
      refuse state "DUPLICATE_CHECKPOINT"
        "an approval checkpoint already holds this quote version and cycle"
    else do
      let deadlineAt ← shiftMinutes context.now deadlineMinutes "approval deadline"
      -- Allocated behind every guard: a refused request consumes no identity.
      let checkpointId := allocateCheckpointId state
      let approval : Approval := {
        checkpointId
        quoteId := quote.quoteId
        quoteVersion := quote.version
        cycleId := quote.cycleId
        amountMinor := quote.amountMinor
        currency := quote.currency
        scopeDigest := quote.scopeDigest
        openedAt := context.now
        deadlineAt }
      let t := Transaction.begin { state with
        approvals := state.approvals.put approval
        phase := .waitingApproval }
      let t := t.record "checkpoint_opened"
        [("checkpoint_id", .str checkpointId), ("checkpoint_type", .str "repair_quote_approval"),
          ("assignee_actor_id", .str "approver_1"), ("required", .bool true),
          ("deadline_at", .str deadlineAt)]
      let timerPayload := [("checkpoint_id", .str checkpointId), ("cycle_id", .str quote.cycleId)]
      let t := t.scheduleTimer (reminderTimerId checkpointId) .approvalReminderDue
        op.policy.approvalReminderAfterMinutes timerPayload
      let t := t.scheduleTimer (deadlineTimerId checkpointId) .approvalDeadlineDue
        deadlineMinutes timerPayload
      let t ← t.openObligation context.now (reminderObligationId checkpointId) .approvalReminder
        (some quote.cycleId) op.policy.approvalReminderAfterMinutes
      let t ← t.openObligation context.now (decisionObligationId checkpointId) .approvalDecision
        (some quote.cycleId) deadlineMinutes
      t.accept (.ok "ACCEPTED" (some quote.cycleId)
        (bindings [("checkpoint_id", some checkpointId)]))

def actRequestExceptionResolution : Result :=
  let typeName := payload.text "exception_type"
  if state.openExceptions ≠ [] then
    refuse state "EXCEPTION_ALREADY_OPEN"
      "one exception checkpoint at a time; a second is unnecessary human load"
  else
    match ExceptionType.ofText? typeName with
    | none => refuse state "UNKNOWN_EXCEPTION_TYPE"
        ("supported exception types: " ++ commaSeparated (ExceptionType.all.map ExceptionType.text) ++
          "; see request_exception_resolution field_guidance for eligibility")
    | some exceptionType =>
      match eligibleExceptionApproval state exceptionType
          (payload.text "approval_checkpoint_id") with
      | none => refuse state "EXCEPTION_NOT_ELIGIBLE"
          (s!"nothing in this operation's state justifies a {typeName} " ++
            "checkpoint; escalating without an eligible condition is unnecessary human load")
      | some eligible => do
        let citation ← requiredEvidenceProblem state .requestExceptionResolution payload
          evidenceRefs
        match citation with
        | some detail => refuse state "INCOMPLETE_CHECKPOINT_CONTEXT" detail
        | none =>
          let deadlineAt ← shiftMinutes context.now (payload.number "deadline_after_minutes")
            "exception deadline"
          let checkpointId := allocateCheckpointId state
          let checkpoint : ExceptionCheckpoint := {
            checkpointId, exceptionType
            cycleId := some eligible.cycleId
            openedAt := context.now
            deadlineAt, evidenceRefs }
          let t := Transaction.begin { state with
            exceptions := state.exceptions.put checkpoint
            phase := .waitingException }
          let t := t.record "checkpoint_opened"
            [("checkpoint_id", .str checkpointId),
              ("checkpoint_type", .str "maintenance_exception_resolution"),
              ("assignee_actor_id", .str "operator_1"), ("required", .bool true),
              ("exception_type", .str typeName), ("evidence_refs", .ofTexts evidenceRefs),
              ("deadline_at", .str deadlineAt)]
          t.accept (.ok "ACCEPTED" (some eligible.cycleId)
            (bindings [("checkpoint_id", some checkpointId)]))

end Checkpoints

section Billing

def actRequestInvoiceValidation : Result :=
  match state.invoices.get? (payload.text "invoice_id") with
  | none => refuse state "UNKNOWN_INVOICE" ("no invoice " ++ (payload.get "invoice_id").repr)
  | some invoice =>
    let workVerified := (state.cycles.get? invoice.cycleId).any Cycle.workVerified
    if invoice.status ≠ .unvalidated then
      refuse state "INVOICE_NOT_PENDING"
        s!"invoice {pyRepr invoice.invoiceId} is {invoice.status.text}"
    else if !workVerified then
      refuse state "WORK_NOT_VERIFIED"
        ("an invoice can only be validated once the work it bills for has " ++
          "authoritative verification")
    else
      let unapproved := refuse state "INVOICE_QUOTE_NOT_APPROVED"
        "the invoice does not bind to an approved quote version"
      match state.quote invoice.quoteId invoice.quoteVersion with
      | none => unapproved
      | some quote =>
        if quote.status ≠ .approved then unapproved
        else if quote.amountMinor ≠ invoice.amountMinor ∨ quote.currency ≠ invoice.currency ∨
            quote.cycleId ≠ invoice.cycleId then
          refuse state "INVOICE_QUOTE_MISMATCH"
            "the invoice does not match the approved quote amount, currency or cycle"
        else do
          let citation ← requiredEvidenceProblem state .requestInvoiceValidation payload
            evidenceRefs
          match citation with
          | some detail => refuse state "MISSING_AUTHORITY_EVIDENCE" detail
          | none =>
            let requested := { invoice with status := .validationRequested }
            (Transaction.begin { state with
              invoices := state.invoices.put requested }).accept
                (.ok "ACCEPTED" (some invoice.cycleId)
                  (bindings [("invoice_id", some invoice.invoiceId)]))

def actRequestPayment : Result :=
  match state.invoices.get? (payload.text "invoice_id") with
  | none => refuse state "UNKNOWN_INVOICE" ("no invoice " ++ (payload.get "invoice_id").repr)
  | some invoice =>
    if state.payment.status ≠ .notRequested then
      refuse state "DUPLICATE_PAYMENT_REQUEST" s!"payment is already {state.payment.status.text}"
    else
      let notRequired := refuse state "PAYMENT_NOT_REQUIRED"
        (s!"cycle {pyRepr invoice.cycleId} carries no payable work; a warranty " ++
          "revisit is covered by the work cycle it follows")
      match state.cycles.get? invoice.cycleId with
      | none => notRequired
      | some cycle =>
        if !cycle.requiresPayment then notRequired
        else if !cycle.workVerified then
          refuse state "WORK_NOT_VERIFIED"
            "payment cannot be requested before the work has authoritative verification"
        else if invoice.status ≠ .validated then
          refuse state "INVOICE_NOT_VALIDATED"
            s!"invoice {pyRepr invoice.invoiceId} is {invoice.status.text}"
        else if invoice.amountMinor ≠ payload.number "amount_minor" ∨
            invoice.currency ≠ payload.text "currency" then
          refuse state "PAYMENT_AMOUNT_MISMATCH"
            "a payment request must match the validated invoice exactly"
        else do
          let citation ← requiredEvidenceProblem state .requestPayment payload evidenceRefs
          match citation with
          | some detail => refuse state "MISSING_AUTHORITY_EVIDENCE" detail
          | none =>
            let requestId := allocatePaymentRequestId state
            (Transaction.begin { state with
              payment := { state.payment with
                requestId := some requestId
                invoiceId := some invoice.invoiceId
                cycleId := some invoice.cycleId
                status := .requested } }).accept
              (.ok "ACCEPTED" (some invoice.cycleId)
                (bindings [("payment_request_id", some requestId)]))

end Billing

section Messages

def completionNotice : String := "msg_completion_notice"

def transferNotice : String := "msg_transfer_notice"

def approvalReminder : String := "msg_approval_reminder"

/-- The recovery a message declares: none, the failed intent it repeats, or a refusal. -/
def messageRecovery (fixtureId : String) (correlationId : Option String) :
    Except (String × String) (Option ℕ) :=
  if !payload.contains "recovery_of" then .ok none
  else if !op.spec.recoveryEnabled ∨ fixtureId ≠ transferNotice then
    .error ("RECOVERY_NOT_SUPPORTED", "no secondary channel")
  else
    match payload.get "recovery_of" with
    | .int (.ofNat index) =>
      match state.communications[index]? with
      | none => .error ("RECOVERY_BINDING_MISMATCH", "unknown failed intent")
      | some original =>
        if original.delivered ∨ original.recoveryOf.isSome ∨
            some original.recipientActorId ≠ payload.text? "recipient_actor_id" ∨
            some original.messageFixtureId ≠ payload.text? "message_fixture_id" ∨
            original.correlationId ≠ payload.text? "correlation_id" then
          .error ("RECOVERY_BINDING_MISMATCH", "not this failed intent")
        else if (state.communications.any fun row => row.recoveryOf = some index) ∨
            deliveredNotice state fixtureId (some (correlationId.getD "None")) then
          .error ("RECOVERY_ALREADY_ATTEMPTED", "no duplicate recovery")
        else .ok (some index)
    | _ => .error ("RECOVERY_BINDING_MISMATCH", "unknown failed intent")

/-- What a delivered notice discharges. -/
def dischargeNotice (t : Transaction) (now fixtureId : String) (cycleId : Option String) :
    Transaction :=
  if fixtureId = completionNotice then
    match cycleId.bind t.state.cycles.get? with
    | none => t
    | some cycle =>
      let t := { t with
        state.cycles := t.state.cycles.put { cycle with completionNoticeSent := true } }
      t.closeObligation now (noticeObligationId cycle.cycleId) .discharged
  else if fixtureId = transferNotice then { t with state.transferNoticeSent := true }
  else if fixtureId = approvalReminder then
    (t.state.openApprovals.filter fun approval =>
      approval.reminderFired && some approval.cycleId = cycleId).foldl (fun t approval =>
        t.closeObligation now (reminderObligationId approval.checkpointId) .discharged) t
  else t

/-- Acceptance commits an attempt, not delivery. -/
def actSendMessage : Result :=
  let recipient := payload.text "recipient_actor_id"
  let fixtureId := payload.text "message_fixture_id"
  let correlationId := payload.text? "correlation_id"
  if !op.spec.actors.contains recipient then
    refuse state "UNKNOWN_RECIPIENT" s!"no actor {pyRepr recipient}"
  else if !op.spec.messageFixtures.contains fixtureId then
    refuse state "UNKNOWN_MESSAGE_FIXTURE"
      s!"{pyRepr fixtureId} is not a declared message fixture"
  else if fixtureId = completionNotice ∧ some recipient ≠ state.issueReportingActorId then
    refuse state "COMPLETION_NOTICE_WRONG_RECIPIENT"
      "a completion notice must address the accepted issue-reporting actor"
  else if fixtureId = approvalReminder ∧
      ¬(recipient = "approver_1" ∧ state.openApprovals.any fun approval =>
        some approval.cycleId = correlationId && approval.reminderFired) then
    refuse state "OBLIGATION_MESSAGE_BINDING_MISMATCH"
      "a reminder must address the assigned approver for an open, due cycle"
  else if fixtureId = transferNotice ∧ (some recipient ≠ state.issueReportingActorId ∨
      correlationId ≠ state.currentCycleId) then
    refuse state "OBLIGATION_MESSAGE_BINDING_MISMATCH"
      "a transfer notice must address the reporting customer for this cycle"
  else if fixtureId = transferNotice ∧ state.ownershipTransferredTo = none then
    refuse state "NO_TRANSFER_TO_ANNOUNCE"
      "a transfer notice cannot be sent before an operator has accepted ownership"
  else
    match op.messageRecovery state payload fixtureId correlationId with
    | .error (code, detail) => refuse state code detail
    | .ok recoveryOf =>
      let dispatchKey := if recoveryOf.isSome then s!"secondary:{fixtureId}" else fixtureId
      let row : Communication := {
        recoveryOf
        delivered := !context.dispatchFails dispatchKey
        recipientActorId := recipient
        messageFixtureId := fixtureId
        correlationId
        instant := context.now }
      let t := Transaction.begin { state with communications := state.communications ++ [row] }
      let t := if row.delivered then dischargeNotice t context.now fixtureId correlationId else t
      let common := [("channel", .str "message_dispatch"), ("message_fixture_id", .str fixtureId),
        ("recipient_actor_id", .str recipient)]
      let t := if row.delivered then
          t.record "side_effect" (common ++ ("status", .str "DELIVERED") :: row.recoveryFields)
        else t.record "side_effect_failed"
          (common ++ ("committed_decision_preserved", .bool true) :: row.recoveryFields)
      t.accept (.ok "ACCEPTED" (orElse correlationId state.currentCycleId) Dict.empty)

end Messages

def handler : ActionType → Result
  | .requestSupplierVisit => op.actRequestVisit state payload context
  | .requestApproval => op.actRequestApproval state payload context
  | .sendMessage => op.actSendMessage state payload context
  | .authoriseSupplierWork => op.actAuthoriseSupplierWork state payload evidenceRefs context
  | .requestInvoiceValidation => actRequestInvoiceValidation state payload evidenceRefs
  | .requestPayment => actRequestPayment state payload evidenceRefs
  | .requestExceptionResolution =>
    actRequestExceptionResolution state payload evidenceRefs context

/-- Validate one proposed action and, if it survives, commit its effect. -/
def applyAction (actionType : String) : Result :=
  if state.replayFinal then
    refuse state "OPERATION_IS_REPLAY_FINAL" "a replay-final operation accepts no further action"
  else
    match op.spec.actors.get? "agent" with
    | none => .error (.key "agent")
    | some agent =>
      if !agent.holds actionType then
        refuse state "ACTION_OUTSIDE_AGENT_AUTHORITY"
          s!"the agent does not hold {pyRepr actionType}"
      else
        match ActionType.ofText? actionType with
        | none => refuse state "UNKNOWN_ACTION_TYPE"
            s!"{pyRepr actionType} is not an action of this operation"
        | some action =>
          match validatePayload (actionPayloadSchema op.spec.recoveryEnabled action) payload
              s!"action {actionType}" actionType with
          | .error complaint => refuse state "MALFORMED_ACTION_PAYLOAD" complaint
          | .ok () =>
            match unresolvedEvidence state evidenceRefs with
            | some (code, detail) => refuse state code detail
            | none => op.handler state payload evidenceRefs context action

section Terminal

def terminalTransfer : Result :=
  if !deliveredNotice state transferNotice state.currentCycleId then
    refuse state "TRANSFER_NOTICE_NOT_SENT"
      "the customer must be told the operation moved to a human"
  else if state.payment.status ≠ .notRequested then
    refuse state "PAYMENT_MUTATED_BEFORE_TRANSFER"
      "a transfer after refused or expired approval cannot leave a payment behind it"
  else
    let t := Transaction.begin { state with
      phase := .transferredToHuman
      replayFinal := true
      terminal := some ⟨.transferredToHumanOwnership, context.now, state.currentCycleId⟩ }
    let t := t.record "terminal_accepted"
      [("outcome", .str "transferred_to_human_ownership"), ("replay_final", .bool true),
        ("operator_actor_id", .ofText? state.ownershipTransferredTo)]
    t.accept (.ok "TRANSFERRED" state.currentCycleId Dict.empty)

/-- Why the money of a payable cycle stands in the way of closing it. -/
def unpaidProblem (cycle : Cycle) : Option (String × String) :=
  let invoices := state.invoices.values.filter fun invoice => invoice.cycleId = cycle.cycleId
  let unvalidated := invoices.filter fun invoice => invoice.status ≠ .validated
  if invoices.isEmpty then some ("INVOICE_MISSING", "payable work has no invoice to settle")
  else if !unvalidated.isEmpty then
    some ("INVOICE_NOT_VALIDATED",
      s!"still unvalidated: {reprList (sortTexts (unvalidated.map Invoice.invoiceId))}")
  else if state.payment.status ≠ .settled then
    some ("PAYMENT_NOT_SETTLED", s!"payment is {state.payment.status.text}; only the payment " ++
      "system's own confirmation settles it")
  else none

def terminalProvisionalClose : Result :=
  match state.currentCycle with
  | none => refuse state "NO_CURRENT_CYCLE" "there is no work cycle to complete"
  | some cycle =>
    if !cycle.workVerified then
      refuse state "WORK_NOT_VERIFIED"
        (s!"cycle {pyRepr cycle.cycleId} is {cycle.visitStatus.text}; completion needs " ++
          "authoritative work evidence")
    else
      match if cycle.requiresPayment then unpaidProblem state cycle else none with
      | some (code, detail) => refuse state code detail
      | none =>
        if state.customerResolution = .persists then
          refuse state "CUSTOMER_REPORTS_PERSISTENCE"
            ("the customer gives the issue persists; the operation cannot close " ++
              "until that is resolved")
        else if !deliveredNotice state completionNotice (some cycle.cycleId) then
          refuse state "COMPLETION_NOTICE_NOT_SENT"
            s!"the customer has not been told cycle {pyRepr cycle.cycleId} is done"
        else do
          let reopenUntil ← shiftMinutes context.now op.policy.provisionalCloseMinutes
            "reopen window"
          let timerId := provisionalCloseTimerId cycle.cycleId
          let t := Transaction.begin { state with
            phase := .provisionallyClosed
            provisionalClose := {
              cycleId := some cycle.cycleId
              acceptedAt := some context.now
              reopenUntil := some reopenUntil
              timerEventId := some timerId } }
          let t := t.record "provisional_close_entered"
            [("cycle_id", .str cycle.cycleId), ("reopen_until", .str reopenUntil),
              ("replay_final", .bool false)]
          let t := t.scheduleTimer timerId .provisionalCloseExpired
            op.policy.provisionalCloseMinutes [("cycle_id", .str cycle.cycleId)]
          t.accept (.ok "PROVISIONALLY_CLOSED" (some cycle.cycleId) (visitBindings cycle))

/-- The guarded terminal transition. Two doors, both of them narrow. -/
def applyTerminal : Result :=
  if state.replayFinal then
    refuse state "OPERATION_IS_REPLAY_FINAL" "this operation has already ended"
  else if state.phase = .provisionallyClosed then
    refuse state "ALREADY_PROVISIONALLY_CLOSED"
      ("the operation is already in its confirmation window; only the " ++
        "finalization timer closes it")
  else if blockingCheckpoints state ≠ [] then
    refuse state "OPEN_CHECKPOINT"
      s!"cannot complete with open checkpoint(s) {reprList (blockingCheckpoints state)}"
  else if state.openObligations ≠ [] then
    refuse state "OPEN_OBLIGATION" ("cannot complete with open obligation(s) " ++
      reprList (sortTexts (state.openObligations.map Obligation.obligationId)))
  else if state.ownershipTransferredTo.isSome then terminalTransfer state context
  else op.terminalProvisionalClose state context

end Terminal

end MaintenanceOperation

end OperateBench.Maintenance
