import OperateBench.Maintenance.Transaction

/-! # Event reducers

One reducer for every event type. A reducer either refuses by name or commits what
the event establishes; a claim is recorded and never made true.
-/

namespace OperateBench.Maintenance

open Foundation

namespace MaintenanceOperation

variable (op : MaintenanceOperation) (state : MaintenanceState) (event : Event)
  (context : EnvironmentContext)

section Issue

def reduceIssueReported : Result :=
  let classification := event.payload.text "classification"
  if state.issueId.isSome then
    refuse state "DUPLICATE_ISSUE" "this operation already has a reported issue"
  else if classification ≠ op.policy.issueClassification then
    refuse state "UNSUPPORTED_CLASSIFICATION"
      s!"{pyRepr classification} is not the classification this operation handles"
  else
    let cycleId := event.payload.text "cycle_id"
    let cycle : Cycle := { cycleId, kind := .diagnostic }
    (Transaction.begin { state with
      issueId := some (event.payload.text "issue_id")
      issueReportingActorId := some event.actorId
      classification := some classification
      cycles := state.cycles.put cycle
      currentCycleId := some cycleId
      phase := .active }).accept (.ok "ACCEPTED" (some cycleId) Dict.empty)

end Issue

section Visits

def reduceVisitResponse : Result :=
  match cycleForVisit state (event.payload.text "visit_id") with
  | none => refuse state "UNKNOWN_VISIT"
      ("no visit " ++ (event.payload.get "visit_id").repr ++ " was ever requested")
  | some cycle =>
    if cycle.visitStatus ≠ .requested then
      refuse state "VISIT_NOT_AWAITING_RESPONSE"
        s!"visit {reprText? cycle.visitId} is {cycle.visitStatus.text}, not REQUESTED"
    else
      let answer (visitStatus : VisitStatus) : Result :=
        (Transaction.begin { state with
          cycles := state.cycles.put { cycle with visitStatus } }).accept
            (.ok "ACCEPTED" (some cycle.cycleId) (visitBindings cycle))
      let response := event.payload.text "response"
      if response = "ACCEPTED" then answer .scheduled
      else if response = "DECLINED" then answer .declined
      else refuse state "UNKNOWN_VISIT_RESPONSE" s!"{pyRepr response} is not a visit response"

def reduceAttendanceVerified : Result :=
  let refusal := refuse state "VISIT_NOT_SCHEDULED"
    "attendance can only be verified for a scheduled visit"
  match cycleForVisit state (event.payload.text "visit_id") with
  | none => refusal
  | some cycle =>
    if cycle.visitStatus ≠ .scheduled then refusal
    else if !(event.payload.get "attended").truthy then
      refuse state "ATTENDANCE_NOT_CONFIRMED" "the authoritative system reports no visit"
    else
      let record := .visitAttendance cycle.cycleId cycle.visitId context.now
      let t := Transaction.begin { state with
        cycles := state.cycles.put { cycle with visitStatus := .attended }
        authoritativeRecords :=
          state.authoritativeRecords.set (attendanceRecordId cycle.visitId) record }
      let t := t.cancelTimer (visitTimerId cycle.cycleId)
      let t := t.closeObligation context.now (visitObligationId cycle.cycleId) .discharged
      t.accept (.ok "ACCEPTED" (some cycle.cycleId) (visitBindings cycle))

/-- A supplier's report is a claim about the work: it never verifies it. -/
def reduceWorkReported : Result :=
  let refusal := refuse state "VISIT_NOT_ATTENDED"
    "a supplier can only report work for a visit authoritative verification gives happened"
  match cycleForVisit state (event.payload.text "visit_id") with
  | none => refusal
  | some cycle =>
    if cycle.visitStatus ≠ .attended then refusal
    else
      (Transaction.begin { state with
        cycles := state.cycles.put { cycle with
          visitStatus := .workReported
          reportedOutcome := some (event.payload.text "outcome")
          scopeDigest := orElse cycle.scopeDigest (event.payload.text? "scope_digest") } }).accept
        (.ok "ACCEPTED" (some cycle.cycleId) (visitBindings cycle))

/-- Does the warranty cycle repeat the scope of the work it follows? -/
def warrantyScopeHolds (cycle : Cycle) (scope : String) : Bool :=
  (state.cycles.get? (cycle.parentCycleId.getD "")).any fun parent =>
    parent.scopeDigest = some scope

def reduceWorkEvidence : Result :=
  let refusal := refuse state "UNKNOWN_WORK_CYCLE"
    "work evidence must name a cycle and the visit it was done on"
  match state.cycles.get? (event.payload.text "cycle_id") with
  | none => refusal
  | some cycle =>
    let scope := event.payload.text "scope_digest"
    let evidenceId := event.payload.text "evidence_id"
    if cycle.visitId ≠ event.payload.text? "visit_id" then refusal
    else if cycle.visitStatus ≠ .attended ∧ cycle.visitStatus ≠ .workReported then
      refuse state "VISIT_NOT_ATTENDED"
        (s!"visit {reprText? cycle.visitId} is {cycle.visitStatus.text}; work cannot be " ++
          "verified for a visit that has not happened")
    else if cycle.kind = .warrantyRevisit ∧ !warrantyScopeHolds state cycle scope then
      refuse state "WARRANTY_SCOPE_MISMATCH"
        ("a warranty revisit must repeat the scope of the work it " ++
          "follows; different scope is new work and needs its own quote")
    else do
      let record := .workEvidence cycle.cycleId cycle.visitId scope
        (event.payload.text "outcome") context.now
      let verified := { cycle with visitStatus := .workVerified, workEvidenceId := some evidenceId }
      let t := Transaction.begin { state with
        cycles := state.cycles.put verified
        authoritativeRecords := state.authoritativeRecords.set evidenceId record }
      let t ← if cycle.requiresPayment then .ok t else
        t.openObligation context.now (noticeObligationId cycle.cycleId) .customerCompletionNotice
          (some cycle.cycleId) op.policy.completionNoticeWithinMinutes
      t.accept (.ok "ACCEPTED" (some cycle.cycleId) (visitBindings cycle))

def reduceVisitFollowupDue : Result :=
  let cycleId := event.payload.text "cycle_id"
  if !state.cycles.contains cycleId then
    refuse state "UNKNOWN_WORK_CYCLE" s!"no cycle {pyRepr cycleId}"
  else
    let t := (Transaction.begin state).closeObligation context.now (visitObligationId cycleId)
      .breached
    t.accept (.ok "ACCEPTED" (some cycleId) Dict.empty)

end Visits

section Billing

def reduceQuoteReceived : Result :=
  let quoteId := event.payload.text "quote_id"
  let version := event.payload.number "quote_version"
  let amountMinor := event.payload.number "amount_minor"
  let currency := event.payload.text "currency"
  if state.quotes.contains (quoteKey quoteId version) then
    refuse state "DUPLICATE_QUOTE" s!"quote {quoteKey quoteId version} has already been received"
  else if amountMinor ≤ 0 then
    refuse state "INVALID_QUOTE_AMOUNT" "a quote must be positive"
  else if currency ≠ op.policy.currency then
    refuse state "QUOTE_CURRENCY_MISMATCH"
      (s!"this operation is denominated in {pyRepr op.policy.currency}; a quote " ++
        s!"in {pyRepr currency} cannot be measured against its authored threshold")
  else do
    let cycleId := event.payload.text "cycle_id"
    let scopeDigest := event.payload.text "scope_digest"
    let cycle : Cycle := {
      cycleId
      kind := .approvedWork
      parentCycleId := event.payload.text? "parent_cycle_id"
      scopeDigest := some scopeDigest
      requiresPayment := true }
    let cycles := if state.cycles.contains cycleId then state.cycles else state.cycles.put cycle
    let validUntil ← shiftMinutes context.now op.policy.approvalValidityMinutes "quote validity"
    let quote : Quote := {
      quoteId, version, cycleId, amountMinor, currency, scopeDigest
      validUntil := some validUntil }
    (Transaction.begin { state with
      cycles
      quotes := state.quotes.put quote
      currentCycleId := some cycleId }).accept (.ok "ACCEPTED" (some cycleId) Dict.empty)

/-- Accepted whatever the state of the work: stored unvalidated is not payable. -/
def reduceInvoiceReceived : Result :=
  let invoiceId := event.payload.text "invoice_id"
  let cycleId := event.payload.text "cycle_id"
  if state.invoices.contains invoiceId then
    refuse state "DUPLICATE_INVOICE" s!"invoice {pyRepr invoiceId} has already been received"
  else
    let invoice : Invoice := {
      invoiceId, cycleId
      quoteId := event.payload.text "quote_id"
      quoteVersion := event.payload.number "quote_version"
      amountMinor := event.payload.number "amount_minor"
      currency := event.payload.text "currency" }
    (Transaction.begin { state with invoices := state.invoices.put invoice }).accept
      (.ok "ACCEPTED" (some cycleId) Dict.empty)

def reduceInvoiceValidation : Result :=
  let refusal := refuse state "INVOICE_NOT_AWAITING_VALIDATION"
    "only an invoice whose validation was requested can be validated"
  match state.invoices.get? (event.payload.text "invoice_id") with
  | none => refusal
  | some invoice =>
    if invoice.status ≠ .validationRequested then refusal
    else
      let validationId := event.payload.text "validation_id"
      let valid := (event.payload.get "valid").truthy
      let reasonCode := (event.payload.text? "reason_code").getD ""
      let answered := { invoice with
        status := if valid then .validated else .rejected
        validationId := some validationId }
      let record := .invoiceValidation invoice.invoiceId invoice.cycleId valid reasonCode context.now
      (Transaction.begin { state with
        invoices := state.invoices.put answered
        authoritativeRecords := state.authoritativeRecords.set validationId record }).accept
          (.ok "ACCEPTED" (some invoice.cycleId) Dict.empty)

def reduceSettlement : Result :=
  if state.payment.status ≠ .requested then
    refuse state "NO_PAYMENT_REQUESTED"
      "settlement can only confirm a payment this operation requested"
  else if state.payment.requestId ≠ event.payload.text? "payment_request_id" then
    refuse state "PAYMENT_REQUEST_MISMATCH"
      "the settlement names a payment request this operation did not make"
  else
    match settlementMismatch state event.payload with
    | some mismatch => refuse state "SETTLEMENT_BINDING_MISMATCH" mismatch
    | none => do
      let settlementId := event.payload.text "settlement_id"
      let requestId := event.payload.text "payment_request_id"
      let record := .paymentSettlement requestId (event.payload.text "invoice_id")
        (event.payload.text "cycle_id") (event.payload.number "amount_minor")
        (event.payload.text "currency") context.now
      let t := Transaction.begin { state with
        payment := { state.payment with status := .settled, settlementId := some settlementId }
        authoritativeRecords := state.authoritativeRecords.set settlementId record }
      let cycleId := state.payment.cycleId.getD "None"
      let t ← t.openObligation context.now (noticeObligationId cycleId) .customerCompletionNotice
        (some cycleId) op.policy.completionNoticeWithinMinutes
      t.accept (.ok "ACCEPTED" (some cycleId)
        (bindings [("payment_request_id", some requestId)]))

end Billing

section Checkpoints

def reduceAssertion : Result :=
  let cycleId := event.payload.text? "cycle_id"
  let row : Assertion := {
    assertionId := event.payload.text "assertion_id"
    actorId := event.actorId
    assertion := event.payload.text "assertion"
    cycleId
    instant := context.now }
  (Transaction.begin { state with assertions := state.assertions ++ [row] }).accept {
    accepted := true
    code := "OBSERVATIONAL_ONLY"
    detail := "an actor claim is recorded, never made true"
    cycleId
    observational := true
    bindings := Dict.empty }

/-- The quote registry after the quote of an approval took the status the decision gives it. -/
def settleQuote (approval : Approval) (status : QuoteStatus) : Registry Quote.key :=
  match state.quote approval.quoteId approval.quoteVersion with
  | none => state.quotes
  | some quote => state.quotes.put { quote with status }

def reduceApproverDecision : Result :=
  let checkpointId := event.payload.text "checkpoint_id"
  match state.approvals.get? checkpointId with
  | none => refuse state "UNKNOWN_CHECKPOINT"
      s!"no approval checkpoint {pyRepr checkpointId} was ever opened"
  | some approval =>
    if approval.status ≠ .opened then
      refuse state "CHECKPOINT_NOT_OPEN"
        (s!"checkpoint {pyRepr checkpointId} is {approval.status.text}; a decision that " ++
          "arrives after it closed cannot mutate the operation")
    else
      match bindingMismatch approval event.payload with
      | some mismatch => refuse state "QUOTE_BINDING_MISMATCH" mismatch
      | none => do
        let now ← parseTimestamp context.now "now"
        let deadline ← parseTimestamp approval.deadlineAt "checkpoint deadline"
        if deadline < now then
          refuse state "CHECKPOINT_DEADLINE_PASSED"
            s!"the decision arrived after {approval.deadlineAt}"
        else
          let decide (status : ApprovalStatus) (quoteStatus : QuoteStatus) : Result :=
            let resolved := { approval with status, resolvedAt := some context.now }
            let t := Transaction.begin { state with
              approvals := state.approvals.put resolved
              quotes := settleQuote state approval quoteStatus
              phase := .active }
            let t := t.cancelTimer (reminderTimerId checkpointId)
            let t := t.cancelTimer (deadlineTimerId checkpointId)
            let t := t.closeObligation context.now (reminderObligationId checkpointId) .cancelled
            let t := t.closeObligation context.now (decisionObligationId checkpointId) .discharged
            let t := t.record "checkpoint_resolved"
              [("checkpoint_id", .str checkpointId),
                ("checkpoint_type", .str "repair_quote_approval"),
                ("resolution", .str status.text)]
            t.accept (.ok "ACCEPTED" (some approval.cycleId)
              (bindings [("checkpoint_id", some checkpointId)]))
          let decision := event.payload.text "decision"
          if decision = "APPROVED" then decide .approved .approved
          else if decision = "REJECTED" then decide .rejected .rejected
          else refuse state "UNKNOWN_DECISION" s!"{pyRepr decision} is not an approval decision"

def reduceOperatorResolution : Result :=
  let checkpointId := event.payload.text "checkpoint_id"
  let refusal := refuse state "UNKNOWN_EXCEPTION_CHECKPOINT"
    s!"no open exception checkpoint {pyRepr checkpointId}"
  match state.exceptions.get? checkpointId with
  | none => refusal
  | some checkpoint =>
    if checkpoint.status ≠ .opened then refusal
    else
      let decision := event.payload.text "decision"
      match ExceptionResolution.ofText? decision with
      | none => refuse state "UNKNOWN_EXCEPTION_DECISION" s!"{pyRepr decision} is not a resolution"
      | some resolution =>
        let resolved := { checkpoint with
          status := .resolved
          resolution := some resolution
          resolvedAt := some context.now }
        let t := Transaction.begin { state with
          exceptions := state.exceptions.put resolved
          ownershipTransferredTo := if resolution = .takeOwnership then some event.actorId
            else state.ownershipTransferredTo
          phase := .active }
        let t := t.record "checkpoint_resolved"
          [("checkpoint_id", .str checkpointId),
            ("checkpoint_type", .str "maintenance_exception_resolution"),
            ("resolution", .str resolution.text)]
        t.accept (.ok "ACCEPTED" checkpoint.cycleId
          (bindings [("checkpoint_id", some checkpointId)]))

def reduceReminderDue : Result :=
  let refusal := refuse state "CHECKPOINT_NOT_OPEN"
    "a reminder is only due while a decision is open"
  match state.approvals.get? (event.payload.text "checkpoint_id") with
  | none => refusal
  | some approval =>
    if approval.status ≠ .opened then refusal
    else if approval.reminderFired then
      refuse state "REMINDER_ALREADY_FIRED" "the authored reminder fires exactly once"
    else
      (Transaction.begin { state with
        approvals := state.approvals.put { approval with reminderFired := true } }).accept
          (.ok "ACCEPTED" (some approval.cycleId) Dict.empty)

def reduceDeadlineDue : Result :=
  let checkpointId := event.payload.text "checkpoint_id"
  let refusal := refuse state "CHECKPOINT_NOT_OPEN" "only an open checkpoint can expire"
  match state.approvals.get? checkpointId with
  | none => refusal
  | some approval =>
    if approval.status ≠ .opened then refusal
    else
      let expired := { approval with status := .expired, resolvedAt := some context.now }
      let t := Transaction.begin { state with
        approvals := state.approvals.put expired
        quotes := settleQuote state approval .expired }
      let t := t.cancelTimer (reminderTimerId checkpointId)
      let t := t.closeObligation context.now (reminderObligationId checkpointId) .cancelled
      let t := t.closeObligation context.now (decisionObligationId checkpointId) .cancelled
      let t := t.record "checkpoint_resolved"
        [("checkpoint_id", .str checkpointId), ("checkpoint_type", .str "repair_quote_approval"),
          ("resolution", .str ApprovalStatus.expired.text)]
      t.accept (.ok "ACCEPTED" (some approval.cycleId)
        (bindings [("checkpoint_id", some checkpointId)]))

end Checkpoints

section Closing

/-- Cancel finalization and open a warranty cycle against the same scope. -/
def reopen : Result :=
  let t := Transaction.begin state
  let t := match state.provisionalClose.timerEventId with
    | some timerId => t.cancelTimer timerId
    | none => t
  let closedCycleId := state.provisionalClose.cycleId.getD "None"
  match state.cycles.get? closedCycleId with
  | none => .error (.key closedCycleId)
  | some closedCycle =>
    let newCycleId := s!"work_cycle_{state.cycles.size + 1}"
    let cycle : Cycle := {
      cycleId := newCycleId
      kind := .warrantyRevisit
      parentCycleId := some closedCycleId
      scopeDigest := closedCycle.scopeDigest
      requiresPayment := false }
    let t := { t with state := { state with
      reopenCount := state.reopenCount + 1
      cycles := state.cycles.put cycle
      currentCycleId := some newCycleId
      customerResolution := .persists
      phase := .active
      provisionalClose := {} } }
    let t := t.record "operation_reopened"
      [("reopened_cycle_id", .str closedCycleId), ("warranty_cycle_id", .str newCycleId),
        ("reason", .str "customer reported the issue persists inside the window")]
    t.accept (.ok "REOPENED" (some newCycleId) Dict.empty)

def reduceCustomerResolution : Result :=
  let status := event.payload.text "status"
  if status ≠ "RESOLVED" ∧ status ≠ "PERSISTS" then
    refuse state "UNKNOWN_RESOLUTION_STATUS" s!"{pyRepr status} is not a resolution report"
  else if status = "PERSISTS" ∧ state.phase = .provisionallyClosed then do
    let reopenUntil := state.provisionalClose.reopenUntil.getD "None"
    let now ← parseTimestamp context.now "now"
    let window ← parseTimestamp reopenUntil "reopen window"
    if window < now then
      refuse state "REOPEN_WINDOW_CLOSED" s!"the provisional window closed at {reopenUntil}"
    else reopen state
  else if state.phase = .provisionallyClosed ∧ status = "RESOLVED" then
    (Transaction.begin { state with customerResolution := .resolved }).accept
      (.ok "ACCEPTED" state.currentCycleId Dict.empty)
  else if state.phase ∈ [.finalized, .transferredToHuman, .new] then
    refuse state "RESOLUTION_NOT_ACCEPTED_IN_PHASE"
      s!"a resolution report is not accepted while the operation is {state.phase.text}"
  else
    (Transaction.begin { state with
      customerResolution := if status = "RESOLVED" then .resolved else .persists }).accept
        (.ok "ACCEPTED" state.currentCycleId Dict.empty)

def reduceProvisionalExpired : Result :=
  if state.phase ≠ .provisionallyClosed then
    refuse state "NOT_PROVISIONALLY_CLOSED"
      "finalization only applies to a provisionally closed operation"
  else if state.customerResolution = .persists then
    refuse state "UNRESOLVED_CUSTOMER_REPORT"
      "the customer reports the issue persists, so the window cannot finalize"
  else if blockingCheckpoints state ≠ [] then
    refuse state "OPEN_CHECKPOINT_AT_FINALIZATION"
      s!"still open: {reprList (blockingCheckpoints state)}"
  else
    let t := Transaction.begin { state with
      phase := .finalized
      replayFinal := true
      terminal := some ⟨.completedSuccessfully, context.now, state.currentCycleId⟩ }
    let t := t.record "terminal_accepted"
      [("outcome", .str "completed_successfully"), ("replay_final", .bool true),
        ("cycle_id", .ofText? state.currentCycleId)]
    t.accept (.ok "FINALIZED" state.currentCycleId Dict.empty)

end Closing

def reducer : EventType → Result
  | .customerIssueReported => op.reduceIssueReported state event
  | .customerResolutionReported => reduceCustomerResolution state event context
  | .supplierVisitResponse => reduceVisitResponse state event
  | .supplierWorkReported => reduceWorkReported state event
  | .supplierQuoteReceived => op.reduceQuoteReceived state event context
  | .supplierInvoiceReceived => reduceInvoiceReceived state event
  | .supplierAssertionReceived => reduceAssertion state event context
  | .approverDecisionReceived => reduceApproverDecision state event context
  | .operatorExceptionResolved => reduceOperatorResolution state event context
  | .visitAttendanceVerified => reduceAttendanceVerified state event context
  | .workEvidenceVerified => op.reduceWorkEvidence state event context
  | .invoiceValidationCompleted => reduceInvoiceValidation state event context
  | .paymentSettlementConfirmed => op.reduceSettlement state event context
  | .approvalReminderDue => reduceReminderDue state event
  | .approvalDeadlineDue => reduceDeadlineDue state event context
  | .visitFollowupDue => reduceVisitFollowupDue state event context
  | .provisionalCloseExpired => reduceProvisionalExpired state context

/-- Deliver one external event, or refuse it by name. -/
def reduceEvent : Result :=
  match op.spec.actors.get? event.actorId with
  | none => refuse state "UNKNOWN_ACTOR" s!"actor {pyRepr event.actorId} is not in the registry"
  | some actor =>
    match EventType.ofText? event.eventType with
    | none => refuse state "UNKNOWN_EVENT_TYPE"
        s!"{pyRepr event.eventType} has no reducer in this operation"
    | some eventType =>
      if !actor.holds eventType.authority then
        refuse state "EVENT_ACTOR_LACKS_AUTHORITY"
          (s!"actor {pyRepr event.actorId} does not hold {pyRepr eventType.authority}, so it " ++
            s!"cannot bring about {pyRepr event.eventType}; provenance is derived from " ++
            "the actor registry and is re-checked where the mutation would happen")
      else
        match validatePayload (eventPayloadSchema eventType) event.payload
            s!"event {event.eventId}" event.eventType with
        | .error complaint => refuse state "MALFORMED_EVENT_PAYLOAD" complaint
        | .ok () => op.reducer state event context eventType

end MaintenanceOperation

end OperateBench.Maintenance
