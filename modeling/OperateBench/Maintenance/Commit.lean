import OperateBench.Maintenance.Operation
import OperateBench.Core.Consultation

/-! # Accepted changes of the record

`Commit` has one constructor for every way in which an accepted call changes the
record, with the guards that call has passed. The handlers are taken apart into
these cases once; invariants are proved by cases on them.
-/

namespace OperateBench.Maintenance

open Foundation

section Duties

abbrev Duties := Registry Obligation.obligationId

/-- Close a duty that is open. Any other is left as it is. -/
def closeDuty (duties : Duties) (now obligationId : String) (closure : Closure) : Duties :=
  match duties.get? obligationId with
  | none => duties
  | some obligation =>
    if obligation.status ≠ .opened then duties
    else duties.put { obligation with status := closure.status, closedAt := some now }

namespace Transaction

variable (t : Transaction)

@[simp] theorem state_begin (state : MaintenanceState) : (begin state).state = state := rfl

@[simp] theorem state_record (recordType : String) (payload : List (String × Value)) :
    (t.record recordType payload).state = t.state := rfl

@[simp] theorem state_cancelTimer (eventId : String) : (t.cancelTimer eventId).state = t.state :=
  rfl

@[simp] theorem state_scheduleTimer (eventId : String) (eventType : EventType) (delay : Int)
    (payload : List (String × Value)) :
    (t.scheduleTimer eventId eventType delay payload).state = t.state := rfl

@[simp] theorem state_closeObligation (now obligationId : String) (closure : Closure) :
    (t.closeObligation now obligationId closure).state =
      { t.state with obligations := closeDuty t.state.obligations now obligationId closure } := by
  simp only [closeObligation, closeDuty]
  cases t.state.obligations.get? obligationId with
  | none => rfl
  | some obligation =>
    by_cases h : obligation.status ≠ .opened
    · simp only [if_pos h]
    · simp only [if_neg h, state_record]

theorem openObligation_ok {t t' : Transaction} {now obligationId : String} {kind : ObligationKind}
    {cycleId : Option String} {minutes : Int}
    (h : t.openObligation now obligationId kind cycleId minutes = .ok t') :
    ∃ dueAt, t'.state = { t.state with
      obligations := t.state.obligations.putNew { obligationId, kind, cycleId, dueAt } } := by
  unfold openObligation at h
  split at h
  · rename_i hc
    obtain rfl := Except.ok.inj h
    exact ⟨"", by simp [Registry.putNew, hc]⟩
  · rename_i hc
    obtain ⟨dueAt, _, h⟩ := bind_ok h
    obtain rfl := pure_ok h
    exact ⟨dueAt, by simp [Registry.putNew, hc]⟩

end Transaction

/-- A duty keeps what it asks for, and once closed stays as it is. -/
def Obligation.Follows (a b : Obligation) : Prop :=
  (b.kind = a.kind ∧ b.cycleId = a.cycleId ∧ b.dueAt = a.dueAt) ∧
    (b = a ∨ a.status = .opened ∧ b.status ≠ .opened)

theorem Obligation.Follows.refl (a : Obligation) : a.Follows a := ⟨⟨rfl, rfl, rfl⟩, Or.inl rfl⟩

theorem Obligation.Follows.trans {a b c : Obligation} (h₁ : a.Follows b) (h₂ : b.Follows c) :
    a.Follows c := by
  obtain ⟨⟨hk, hc, hd⟩, h₁⟩ := h₁
  obtain ⟨⟨hk', hc', hd'⟩, h₂⟩ := h₂
  refine ⟨⟨hk'.trans hk, hc'.trans hc, hd'.trans hd⟩, ?_⟩
  rcases h₁ with rfl | ⟨ho, hn⟩
  · exact h₂
  · rcases h₂ with rfl | ⟨ho', _⟩
    · exact Or.inr ⟨ho, hn⟩
    · exact absurd ho' hn

/-- No duty is lost, and each follows from what it was. -/
def DutiesFollow (d d' : Duties) : Prop := Registry.Grows Obligation.Follows d d'

theorem DutiesFollow.refl (d : Duties) : DutiesFollow d d :=
  Registry.Grows.refl Obligation.Follows.refl d

theorem DutiesFollow.trans {d₁ d₂ d₃ : Duties} (h₁ : DutiesFollow d₁ d₂)
    (h₂ : DutiesFollow d₂ d₃) : DutiesFollow d₁ d₃ :=
  Registry.Grows.trans (R := Obligation.Follows) (fun _ _ _ => .trans) h₁ h₂

theorem Closure.status_ne_opened (closure : Closure) : closure.status ≠ .opened := by
  cases closure <;> nofun

theorem dutiesFollow_closeDuty (duties : Duties) (now obligationId : String) (closure : Closure) :
    DutiesFollow duties (closeDuty duties now obligationId closure) := by
  unfold closeDuty
  split
  · exact .refl _
  · split
    · exact .refl _
    · rename_i obligation hg ho
      refine Registry.grows_put_of Obligation.Follows.refl hg rfl ⟨⟨rfl, rfl, rfl⟩, Or.inr ⟨?_, ?_⟩⟩
      · simpa using ho
      · exact closure.status_ne_opened

theorem dutiesFollow_putNew (duties : Duties) (obligation : Obligation) :
    DutiesFollow duties (duties.putNew obligation) :=
  Registry.grows_putNew Obligation.Follows.refl

end Duties

section Commits

namespace MaintenanceOperation

/-- One call of the operation. -/
def respond (op : MaintenanceOperation) (call : Call) (state : MaintenanceState) : Result :=
  match call.cause with
  | .event event => op.reduceEvent state event call.context
  | .action actionType payload evidenceRefs =>
    op.applyAction state payload evidenceRefs call.context actionType
  | .terminal _ => op.applyTerminal state call.context

theorem reduce_domain (op : MaintenanceOperation) (sha256 : Value → String) :
    (op.domain sha256).reduce = op.respond := by
  funext call state
  obtain ⟨context, cause⟩ := call
  cases cause <;> rfl

/-- The operation on its own: one call that returned. -/
def Step (op : MaintenanceOperation) (s : MaintenanceState) (call : Call)
    (s' : MaintenanceState) : Prop :=
  ∃ reduction, op.respond call s = .ok reduction ∧ reduction.state = s'

theorem step_domain (op : MaintenanceOperation) (sha256 : Value → String) :
    (op.domain sha256).Step = op.Step := by
  funext s call s'
  simp only [OperationDomain.Step, Step, reduce_domain]

/-- The event passes the checks made before its reducer is asked. -/
structure Admits (op : MaintenanceOperation) (event : Event) (eventType : EventType) : Prop where
  named : EventType.ofText? event.eventType = some eventType
  authorised : ∃ actor, op.spec.actors.get? event.actorId = some actor ∧
    actor.holds eventType.authority = true
  valid : validatePayload (eventPayloadSchema eventType) event.payload s!"event {event.eventId}"
    event.eventType = .ok ()

end MaintenanceOperation

/-- The cycles after a notice: unchanged, or one of them is marked as told about. -/
def Noticed (s : MaintenanceState) (cycles : Registry Cycle.cycleId) : Prop :=
  cycles = s.cycles ∨ ∃ cycle, s.cycles.get? cycle.cycleId = some cycle ∧
    cycles = s.cycles.put { cycle with completionNoticeSent := true }

/-- Nothing is open that stands in the way of the terminal. -/
structure Unblocked (s : MaintenanceState) : Prop where
  live : s.replayFinal = false
  phase : s.phase ≠ .provisionallyClosed
  checkpoints : blockingCheckpoints s = []
  obligations : s.openObligations = []

/-- The guards of the provisional close on the current cycle. -/
structure Closable (s : MaintenanceState) (cycle : Cycle) : Prop extends Unblocked s where
  unowned : s.ownershipTransferredTo = none
  current : s.currentCycle = some cycle
  verified : cycle.workVerified = true
  paid : cycle.requiresPayment = true → MaintenanceOperation.unpaidProblem s cycle = none
  content : s.customerResolution ≠ .persists
  told : deliveredNotice s MaintenanceOperation.completionNotice (some cycle.cycleId) = true

/-- The guards of the finalization timer. -/
structure Finalizable (s : MaintenanceState) : Prop where
  phase : s.phase = .provisionallyClosed
  content : s.customerResolution ≠ .persists
  checkpoints : blockingCheckpoints s = []

/-- The accepted changes of the record `s` at the instant `now`, with what caused them. -/
inductive Commit (op : MaintenanceOperation) (now : String) (s : MaintenanceState) :
    Cause → Transaction → Prop
  | issueReported {event : Event} {effects : List Effect}
      (admitted : op.Admits event .customerIssueReported) (first : s.issueId = none)
      (handled : event.payload.text "classification" = op.policy.issueClassification) :
      Commit op now s (.event event) ⟨{ s with
        issueId := some (event.payload.text "issue_id")
        issueReportingActorId := some event.actorId
        classification := some (event.payload.text "classification")
        cycles := s.cycles.put { cycleId := event.payload.text "cycle_id", kind := .diagnostic }
        currentCycleId := some (event.payload.text "cycle_id")
        phase := .active }, effects⟩
  | visitAnswered {event : Event} {cycle : Cycle} {visitStatus : VisitStatus}
      {effects : List Effect} (onFile : s.cycles.get? cycle.cycleId = some cycle)
      (awaited : cycle.visitStatus = .requested)
      (answer : visitStatus = .scheduled ∨ visitStatus = .declined) :
      Commit op now s (.event event)
        ⟨{ s with cycles := s.cycles.put { cycle with visitStatus } }, effects⟩
  | attended {event : Event} {cycle : Cycle} {effects : List Effect}
      (admitted : op.Admits event .visitAttendanceVerified)
      (found : cycleForVisit s (event.payload.text "visit_id") = some cycle)
      (scheduled : cycle.visitStatus = .scheduled)
      (confirmed : (event.payload.get "attended").truthy = true) :
      Commit op now s (.event event) ⟨{ s with
        cycles := s.cycles.put { cycle with visitStatus := .attended }
        authoritativeRecords := s.authoritativeRecords.set (attendanceRecordId cycle.visitId)
          (.visitAttendance cycle.cycleId cycle.visitId now)
        obligations := closeDuty s.obligations now (visitObligationId cycle.cycleId)
          .discharged }, effects⟩
  | workReported {event : Event} {cycle : Cycle} {outcome : String} {scopeDigest : Option String}
      {effects : List Effect} (onFile : s.cycles.get? cycle.cycleId = some cycle)
      (attended : cycle.visitStatus = .attended) :
      Commit op now s (.event event) ⟨{ s with
        cycles := s.cycles.put { cycle with
          visitStatus := .workReported
          reportedOutcome := some outcome
          scopeDigest } }, effects⟩
  | workVerified {event : Event} {cycle : Cycle} {obligations : Duties} {effects : List Effect}
      (admitted : op.Admits event .workEvidenceVerified)
      (onFile : s.cycles.get? (event.payload.text "cycle_id") = some cycle)
      (visit : cycle.visitId = event.payload.text? "visit_id")
      (attended : cycle.visitStatus = .attended ∨ cycle.visitStatus = .workReported)
      (scope : cycle.kind = .warrantyRevisit → MaintenanceOperation.warrantyScopeHolds s cycle
        (event.payload.text "scope_digest") = true)
      (duties : DutiesFollow s.obligations obligations) :
      Commit op now s (.event event) ⟨{ s with
        cycles := s.cycles.put { cycle with
          visitStatus := .workVerified
          workEvidenceId := some (event.payload.text "evidence_id") }
        authoritativeRecords := s.authoritativeRecords.set (event.payload.text "evidence_id")
          (.workEvidence cycle.cycleId cycle.visitId (event.payload.text "scope_digest")
            (event.payload.text "outcome") now)
        obligations }, effects⟩
  | followupDue {event : Event} {cycleId : String} {effects : List Effect} :
      Commit op now s (.event event) ⟨{ s with
        obligations := closeDuty s.obligations now (visitObligationId cycleId) .breached }, effects⟩
  | quoteReceived {event : Event} {validUntil : Option String} {effects : List Effect}
      (fresh : s.quotes.get? (quoteKey (event.payload.text "quote_id")
        (event.payload.number "quote_version")) = none) :
      Commit op now s (.event event) ⟨{ s with
        cycles := s.cycles.putNew {
          cycleId := event.payload.text "cycle_id"
          kind := .approvedWork
          parentCycleId := event.payload.text? "parent_cycle_id"
          scopeDigest := some (event.payload.text "scope_digest")
          requiresPayment := true }
        quotes := s.quotes.put {
          quoteId := event.payload.text "quote_id"
          version := event.payload.number "quote_version"
          cycleId := event.payload.text "cycle_id"
          amountMinor := event.payload.number "amount_minor"
          currency := event.payload.text "currency"
          scopeDigest := event.payload.text "scope_digest"
          validUntil }
        currentCycleId := some (event.payload.text "cycle_id") }, effects⟩
  | invoiceReceived {event : Event} {invoice : Invoice} {effects : List Effect}
      (fresh : s.invoices.get? invoice.invoiceId = none)
      (unvalidated : invoice.status = .unvalidated) :
      Commit op now s (.event event) ⟨{ s with invoices := s.invoices.put invoice }, effects⟩
  | invoiceValidated {event : Event} {invoice : Invoice} {effects : List Effect}
      (admitted : op.Admits event .invoiceValidationCompleted)
      (onFile : s.invoices.get? (event.payload.text "invoice_id") = some invoice)
      (awaited : invoice.status = .validationRequested) :
      Commit op now s (.event event) ⟨{ s with
        invoices := s.invoices.put { invoice with
          status := if (event.payload.get "valid").truthy then .validated else .rejected
          validationId := some (event.payload.text "validation_id") }
        authoritativeRecords := s.authoritativeRecords.set (event.payload.text "validation_id")
          (.invoiceValidation invoice.invoiceId invoice.cycleId
            (event.payload.get "valid").truthy ((event.payload.text? "reason_code").getD "")
            now) }, effects⟩
  | settled {event : Event} {obligations : Duties} {effects : List Effect}
      (admitted : op.Admits event .paymentSettlementConfirmed)
      (requested : s.payment.status = .requested)
      (request : s.payment.requestId = event.payload.text? "payment_request_id")
      (bound : settlementMismatch s event.payload = none)
      (duties : DutiesFollow s.obligations obligations) :
      Commit op now s (.event event) ⟨{ s with
        payment := { s.payment with
          status := .settled
          settlementId := some (event.payload.text "settlement_id") }
        authoritativeRecords := s.authoritativeRecords.set (event.payload.text "settlement_id")
          (.paymentSettlement (event.payload.text "payment_request_id")
            (event.payload.text "invoice_id") (event.payload.text "cycle_id")
            (event.payload.number "amount_minor") (event.payload.text "currency") now)
        obligations }, effects⟩
  | asserted {event : Event} {row : Assertion} {effects : List Effect} :
      Commit op now s (.event event) ⟨{ s with assertions := s.assertions ++ [row] }, effects⟩
  | decided {event : Event} {approval : Approval} {status : ApprovalStatus}
      {quoteStatus : QuoteStatus} {instant deadline : Int} {effects : List Effect}
      (onFile : s.approvals.get? approval.checkpointId = some approval)
      (opened : approval.status = .opened)
      (decision : status = .approved ∧ quoteStatus = .approved ∨
        status = .rejected ∧ quoteStatus = .rejected)
      (moment : strptime now = .ok instant) (due : strptime approval.deadlineAt = .ok deadline)
      (inTime : instant ≤ deadline) :
      Commit op now s (.event event) ⟨{ s with
        approvals := s.approvals.put { approval with status, resolvedAt := some now }
        quotes := MaintenanceOperation.settleQuote s approval quoteStatus
        obligations := closeDuty
          (closeDuty s.obligations now (reminderObligationId approval.checkpointId) .cancelled)
          now (decisionObligationId approval.checkpointId) .discharged
        phase := .active }, effects⟩
  | exceptionResolved {event : Event} {checkpoint : ExceptionCheckpoint}
      {resolution : ExceptionResolution} {effects : List Effect}
      (onFile : s.exceptions.get? checkpoint.checkpointId = some checkpoint)
      (opened : checkpoint.status = .opened) :
      Commit op now s (.event event) ⟨{ s with
        exceptions := s.exceptions.put { checkpoint with
          status := .resolved
          resolution := some resolution
          resolvedAt := some now }
        ownershipTransferredTo := if resolution = .takeOwnership then some event.actorId
          else s.ownershipTransferredTo
        phase := .active }, effects⟩
  | reminderFired {event : Event} {approval : Approval} {effects : List Effect}
      (onFile : s.approvals.get? approval.checkpointId = some approval)
      (opened : approval.status = .opened) :
      Commit op now s (.event event)
        ⟨{ s with approvals := s.approvals.put { approval with reminderFired := true } }, effects⟩
  | expired {event : Event} {approval : Approval} {effects : List Effect}
      (onFile : s.approvals.get? approval.checkpointId = some approval)
      (opened : approval.status = .opened) :
      Commit op now s (.event event) ⟨{ s with
        approvals := s.approvals.put { approval with
          status := .expired
          resolvedAt := some now }
        quotes := MaintenanceOperation.settleQuote s approval .expired
        obligations := closeDuty
          (closeDuty s.obligations now (reminderObligationId approval.checkpointId) .cancelled)
          now (decisionObligationId approval.checkpointId) .cancelled }, effects⟩
  | reopened {event : Event} {closedCycleId : String} {closedCycle : Cycle} {instant limit : Int}
      {effects : List Effect} (admitted : op.Admits event .customerResolutionReported)
      (report : event.payload.text "status" = "PERSISTS")
      (phase : s.phase = .provisionallyClosed) (moment : strptime now = .ok instant)
      (window : strptime (s.provisionalClose.reopenUntil.getD "None") = .ok limit)
      (inTime : instant ≤ limit)
      (closed : closedCycleId = s.provisionalClose.cycleId.getD "None")
      (onFile : s.cycles.get? closedCycleId = some closedCycle) :
      Commit op now s (.event event) ⟨{ s with
        reopenCount := s.reopenCount + 1
        cycles := s.cycles.put {
          cycleId := s!"work_cycle_{s.cycles.size + 1}"
          kind := .warrantyRevisit
          parentCycleId := some closedCycleId
          scopeDigest := closedCycle.scopeDigest
          requiresPayment := false }
        currentCycleId := some s!"work_cycle_{s.cycles.size + 1}"
        customerResolution := .persists
        phase := .active
        provisionalClose := {} }, effects⟩
  | customerReported {event : Event} {resolution : CustomerResolution} {effects : List Effect}
      (inWindow : s.phase = .provisionallyClosed → resolution = .resolved) :
      Commit op now s (.event event)
        ⟨{ s with customerResolution := resolution }, effects⟩
  | finalized {event : Event} {effects : List Effect}
      (admitted : op.Admits event .provisionalCloseExpired) (ready : Finalizable s) :
      Commit op now s (.event event) ⟨{ s with
        phase := .finalized
        replayFinal := true
        terminal := some ⟨.completedSuccessfully, now, s.currentCycleId⟩ }, effects⟩
  | visitRequested {actionType : String} {payload : Fields} {evidenceRefs : List String}
      {cycle : Cycle} {obligations : Duties} {effects : List Effect}
      (onFile : s.cycles.get? cycle.cycleId = some cycle) (unstarted : cycle.visitStatus = .none)
      (duties : DutiesFollow s.obligations obligations) :
      Commit op now s (.action actionType payload evidenceRefs) ⟨{ s with
        cycles := s.cycles.put { cycle with
          visitId := some (allocateVisitId s)
          visitStatus := .requested }
        phase := .waitingVisit
        obligations }, effects⟩
  | workAuthorised {actionType : String} {payload : Fields} {evidenceRefs : List String}
      {cycle : Cycle} {obligations : Duties} {effects : List Effect}
      (onFile : s.cycles.get? cycle.cycleId = some cycle) (unstarted : cycle.visitStatus = .none)
      (duties : DutiesFollow s.obligations obligations) :
      Commit op now s (.action actionType payload evidenceRefs) ⟨{ s with
        cycles := s.cycles.put { cycle with
          visitId := some (allocateVisitId s)
          visitStatus := .scheduled }
        currentCycleId := some cycle.cycleId
        phase := .waitingVisit
        obligations }, effects⟩
  | approvalRequested {actionType : String} {payload : Fields} {evidenceRefs : List String}
      {quote : Quote} {deadlineAt : String} {obligations : Duties} {effects : List Effect}
      (onFile : s.quotes.get? quote.key = some quote) (received : quote.status = .received)
      (above : op.policy.approvalThresholdMinor < quote.amountMinor)
      (unheld : ∀ a ∈ s.approvals.values, a.quoteId = quote.quoteId →
        a.quoteVersion = quote.version → a.cycleId ≠ quote.cycleId)
      (duties : DutiesFollow s.obligations obligations) :
      Commit op now s (.action actionType payload evidenceRefs) ⟨{ s with
        approvals := s.approvals.put {
          checkpointId := allocateCheckpointId s
          quoteId := quote.quoteId
          quoteVersion := quote.version
          cycleId := quote.cycleId
          amountMinor := quote.amountMinor
          currency := quote.currency
          scopeDigest := quote.scopeDigest
          openedAt := now
          deadlineAt }
        phase := .waitingApproval
        obligations }, effects⟩
  | exceptionRequested {actionType : String} {payload : Fields} {evidenceRefs : List String}
      {checkpoint : ExceptionCheckpoint} {effects : List Effect}
      (allocated : checkpoint.checkpointId = allocateCheckpointId s)
      (opened : checkpoint.status = .opened) :
      Commit op now s (.action actionType payload evidenceRefs) ⟨{ s with
        exceptions := s.exceptions.put checkpoint
        phase := .waitingException }, effects⟩
  | validationRequested {actionType : String} {payload : Fields} {evidenceRefs : List String}
      {invoice : Invoice} {quote : Quote} {effects : List Effect}
      (onFile : s.invoices.get? invoice.invoiceId = some invoice)
      (unvalidated : invoice.status = .unvalidated)
      (quoted : s.quote invoice.quoteId invoice.quoteVersion = some quote)
      (approved : quote.status = .approved) (amount : quote.amountMinor = invoice.amountMinor)
      (currency : quote.currency = invoice.currency) (cycle : quote.cycleId = invoice.cycleId) :
      Commit op now s (.action actionType payload evidenceRefs) ⟨{ s with
        invoices := s.invoices.put { invoice with status := .validationRequested } }, effects⟩
  | paymentRequested {actionType : String} {payload : Fields} {evidenceRefs : List String}
      {invoice : Invoice} {cycle : Cycle} {effects : List Effect}
      (onFile : s.invoices.get? invoice.invoiceId = some invoice)
      (unrequested : s.payment.status = .notRequested)
      (worked : s.cycles.get? invoice.cycleId = some cycle)
      (payable : cycle.requiresPayment = true) (verified : cycle.workVerified = true)
      (validated : invoice.status = .validated) :
      Commit op now s (.action actionType payload evidenceRefs) ⟨{ s with
        payment := { s.payment with
          requestId := some (allocatePaymentRequestId s)
          invoiceId := some invoice.invoiceId
          cycleId := some invoice.cycleId
          status := .requested } }, effects⟩
  | messageSent {actionType : String} {payload : Fields} {evidenceRefs : List String}
      {row : Communication} {cycles : Registry Cycle.cycleId} {obligations : Duties}
      {transferNoticeSent : Bool} {effects : List Effect} (noticed : Noticed s cycles)
      (duties : DutiesFollow s.obligations obligations) :
      Commit op now s (.action actionType payload evidenceRefs) ⟨{ s with
        communications := s.communications ++ [row]
        cycles
        obligations
        transferNoticeSent }, effects⟩
  | transferred {evidenceRefs : List String} {effects : List Effect} (unblocked : Unblocked s)
      (owned : s.ownershipTransferredTo.isSome = true)
      (unpaid : s.payment.status = .notRequested) :
      Commit op now s (.terminal evidenceRefs) ⟨{ s with
        phase := .transferredToHuman
        replayFinal := true
        terminal := some ⟨.transferredToHumanOwnership, now, s.currentCycleId⟩ }, effects⟩
  | provisionallyClosed {evidenceRefs : List String} {cycle : Cycle} {reopenUntil : String}
      {row : Fields} {payload : Fields} (closable : Closable s cycle)
      (window : shiftMinutes now op.policy.provisionalCloseMinutes "reopen window" =
        .ok reopenUntil) :
      Commit op now s (.terminal evidenceRefs) ⟨{ s with
        phase := .provisionallyClosed
        provisionalClose := {
          cycleId := some cycle.cycleId
          acceptedAt := some now
          reopenUntil := some reopenUntil
          timerEventId := some (provisionalCloseTimerId cycle.cycleId) } },
        [.record "provisional_close_entered" row,
          .scheduleTimer (provisionalCloseTimerId cycle.cycleId)
            EventType.provisionalCloseExpired.text "scheduler" op.policy.provisionalCloseMinutes
            payload true]⟩

end Commits

end OperateBench.Maintenance
