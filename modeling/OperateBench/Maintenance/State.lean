import OperateBench.Foundation.Registry
import OperateBench.Core.Value

/-! # The canonical record of the Maintenance operation

A quote, an approval, a visit, an invoice and a payment belong to a work cycle.
Verifications are kept apart from what an actor merely asserted. Each registry is
keyed by the identity its records carry.
-/

namespace OperateBench.Maintenance

open Foundation

section Vocabulary

inductive Phase where
  | new
  | active
  | waitingVisit
  | waitingApproval
  | waitingException
  | provisionallyClosed
  | finalized
  | transferredToHuman
  deriving DecidableEq

def Phase.text : Phase → String
  | new => "NEW"
  | active => "ACTIVE"
  | waitingVisit => "WAITING_VISIT"
  | waitingApproval => "WAITING_APPROVAL"
  | waitingException => "WAITING_EXCEPTION"
  | provisionallyClosed => "PROVISIONALLY_CLOSED"
  | finalized => "FINALIZED"
  | transferredToHuman => "TRANSFERRED_TO_HUMAN"

inductive CycleKind where
  | diagnostic
  | approvedWork
  | warrantyRevisit
  deriving DecidableEq

def CycleKind.text : CycleKind → String
  | diagnostic => "DIAGNOSTIC"
  | approvedWork => "APPROVED_WORK"
  | warrantyRevisit => "WARRANTY_REVISIT"

inductive VisitStatus where
  | none
  | requested
  | scheduled
  | declined
  | attended
  | workReported
  | workVerified
  deriving DecidableEq

def VisitStatus.text : VisitStatus → String
  | none => "NONE"
  | requested => "REQUESTED"
  | scheduled => "SCHEDULED"
  | declined => "DECLINED"
  | attended => "ATTENDED"
  | workReported => "WORK_REPORTED"
  | workVerified => "WORK_VERIFIED"

inductive QuoteStatus where
  | received
  | approved
  | rejected
  | expired
  deriving DecidableEq

def QuoteStatus.text : QuoteStatus → String
  | received => "RECEIVED"
  | approved => "APPROVED"
  | rejected => "REJECTED"
  | expired => "EXPIRED"

inductive ApprovalStatus where
  | opened
  | approved
  | rejected
  | expired
  deriving DecidableEq

def ApprovalStatus.text : ApprovalStatus → String
  | opened => "OPEN"
  | approved => "RESOLVED_APPROVED"
  | rejected => "RESOLVED_REJECTED"
  | expired => "EXPIRED"

inductive ExceptionStatus where
  | opened
  | resolved
  deriving DecidableEq

def ExceptionStatus.text : ExceptionStatus → String
  | opened => "OPEN"
  | resolved => "RESOLVED"

inductive InvoiceStatus where
  | unvalidated
  | validationRequested
  | validated
  | rejected
  deriving DecidableEq

def InvoiceStatus.text : InvoiceStatus → String
  | unvalidated => "RECEIVED_UNVALIDATED"
  | validationRequested => "VALIDATION_REQUESTED"
  | validated => "VALIDATED"
  | rejected => "REJECTED"

inductive PaymentStatus where
  | notRequested
  | requested
  | settled
  deriving DecidableEq

def PaymentStatus.text : PaymentStatus → String
  | notRequested => "NOT_REQUESTED"
  | requested => "REQUESTED"
  | settled => "SETTLED"

inductive ObligationStatus where
  | opened
  | discharged
  | cancelled
  | breached
  deriving DecidableEq

def ObligationStatus.text : ObligationStatus → String
  | opened => "OPEN"
  | discharged => "DISCHARGED"
  | cancelled => "CANCELLED"
  | breached => "BREACHED"

inductive ObligationKind where
  | customerCompletionNotice
  | approvalReminder
  | approvalDecision
  | visitProgress
  deriving DecidableEq

def ObligationKind.text : ObligationKind → String
  | customerCompletionNotice => "customer_completion_notice"
  | approvalReminder => "approval_reminder"
  | approvalDecision => "approval_decision"
  | visitProgress => "visit_progress"

inductive CustomerResolution where
  | unconfirmed
  | resolved
  | persists
  deriving DecidableEq

def CustomerResolution.text : CustomerResolution → String
  | unconfirmed => "UNCONFIRMED"
  | resolved => "RESOLVED"
  | persists => "PERSISTS"

/-- Exception classes an agent may claim. -/
inductive ExceptionType where
  | approvalRejected
  | approvalExpired
  | evidenceConflict
  | repeatedVisitFailure
  deriving DecidableEq

namespace ExceptionType

def text : ExceptionType → String
  | approvalRejected => "APPROVAL_REJECTED"
  | approvalExpired => "APPROVAL_EXPIRED"
  | evidenceConflict => "EVIDENCE_CONFLICT"
  | repeatedVisitFailure => "REPEATED_VISIT_FAILURE"

def all : List ExceptionType :=
  [approvalRejected, approvalExpired, evidenceConflict, repeatedVisitFailure]

def ofText? (s : String) : Option ExceptionType := all.find? fun t => t.text == s

/-- The approval status that makes the class eligible. Other classes are reserved. -/
def approvalStatus? : ExceptionType → Option ApprovalStatus
  | approvalRejected => some .rejected
  | approvalExpired => some .expired
  | _ => none

end ExceptionType

/-- How an operator may resolve an exception checkpoint. -/
inductive ExceptionResolution where
  | takeOwnership
  | authoriseAlternative
  | cancelOperation
  deriving DecidableEq

namespace ExceptionResolution

def text : ExceptionResolution → String
  | takeOwnership => "TAKE_OWNERSHIP"
  | authoriseAlternative => "AUTHORISE_ALTERNATIVE"
  | cancelOperation => "CANCEL_OPERATION"

def ofText? (s : String) : Option ExceptionResolution :=
  [takeOwnership, authoriseAlternative, cancelOperation].find? fun t => t.text == s

end ExceptionResolution

inductive TerminalOutcome where
  | completedSuccessfully
  | transferredToHumanOwnership
  deriving DecidableEq

def TerminalOutcome.text : TerminalOutcome → String
  | completedSuccessfully => "completed_successfully"
  | transferredToHumanOwnership => "transferred_to_human_ownership"

end Vocabulary

section Records

/-- One unit of work: what was asked for, who is doing it, whether it is done. -/
structure Cycle where
  cycleId : String
  kind : CycleKind
  parentCycleId : Option String := none
  scopeDigest : Option String := none
  visitId : Option String := none
  visitStatus : VisitStatus := .none
  reportedOutcome : Option String := none
  workEvidenceId : Option String := none
  requiresPayment : Bool := false
  completionNoticeSent : Bool := false

def Cycle.workVerified (cycle : Cycle) : Bool := cycle.visitStatus = .workVerified

def Cycle.asDict (cycle : Cycle) : Value := .ofFields
  [("cycle_id", .str cycle.cycleId), ("kind", .str cycle.kind.text),
    ("parent_cycle_id", .ofText? cycle.parentCycleId),
    ("scope_digest", .ofText? cycle.scopeDigest), ("visit_id", .ofText? cycle.visitId),
    ("visit_status", .str cycle.visitStatus.text),
    ("reported_outcome", .ofText? cycle.reportedOutcome),
    ("work_evidence_id", .ofText? cycle.workEvidenceId),
    ("requires_payment", .bool cycle.requiresPayment),
    ("completion_notice_sent", .bool cycle.completionNoticeSent)]

/-- Quote identity is the pair, never the id alone: a revision is a new quote. -/
def quoteKey (quoteId : String) (version : Int) : String := s!"{quoteId}:v{version}"

structure Quote where
  quoteId : String
  version : Int
  cycleId : String
  amountMinor : Int
  currency : String
  scopeDigest : String
  status : QuoteStatus := .received
  validUntil : Option String := none

def Quote.key (quote : Quote) : String := quoteKey quote.quoteId quote.version

def Quote.asDict (quote : Quote) : Value := .ofFields
  [("quote_id", .str quote.quoteId), ("version", .int quote.version),
    ("cycle_id", .str quote.cycleId), ("amount_minor", .int quote.amountMinor),
    ("currency", .str quote.currency), ("scope_digest", .str quote.scopeDigest),
    ("status", .str quote.status.text), ("valid_until", .ofText? quote.validUntil)]

/-- A business approval checkpoint, bound to exactly one quote version. -/
structure Approval where
  checkpointId : String
  quoteId : String
  quoteVersion : Int
  cycleId : String
  amountMinor : Int
  currency : String
  scopeDigest : String
  openedAt : String
  deadlineAt : String
  status : ApprovalStatus := .opened
  resolvedAt : Option String := none
  reminderFired : Bool := false

def Approval.asDict (approval : Approval) : Value := .ofFields
  [("checkpoint_id", .str approval.checkpointId), ("quote_id", .str approval.quoteId),
    ("quote_version", .int approval.quoteVersion), ("cycle_id", .str approval.cycleId),
    ("amount_minor", .int approval.amountMinor), ("currency", .str approval.currency),
    ("scope_digest", .str approval.scopeDigest), ("opened_at", .str approval.openedAt),
    ("deadline_at", .str approval.deadlineAt), ("status", .str approval.status.text),
    ("resolved_at", .ofText? approval.resolvedAt),
    ("reminder_fired", .bool approval.reminderFired)]

/-- A typed hand-off to a human operator, with the context it was opened with. -/
structure ExceptionCheckpoint where
  checkpointId : String
  exceptionType : ExceptionType
  cycleId : Option String
  openedAt : String
  deadlineAt : String
  evidenceRefs : List String
  status : ExceptionStatus := .opened
  resolution : Option ExceptionResolution := none
  resolvedAt : Option String := none

def ExceptionCheckpoint.asDict (checkpoint : ExceptionCheckpoint) : Value := .ofFields
  [("checkpoint_id", .str checkpoint.checkpointId),
    ("exception_type", .str checkpoint.exceptionType.text),
    ("cycle_id", .ofText? checkpoint.cycleId), ("opened_at", .str checkpoint.openedAt),
    ("deadline_at", .str checkpoint.deadlineAt),
    ("evidence_refs", .ofTexts checkpoint.evidenceRefs), ("status", .str checkpoint.status.text),
    ("resolution", .ofText? (checkpoint.resolution.map ExceptionResolution.text)),
    ("resolved_at", .ofText? checkpoint.resolvedAt)]

/-- A supplier's bill. Arriving early is allowed; becoming payable is not. -/
structure Invoice where
  invoiceId : String
  cycleId : String
  quoteId : String
  quoteVersion : Int
  amountMinor : Int
  currency : String
  status : InvoiceStatus := .unvalidated
  validationId : Option String := none

def Invoice.asDict (invoice : Invoice) : Value := .ofFields
  [("invoice_id", .str invoice.invoiceId), ("cycle_id", .str invoice.cycleId),
    ("quote_id", .str invoice.quoteId), ("quote_version", .int invoice.quoteVersion),
    ("amount_minor", .int invoice.amountMinor), ("currency", .str invoice.currency),
    ("status", .str invoice.status.text), ("validation_id", .ofText? invoice.validationId)]

/-- Something that must happen by a stated instant, and whether it did. -/
structure Obligation where
  obligationId : String
  kind : ObligationKind
  cycleId : Option String
  dueAt : String
  status : ObligationStatus := .opened
  closedAt : Option String := none

def Obligation.asDict (obligation : Obligation) : Value := .ofFields
  [("obligation_id", .str obligation.obligationId), ("kind", .str obligation.kind.text),
    ("cycle_id", .ofText? obligation.cycleId), ("due_at", .str obligation.dueAt),
    ("status", .str obligation.status.text), ("closed_at", .ofText? obligation.closedAt)]

structure Payment where
  requestId : Option String := none
  invoiceId : Option String := none
  cycleId : Option String := none
  status : PaymentStatus := .notRequested
  settlementId : Option String := none

def Payment.asDict (payment : Payment) : Value := .ofFields
  [("request_id", .ofText? payment.requestId), ("invoice_id", .ofText? payment.invoiceId),
    ("cycle_id", .ofText? payment.cycleId), ("status", .str payment.status.text),
    ("settlement_id", .ofText? payment.settlementId)]

structure Assertion where
  assertionId : String
  actorId : String
  assertion : String
  cycleId : Option String
  instant : String

def Assertion.asDict (row : Assertion) : Value := .ofFields
  [("assertion_id", .str row.assertionId), ("actor_id", .str row.actorId),
    ("assertion", .str row.assertion), ("cycle_id", .ofText? row.cycleId),
    ("at", .str row.instant)]

/-- A verification from an authoritative system. -/
inductive AuthoritativeRecord where
  | visitAttendance (cycleId : String) (visitId : Option String) (instant : String)
  | workEvidence (cycleId : String) (visitId : Option String) (scopeDigest outcome : String)
      (instant : String)
  | invoiceValidation (invoiceId cycleId : String) (valid : Bool) (reasonCode instant : String)
  | paymentSettlement (paymentRequestId invoiceId cycleId : String) (amountMinor : Int)
      (currency instant : String)
  deriving DecidableEq

def AuthoritativeRecord.asDict : AuthoritativeRecord → Value
  | visitAttendance cycleId visitId instant => .ofFields
    [("kind", .str "visit_attendance"), ("cycle_id", .str cycleId),
      ("visit_id", .ofText? visitId), ("at", .str instant)]
  | workEvidence cycleId visitId scopeDigest outcome instant => .ofFields
    [("kind", .str "work_evidence"), ("cycle_id", .str cycleId), ("visit_id", .ofText? visitId),
      ("scope_digest", .str scopeDigest), ("outcome", .str outcome), ("at", .str instant)]
  | invoiceValidation invoiceId cycleId valid reasonCode instant => .ofFields
    [("kind", .str "invoice_validation"), ("invoice_id", .str invoiceId),
      ("cycle_id", .str cycleId), ("valid", .bool valid), ("reason_code", .str reasonCode),
      ("at", .str instant)]
  | paymentSettlement paymentRequestId invoiceId cycleId amountMinor currency instant => .ofFields
    [("kind", .str "payment_settlement"), ("payment_request_id", .str paymentRequestId),
      ("invoice_id", .str invoiceId), ("cycle_id", .str cycleId),
      ("amount_minor", .int amountMinor), ("currency", .str currency), ("at", .str instant)]

/-- One dispatched message. A recovery names the failed intent it repeats. -/
structure Communication where
  recoveryOf : Option ℕ
  delivered : Bool
  recipientActorId : String
  messageFixtureId : String
  correlationId : Option String
  instant : String

def Communication.recoveryFields (row : Communication) : List (String × Value) :=
  match row.recoveryOf with
  | none => []
  | some index => [("recovery_of", .int index), ("dispatch_channel", .str "secondary")]

def Communication.asDict (row : Communication) : Value := .ofFields <| row.recoveryFields ++
  [("dispatch_status", .str (if row.delivered then "DELIVERED" else "FAILED")),
    ("recipient_actor_id", .str row.recipientActorId),
    ("message_fixture_id", .str row.messageFixtureId),
    ("correlation_id", .ofText? row.correlationId), ("at", .str row.instant)]

structure ProvisionalClose where
  cycleId : Option String := none
  acceptedAt : Option String := none
  reopenUntil : Option String := none
  timerEventId : Option String := none

def ProvisionalClose.asDict (row : ProvisionalClose) : Value := .ofFields
  [("cycle_id", .ofText? row.cycleId), ("accepted_at", .ofText? row.acceptedAt),
    ("reopen_until", .ofText? row.reopenUntil), ("timer_event_id", .ofText? row.timerEventId)]

structure Terminal where
  outcome : TerminalOutcome
  instant : String
  cycleId : Option String

def Terminal.asDict (terminal : Terminal) : Value := .ofFields
  [("outcome", .str terminal.outcome.text), ("at", .str terminal.instant),
    ("cycle_id", .ofText? terminal.cycleId)]

end Records

structure MaintenanceState where
  phase : Phase := .new
  issueId : Option String := none
  issueReportingActorId : Option String := none
  classification : Option String := none
  customerResolution : CustomerResolution := .unconfirmed
  currentCycleId : Option String := none
  cycles : Registry Cycle.cycleId := .empty
  quotes : Registry Quote.key := .empty
  approvals : Registry Approval.checkpointId := .empty
  exceptions : Registry ExceptionCheckpoint.checkpointId := .empty
  invoices : Registry Invoice.invoiceId := .empty
  obligations : Registry Obligation.obligationId := .empty
  payment : Payment := {}
  assertions : List Assertion := []
  authoritativeRecords : Dict String AuthoritativeRecord := .empty
  communications : List Communication := []
  ownershipTransferredTo : Option String := none
  transferNoticeSent : Bool := false
  provisionalClose : ProvisionalClose := {}
  reopenCount : ℕ := 0
  terminal : Option Terminal := none
  replayFinal : Bool := false
  hidden : Fields := .empty

namespace MaintenanceState

variable (state : MaintenanceState)

def currentCycle : Option Cycle := state.currentCycleId.bind state.cycles.get?

def openApprovals : List Approval := state.approvals.values.filter fun a => a.status = .opened

def openExceptions : List ExceptionCheckpoint :=
  state.exceptions.values.filter fun c => c.status = .opened

def openObligations : List Obligation :=
  state.obligations.values.filter fun o => o.status = .opened

def quote (quoteId : String) (version : Int) : Option Quote :=
  state.quotes.get? (quoteKey quoteId version)

section Projection

/-- The entries of a dictionary in the order of their keys. -/
def sortedEntries {α : Type} (d : Dict String α) (asDict : α → Value) : Value :=
  .ofFields <| (sortTexts d.keys).filterMap fun k => (d.get? k).map fun a => (k, asDict a)

def roots : List (String × Value) :=
  [("phase", .str state.phase.text), ("issue_id", .ofText? state.issueId),
    ("issue_reporting_actor_id", .ofText? state.issueReportingActorId),
    ("classification", .ofText? state.classification),
    ("customer_resolution", .str state.customerResolution.text),
    ("current_cycle_id", .ofText? state.currentCycleId),
    ("cycles", sortedEntries state.cycles.dict Cycle.asDict),
    ("quotes", sortedEntries state.quotes.dict Quote.asDict),
    ("approvals", sortedEntries state.approvals.dict Approval.asDict),
    ("exceptions", sortedEntries state.exceptions.dict ExceptionCheckpoint.asDict),
    ("invoices", sortedEntries state.invoices.dict Invoice.asDict),
    ("obligations", sortedEntries state.obligations.dict Obligation.asDict),
    ("payment", state.payment.asDict), ("assertions", .list (state.assertions.map Assertion.asDict)),
    ("authoritative_records",
      sortedEntries state.authoritativeRecords AuthoritativeRecord.asDict),
    ("communications", .list (state.communications.map Communication.asDict)),
    ("ownership_transferred_to", .ofText? state.ownershipTransferredTo),
    ("transfer_notice_sent", .bool state.transferNoticeSent),
    ("provisional_close", state.provisionalClose.asDict),
    ("reopen_count", .int state.reopenCount),
    ("terminal", (state.terminal.map Terminal.asDict).getD .none),
    ("replay_final", .bool state.replayFinal)]

/-- The full record, including environment truth the agent never sees. -/
def canonical : Fields := .ofList (state.roots ++ [("hidden", state.hidden.asDict)])

/-- Exactly the named roots, in the order asked for. -/
def project (names : List String) : Except PyError Fields := do
  let built := Dict.ofList state.roots
  let selected ← names.mapM fun name =>
    match built.get? name with
    | some value => .ok (name, value)
    | none => .error (.key name)
  return .ofList selected

end Projection

end MaintenanceState

end OperateBench.Maintenance
