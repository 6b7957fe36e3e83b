import OperateBench.Foundation.Registry
import OperateBench.Core.Value

/-! # The canonical record of the return/refund operation

Customer claims, authoritative records, human checkpoints, money movement and
obligations live in registries of their own, each keyed by the identity its records
carry, so that no retrieval upgrades one kind of evidence into another.
-/

namespace OperateBench.ReturnRefund

open Foundation

section Vocabulary

inductive Phase where
  | new
  | returnRequested
  | awaitingHandover
  | awaitingInspection
  | awaitingApproval
  | readyToRefund
  | refundPending
  | refundSettled
  | provisional
  | refundReopened
  | refundDenied
  | returnExpired
  | finalSuccess
  | finalRefundDenied
  | finalReturnExpired
  deriving DecidableEq

def Phase.text : Phase → String
  | new => "NEW"
  | returnRequested => "RETURN_REQUESTED"
  | awaitingHandover => "AWAITING_HANDOVER"
  | awaitingInspection => "AWAITING_INSPECTION"
  | awaitingApproval => "AWAITING_APPROVAL"
  | readyToRefund => "READY_TO_REFUND"
  | refundPending => "REFUND_PENDING"
  | refundSettled => "REFUND_SETTLED"
  | provisional => "PROVISIONAL"
  | refundReopened => "REFUND_REOPENED"
  | refundDenied => "REFUND_DENIED"
  | returnExpired => "RETURN_EXPIRED"
  | finalSuccess => "FINAL_SUCCESS"
  | finalRefundDenied => "FINAL_REFUND_DENIED"
  | finalReturnExpired => "FINAL_RETURN_EXPIRED"

inductive AuthorisationStatus where
  | issued
  | verified
  | expired
  deriving DecidableEq

def AuthorisationStatus.text : AuthorisationStatus → String
  | issued => "ISSUED"
  | verified => "VERIFIED"
  | expired => "EXPIRED"

inductive CheckpointStatus where
  | opened
  | approved
  | rejected
  | expired
  deriving DecidableEq

def CheckpointStatus.text : CheckpointStatus → String
  | opened => "OPEN"
  | approved => "APPROVED"
  | rejected => "REJECTED"
  | expired => "EXPIRED"

inductive RefundStatus where
  | requested
  | settled
  | reversed
  deriving DecidableEq

def RefundStatus.text : RefundStatus → String
  | requested => "REQUESTED"
  | settled => "SETTLED"
  | reversed => "REVERSED"

inductive ObligationStatus where
  | opened
  | discharged
  | cancelled
  | breached
  deriving DecidableEq

def ObligationStatus.text : ObligationStatus → String
  | opened => "OPEN"
  | discharged => "DISCHARGED"
  | cancelled => "CANCELLED"
  | breached => "BREACHED"

inductive ObligationKind where
  | authoritativeHandover
  | handoverReminder
  | refundApprovalDecision
  | authoritativeRefundSettlement
  | refundCompletionNotice
  | refundDenialNotice
  | returnExpiryNotice
  | refundRecovery
  deriving DecidableEq

def ObligationKind.text : ObligationKind → String
  | authoritativeHandover => "authoritative_handover"
  | handoverReminder => "handover_reminder"
  | refundApprovalDecision => "refund_approval_decision"
  | authoritativeRefundSettlement => "authoritative_refund_settlement"
  | refundCompletionNotice => "refund_completion_notice"
  | refundDenialNotice => "refund_denial_notice"
  | returnExpiryNotice => "return_expiry_notice"
  | refundRecovery => "refund_recovery"

/-- How an approver may decide a refund checkpoint. -/
inductive Decision where
  | approved
  | rejected
  deriving DecidableEq

namespace Decision

def text : Decision → String
  | approved => "APPROVED"
  | rejected => "REJECTED"

def ofText? (s : String) : Option Decision := [approved, rejected].find? fun t => t.text == s

def status : Decision → CheckpointStatus
  | approved => .approved
  | rejected => .rejected

end Decision

inductive TerminalOutcome where
  | completedRefundSettled
  | closedRefundDenied
  | closedReturnExpired
  deriving DecidableEq

def TerminalOutcome.text : TerminalOutcome → String
  | completedRefundSettled => "completed_refund_settled"
  | closedRefundDenied => "closed_refund_denied"
  | closedReturnExpired => "closed_return_expired"

end Vocabulary

section Records

def ofInt? (n : Option Int) : Value := (n.map Value.int).getD .none

/-- The permission to send goods back, for as long as it is neither used nor expired. -/
structure Authorisation where
  authorisationId : String
  returnId : Option String
  cycleId : Option String
  issuedAt : String
  status : AuthorisationStatus := .issued
  verifiedAt : Option String := none
  expiredAt : Option String := none
  reminderDue : Bool := false

def Authorisation.asDict (row : Authorisation) : Value := .ofFields
  [("authorisation_id", .str row.authorisationId), ("return_id", .ofText? row.returnId),
    ("cycle_id", .ofText? row.cycleId), ("status", .str row.status.text),
    ("issued_at", .str row.issuedAt), ("verified_at", .ofText? row.verifiedAt),
    ("expired_at", .ofText? row.expiredAt), ("reminder_due", .bool row.reminderDue)]

/-- What a customer says about a handover. It is never a carrier record. -/
structure CustomerClaim where
  claimId : String
  returnId : Option String
  authorisationId : String
  cycleId : Option String
  claimedAt : String

def CustomerClaim.asDict (row : CustomerClaim) : Value := .ofFields
  [("claim_id", .str row.claimId), ("return_id", .ofText? row.returnId),
    ("authorisation_id", .str row.authorisationId), ("cycle_id", .ofText? row.cycleId),
    ("claimed_at", .str row.claimedAt), ("authority", .str "actor_claim")]

/-- A handover the carrier itself verified. -/
structure CarrierRecord where
  carrierRecordId : String
  returnId : Option String
  authorisationId : String
  cycleId : String
  verifiedAt : String

def CarrierRecord.asDict (row : CarrierRecord) : Value := .ofFields
  [("carrier_record_id", .str row.carrierRecordId), ("return_id", .ofText? row.returnId),
    ("authorisation_id", .str row.authorisationId), ("cycle_id", .str row.cycleId),
    ("handed_over", .bool true), ("verified_at", .str row.verifiedAt),
    ("authority", .str "authoritative_verification")]

/-- What the warehouse found in the parcel. -/
structure Inspection where
  inspectionId : String
  returnId : Option String
  cycleId : String
  disposition : String
  amountMinor : Option Int
  currency : Option String
  inspectedAt : String

def Inspection.asDict (row : Inspection) : Value := .ofFields
  [("inspection_id", .str row.inspectionId), ("return_id", .ofText? row.returnId),
    ("cycle_id", .str row.cycleId), ("disposition", .str row.disposition),
    ("amount_minor", ofInt? row.amountMinor), ("currency", .ofText? row.currency),
    ("inspected_at", .str row.inspectedAt), ("authority", .str "authoritative_verification")]

/-- A human decision on one inspected amount. -/
structure Checkpoint where
  checkpointId : String
  inspectionId : String
  cycleId : Option String
  amountMinor : Option Int
  currency : Option String
  openedAt : String
  deadlineAt : String
  status : CheckpointStatus := .opened
  decision : Option Decision := none
  resolvedAt : Option String := none

def checkpointHighValueRefund : String := "high_value_refund_approval"

def Checkpoint.asDict (row : Checkpoint) : Value := .ofFields
  [("checkpoint_id", .str row.checkpointId), ("checkpoint_type", .str checkpointHighValueRefund),
    ("inspection_id", .str row.inspectionId), ("cycle_id", .ofText? row.cycleId),
    ("amount_minor", ofInt? row.amountMinor), ("currency", .ofText? row.currency),
    ("status", .str row.status.text), ("decision", .ofText? (row.decision.map Decision.text)),
    ("opened_at", .str row.openedAt), ("deadline_at", .str row.deadlineAt),
    ("resolved_at", .ofText? row.resolvedAt)]

/-- Money that was asked for, and what became of it. -/
structure Refund where
  refundRequestId : String
  inspectionId : String
  approvalCheckpointId : Option String
  cycleId : String
  amountMinor : Option Int
  currency : Option String
  requestedAt : String
  status : RefundStatus := .requested
  settlementId : Option String := none
  settledAt : Option String := none
  reversalId : Option String := none
  reversalReasonCode : Option String := none
  reversedAt : Option String := none

def Refund.asDict (row : Refund) : Value := .ofFields
  [("refund_request_id", .str row.refundRequestId), ("inspection_id", .str row.inspectionId),
    ("approval_checkpoint_id", .ofText? row.approvalCheckpointId), ("cycle_id", .str row.cycleId),
    ("amount_minor", ofInt? row.amountMinor), ("currency", .ofText? row.currency),
    ("status", .str row.status.text), ("requested_at", .str row.requestedAt),
    ("settlement_id", .ofText? row.settlementId), ("settled_at", .ofText? row.settledAt),
    ("reversal_id", .ofText? row.reversalId),
    ("reversal_reason_code", .ofText? row.reversalReasonCode),
    ("reversed_at", .ofText? row.reversedAt)]

structure Communication where
  communicationId : String
  recipientActorId : String
  messageFixtureId : String
  cycleId : String
  committedAt : String
  dispatched : Bool

def Communication.asDict (row : Communication) : Value := .ofFields
  [("communication_id", .str row.communicationId),
    ("recipient_actor_id", .str row.recipientActorId),
    ("message_fixture_id", .str row.messageFixtureId), ("cycle_id", .str row.cycleId),
    ("committed_at", .str row.committedAt), ("dispatched", .bool row.dispatched)]

structure Obligation where
  obligationId : String
  kind : ObligationKind
  cycleId : Option String
  openedAt : String
  dueAt : String
  status : ObligationStatus := .opened
  closedAt : Option String := none

def Obligation.asDict (row : Obligation) : Value := .ofFields
  [("obligation_id", .str row.obligationId), ("kind", .str row.kind.text),
    ("cycle_id", .ofText? row.cycleId), ("status", .str row.status.text),
    ("opened_at", .str row.openedAt), ("due_at", .str row.dueAt),
    ("closed_at", .ofText? row.closedAt)]

/-- A settled refund in its cooldown. -/
structure Provisional where
  refundRequestId : String
  cycleId : String
  acceptedAt : String
  expiresAt : String
  timerEventId : String

def Provisional.asDict (row : Provisional) : Value := .ofFields
  [("refund_request_id", .str row.refundRequestId), ("cycle_id", .str row.cycleId),
    ("accepted_at", .str row.acceptedAt), ("expires_at", .str row.expiresAt),
    ("timer_event_id", .str row.timerEventId)]

/-- How the operation ended. Only a settled refund is named. -/
structure Terminal where
  outcome : TerminalOutcome
  instant : String
  cycleId : Option String
  refundRequestId : Option String := none

def Terminal.asDict (terminal : Terminal) : Value := .ofFields <|
  [("outcome", .str terminal.outcome.text), ("at", .str terminal.instant),
    ("cycle_id", .ofText? terminal.cycleId)] ++
      (terminal.refundRequestId.map fun requestId => ("refund_request_id", .str requestId)).toList

end Records

structure ReturnRefundState where
  phase : Phase := .new
  returnId : Option String := none
  orderId : Option String := none
  amountMinor : Option Int := none
  currency : Option String := none
  currentCycleId : Option String := none
  terminal : Option Terminal := none
  replayFinal : Bool := false
  provisional : Option Provisional := none
  authorisations : Registry Authorisation.authorisationId := .empty
  customerClaims : Registry CustomerClaim.claimId := .empty
  carrierRecords : Registry CarrierRecord.carrierRecordId := .empty
  inspections : Registry Inspection.inspectionId := .empty
  checkpoints : Registry Checkpoint.checkpointId := .empty
  refunds : Registry Refund.refundRequestId := .empty
  communications : Registry Communication.communicationId := .empty
  obligations : Registry Obligation.obligationId := .empty
  hidden : Fields := .empty

namespace ReturnRefundState

variable (state : ReturnRefundState)

def openCheckpoints : List Checkpoint :=
  state.checkpoints.values.filter fun checkpoint => checkpoint.status = .opened

def openObligations : List Obligation :=
  state.obligations.values.filter fun obligation => obligation.status = .opened

/-- The last refund of the current cycle. -/
def currentRefund : Option Refund :=
  (state.refunds.values.filter fun refund => some refund.cycleId = state.currentCycleId).getLast?

section Projection

def caseRecord : Value := .ofFields
  [("return_id", .ofText? state.returnId), ("order_id", .ofText? state.orderId),
    ("amount_minor", ofInt? state.amountMinor), ("currency", .ofText? state.currency),
    ("current_cycle_id", .ofText? state.currentCycleId), ("phase", .str state.phase.text),
    ("provisional", (state.provisional.map Provisional.asDict).getD .none),
    ("terminal", (state.terminal.map Terminal.asDict).getD .none),
    ("replay_final", .bool state.replayFinal)]

/-- The records of a registry under their identities, in the order they were filed. -/
def recordsOf {α : Type} {ident : α → String} (registry : Registry ident) (asDict : α → Value) :
    Value :=
  .ofFields (registry.dict.entries.map fun entry => (entry.1, asDict entry.2))

def roots : List (String × Value) :=
  [("case", state.caseRecord),
    ("authorisations", recordsOf state.authorisations Authorisation.asDict),
    ("customer_claims", recordsOf state.customerClaims CustomerClaim.asDict),
    ("carrier_records", recordsOf state.carrierRecords CarrierRecord.asDict),
    ("inspections", recordsOf state.inspections Inspection.asDict),
    ("checkpoints", recordsOf state.checkpoints Checkpoint.asDict),
    ("refunds", recordsOf state.refunds Refund.asDict),
    ("communications", recordsOf state.communications Communication.asDict),
    ("obligations", recordsOf state.obligations Obligation.asDict)]

/-- The full record, including environment truth the agent never sees. -/
def canonical : Fields := .ofList (state.roots ++ [("hidden", state.hidden.asDict)])

/-- Exactly the named roots, or the unknown ones by name. -/
def project (names : List String) : Except PyError Fields :=
  let available := Dict.ofList state.roots
  let unknown := sortedSet (names.filter fun name => !available.contains name)
  if unknown ≠ [] then
    .error (.key s!"unknown observable return/refund root(s): {reprList unknown}")
  else .ok (.ofList (names.filterMap fun name =>
    (available.get? name).map fun value => (name, value)))

end Projection

end ReturnRefundState

end OperateBench.ReturnRefund
