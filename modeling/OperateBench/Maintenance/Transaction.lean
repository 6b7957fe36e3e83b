import OperateBench.Maintenance.Spec

/-! # Transactions on the record

A handler works on a transaction: the record as it stands and what was asked of the
environment so far. Here are the operations handlers share: obligations, identities
that the environment allocates, bindings and the evidence guards.
-/

namespace OperateBench.Maintenance

open Foundation

abbrev Result := Except PyError (Reduction MaintenanceState)

/-- One scenario of the Maintenance operation, ready to run. -/
structure MaintenanceOperation where
  spec : OperationSpec
  scenario : ScenarioSpec

def MaintenanceOperation.policy (op : MaintenanceOperation) : PolicySpec := op.spec.policy

structure Transaction where
  state : MaintenanceState
  effects : List Effect

/-- How an obligation can close. -/
inductive Closure where
  | discharged
  | cancelled
  | breached
  deriving DecidableEq

namespace Closure

def status : Closure → ObligationStatus
  | discharged => .discharged
  | cancelled => .cancelled
  | breached => .breached

def recordType : Closure → String
  | discharged => "obligation_discharged"
  | cancelled => "obligation_cancelled"
  | breached => "obligation_breached"

end Closure

def refuse (state : MaintenanceState) (code detail : String) : Result :=
  .ok (Reduction.refused state code detail)

namespace Transaction

def begin (state : MaintenanceState) : Transaction := ⟨state, []⟩

def accept (t : Transaction) (verdict : Verdict) : Result := .ok ⟨verdict, t.state, t.effects⟩

def record (t : Transaction) (recordType : String) (payload : List (String × Value)) :
    Transaction :=
  { t with effects := t.effects ++ [.record recordType (.ofList payload)] }

def cancelTimer (t : Transaction) (eventId : String) : Transaction :=
  { t with effects := t.effects ++ [.cancelTimer eventId] }

def scheduleTimer (t : Transaction) (eventId : String) (eventType : EventType)
    (delayMinutes : Int) (payload : List (String × Value)) : Transaction :=
  { t with effects := t.effects ++
    [.scheduleTimer eventId eventType.text "scheduler" delayMinutes (.ofList payload) true] }

def openObligation (t : Transaction) (now : String) (obligationId : String)
    (kind : ObligationKind) (cycleId : Option String) (dueAfterMinutes : Int) :
    Except PyError Transaction :=
  if t.state.obligations.contains obligationId then .ok t
  else do
    let dueAt ← shiftMinutes now dueAfterMinutes s!"obligation {obligationId}"
    let obligation : Obligation := { obligationId, kind, cycleId, dueAt }
    let t := { t with state.obligations := t.state.obligations.put obligation }
    return t.record "obligation_created"
      [("obligation_id", .str obligationId), ("kind", .str kind.text), ("due_at", .str dueAt)]

def closeObligation (t : Transaction) (now : String) (obligationId : String)
    (closure : Closure) : Transaction :=
  match t.state.obligations.get? obligationId with
  | none => t
  | some obligation =>
    if obligation.status ≠ .opened then t
    else
      let closed := { obligation with status := closure.status, closedAt := some now }
      let t := { t with state.obligations := t.state.obligations.put closed }
      t.record closure.recordType
        [("obligation_id", .str obligationId), ("kind", .str obligation.kind.text)]

end Transaction

section Identities

def visitTimerId (cycleId : String) : String := s!"timer_visit_followup:{cycleId}"

def visitObligationId (cycleId : String) : String := s!"visit_progress:{cycleId}"

def attendanceRecordId (visitId : Option String) : String :=
  "attendance:" ++ visitId.getD "None"

def reminderTimerId (checkpointId : String) : String := s!"timer_approval_reminder:{checkpointId}"

def deadlineTimerId (checkpointId : String) : String := s!"timer_approval_deadline:{checkpointId}"

def reminderObligationId (checkpointId : String) : String := s!"approval_reminder:{checkpointId}"

def decisionObligationId (checkpointId : String) : String := s!"approval_decision:{checkpointId}"

def noticeObligationId (cycleId : String) : String := s!"completion_notice:{cycleId}"

def provisionalCloseTimerId (cycleId : String) : String := s!"timer_provisional_close:{cycleId}"

def allocateFrom (stem : String) (used : List String) : ℕ → ℕ → String
  | 0, index => s!"{stem}_{index}"
  | fuel + 1, index =>
    if s!"{stem}_{index}" ∈ used then allocateFrom stem used fuel (index + 1)
    else s!"{stem}_{index}"

/-- The next free `stem_N`. A free one is met before every used identity is passed. -/
def allocate (stem : String) (used : List String) : String :=
  allocateFrom stem used used.dedup.length (used.dedup.length + 1)

def allocateVisitId (state : MaintenanceState) : String :=
  allocate "visit" (state.cycles.values.filterMap Cycle.visitId)

/-- Approvals and exceptions share one identity space. -/
def allocateCheckpointId (state : MaintenanceState) : String :=
  allocate "checkpoint" (state.approvals.keys ++ state.exceptions.keys)

def allocatePaymentRequestId (state : MaintenanceState) : String :=
  allocate "payment" state.payment.requestId.toList

/-- `bindings` with the unknown dropped. -/
def bindings (fields : List (String × Option String)) : Bindings :=
  .ofList (fields.filterMap fun e => e.2.map fun value => (e.1, value))

/-- A visit identity under both names the authored vocabulary uses for it. -/
def visitBindings (cycle : Cycle) : Bindings :=
  bindings [("visit_id", cycle.visitId), ("related_visit_id", cycle.visitId)]

def cycleForVisit (state : MaintenanceState) (visitId : String) : Option Cycle :=
  state.cycles.values.find? fun cycle => cycle.visitId = some visitId

theorem cycleForVisit_some {state : MaintenanceState} {visitId : String} {cycle : Cycle}
    (h : cycleForVisit state visitId = some cycle) :
    state.cycles.get? cycle.cycleId = some cycle ∧ cycle.visitId = some visitId :=
  ⟨Registry.mem_values_iff.mp (List.mem_of_find?_eq_some h), by simpa using List.find?_some h⟩

end Identities

section Text

/-- `repr` of a text that may be missing. -/
def reprText? (s : Option String) : String := (s.map pyRepr).getD "None"

/-- `s or t`, where the empty text counts as missing. -/
def orElse (s t : Option String) : Option String := if s.getD "" ≠ "" then s else t

end Text

section Guards

/-- Does the payload carry, under each name, the value it is expected to? -/
def payloadMismatch (payload : Fields) : List (String × Value) → Option (String × Value)
  | [] => none
  | (name, expected) :: rest =>
    let carried := match expected with
      | .str s => (payload.get name).isStr s
      | .int n => (payload.get name).isInt n
      | .none => (payload.get name).isNone
      | _ => false
    if carried then payloadMismatch payload rest else some (name, expected)

/-- Does an approver's decision name exactly the quote the checkpoint bound? -/
def bindingMismatch (approval : Approval) (payload : Fields) : Option String :=
  (payloadMismatch payload
    [("quote_id", .str approval.quoteId), ("quote_version", .int approval.quoteVersion),
      ("amount_minor", .int approval.amountMinor), ("currency", .str approval.currency),
      ("scope_digest", .str approval.scopeDigest)]).map fun (name, value) =>
    s!"the decision names {name}={(payload.get name).repr} but the checkpoint bound " ++
      s!"{value.repr}; an approval authorises one exact quote version"

/-- Does a settlement name exactly the payment this operation is waiting on? -/
def settlementMismatch (state : MaintenanceState) (payload : Fields) : Option String :=
  let request := state.payment
  match state.invoices.get? (request.invoiceId.getD "None") with
  | none => some (s!"the requested payment names invoice {reprText? request.invoiceId}, which " ++
      "this operation no longer holds")
  | some invoice =>
    match payloadMismatch payload
      [("payment_request_id", .ofText? request.requestId), ("invoice_id", .str invoice.invoiceId),
        ("cycle_id", .ofText? request.cycleId), ("amount_minor", .int invoice.amountMinor),
        ("currency", .str invoice.currency)] with
    | some (name, value) => some (s!"the settlement names {name}={(payload.get name).repr} but " ++
        s!"the current payment request bound {value.repr}; a settlement confirms " ++
        "one exact payment, not any payment of this operation")
    | none =>
      if request.cycleId ≠ some invoice.cycleId then
        some (s!"invoice {pyRepr invoice.invoiceId} belongs to cycle {pyRepr invoice.cycleId}, " ++
          s!"not to the cycle {reprText? request.cycleId} the payment was requested for")
      else if invoice.status ≠ .validated then
        some (s!"invoice {pyRepr invoice.invoiceId} is {invoice.status.text}; a settlement " ++
          "cannot confirm payment of an invoice this operation has not validated")
      else none

/-- A sent flag is not a receipt, and a role is not the intended actor. -/
def deliveredNotice (state : MaintenanceState) (fixtureId : String) (cycleId : Option String) :
    Bool :=
  state.issueReportingActorId.isSome && state.communications.any fun row =>
    row.delivered && row.messageFixtureId = fixtureId &&
      some row.recipientActorId = state.issueReportingActorId && row.correlationId = cycleId

def blockingCheckpoints (state : MaintenanceState) : List String :=
  sortTexts (state.openApprovals.map Approval.checkpointId ++
    state.openExceptions.map ExceptionCheckpoint.checkpointId)

/-- Which approval, if any, justifies the exception the agent is claiming. -/
def eligibleExceptionApproval (state : MaintenanceState) (exceptionType : ExceptionType)
    (checkpointId : String) : Option Approval :=
  match exceptionType.approvalStatus? with
  | none => none
  | some wanted => (state.approvals.get? checkpointId).filter fun a => a.status = wanted

/-- The refusal of an action whose required citations do not resolve or are missing. -/
def requiredEvidenceProblem (state : MaintenanceState) (actionType : ActionType)
    (payload : Fields) (evidenceRefs : List String) : Except PyError (Option String) := do
  let selectors := actionEvidenceContract.evidenceFor actionType.text
  let records ← state.project (sortedSet (selectors.flatMap EvidenceSelector.roots))
  let prelude := "required evidence did not resolve completely: "
  match resolveRequiredEvidence actionEvidenceContract actionType.text payload records with
  | .error problem => return some (prelude ++ problem)
  | .ok required =>
    let missing := sortedSet (required.filter fun ref => ref ∉ evidenceRefs)
    return if missing = [] then none else some (prelude ++ s!"missing {reprList missing}")

/-- Does the reference resolve to a record this operation holds? -/
def resolvesToRecord (state : MaintenanceState) (ref : String) : Bool :=
  state.authoritativeRecords.contains ref || state.approvals.contains ref ||
    state.exceptions.contains ref || state.invoices.contains ref || state.quotes.contains ref ||
    state.cycles.contains ref

/-- The refusal of citations that rest on a claim or resolve to nothing, as code and detail. -/
def unresolvedEvidence (state : MaintenanceState) (evidenceRefs : List String) :
    Option (String × String) :=
  let claimed := sortedSet
    (evidenceRefs.filter fun ref => ref ∈ state.assertions.map Assertion.assertionId)
  match claimed with
  | ref :: _ => some ("NON_AUTHORITATIVE_EVIDENCE",
      s!"{pyRepr ref} is an actor claim, not an authoritative record; a claim " ++
        "cannot establish attendance, completed work or payment")
  | [] =>
    (evidenceRefs.find? fun ref => !resolvesToRecord state ref).map fun ref =>
      ("UNRESOLVED_EVIDENCE",
        s!"{pyRepr ref} does not resolve to any record this operation holds")

end Guards

end OperateBench.Maintenance
