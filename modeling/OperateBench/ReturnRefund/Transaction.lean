import OperateBench.ReturnRefund.Spec
import OperateBench.Foundation.Naming

/-! # Transactions on the record

A handler works on a transaction: the record as it stands and what was asked of the
environment so far. Here are the operations handlers share: obligations, identities
of timers and obligations, allocated identities and the evidence guards.
-/

namespace OperateBench.ReturnRefund

open Foundation

abbrev Result := Except PyError (Reduction ReturnRefundState)

def ReturnRefundOperation.policy (op : ReturnRefundOperation) : PolicySpec := op.spec.policy

structure Transaction where
  state : ReturnRefundState
  effects : List Effect

/-- How an obligation can close. -/
inductive Closure where
  | discharged
  | cancelled
  | breached
  deriving DecidableEq

namespace Closure

def status : Closure → ObligationStatus
  | discharged => .discharged
  | cancelled => .cancelled
  | breached => .breached

def recordType : Closure → String
  | discharged => "obligation_discharged"
  | cancelled => "obligation_cancelled"
  | breached => "obligation_breached"

end Closure

def refuse (state : ReturnRefundState) (code detail : String) : Result :=
  .ok (Reduction.refused state code detail)

namespace Transaction

def begin (state : ReturnRefundState) : Transaction := ⟨state, []⟩

def accept (t : Transaction) (verdict : Verdict) : Result := .ok ⟨verdict, t.state, t.effects⟩

def record (t : Transaction) (recordType : String) (payload : List (String × Value)) :
    Transaction :=
  { t with effects := t.effects ++ [.record recordType (.ofList payload)] }

def cancelTimer (t : Transaction) (eventId : String) : Transaction :=
  { t with effects := t.effects ++ [.cancelTimer eventId] }

def scheduleTimer (t : Transaction) (eventId : String) (eventType : EventType)
    (delayMinutes : Int) (payload : List (String × Value)) : Transaction :=
  { t with effects := t.effects ++
    [.scheduleTimer eventId eventType.text "scheduler" delayMinutes (.ofList payload) true] }

/-- Open an obligation unless its identity is taken. -/
def openObligation (t : Transaction) (now : String) (obligationId : String)
    (kind : ObligationKind) (cycleId : Option String) (dueAfterMinutes : Int) :
    Except PyError Transaction :=
  if t.state.obligations.contains obligationId then .ok t
  else do
    let dueAt ← shiftMinutes now dueAfterMinutes s!"obligation {obligationId}"
    let obligation : Obligation := { obligationId, kind, cycleId, openedAt := now, dueAt }
    let t := { t with state.obligations := t.state.obligations.put obligation }
    return t.record "obligation_created"
      [("obligation_id", .str obligationId), ("kind", .str kind.text), ("due_at", .str dueAt)]

/-- A discharge that comes after the due instant counts as a breach. -/
def lateClosure (obligation : Obligation) (now : String) : Closure → Except PyError Closure
  | .discharged => do
    let closing ← parseTimestamp now s!"obligation {obligation.obligationId} close"
    let due ← parseTimestamp obligation.dueAt s!"obligation {obligation.obligationId} due"
    return if due < closing then .breached else .discharged
  | closure => .ok closure

/-- Close an obligation that is open. Any other is left as it is. -/
def closeObligation (t : Transaction) (now : String) (obligationId : String)
    (closure : Closure) : Except PyError Transaction :=
  match t.state.obligations.get? obligationId with
  | none => .ok t
  | some obligation =>
    if obligation.status ≠ .opened then .ok t
    else do
      let closure ← lateClosure obligation now closure
      let closed := { obligation with status := closure.status, closedAt := some now }
      let t := { t with state.obligations := t.state.obligations.put closed }
      return t.record closure.recordType
        [("obligation_id", .str obligationId), ("kind", .str obligation.kind.text)]

end Transaction

section Identities

def allocate (stem : String) (used : List String) : String :=
  freshFrom (fun index => s!"{stem}_{index}") used used.length (used.length + 1)

def handoverReminderTimer (authorisationId : String) : String :=
  s!"timer_handover_reminder:{authorisationId}"

def handoverDeadlineTimer (authorisationId : String) : String :=
  s!"timer_handover_deadline:{authorisationId}"

def approvalDeadlineTimer (checkpointId : String) : String :=
  s!"timer_approval_deadline:{checkpointId}"

def cooldownTimer (refundRequestId : String) : String :=
  s!"timer_resolution_cooldown:{refundRequestId}"

def handoverObligation (authorisationId : String) : String :=
  s!"handover_verification:{authorisationId}"

def handoverReminderObligation (authorisationId : String) : String :=
  s!"handover_reminder:{authorisationId}"

def approvalObligation (checkpointId : String) : String := s!"refund_approval:{checkpointId}"

def settlementObligation (refundRequestId : String) : String :=
  s!"refund_settlement:{refundRequestId}"

def completionNoticeObligation (cycleId : String) : String :=
  s!"refund_completion_notice:{cycleId}"

def denialNoticeObligation (cycleId : String) : String := s!"refund_denial_notice:{cycleId}"

def expiryNoticeObligation (cycleId : String) : String := s!"return_expiry_notice:{cycleId}"

def recoveryObligation (cycleId : String) : String := s!"refund_recovery:{cycleId}"

end Identities

section Text

/-- `str(text)` of a text that may be missing. -/
def textOr (s : Option String) : String := s.getD "None"

/-- `int(n)` of a number that may be missing. -/
def intOf : Option Int → Except PyError Int
  | some n => .ok n
  | none => .error (.type ("int() argument must be a string, a bytes-like object or a real " ++
      "number, not 'NoneType'"))

/-- `payload[name]`, where it is an integer. -/
def int? (payload : Fields) (name : String) : Option Int := Value.asInt? (payload.get? name)

end Text

section Guards

variable (state : ReturnRefundState)

/-- The last authorisation of the first cycle. -/
def currentAuthorisation : Option Authorisation :=
  (state.authorisations.values.filter fun row => row.cycleId = some firstRefundCycle).getLast?

/-- Every carrier record is a handover the carrier verified, so any of them will do. -/
def hasVerifiedHandover : Bool := !state.carrierRecords.values.isEmpty

def messageCommitted (fixtureId cycleId : String) : Bool :=
  state.communications.values.any fun row => row.messageFixtureId = fixtureId &&
    row.cycleId = cycleId && row.recipientActorId = customerActorId

/-- Is the event the timer the runtime scheduled under the identity? The refusal, if not. -/
def timerEventVerdict (event : Event) (expectedEventId : String) (notBefore : Option String) :
    Except PyError (Option (String × String)) :=
  if event.causedBy ≠ some "timer" ∨ event.actorId ≠ "scheduler" ∨
      event.eventId ≠ expectedEventId then
    .ok (some ("TIMER_PROVENANCE_MISMATCH",
      "timer transition requires the exact runtime-scheduled event identity"))
  else
    match notBefore with
    | none => .ok none
    | some bound => do
      let fired ← parseTimestamp event.instant s!"timer event {event.eventId}"
      let bound' ← parseTimestamp bound s!"timer event {event.eventId} lower bound"
      return if fired < bound' then
        some ("TIMER_FIRED_EARLY", s!"timer transition cannot occur before {bound}") else none

/-- Does the reference name a record other than a claim? -/
def resolvesToRecord (ref : String) : Bool :=
  state.authorisations.contains ref || state.carrierRecords.contains ref ||
    state.inspections.contains ref || state.checkpoints.contains ref ||
    state.refunds.contains ref || state.communications.contains ref ||
    state.obligations.contains ref

/-- The refusal of citations that rest on a claim or resolve to nothing, as code and detail. -/
def unresolvedEvidence (evidenceRefs : List String) : Option (String × String) :=
  if evidenceRefs.any fun ref => state.customerClaims.contains ref then
    some ("CLAIM_TREATED_AS_AUTHORITATIVE",
      "a customer's handover claim is not a carrier verification record")
  else
    let unknown := sortedSet (evidenceRefs.filter fun ref => !resolvesToRecord state ref)
    if unknown = [] then none
    else some ("UNRESOLVED_EVIDENCE",
      s!"evidence reference(s) do not resolve: {reprList unknown}")

/-- The registry that a citation of one of its keys is looked up in. -/
def citedRoot? : EvidenceSelector → Option String
  | .payloadRegistryKey _ root _ => some root
  | _ => none

/-- The refusal of an action whose required citations do not resolve or are missing. -/
def requiredEvidenceProblem (actionType : ActionType) (payload : Fields)
    (evidenceRefs : List String) : Except PyError (Option String) := do
  let selectors := actionEvidenceContract.evidenceFor actionType.text
  let records ← state.project (sortedSet (selectors.filterMap citedRoot?))
  let prelude := "required evidence did not resolve completely: "
  match resolveRequiredEvidence actionEvidenceContract actionType.text payload records with
  | .error problem => return some (prelude ++ problem)
  | .ok required =>
    let missing := sortedSet (required.filter fun ref => ref ∉ evidenceRefs)
    return if missing = [] then none else some (prelude ++ s!"missing {reprList missing}")

end Guards

end OperateBench.ReturnRefund
