import OperateBench.Core.Timeliness
import OperateBench.Profiles.Operation

/-! # What an accepted event or action changes

Every call of the runtime is refused, ignored as a duplicate, or commits one of the
changes listed here, with what the runtime had checked before it. Nothing later looks
into the handlers again.
-/

namespace OperateBench.Profiles

open Foundation

namespace CommerceProfilesDomain

variable (op : CommerceProfilesDomain)

section Changes

/-- The event carries the identity, the type and the payload of the authored one. -/
structure Authored (event : Event) (planned : PlannedEvent) : Prop where
  identity : event.eventId = planned.eventId
  type : event.eventType = planned.eventType
  payload : samePayload planned.payload event.payload = true

/-- An answer of the processor, by the key it comes under. -/
inductive ProcessorResult : PlannedEvent → PaymentStatus → String → Prop
  | processor : ProcessorResult op.processorEvent (processorStatus op.scenario.paymentMode)
      "webhook_1"
  | query : ProcessorResult (op.queryEvent "query_result_1" 4 10) .settled "webhook_2"
  | duplicate : ProcessorResult (op.queryEvent "duplicate_result_1" 5 12) .settled "webhook_2"

/-- The carrier's acceptance at the instant. -/
def carrierProof (now : String) : Proof where
  caseId
  orderId
  profileDigest := op.profileDigest
  kind := "carrier_acceptance"
  dispatchDate := op.scenario.dispatchDate.isoformat
  suppliedAt := now

/-- The supervisor's grant at the instant, for the version it was given on. -/
def supervisorGrant (now : String) (version : Int) : Grant where
  caseId
  orderId
  profileDigest := op.profileDigest
  amountMinor := op.quoteAmount
  currency := op.profile.currency
  tenderRef
  proofId := "proof_1"
  grantedAt := now
  grantVersion := version

/-- The processor's answer on the payment, with the timer of a settlement. -/
def paid (s : ProfileState) (status : PaymentStatus) (webhookId now : String) :
    ProfileState × List Effect :=
  let noted := { s with
    payment.webhooks := s.payment.webhooks ++ [webhookId]
    payment.status := status }
  if status = .settled then op.settle noted now else (noted, [])

/-- The date a verified return has to be refunded by. -/
def DueDate (s : ProfileState) (seconds : Int) (due : Option CivilDate) : Prop :=
  if s.case.facts.profileId = .uk then ∃ date,
    (op.zone.localDate op.profile.timezone seconds).addDays 14 = .ok date ∧ due = some date
  else due = s.case.refundDueDate

/-- The grant is for this case, its quote and its proof, and followed the request in time. -/
structure Binds (s : ProfileState) (grant : Grant) (proof : Proof) (requestedAt now : String) :
    Prop where
  caseId : grant.caseId = caseId
  orderId : grant.orderId = orderId
  amountMinor : grant.amountMinor = s.case.amountMinor
  currency : grant.currency = s.case.currency
  tenderRef : grant.tenderRef = tenderRef
  profileDigest : grant.profileDigest = op.profileDigest
  proofId : grant.proofId = "proof_1"
  requested : s.case.authorityRequested = true
  onFile : s.evidence.proof = some proof
  since : s.case.authorityRequestedAt = some requestedAt
  delay : shiftMinutes requestedAt 10 "timestamp" = .ok grant.grantedAt
  order : proof.suppliedAt ≤ grant.grantedAt ∧ grant.grantedAt ≤ now

variable (now : String) (s : ProfileState)

/-- What a cause makes of the case before its version is counted up, and what it asks of the
environment. -/
inductive Change : Cause → ProfileState → List Effect → Prop
  | intake {event : Event} (authored : Authored event op.intakeEvent) : Change (.event event) s []
  | claimed {event : Event} (authored : Authored event op.labelEvent) :
    Change (.event event) { s with claims := s.claims ++ [labelText] } []
  | proven {event : Event} {authorizedAt : String} {seconds : Int} {due : Option CivilDate}
      (authored : Authored event op.proofEvent) (authorized : s.case.returnAuthorized = true)
      (since : s.case.returnAuthorizedAt = some authorizedAt)
      (delay : shiftMinutes authorizedAt op.scenario.proofDelayMinutes "timestamp" = .ok now)
      (fresh : s.evidence.proof = none) (moment : strptime now = .ok seconds)
      (owed : op.DueDate s seconds due) :
    Change (.event event) { s with
      evidence.proof := some (op.carrierProof now)
      case.refundDueDate := due } []
  | granted {event : Event} {proof : Proof} {serviceDueAt : String}
      (authored : Authored event op.approvalEvent) (requested : s.case.authorityRequested = true)
      (onFile : s.evidence.proof = some proof)
      (service : shiftMinutes now 2880 "timestamp" = .ok serviceDueAt) :
    Change (.event event) { s with
      evidence.approval := some (op.supervisorGrant now s.case.version)
      case.serviceDueAt := some serviceDueAt } []
  | paid {event : Event} {planned : PlannedEvent} {status : PaymentStatus} {webhookId : String}
      (result : op.ProcessorResult planned status webhookId) (authored : Authored event planned)
      (submitted : s.payment.intentId = some intentId) (fresh : webhookId ∉ s.payment.webhooks)
      (live : s.payment.status ≠ .settled ∧ s.payment.status ≠ .failed)
      (queried : status = .settled → s.payment.status = .unknown →
        s.payment.queryRequested = true) :
    Change (.event event) (op.paid s status webhookId now).1 (op.paid s status webhookId now).2
  | acknowledged {event : Event} (type : event.eventType = EventType.reviewAcknowledged.text)
      (requested : s.case.reviewRequested = true) :
    Change (.event event) { s with case.reviewAck := true } []
  | mended {event : Event} {requestedAt : String}
      (type : event.eventType = EventType.repairVerified.text)
      (requested : s.case.repairRequested = true)
      (since : s.case.repairRequestedAt = some requestedAt)
      (delay : shiftMinutes requestedAt 60 "timestamp" = .ok now) :
    Change (.event event) { s with case.repaired := true } []
  | finalised {event : Event} {settledAt : String}
      (type : event.eventType = EventType.finalityDue.text) (identity : event.eventId = "finality_1")
      (settled : s.payment.status = .settled) (since : s.payment.settledAt = some settledAt)
      (delay : shiftMinutes settledAt 5 "timestamp" = .ok now) :
    Change (.event event) { s with case.finalityReady := true } []
  | decided {payload : Fields} {evidenceRefs : List String} (first : s.case.decision = none)
      (named : payload.text "decision" = (entitlement s.case.facts).text) :
    Change (.action ActionType.decideEntitlement.text payload evidenceRefs) { s with
      case.decision := some (entitlement s.case.facts)
      case.phase := .decided (entitlement s.case.facts) } []
  | authorized {payload : Fields} {evidenceRefs : List String}
      (decided : s.case.decision = some .refund) (first : s.case.returnAuthorized = false) :
    Change (.action ActionType.authorizeReturn.text payload evidenceRefs) { s with
      case.returnAuthorized := true
      case.returnAuthorizedAt := some now } []
  | requested {payload : Fields} {evidenceRefs : List String} {proof : Proof}
      (decided : s.case.decision = some .refund) (onFile : s.evidence.proof = some proof)
      (cited : "proof_1" ∈ evidenceRefs) (first : s.case.authorityRequested = false) :
    Change (.action ActionType.requestAuthority.text payload evidenceRefs) { s with
      case.authorityRequested := true
      case.authorityRequestedAt := some now
      case.authorityRequestedVersion := some s.case.version } []
  | submitted {payload : Fields} {evidenceRefs : List String} {grant : Grant} {proof : Proof}
      {requestedAt : String} (first : s.payment.intentId = none)
      (decided : s.case.decision = some .refund) (granted : s.evidence.approval = some grant)
      (cited : "proof_1" ∈ evidenceRefs ∧ "approval_1" ∈ evidenceRefs)
      (binds : op.Binds s grant proof requestedAt now)
      (exact : payload.text "intent_id" = intentId ∧
        payload.number "amount_minor" = s.case.amountMinor ∧
        payload.text "currency" = s.case.currency ∧ payload.text "tender_ref" = tenderRef) :
    Change (.action ActionType.submitRefund.text payload evidenceRefs) { s with
      payment.intentId := some intentId
      payment.status := .pending
      payment.reservedMinor := s.case.amountMinor
      payment.submissionCount := 1 } []
  | queried {payload : Fields} {evidenceRefs : List String}
      (unknown : s.payment.status = .unknown) (first : s.payment.queryRequested = false) :
    Change (.action ActionType.queryPayment.text payload evidenceRefs)
      { s with payment.queryRequested := true } []
  | repairRequested {payload : Fields} {evidenceRefs : List String}
      (decided : s.case.decision = some .repair) (first : s.case.repairRequested = false) :
    Change (.action ActionType.requestRepair.text payload evidenceRefs) { s with
      case.repairRequested := true
      case.repairRequestedAt := some now } []
  | reviewRequested {payload : Fields} {evidenceRefs : List String}
      (first : s.case.reviewRequested = false)
      (allowed : reviewAllowed s (payload.text "reason") now = .ok true) :
    Change (.action ActionType.requestReview.text payload evidenceRefs) { s with
      case.reviewRequested := true
      case.reviewReason := some (payload.text "reason") } []
  | notified {payload : Fields} {evidenceRefs : List String} {result : Outcome}
      (first : s.case.notified = none) (ready : readyResult s = some result)
      (named : payload.text "message" = result.text) :
    Change (.action ActionType.notifyCustomer.text payload evidenceRefs)
      { s with case.notified := some result } []
  | completed {evidenceRefs : List String} {result : Outcome} (ready : readyResult s = some result)
      (notified : s.case.notified = some result) :
    Change (.terminal evidenceRefs) { s with
      case.terminal := some result
      case.phase := .final } []

/-- What the runtime checks of every call before it looks at what the call is for. -/
def Admitted : Cause → Prop
  | .event event => (∃ eventType, EventType.ofText? event.eventType = some eventType ∧
      eventType.actor = event.actorId) ∧ event.payload.text? "case_id" = some caseId ∧
      event.payload.text? "profile_digest" = some op.profileDigest ∧ event.instant = now ∧
      s.case.terminal = none
  | .action actionType payload evidenceRefs =>
    (∃ action, ActionType.ofText? actionType = some action ∧ wellFormed payload action = true) ∧
      payload.text "case_id" = caseId ∧ payload.text "profile_digest" = op.profileDigest ∧
      payload.number "version" = s.case.version ∧ s.case.terminal = none ∧ caseId ∈ evidenceRefs
  | .terminal evidenceRefs => caseId ∈ evidenceRefs

/-- The change with its version counted up. -/
def ProfileState.bump (t : ProfileState) : ProfileState :=
  { t with case.version := t.case.version + 1 }

/-- The name under which a cause is recorded. -/
def kindOf : Cause → String
  | .event event => event.eventType
  | .action actionType _ _ => actionType
  | .terminal _ => completeOutcomeKey

/-- What a committed change leaves and records. -/
def committed (s t : ProfileState) (kind : String) (effects : List Effect) :
    Reduction ProfileState where
  verdict := .ok "ACCEPTED" (some cycleId) Dict.empty
  state := ProfileState.bump t
  effects := effects ++ [.record "commerce_transition" (.ofList [("kind", .str kind),
    ("before", (op.canonicalState s).asDict),
    ("after", (op.canonicalState (ProfileState.bump t)).asDict)])]

theorem commit_eq (t : ProfileState) (kind : String) (effects : List Effect) :
    op.commit s t kind effects = .ok (op.committed s t kind effects) := rfl

/-- What the runtime can answer to a call. -/
inductive Answered (cause : Cause) (r : Reduction ProfileState) : Prop
  | refused {code detail : String} (h : r = Reduction.refused s code detail)
  | ignored {event : Event} {planned : PlannedEvent} {status : PaymentStatus} {webhookId : String}
      (delivered : cause = .event event) (admitted : op.Admitted now s cause)
      (result : op.ProcessorResult planned status webhookId) (authored : Authored event planned)
      (known : webhookId ∈ s.payment.webhooks) (same : status = s.payment.status)
      (h : r = ⟨.ok "DUPLICATE_IGNORED" (some cycleId) Dict.empty, s,
        [.record "commerce_duplicate_ignored" (.ofList [("webhook_id", .str webhookId),
          ("intent_id", .ofText? s.payment.intentId)])]⟩)
  | committed {t : ProfileState} {effects : List Effect} (admitted : op.Admitted now s cause)
      (change : op.Change now s cause t effects)
      (h : r = op.committed s t (kindOf cause) effects)

end Changes

section Payloads

variable {op} {event : Event} {planned : PlannedEvent} {authored payload : Fields} {name : String}

theorem authored_of_isAuthored (h : op.isAuthored event = true) :
    ∃ planned ∈ op.events, Authored event planned := by
  obtain ⟨planned, hp, hsame⟩ := (Option.any_eq_true _ _).mp h
  rw [Bool.and_eq_true, decide_eq_true_eq] at hsame
  have hid := List.find?_some (p := fun authored : PlannedEvent => authored.eventId = event.eventId) hp
  exact ⟨planned, List.mem_of_find?_eq_some hp, (of_decide_eq_true hid).symm, hsame.1.symm, hsame.2⟩

theorem text?_of_same (h : samePayload authored payload = true) {s : String}
    (hv : authored.get? name = some (.str s)) : payload.text? name = some s := by
  rw [samePayload, Bool.and_eq_true, List.all_eq_true] at h
  have hname := h.2 (name, .str s) (Dict.get?_eq_some_iff.mp hv)
  obtain ⟨v, hg, hs⟩ := (Option.any_eq_true _ _).mp hname
  rw [Fields.text?, Fields.get, hg]
  simpa [Value.isStr] using hs

theorem text_of_same (h : samePayload authored payload = true) {s : String}
    (hv : authored.get? name = some (.str s)) : payload.text name = s := by
  have ht := text?_of_same h hv
  unfold Fields.text? at ht
  unfold Fields.text
  cases hg : payload.get name <;> simp_all [Value.asStr?, Value.text]

theorem number_of_same (h : samePayload authored payload = true) {n : Int}
    (hv : authored.get? name = some (.int n)) : payload.number name = n := by
  rw [samePayload, Bool.and_eq_true, List.all_eq_true] at h
  have hname := h.2 (name, .int n) (Dict.get?_eq_some_iff.mp hv)
  obtain ⟨v, hg, hs⟩ := (Option.any_eq_true _ _).mp hname
  rw [Fields.number, Fields.get, hg]
  cases v with
  | int i => simpa [Value.isInt, Value.number] using hs
  | bool b => cases b <;> simpa [Value.isInt, Value.number] using hs
  | _ => simp [Value.isInt] at hs

/-- The authored event that an event of the type is. -/
inductive Brings (op : CommerceProfilesDomain) (event : Event) : EventType → Prop
  | intake (authored : Authored event op.intakeEvent) : Brings op event .intake
  | claim (authored : Authored event op.labelEvent) : Brings op event .customerLabelClaim
  | proof (authored : Authored event op.proofEvent) : Brings op event .returnVerified
  | grant (authored : Authored event op.approvalEvent) : Brings op event .authorityGranted
  | payment {planned : PlannedEvent} {status : PaymentStatus} {webhookId : String}
      (result : op.ProcessorResult planned status webhookId) (authored : Authored event planned) :
    Brings op event .paymentUpdate
  | review (identity : event.eventId = "review_1") : Brings op event .reviewAcknowledged
  | repair (identity : event.eventId = "repair_1") : Brings op event .repairVerified

theorem brings_of_isAuthored {eventType : EventType} (h : op.isAuthored event = true)
    (ht : EventType.ofText? event.eventType = some eventType) : Brings op event eventType := by
  obtain ⟨planned, hm, ha⟩ := authored_of_isAuthored h
  rw [ha.type] at ht
  simp only [events, List.mem_append, List.mem_cons, List.not_mem_nil, or_false] at hm
  rcases hm with (rfl | rfl | rfl | rfl | rfl | rfl | rfl | rfl) | hm
  · obtain rfl : EventType.intake = eventType := Option.some.inj ht
    exact .intake ha
  · obtain rfl : EventType.returnVerified = eventType := Option.some.inj ht
    exact .proof ha
  · obtain rfl : EventType.authorityGranted = eventType := Option.some.inj ht
    exact .grant ha
  · obtain rfl : EventType.paymentUpdate = eventType := Option.some.inj ht
    exact .payment .processor ha
  · obtain rfl : EventType.paymentUpdate = eventType := Option.some.inj ht
    exact .payment .query ha
  · obtain rfl : EventType.paymentUpdate = eventType := Option.some.inj ht
    exact .payment .duplicate ha
  · obtain rfl : EventType.reviewAcknowledged = eventType := Option.some.inj ht
    exact .review ha.identity
  · obtain rfl : EventType.repairVerified = eventType := Option.some.inj ht
    exact .repair ha.identity
  · split at hm
    · obtain rfl := List.mem_singleton.mp hm
      obtain rfl : EventType.customerLabelClaim = eventType := Option.some.inj ht
      exact .claim ha
    · cases hm

end Payloads

end CommerceProfilesDomain

end OperateBench.Profiles
