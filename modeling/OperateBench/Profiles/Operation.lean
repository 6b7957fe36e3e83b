import OperateBench.Core.Engine
import OperateBench.Profiles.State

/-! # The profile runtime

What the published tools show, how an event is taken in, what an action does and when
the case may close. Every accepted change counts the version of the case up and records
the state before and after it.
-/

namespace OperateBench.Profiles

open Foundation

abbrev Result := Except PyError (Reduction ProfileState)

section Vocabulary

inductive ActionType where
  | decideEntitlement
  | authorizeReturn
  | requestAuthority
  | submitRefund
  | queryPayment
  | requestRepair
  | requestReview
  | notifyCustomer
  deriving DecidableEq

inductive FieldKind where
  | string
  | integer
  deriving DecidableEq

namespace FieldKind

def text : FieldKind → String
  | string => "string"
  | integer => "integer"

/-- Is the value of exactly this type? -/
def holds : FieldKind → Value → Bool
  | string, .str _ => true
  | integer, .int _ => true
  | _, _ => false

end FieldKind

namespace ActionType

def text : ActionType → String
  | decideEntitlement => "decide_entitlement"
  | authorizeReturn => "authorize_return"
  | requestAuthority => "request_authority"
  | submitRefund => "submit_refund"
  | queryPayment => "query_payment"
  | requestRepair => "request_repair"
  | requestReview => "request_review"
  | notifyCustomer => "notify_customer"

def all : List ActionType :=
  [decideEntitlement, authorizeReturn, requestAuthority, submitRefund, queryPayment, requestRepair,
    requestReview, notifyCustomer]

def ofText? (s : String) : Option ActionType := all.find? fun action => action.text == s

def baseFields : List (String × FieldKind) :=
  [("case_id", .string), ("profile_digest", .string), ("version", .integer)]

def ownFields : ActionType → List (String × FieldKind)
  | decideEntitlement => [("decision", .string)]
  | submitRefund => [("intent_id", .string), ("amount_minor", .integer), ("currency", .string),
    ("tender_ref", .string)]
  | queryPayment => [("intent_id", .string)]
  | requestReview => [("reason", .string)]
  | notifyCustomer => [("message", .string)]
  | authorizeReturn | requestAuthority | requestRepair => []

def fields (action : ActionType) : List (String × FieldKind) := baseFields ++ action.ownFields

end ActionType

inductive EventType where
  | intake
  | customerLabelClaim
  | returnVerified
  | authorityGranted
  | paymentUpdate
  | reviewAcknowledged
  | repairVerified
  | finalityDue
  deriving DecidableEq

namespace EventType

def text : EventType → String
  | intake => "intake"
  | customerLabelClaim => "customer_label_claim"
  | returnVerified => "return_verified"
  | authorityGranted => "authority_granted"
  | paymentUpdate => "payment_update"
  | reviewAcknowledged => "review_acknowledged"
  | repairVerified => "repair_verified"
  | finalityDue => "finality_due"

def all : List EventType :=
  [intake, customerLabelClaim, returnVerified, authorityGranted, paymentUpdate, reviewAcknowledged,
    repairVerified, finalityDue]

def ofText? (s : String) : Option EventType := all.find? fun eventType => eventType.text == s

/-- The one actor that may bring the event about. -/
def actor : EventType → String
  | intake => "returns_service"
  | customerLabelClaim => "customer"
  | returnVerified => "carrier"
  | authorityGranted => "supervisor"
  | paymentUpdate => "processor"
  | reviewAcknowledged => "reviewer"
  | repairVerified => "repairer"
  | finalityDue => "environment"

end EventType

end Vocabulary

section Tools

/-- The tools with the service each reads from and the root it cites records under. -/
def tools : List (String × String × String) :=
  [("get_case", "return_service", "cases"), ("get_evidence", "verification_service", "evidence"),
    ("get_payment", "payment_service", "payments")]

def retrievalCatalogue : Catalogue := .ofList (tools.map fun (tool, source, _) =>
  (tool, ⟨source, Authority.systemOfRecord, s!"commerce.profiles.{tool}.v1", Dict.empty⟩))

def recordVersionContext : String := "commerce profiles retrieval"

def recordVersionLength : ℕ := 16

/-- What every outcome must have read, and the case it must cite. -/
def actionEvidenceContract : ActionEvidenceContract :=
  let reads := Dict.ofList (tools.map fun (tool, _, _) => (tool, ReadStrength.required))
  .ofList ((ActionType.all.map fun action =>
    (action.text, ⟨reads, [.payloadRegistryKey "get_case" "cases" "case_id"]⟩)) ++
      [(completeOutcomeKey, ⟨reads, []⟩)])

end Tools

def refuse (state : ProfileState) (code detail : String) : Result :=
  .ok (Reduction.refused state code detail)

namespace CommerceProfilesDomain

variable (op : CommerceProfilesDomain)

section Reads

/-- The roots that each tool shows. -/
def shown (state : ProfileState) : Dict String Fields := .ofList
  [("get_case", .ofList [("cases", .ofFields [(caseId, state.case.asDict)]),
      ("identity", .ofFields op.identity)]),
    ("get_evidence", .ofList [("evidence", state.evidence.asDict),
      ("customer_claims", .list (state.claims.map claimAsDict))]),
    ("get_payment", .ofList [("payments", .ofFields [(intentId, state.payment.asDict)])])]

def serveRetrieval (state : ProfileState) (requests : List RetrievalRequest) (asOf : String) :
    Except PyError (List ToolResult) :=
  requests.mapM fun request =>
    match retrievalCatalogue.get? request.tool, (op.shown state).get? request.tool with
    | some entry, some records => .ok {
      tool := request.tool
      source := entry.source
      authority := entry.authority
      recordId := entry.source ++ ":commerce_profile_case"
      recordVersion := String.ofList
        ((op.sha256 records.asDict).toList.take recordVersionLength)
      asOf
      schemaId := entry.schemaId
      records
      ok := true
      errorCode := none }
    | _, _ => .error (.key request.tool)

end Reads

section Commit

/-- The change with its version counted up, recorded beside what it changed. -/
def commit (before after : ProfileState) (kind : String) (effects : List Effect) : Result :=
  let after := { after with case.version := after.case.version + 1 }
  .ok ⟨.ok "ACCEPTED" (some cycleId) Dict.empty, after, effects ++
    [.record "commerce_transition" (.ofList [("kind", .str kind),
      ("before", (op.canonicalState before).asDict),
      ("after", (op.canonicalState after).asDict)])]⟩

end Commit

section Events

variable (state : ProfileState) (event : Event) (context : EnvironmentContext)

/-- `payload == authored`, for authored texts and numbers. -/
def samePayload (authored payload : Fields) : Bool :=
  payload.size = authored.size && authored.entries.all fun (name, value) =>
    match value with
    | .str s => (payload.get? name).any fun v => v.isStr s
    | .int n => (payload.get? name).any fun v => v.isInt n
    | _ => false

/-- Is the event the authored one of its identity? -/
def isAuthored : Bool :=
  (op.events.find? fun authored => authored.eventId = event.eventId).any fun authored =>
    authored.eventType = event.eventType && samePayload authored.payload event.payload

/-- Is the event the timer that the settlement on file set? -/
def isFinality : Except PyError Bool :=
  if event.eventId ≠ "finality_1" ∨ event.payload.size ≠ 2 ∨
      !event.payload.contains "case_id" ∨ !event.payload.contains "profile_digest" then .ok false
  else match state.payment.settledAt with
    | none => .ok false
    | some settledAt => do
      let due ← shiftMinutes settledAt 5 "timestamp"
      return context.now = due

/-- An event that is no timer may come at any time. -/
def isTimed (eventType : EventType) : Except PyError Bool :=
  if eventType = .finalityDue then isFinality state event context else .ok true

def reduceLabelClaim : Result :=
  op.commit state { state with claims := state.claims ++ [event.payload.text "text"] }
    event.eventType []

/-- Were the goods sent back too late for a withdrawal? -/
def isLate (facts : Facts) (dispatchDate : CivilDate) : Except PyError Bool :=
  if facts.profileId.statutory then do
    let last ← facts.noticeSentDate.addDays 14
    return last.ordinal < dispatchDate.ordinal
  else .ok false

/-- The date to refund by, which the proof fixes in one of the jurisdictions. -/
def dueDate (c : Case) (localDate : CivilDate) : Except PyError (Option CivilDate) :=
  if c.facts.profileId = .uk then (localDate.addDays 14).map some else .ok c.refundDueDate

def reduceReturnVerified : Result :=
  if !state.case.returnAuthorized ∨ event.payload.text? "kind" ≠ some "carrier_acceptance" ∨
      state.evidence.proof.isSome then
    refuse state "INVALID_RETURN_PROOF" "return not authorized/duplicate/label-only"
  else do
    let now ← parseTimestamp context.now "timestamp"
    let localDate := op.zone.localDate op.profile.timezone now
    match state.case.returnAuthorizedAt with
    | none => .error (.key "return_authorized_at")
    | some authorizedAt => do
      let due ← shiftMinutes authorizedAt op.scenario.proofDelayMinutes "timestamp"
      -- The payload is the authored one, so the dispatch is the scenario's.
      let dispatchDate := op.scenario.dispatchDate
      if context.now ≠ due ∨ localDate.ordinal < dispatchDate.ordinal then
        refuse state "RETURN_PROOF_TIME" "proof must follow dispatch and the causal carrier delay"
      else
        let late ← isLate state.case.facts dispatchDate
        if late then
          refuse state "LATE_RETURN_DISPATCH" "dispatch outside supported timely branch"
        else
          let proof : Proof := {
            caseId, orderId
            profileDigest := op.profileDigest
            kind := "carrier_acceptance"
            dispatchDate := event.payload.text "dispatch_date"
            suppliedAt := context.now }
          let due ← dueDate state.case localDate
          op.commit state { state with
            evidence.proof := some proof
            case.refundDueDate := due } event.eventType []

/-- Does the payload name the case, the order and the quote? -/
def bindsQuote (payload : Fields) : Bool :=
  payload.text? "case_id" = some caseId && payload.text? "order_id" = some orderId &&
    (payload.get "amount_minor").isInt state.case.amountMinor &&
    payload.text? "currency" = some state.case.currency &&
    payload.text? "tender_ref" = some tenderRef

def reduceAuthorityGranted : Result :=
  let payload := event.payload
  match state.case.authorityRequested, state.evidence.proof with
  | false, _ | _, none => refuse state "UNREQUESTED_AUTHORITY" "no proof-bound request"
  | true, some proof =>
    if !bindsQuote state payload ∨ payload.text? "proof_id" ≠ some "proof_1" ∨
        payload.text? "case_id" ≠ some proof.caseId ∨
        payload.text? "order_id" ≠ some proof.orderId ∨
        payload.text? "profile_digest" ≠ some proof.profileDigest ∨
        proof.kind ≠ "carrier_acceptance" then
      refuse state "AUTHORITY_BINDING" "external grant does not bind request quote and proof"
    else do
      let serviceDueAt ← shiftMinutes context.now 2880 "timestamp"
      let grant : Grant := {
        caseId := payload.text "case_id"
        orderId := payload.text "order_id"
        profileDigest := payload.text "profile_digest"
        amountMinor := payload.number "amount_minor"
        currency := payload.text "currency"
        tenderRef := payload.text "tender_ref"
        proofId := payload.text "proof_id"
        grantedAt := context.now
        grantVersion := state.case.version }
      op.commit state { state with
        evidence.approval := some grant
        case.serviceDueAt := some serviceDueAt } event.eventType []

/-- A settlement moves the reserve and sets the timer of its finality. -/
def settle (state : ProfileState) (now : String) : ProfileState × List Effect :=
  ({ state with
      payment.settledMinor := state.payment.reservedMinor
      payment.reservedMinor := 0
      payment.settledAt := some now },
    [.scheduleTimer "finality_1" "finality_due" "environment" 5
      (.ofList [("case_id", .str caseId), ("profile_digest", .str op.profileDigest)]) true])

def reducePaymentUpdate : Result :=
  let payload := event.payload
  match PaymentStatus.ofText? (payload.text "status") with
  | none => .error (.value "unsupported status")
  | some status =>
    let payment := state.payment
    if payment.intentId.isNone ∨
        status = .settled ∧ payment.status = .unknown ∧ !payment.queryRequested then
      refuse state "UNBOUND_PAYMENT" "no intent/query"
    else if payload.text? "intent_id" ≠ payment.intentId ∨
        !(payload.get "amount_minor").isInt state.case.amountMinor ∨
        payload.text? "currency" ≠ some state.case.currency ∨
        payload.text? "tender_ref" ≠ some tenderRef then
      refuse state "PAYMENT_BINDING" "processor event must match reserved intent and quote"
    else
      let webhookId := payload.text "webhook_id"
      if webhookId ∈ payment.webhooks then
        if status ≠ payment.status then
          refuse state "CONFLICTING_WEBHOOK" "duplicate key with different result"
        else .ok ⟨.ok "DUPLICATE_IGNORED" (some cycleId) Dict.empty, state,
          [.record "commerce_duplicate_ignored" (.ofList [("webhook_id", .str webhookId),
            ("intent_id", .ofText? payment.intentId)])]⟩
      else if payment.status = .settled ∨ payment.status = .failed then
        refuse state "CONFLICTING_PAYMENT" "cannot rewrite final processor status"
      else
        let noted := { state with
          payment.webhooks := payment.webhooks ++ [webhookId]
          payment.status := status }
        let (after, effects) := if status = .settled then op.settle noted context.now
          else (noted, [])
        op.commit state after event.eventType effects

def reduceReviewAcknowledged : Result :=
  if !state.case.reviewRequested then refuse state "UNREQUESTED_REVIEW" "no handoff request"
  else op.commit state { state with case.reviewAck := true } event.eventType []

def reduceRepairVerified : Result :=
  if !state.case.repairRequested then refuse state "UNREQUESTED_REPAIR" "no repair request"
  else match state.case.repairRequestedAt with
    | none => .error (.key "repair_requested_at")
    | some requestedAt => do
      let due ← shiftMinutes requestedAt 60 "timestamp"
      if context.now ≠ due then
        refuse state "REPAIR_TIME" "synthetic repair delay is 60 minutes, not a legal minimum"
      else op.commit state { state with case.repaired := true } event.eventType []

def reduceFinalityDue : Result :=
  if state.payment.status ≠ .settled then refuse state "INVALID_FINALITY" "no settlement"
  else op.commit state { state with case.finalityReady := true } event.eventType []

def reducer : EventType → Result
  | .intake => op.commit state state event.eventType []
  | .customerLabelClaim => op.reduceLabelClaim state event
  | .returnVerified => op.reduceReturnVerified state event context
  | .authorityGranted => op.reduceAuthorityGranted state event context
  | .paymentUpdate => op.reducePaymentUpdate state event context
  | .reviewAcknowledged => op.reduceReviewAcknowledged state event
  | .repairVerified => op.reduceRepairVerified state event context
  | .finalityDue => op.reduceFinalityDue state event

/-- Take one external event in, or refuse it by name. -/
def reduceEvent : Result :=
  match EventType.ofText? event.eventType with
  | none => refuse state "EVENT_AUTHORITY" "wrong event actor"
  | some eventType =>
    if eventType.actor ≠ event.actorId then refuse state "EVENT_AUTHORITY" "wrong event actor"
    else if event.payload.text? "case_id" ≠ some caseId ∨
        event.payload.text? "profile_digest" ≠ some op.profileDigest then
      refuse state "EVENT_BINDING" "wrong case/profile"
    else if eventType ≠ .finalityDue ∧ !op.isAuthored event then
      refuse state "EVENT_BINDING" "event identity and exact authored payload must match"
    else do
      if !(← isTimed state event context eventType) then
        refuse state "INVALID_FINALITY" "exact settlement-bound runtime timer required"
      else if event.instant ≠ context.now ∨ state.case.terminal.isSome then
        refuse state "EVENT_TIME_OR_FINALITY" "event must be current and operation active"
      else op.reducer state event context eventType

end Events

section Actions

variable (state : ProfileState) (payload : Fields) (evidenceRefs : List String)
  (context : EnvironmentContext)

def actDecideEntitlement : Result :=
  if state.case.decision.isSome then
    refuse state "DUPLICATE_ENTITLEMENT"
      "entitlement already decided; reread and follow the existing branch"
  else
    let decision := entitlement state.case.facts
    if payload.text "decision" ≠ decision.text then
      refuse state "ENTITLEMENT_MISMATCH" "decision not supported by sourced branch and facts"
    else op.commit state { state with
      case.decision := some decision
      case.phase := .decided decision } ActionType.decideEntitlement.text []

def actAuthorizeReturn : Result :=
  if state.case.decision ≠ some .refund ∨ state.case.returnAuthorized then
    refuse state "RETURN_NOT_ALLOWED" "refund eligibility required once"
  else op.commit state { state with
    case.returnAuthorized := true
    case.returnAuthorizedAt := some context.now } ActionType.authorizeReturn.text []

def actRequestAuthority : Result :=
  if state.case.decision ≠ some .refund ∨ state.evidence.proof.isNone ∨
      "proof_1" ∉ evidenceRefs ∨ state.case.authorityRequested then
    refuse state "RETURN_PROOF_REQUIRED" "carrier proof before approval; label is not proof"
  else op.commit state { state with
    case.authorityRequested := true
    case.authorityRequestedAt := some context.now
    case.authorityRequestedVersion := some state.case.version } ActionType.requestAuthority.text []

/-- Does the grant bind the case, the quote and the proof, for a request it followed? -/
def grantBinds (grant : Grant) (now : String) : Except PyError Bool :=
  if grant.caseId ≠ caseId ∨ grant.orderId ≠ orderId ∨
      grant.amountMinor ≠ state.case.amountMinor ∨ grant.currency ≠ state.case.currency ∨
      grant.tenderRef ≠ tenderRef ∨ grant.profileDigest ≠ op.profileDigest ∨
      grant.proofId ≠ "proof_1" ∨ !state.case.authorityRequested then .ok false
  else match state.evidence.proof with
    | none => .ok false
    | some proof =>
      let requestedVersion := state.case.authorityRequestedVersion.getD state.case.version
      if ¬(requestedVersion < grant.grantVersion ∧ grant.grantVersion < state.case.version) then
        .ok false
      else match state.case.authorityRequestedAt with
        | none => .error (.key "authority_requested_at")
        | some requestedAt => do
          let due ← shiftMinutes requestedAt 10 "timestamp"
          return grant.grantedAt = due ∧ proof.suppliedAt ≤ grant.grantedAt ∧
            grant.grantedAt ≤ now

def actSubmitRefund : Result :=
  if state.payment.intentId.isSome then
    refuse state "DUPLICATE_REFUND" ("original intent already exists; never submit again. Query " ++
      "only status=unknown once by original intent; pending requires WAIT; settled requires " ++
      "finality before notice; failed requires review.")
  else
    let required := refuse state "AUTHORITY_REQUIRED" "current bound supervisor grant required"
    match state.evidence.approval with
    | none => required
    | some grant =>
      if state.case.decision ≠ some .refund ∨ "proof_1" ∉ evidenceRefs ∨
          "approval_1" ∉ evidenceRefs then required
      else do
        let bound ← op.grantBinds state grant context.now
        if !bound then
          refuse state "AUTHORITY_BINDING" "grant must bind exact order quote tender and proof"
        else if payload.text "intent_id" ≠ intentId ∨
            payload.number "amount_minor" ≠ state.case.amountMinor ∨
            payload.text "currency" ≠ state.case.currency ∨
            payload.text "tender_ref" ≠ tenderRef then
          refuse state "PAYMENT_BINDING" "only exact approved quote/original tender"
        else op.commit state { state with
          payment.intentId := some intentId
          payment.status := .pending
          payment.reservedMinor := state.case.amountMinor
          payment.submissionCount := 1 } ActionType.submitRefund.text []

def actQueryPayment : Result :=
  if state.payment.status ≠ .unknown ∨
      some (payload.text "intent_id") ≠ state.payment.intentId ∨ state.payment.queryRequested then
    refuse state "QUERY_BINDING" ("query only status=unknown by original intent once; pending " ++
      "or an already requested query requires WAIT for processor evidence")
  else op.commit state { state with payment.queryRequested := true } ActionType.queryPayment.text []

def actRequestRepair : Result :=
  if state.case.decision ≠ some .repair ∨ state.case.repairRequested then
    refuse state "REPAIR_NOT_ALLOWED" "only stipulated minor fault repair"
  else op.commit state { state with
    case.repairRequested := true
    case.repairRequestedAt := some context.now } ActionType.requestRepair.text []

/-- Has the time allowed since the instant run out? -/
def elapsed (since : Option String) (field : String) (minutes : Int) (now : String) :
    Except PyError Bool :=
  match since with
  | none => .error (.key field)
  | some since => do
    let due ← shiftMinutes since minutes "timestamp"
    return due ≤ now

/-- Is there a published reason for a review, and is it time for it? -/
def reviewAllowed (reason : String) (now : String) : Except PyError Bool :=
  if reason = "missing_return_proof" ∧ state.case.returnAuthorized ∧ state.evidence.proof.isNone
  then elapsed state.case.returnAuthorizedAt "return_authorized_at" 28800 now
  else if reason = "authority_timeout" ∧ state.case.authorityRequested ∧
      state.evidence.approval.isNone
  then elapsed state.case.authorityRequestedAt "authority_requested_at" 1440 now
  else if reason = "payment_unresolved" ∧
      (state.payment.status = .pending ∨ state.payment.status = .unknown) ∧
      state.case.serviceDueAt.isSome
  then .ok (state.case.serviceDueAt.any fun dueAt => dueAt ≤ now)
  else .ok (reason = "scope_or_rights" && state.case.decision = some .review ||
    reason = "payment_failed" && state.payment.status = .failed)

def actRequestReview : Result := do
  let reason := payload.text "reason"
  let allowed ← reviewAllowed state reason context.now
  if state.case.reviewRequested then
    refuse state "REVIEW_ALREADY_REQUESTED"
      "review already requested; WAIT for acknowledgement, then notify"
  else if allowed then
    op.commit state { state with
      case.reviewRequested := true
      case.reviewReason := some reason } ActionType.requestReview.text []
  else if reason = "scope_or_rights" ∧ state.case.decision = none then
    refuse state "REVIEW_DECISION_REQUIRED" ("decide_entitlement with decision=review first, " ++
      "if supported by the published facts and rules")
  else
    refuse state "UNJUSTIFIED_REVIEW" "use bounded review only for unresolved supported reason"

/-- The verified result of the case, if there is one. -/
def readyResult : Option Outcome :=
  if state.case.reviewAck then some .reviewed
  else if state.case.decision = some .denyVoluntary then some .deniedVoluntary
  else if state.case.repaired then some .repaired
  else if state.payment.status = .settled ∧ state.case.finalityReady then some .refunded
  else none

def actNotifyCustomer : Result :=
  if state.case.notified.isSome then
    refuse state "ALREADY_NOTIFIED" "customer already notified; do not notify again"
  else
    match readyResult state with
    | none =>
      if state.payment.status = .settled ∧ !state.case.finalityReady then
        refuse state "FINALITY_NOT_READY"
          "settlement recorded but finality_ready=false; WAIT for finality_due"
      else refuse state "NOTICE_NOT_READY" ("no verified result ready for notice; follow the " ++
        "recorded branch and WAIT for outstanding evidence")
    | some result =>
      if payload.text "message" ≠ result.text then
        refuse state "FALSE_NOTICE" "message does not match the verified result"
      else op.commit state { state with case.notified := some result }
        ActionType.notifyCustomer.text []

def handler : ActionType → Result
  | .decideEntitlement => op.actDecideEntitlement state payload
  | .authorizeReturn => op.actAuthorizeReturn state context
  | .requestAuthority => op.actRequestAuthority state evidenceRefs context
  | .submitRefund => op.actSubmitRefund state payload evidenceRefs context
  | .queryPayment => op.actQueryPayment state payload
  | .requestRepair => op.actRequestRepair state context
  | .requestReview => op.actRequestReview state payload context
  | .notifyCustomer => op.actNotifyCustomer state payload

/-- Exactly the published fields, each of its type. -/
def wellFormed (action : ActionType) : Bool :=
  payload.size = action.fields.length && action.fields.all fun (name, kind) =>
    (payload.get? name).any kind.holds

/-- Validate one proposed action and, if it survives, commit its effect. -/
def applyAction (actionType : String) : Result :=
  match ActionType.ofText? actionType with
  | none => refuse state "UNKNOWN_ACTION" "unsupported action/outcome lowering"
  | some action =>
    if !wellFormed payload action then
      refuse state "MALFORMED_ACTION" "exact published non-null fields required"
    else if payload.text "case_id" ≠ caseId ∨
        payload.text "profile_digest" ≠ op.profileDigest then
      refuse state "WRONG_BINDING" "wrong case/profile"
    else if payload.number "version" ≠ state.case.version then
      refuse state "STALE_VERSION" "reread current records"
    else if state.case.terminal.isSome then refuse state "AFTER_FINALITY" "operation is final"
    else if caseId ∉ evidenceRefs then refuse state "MISSING_EVIDENCE" "cite current case"
    else op.handler state payload evidenceRefs context action

/-- The guarded terminal. -/
def applyTerminal : Result :=
  let premature := refuse state "PREMATURE_COMPLETE" "verified result and accurate notice required"
  match readyResult state with
  | none => premature
  | some result =>
    if state.case.notified ≠ some result ∨ caseId ∉ evidenceRefs then premature
    else op.commit state { state with
      case.terminal := some result
      case.phase := .final } completeOutcomeKey []

end Actions

section Disclosure

def actorRoles : Dict String String := .ofList
  [("agent", "returns_operator"), ("returns_service", "system_of_record"),
    ("carrier", "return_verifier"), ("supervisor", "refund_authority"),
    ("processor", "payment_ledger"), ("reviewer", "review_owner"),
    ("repairer", "repair_verifier"), ("customer", "claimant"), ("environment", "timer")]

def eventAuthority (actorId : String) : String :=
  if actorId = "customer" then Authority.actorClaim else Authority.authoritativeVerification

/-- The profile and the identity, with the texts that explain the workflow. -/
def policyView (workflow : Fields) : Fields :=
  match op.profile.asDict with
  | .dict entries => .ofList (entries.filterMap (fun e => e.1.asStr?.map fun name => (name, e.2)) ++
      op.identity ++ workflow.entries)
  | _ => .ofList (op.identity ++ workflow.entries)

def actionSchemas : Fields := .ofList <|
  (ActionType.all.map fun action => (action.text, .ofFields
    [("required", .ofFields (action.fields.map fun (name, kind) => (name, .str kind.text))),
      ("optional", .ofFields []), ("reads", actionEvidenceContract.schemaPart action.text),
      ("evidence_refs", actionEvidenceContract.evidenceSchemaPart action.text)])) ++
    [(completeOutcomeKey, .ofFields [("required", .ofFields []), ("optional", .ofFields []),
      ("reads", actionEvidenceContract.schemaPart completeOutcomeKey),
      ("evidence_refs", .ofFields [])])]

end Disclosure

/-- The operation the engine runs. -/
def domain (workflow : Fields) : OperationDomain ProfileState where
  buildPlan := op.buildPlan
  initialState := op.initialState
  canonicalState := op.canonicalState
  coarsePhase state := state.case.phase.text
  eventAuthority actorId _ := eventAuthority actorId
  retrievalCatalogue := retrievalCatalogue
  retrievalRecordContract := [.str "commerce_profile_case", .str recordVersionContext,
    .str "canonical-json-sha256-prefix-v1", .int recordVersionLength]
  readRequirements := actionEvidenceContract
  serveRetrieval := op.serveRetrieval
  policyView := op.policyView workflow
  actorRoles := actorRoles
  messageFixtureIds := []
  actionSchemas := .ok actionSchemas
  wakeEventVocabulary := EventType.all.map EventType.text
  isReplayFinal state := state.case.terminal.isSome
  terminalOutcome state := state.case.terminal.map Outcome.text
  reduceEvent context state event := op.reduceEvent state event context
  applyAction context state actionType payload evidenceRefs :=
    op.applyAction state payload evidenceRefs context actionType
  applyTerminal _ state evidenceRefs := op.applyTerminal state evidenceRefs

/-- The engine on the scenario, with an agent and the texts that explain the workflow to it. -/
def engine (workflow : Fields) (agent : OperationAgent) (operationId instanceId : String) :
    Engine ProfileState where
  domain := op.domain workflow
  agent
  operationId
  operationInstanceId := instanceId
  dispatchFailures := []
  sha256 := op.sha256

end CommerceProfilesDomain

end OperateBench.Profiles
