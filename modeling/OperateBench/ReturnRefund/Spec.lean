import OperateBench.Core.Protocol
import OperateBench.ReturnRefund.State

/-! # The return/refund specification

The vocabulary of events and actions, the authority each event requires, the exact contract of
every payload, and the authored operation. What the loader holds an authored operation to is part
of its type. Behind it are the nine reads that the operation publishes, and the one contract of
what every outcome must have read and cited.
-/

namespace OperateBench.ReturnRefund

open Foundation

section Vocabulary

inductive EventType where
  | customerReturnRequested
  | customerHandoverClaimed
  | carrierHandoverVerified
  | warehouseInspectionCompleted
  | refundApprovalReceived
  | refundSettlementConfirmed
  | refundSettlementReversed
  | handoverReminderDue
  | handoverDeadlineDue
  | approvalDeadlineDue
  | resolutionCooldownExpired
  deriving DecidableEq

namespace EventType

def text : EventType → String
  | customerReturnRequested => "customer_return_requested"
  | customerHandoverClaimed => "customer_handover_claimed"
  | carrierHandoverVerified => "carrier_handover_verified"
  | warehouseInspectionCompleted => "warehouse_inspection_completed"
  | refundApprovalReceived => "refund_approval_received"
  | refundSettlementConfirmed => "refund_settlement_confirmed"
  | refundSettlementReversed => "refund_settlement_reversed"
  | handoverReminderDue => "handover_reminder_due"
  | handoverDeadlineDue => "handover_deadline_due"
  | approvalDeadlineDue => "approval_deadline_due"
  | resolutionCooldownExpired => "resolution_cooldown_expired"

def all : List EventType :=
  [customerReturnRequested, customerHandoverClaimed, carrierHandoverVerified,
    warehouseInspectionCompleted, refundApprovalReceived, refundSettlementConfirmed,
    refundSettlementReversed, handoverReminderDue, handoverDeadlineDue, approvalDeadlineDue,
    resolutionCooldownExpired]

def ofText? (s : String) : Option EventType := all.find? fun t => t.text == s

theorem text_of_ofText? {s : String} {t : EventType} (h : ofText? s = some t) : t.text = s := by
  simpa using List.find?_some h

/-- The authority an actor must hold to bring the event about. -/
def authority : EventType → String
  | customerReturnRequested => "request_return"
  | customerHandoverClaimed => "claim_handover"
  | carrierHandoverVerified => "verify_handover"
  | warehouseInspectionCompleted => "inspect_return"
  | refundApprovalReceived => "approve_refund"
  | refundSettlementConfirmed => "settle_refund"
  | refundSettlementReversed => "reverse_refund"
  | handoverReminderDue | handoverDeadlineDue | approvalDeadlineDue | resolutionCooldownExpired =>
    "emit_timer"

end EventType

/-- The event types that can wake an agent. -/
def wakeEventTypes : List String := sortTexts (EventType.all.map EventType.text)

inductive ActionType where
  | issueReturnAuthorisation
  | requestRefundApproval
  | requestRefund
  | sendMessage
  deriving DecidableEq

namespace ActionType

def text : ActionType → String
  | issueReturnAuthorisation => "issue_return_authorisation"
  | requestRefundApproval => "request_refund_approval"
  | requestRefund => "request_refund"
  | sendMessage => "send_message"

def all : List ActionType :=
  [issueReturnAuthorisation, requestRefundApproval, requestRefund, sendMessage]

def ofText? (s : String) : Option ActionType := all.find? fun t => t.text == s

theorem text_of_ofText? {s : String} {t : ActionType} (h : ofText? s = some t) : t.text = s := by
  simpa using List.find?_some h

theorem ofText?_text (t : ActionType) : ofText? t.text = some t := by cases t <;> decide

end ActionType

def roleAuthority : Dict String String := .ofList
  [("agent", "actor_claim"), ("customer", "actor_claim"), ("returns_approver", "actor_claim"),
    ("authoritative_external_system", "authoritative_verification"),
    ("system_scheduler", "system_event")]

def firstRefundCycle : String := "refund_cycle_1"

def recoveryRefundCycle : String := "refund_cycle_2"

def customerActorId : String := "customer_1"

def eligibleDisposition : String := "ELIGIBLE_FOR_REFUND"

def msgHandoverReminder : String := "msg_handover_reminder"

def msgReturnExpired : String := "msg_return_expired"

def msgRefundComplete : String := "msg_refund_complete"

def msgRefundDenied : String := "msg_refund_denied"

end Vocabulary

section Payloads

/-- The primitive kinds a payload field may hold. -/
inductive PayloadKind where
  | string
  | optionalString
  | positiveInteger
  | boolean
  deriving DecidableEq

def PayloadKind.text : PayloadKind → String
  | string => "string"
  | optionalString => "optional_string"
  | positiveInteger => "positive_integer"
  | boolean => "boolean"

structure PayloadSchema where
  required : List (String × PayloadKind)
  optional : List (String × PayloadKind)

def PayloadSchema.fields (schema : PayloadSchema) : List (String × PayloadKind) :=
  schema.required ++ schema.optional

def eventPayloadSchema : EventType → PayloadSchema
  | .customerReturnRequested =>
    ⟨[("return_id", .string), ("order_id", .string), ("cycle_id", .string),
      ("amount_minor", .positiveInteger), ("currency", .string)], []⟩
  | .customerHandoverClaimed =>
    ⟨[("claim_id", .string), ("return_id", .string), ("authorisation_id", .string),
      ("cycle_id", .string)], []⟩
  | .carrierHandoverVerified =>
    ⟨[("carrier_record_id", .string), ("return_id", .string), ("authorisation_id", .string),
      ("cycle_id", .string), ("handed_over", .boolean)], []⟩
  | .warehouseInspectionCompleted =>
    ⟨[("inspection_id", .string), ("return_id", .string), ("cycle_id", .string),
      ("disposition", .string), ("amount_minor", .positiveInteger), ("currency", .string)], []⟩
  | .refundApprovalReceived =>
    ⟨[("checkpoint_id", .string), ("inspection_id", .string), ("cycle_id", .string),
      ("amount_minor", .positiveInteger), ("currency", .string), ("decision", .string)], []⟩
  | .refundSettlementConfirmed =>
    ⟨[("settlement_id", .string), ("refund_request_id", .string), ("inspection_id", .string),
      ("cycle_id", .string), ("amount_minor", .positiveInteger), ("currency", .string)], []⟩
  | .refundSettlementReversed =>
    ⟨[("reversal_id", .string), ("refund_request_id", .string), ("cycle_id", .string),
      ("reason_code", .string)], []⟩
  | .handoverReminderDue | .handoverDeadlineDue =>
    ⟨[("authorisation_id", .string), ("cycle_id", .string)], []⟩
  | .approvalDeadlineDue => ⟨[("checkpoint_id", .string), ("cycle_id", .string)], []⟩
  | .resolutionCooldownExpired => ⟨[("refund_request_id", .string), ("cycle_id", .string)], []⟩

def actionPayloadSchema : ActionType → PayloadSchema
  | .issueReturnAuthorisation => ⟨[("return_id", .string), ("cycle_id", .string)], []⟩
  | .requestRefundApproval => ⟨[("inspection_id", .string), ("cycle_id", .string)], []⟩
  | .requestRefund =>
    ⟨[("inspection_id", .string), ("cycle_id", .string)],
      [("approval_checkpoint_id", .optionalString)]⟩
  | .sendMessage =>
    ⟨[("recipient_actor_id", .string), ("message_fixture_id", .string)],
      [("cycle_id", .optionalString)]⟩

/-- A boolean is neither a quantity nor a text. -/
def PayloadKind.holds : PayloadKind → Value → Bool
  | string, .str s | optionalString, .str s => !isBlank s
  | optionalString, .none => true
  | positiveInteger, .int n => decide (0 < n)
  | boolean, .bool _ => true
  | _, _ => false

def checkFields (place what : String) (payload : Fields) :
    List (String × PayloadKind) → Except String Unit
  | [] => .ok ()
  | (name, kind) :: fields =>
    match payload.get? name with
    | none => checkFields place what payload fields
    | some value =>
      if kind.holds value then checkFields place what payload fields
      else .error
        s!"{place}: payload field {pyRepr name} for {pyRepr what} must be {kind.text}"

/-- Hold a payload to the exact contract its type declares, or say what is wrong. -/
def validatePayload (schema : PayloadSchema) (payload : Fields) (place what : String) :
    Except String Unit :=
  let allowed := schema.fields.map Prod.fst
  let unknown := sortTexts (payload.keys.filter fun name => name ∉ allowed)
  let missing := sortTexts ((schema.required.map Prod.fst).filter fun name =>
    !payload.contains name)
  if unknown ≠ [] then
    .error (s!"{place}: payload: unknown field(s) {reprList unknown}; known fields are " ++
      reprList (sortTexts allowed))
  else if missing ≠ [] then
    .error (s!"{place}: payload for {pyRepr what} is missing required field(s) " ++
      reprList missing)
  else checkFields place what payload schema.fields

variable {schema : PayloadSchema} {payload : Fields} {place what name : String}

theorem checkFields_ok {fields : List (String × PayloadKind)} {kind : PayloadKind} {value : Value}
    (h : checkFields place what payload fields = .ok ()) (hm : (name, kind) ∈ fields)
    (hv : payload.get? name = some value) : kind.holds value = true := by
  induction fields with
  | nil => cases hm
  | cons field fields ih =>
    obtain ⟨name', kind'⟩ := field
    rw [checkFields] at h
    rcases List.mem_cons.mp hm with heq | hm
    · obtain ⟨rfl, rfl⟩ := Prod.mk.inj heq
      simp only [hv] at h
      split at h
      · assumption
      · cases h
    · split at h
      · exact ih h hm
      · split at h
        · exact ih h hm
        · cases h

theorem validatePayload_ok (h : validatePayload schema payload place what = .ok ()) :
    (∀ e ∈ schema.required, payload.contains e.1 = true) ∧
      checkFields place what payload schema.fields = .ok () := by
  unfold validatePayload at h
  dsimp only at h
  split at h
  · cases h
  split at h
  · cases h
  · rename_i hmissing
    refine ⟨fun e he => ?_, h⟩
    by_contra hc
    have hm : e.1 ∈ sortTexts ((schema.required.map Prod.fst).filter fun name =>
        !payload.contains name) := by
      rw [sortTexts, List.mem_insertionSort, List.mem_filter]
      exact ⟨List.mem_map_of_mem he, by simpa using hc⟩
    rw [not_not.mp hmissing] at hm
    cases hm

theorem checkFields_of {fields : List (String × PayloadKind)}
    (h : ∀ e ∈ fields, ∀ value, payload.get? e.1 = some value → e.2.holds value = true) :
    checkFields place what payload fields = .ok () := by
  induction fields with
  | nil => rfl
  | cons field fields ih =>
    obtain ⟨name, kind⟩ := field
    have hrest := ih fun e he => h e (List.mem_cons_of_mem _ he)
    rw [checkFields]
    split
    · exact hrest
    · rename_i value hv
      rw [if_pos (h _ List.mem_cons_self value hv)]
      exact hrest

/-- The payload names every required field, no unknown one, and holds in each what it may. -/
structure Valid (schema : PayloadSchema) (payload : Fields) : Prop where
  known : ∀ name, payload.contains name = true → name ∈ schema.fields.map Prod.fst
  required : ∀ e ∈ schema.required, payload.contains e.1 = true
  holds : ∀ e ∈ schema.fields, ∀ value, payload.get? e.1 = some value → e.2.holds value = true

theorem validatePayload_iff : validatePayload schema payload place what = .ok () ↔
    Valid schema payload := by
  unfold validatePayload
  dsimp only
  constructor
  · intro h
    split at h
    · cases h
    rename_i hunknown
    split at h
    · cases h
    rename_i hmissing
    rw [not_not, sortTexts_eq_nil, List.filter_eq_nil_iff] at hunknown hmissing
    refine ⟨fun name hname => ?_, fun e he => ?_, fun e he value hv => checkFields_ok h he hv⟩
    · simpa using hunknown name (Dict.mem_keys_iff.mpr (Dict.contains_iff.mp hname))
    · simpa using hmissing e.1 (List.mem_map_of_mem he)
  · rintro ⟨known, required, holds⟩
    have hunknown : sortTexts (payload.keys.filter fun name =>
        name ∉ schema.fields.map Prod.fst) = [] := by
      rw [sortTexts_eq_nil, List.filter_eq_nil_iff]
      intro name hname
      simpa using known name (Dict.contains_iff.mpr (Dict.mem_keys_iff.mp hname))
    have hmissing : sortTexts ((schema.required.map Prod.fst).filter fun name =>
        !payload.contains name) = [] := by
      rw [sortTexts_eq_nil, List.filter_eq_nil_iff]
      intro name hname
      obtain ⟨e, he, rfl⟩ := List.mem_map.mp hname
      simp [required e he]
    rw [if_neg (not_not.mpr hunknown), if_neg (not_not.mpr hmissing)]
    exact checkFields_of holds

theorem validated_holds {kind : PayloadKind}
    (h : validatePayload schema payload place what = .ok ())
    (hm : (name, kind) ∈ schema.required) : kind.holds (payload.get name) = true := by
  obtain ⟨hrequired, hchecked⟩ := validatePayload_ok h
  obtain ⟨value, hv⟩ := Dict.contains_iff.mp (hrequired _ hm)
  have hholds := checkFields_ok hchecked (List.mem_append_left schema.optional hm) hv
  rwa [Fields.get, hv, Option.getD_some]

/-- A required text is there and not blank. -/
theorem validated_text (h : validatePayload schema payload place what = .ok ())
    (hm : (name, .string) ∈ schema.required) :
    ∃ s, payload.get name = .str s ∧ isBlank s = false := by
  have hholds := validated_holds h hm
  cases hv : payload.get name with
  | str s => exact ⟨s, rfl, by simpa [PayloadKind.holds, hv] using hholds⟩
  | _ => simp [PayloadKind.holds, hv] at hholds

/-- A required quantity is there and positive. -/
theorem validated_positive (h : validatePayload schema payload place what = .ok ())
    (hm : (name, .positiveInteger) ∈ schema.required) :
    ∃ n, payload.get name = .int n ∧ 0 < n := by
  have hholds := validated_holds h hm
  cases hv : payload.get name with
  | int n => exact ⟨n, rfl, by simpa [PayloadKind.holds, hv] using hholds⟩
  | _ => simp [PayloadKind.holds, hv] at hholds

/-- An optional text is missing or not blank. -/
theorem validated_text? (h : validatePayload schema payload place what = .ok ())
    (hm : (name, .optionalString) ∈ schema.optional) :
    payload.get name = .none ∨ ∃ s, payload.get name = .str s ∧ isBlank s = false := by
  cases hg : payload.get? name with
  | none => exact Or.inl (by rw [Fields.get, hg, Option.getD_none])
  | some value =>
    have hholds := checkFields_ok (validatePayload_ok h).2
      (List.mem_append_right schema.required hm) hg
    rw [Fields.get, hg, Option.getD_some]
    cases value with
    | none => exact Or.inl rfl
    | str s => exact Or.inr ⟨s, rfl, by simpa [PayloadKind.holds] using hholds⟩
    | _ => simp [PayloadKind.holds] at hholds

end Payloads

section Operation

structure ActorSpec where
  role : String
  authority : List String

def ActorSpec.holds (actor : ActorSpec) (authority : String) : Bool := authority ∈ actor.authority

/-- What an actor of the role may be authored to hold. -/
def roleAllowedAuthorities : Dict String (List String) := .ofList
  [("agent", ActionType.all.map ActionType.text ++ [completeOutcomeKey]),
    ("customer", ["request_return", "claim_handover"]),
    ("returns_approver", ["approve_refund"]),
    ("authoritative_external_system",
      ["verify_handover", "inspect_return", "settle_refund", "reverse_refund"]),
    ("system_scheduler", ["emit_timer"])]

/-- The actors an operation cannot do without, with their role and what they must hold. -/
def requiredActors : List (String × String × List String) :=
  [("agent", "agent", ActionType.all.map ActionType.text ++ [completeOutcomeKey]),
    ("customer_1", "customer", ["request_return", "claim_handover"]),
    ("returns_approver_1", "returns_approver", ["approve_refund"]),
    ("carrier_system", "authoritative_external_system", ["verify_handover"]),
    ("warehouse_system", "authoritative_external_system", ["inspect_return"]),
    ("payment_system", "authoritative_external_system", ["settle_refund", "reverse_refund"]),
    ("scheduler", "system_scheduler", ["emit_timer"])]

def requiredMessageFixtures : List String :=
  [msgHandoverReminder, msgReturnExpired, msgRefundComplete, msgRefundDenied]

/-- Every number of the policy is positive. -/
abbrev Positive := {n : Int // 0 < n}

structure PolicySpec where
  currency : String
  refundAmountMinor : Positive
  approvalThresholdMinor : Positive
  handoverReminderAfterMinutes : Positive
  handoverDeadlineAfterMinutes : Positive
  approvalDeadlineAfterMinutes : Positive
  provisionalCloseMinutes : Positive
  completionNoticeWithinMinutes : Positive
  maxTurnsPerInvocation : Positive
  horizonMinutes : Positive
  maxRetrievalBatchesPerInvocation : Positive
  /-- Every refund of the operation needs a human decision. -/
  exceedsThreshold : approvalThresholdMinor.1 < refundAmountMinor.1
  remindsFirst : handoverReminderAfterMinutes.1 < handoverDeadlineAfterMinutes.1
  turns : 2 ≤ maxTurnsPerInvocation.1
  batches : 4 ≤ maxRetrievalBatchesPerInvocation.1
  bounded : ∀ minutes ∈ [handoverDeadlineAfterMinutes.1, approvalDeadlineAfterMinutes.1,
    provisionalCloseMinutes.1, completionNoticeWithinMinutes.1], minutes ≤ horizonMinutes.1

structure ReturnRefundSpec where
  actors : Dict String ActorSpec
  policy : PolicySpec
  messageFixtures : Dict String String
  hiddenState : Fields
  rolesAllow : ∀ e ∈ actors.entries, ∃ allowed,
    roleAllowedAuthorities.get? e.2.role = some allowed ∧ ∀ a ∈ e.2.authority, a ∈ allowed
  actorsThere : ∀ e ∈ requiredActors, ∃ actor, actors.get? e.1 = some actor ∧
    actor.role = e.2.1 ∧ ∀ a ∈ e.2.2, actor.holds a = true
  fixturesThere : ∀ fixtureId ∈ requiredMessageFixtures, messageFixtures.contains fixtureId = true

/-- What the loader checks of one authored event. -/
structure Authored (spec : ReturnRefundSpec) (startsAt : String) (event : PlannedEvent) :
    Prop where
  identity : isBlank event.eventId = false
  actor : ∃ eventType actor, EventType.ofText? event.eventType = some eventType ∧
    spec.actors.get? event.actorId = some actor ∧ actor.holds eventType.authority = true ∧
    ∃ place, validatePayload (eventPayloadSchema eventType) event.payload place event.eventType =
      .ok ()
  amount : ∀ value, event.payload.get? "amount_minor" = some value →
    value.isInt spec.policy.refundAmountMinor.1 = true
  currency : ∀ value, event.payload.get? "currency" = some value →
    value.isStr spec.policy.currency = true
  cause : event.instant.isNone ↔ event.trigger.isSome
  delay : 0 ≤ event.delayMinutes ∧ (event.trigger.isSome →
    event.delayMinutes ≤ spec.policy.horizonMinutes.1)
  instant : ∀ instant, event.instant = some instant → event.delayMinutes = 0 ∧
    ∃ start moment, strptime startsAt = .ok start ∧ strptime instant = .ok moment ∧
      start ≤ moment ∧ moment - start ≤ spec.policy.horizonMinutes.1 * 60

structure ScenarioSpec (spec : ReturnRefundSpec) where
  startsAt : String
  dispatchFailures : List String
  events : List PlannedEvent
  starts : ∃ start, strptime startsAt = .ok start
  authored : ∀ event ∈ events, Authored spec startsAt event
  distinct : (events.map PlannedEvent.eventId).Nodup
  sequenced : ∀ (i : ℕ) (event : PlannedEvent), events[i]? = some event → event.sequence = i

/-- One scenario of the return/refund operation, ready to run. -/
structure ReturnRefundOperation where
  spec : ReturnRefundSpec
  scenario : ScenarioSpec spec

end Operation

section Tools

def recordVersionLength : ℕ := 16

def recordVersionContext : String := "commerce return/refund retrieval record"

def recordIdentitySuffix : String := "return_refund_case"

def schemaNamespace : String := "commerce.return_refund"

def schemaRevision : String := "v1"

structure RetrievalToolSpec where
  tool : String
  source : String
  authority : String
  roots : List String

namespace RetrievalToolSpec

def schemaId (spec : RetrievalToolSpec) : String :=
  s!"{schemaNamespace}.{spec.tool}.{schemaRevision}"

def recordId (spec : RetrievalToolSpec) : String := s!"{spec.source}:{recordIdentitySuffix}"

def catalogueEntry (spec : RetrievalToolSpec) : CatalogueEntry :=
  ⟨spec.source, spec.authority, spec.schemaId, Dict.empty⟩

end RetrievalToolSpec

def retrievalTools : List RetrievalToolSpec :=
  [⟨"get_return_case", "returns_service", Authority.systemOfRecord, ["case"]⟩,
    ⟨"list_authorisations", "returns_service", Authority.systemOfRecord, ["authorisations"]⟩,
    ⟨"list_customer_claims", "returns_inbox", Authority.actorClaim, ["customer_claims"]⟩,
    ⟨"list_carrier_records", "carrier_service", Authority.authoritativeVerification,
      ["carrier_records"]⟩,
    ⟨"list_inspections", "warehouse_service", Authority.authoritativeVerification,
      ["inspections"]⟩,
    ⟨"list_checkpoints", "approval_service", Authority.systemOfRecord, ["checkpoints"]⟩,
    ⟨"list_refunds", "payment_service", Authority.systemOfRecord, ["refunds"]⟩,
    ⟨"list_communications", "messaging_service", Authority.communication, ["communications"]⟩,
    ⟨"list_obligations", "obligation_service", Authority.systemOfRecord, ["obligations"]⟩]

def retrievalTool? (tool : String) : Option RetrievalToolSpec :=
  retrievalTools.find? fun spec => spec.tool == tool

/-- The published catalogue, in the order of the names of its tools. -/
def retrievalCatalogue : Catalogue :=
  .ofList ((sortTexts (retrievalTools.map RetrievalToolSpec.tool)).filterMap fun tool =>
    (retrievalTool? tool).map fun spec => (tool, spec.catalogueEntry))

def retrievalRecordContract : List Value :=
  [.str recordIdentitySuffix, .str recordVersionContext, .str "canonical-json-sha256-prefix-v1",
    .int recordVersionLength]

def recordVersion (sha256 : Value → String) (records : Fields) : String :=
  String.ofList ((sha256 records.asDict).toList.take recordVersionLength)

/-- The named roots of a projection that holds them. -/
def selectRoots (observable : Fields) (roots : List String) : Except PyError Fields := do
  let selected ← roots.mapM fun root =>
    match observable.get? root with
    | some value => .ok (root, value)
    | none => .error (.key root)
  return .ofList selected

/-- Answer one canonical batch, in order, at one instant. -/
def serveRequests (sha256 : Value → String) (observable : Fields) (asOf : String) :
    List RetrievalRequest → Except PyError (List ToolResult)
  | [] => .ok []
  | request :: requests =>
    match retrievalTool? request.tool with
    | none => .error (.key request.tool)
    | some spec => do
      let records ← selectRoots observable spec.roots
      let rest ← serveRequests sha256 observable asOf requests
      return {
        tool := spec.tool
        source := spec.source
        authority := spec.authority
        recordId := spec.recordId
        recordVersion := recordVersion sha256 records
        asOf
        schemaId := spec.schemaId
        records
        ok := true
        errorCode := none } :: rest

end Tools

section Contract

open EvidenceSelector

def reads (tools : List String) : Dict String ReadStrength :=
  .ofList (tools.map fun tool => (tool, .required))

def inspectionKey : EvidenceSelector :=
  payloadRegistryKey "list_inspections" "inspections" "inspection_id"

/-- What each outcome must have read, and what it must cite. -/
def actionEvidenceContract : ActionEvidenceContract := .ofList
  [("issue_return_authorisation", ⟨reads ["get_return_case"], []⟩),
    ("request_refund_approval",
      ⟨reads ["get_return_case", "list_inspections", "list_checkpoints"], [inspectionKey]⟩),
    ("request_refund",
      ⟨reads ["get_return_case", "list_carrier_records", "list_inspections", "list_checkpoints",
        "list_refunds"], [inspectionKey]⟩),
    ("send_message", ⟨reads ["get_return_case", "list_communications", "list_obligations"], []⟩),
    (completeOutcomeKey,
      ⟨reads ["get_return_case", "list_checkpoints", "list_refunds", "list_communications",
        "list_obligations"], []⟩)]

end Contract

end OperateBench.ReturnRefund
