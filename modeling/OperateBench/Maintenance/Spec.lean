import OperateBench.Core.Protocol
import OperateBench.Maintenance.State

/-! # The Maintenance specification

The vocabulary of events and actions, the authority each event requires, the exact contract of
every payload, and the authored operation: actors, policy, message fixtures and scenarios. Behind
it are the eight reads that the operation publishes, and the one contract of what every outcome
must have read and cited.
-/

namespace OperateBench.Maintenance

open Foundation

section Vocabulary

inductive EventType where
  | customerIssueReported
  | customerResolutionReported
  | supplierVisitResponse
  | supplierWorkReported
  | supplierQuoteReceived
  | supplierInvoiceReceived
  | supplierAssertionReceived
  | approverDecisionReceived
  | operatorExceptionResolved
  | visitAttendanceVerified
  | workEvidenceVerified
  | invoiceValidationCompleted
  | paymentSettlementConfirmed
  | approvalReminderDue
  | approvalDeadlineDue
  | visitFollowupDue
  | provisionalCloseExpired
  deriving DecidableEq

namespace EventType

def text : EventType → String
  | customerIssueReported => "customer_issue_reported"
  | customerResolutionReported => "customer_resolution_reported"
  | supplierVisitResponse => "supplier_visit_response"
  | supplierWorkReported => "supplier_work_reported"
  | supplierQuoteReceived => "supplier_quote_received"
  | supplierInvoiceReceived => "supplier_invoice_received"
  | supplierAssertionReceived => "supplier_assertion_received"
  | approverDecisionReceived => "approver_decision_received"
  | operatorExceptionResolved => "operator_exception_resolved"
  | visitAttendanceVerified => "visit_attendance_verified"
  | workEvidenceVerified => "work_evidence_verified"
  | invoiceValidationCompleted => "invoice_validation_completed"
  | paymentSettlementConfirmed => "payment_settlement_confirmed"
  | approvalReminderDue => "approval_reminder_due"
  | approvalDeadlineDue => "approval_deadline_due"
  | visitFollowupDue => "visit_followup_due"
  | provisionalCloseExpired => "provisional_close_expired"

def all : List EventType :=
  [customerIssueReported, customerResolutionReported, supplierVisitResponse,
    supplierWorkReported, supplierQuoteReceived, supplierInvoiceReceived,
    supplierAssertionReceived, approverDecisionReceived, operatorExceptionResolved,
    visitAttendanceVerified, workEvidenceVerified, invoiceValidationCompleted,
    paymentSettlementConfirmed, approvalReminderDue, approvalDeadlineDue, visitFollowupDue,
    provisionalCloseExpired]

def ofText? (s : String) : Option EventType := all.find? fun t => t.text == s

theorem text_of_ofText? {s : String} {t : EventType} (h : ofText? s = some t) : t.text = s := by
  simpa using List.find?_some h

/-- The authority an actor must hold to bring the event about. -/
def authority : EventType → String
  | customerIssueReported => "report_issue"
  | customerResolutionReported => "confirm_resolution"
  | supplierVisitResponse => "respond_to_visit"
  | supplierWorkReported => "report_work"
  | supplierQuoteReceived => "submit_quote"
  | supplierInvoiceReceived => "submit_invoice"
  | supplierAssertionReceived => "assert_status"
  | approverDecisionReceived => "approve_repair_quote"
  | operatorExceptionResolved => "resolve_exception"
  | visitAttendanceVerified => "verify_attendance"
  | workEvidenceVerified => "verify_work"
  | invoiceValidationCompleted => "validate_invoice"
  | paymentSettlementConfirmed => "confirm_settlement"
  | approvalReminderDue | approvalDeadlineDue | visitFollowupDue | provisionalCloseExpired =>
    "emit_timer"

end EventType

/-- The event types that can wake an agent. -/
def wakeEventTypes : List String := sortTexts (EventType.all.map EventType.text)

inductive ActionType where
  | requestSupplierVisit
  | requestApproval
  | sendMessage
  | authoriseSupplierWork
  | requestInvoiceValidation
  | requestPayment
  | requestExceptionResolution
  deriving DecidableEq

namespace ActionType

def text : ActionType → String
  | requestSupplierVisit => "request_supplier_visit"
  | requestApproval => "request_approval"
  | sendMessage => "send_message"
  | authoriseSupplierWork => "authorise_supplier_work"
  | requestInvoiceValidation => "request_invoice_validation"
  | requestPayment => "request_payment"
  | requestExceptionResolution => "request_exception_resolution"

def all : List ActionType :=
  [requestSupplierVisit, requestApproval, sendMessage, authoriseSupplierWork,
    requestInvoiceValidation, requestPayment, requestExceptionResolution]

def ofText? (s : String) : Option ActionType := all.find? fun t => t.text == s

theorem text_of_ofText? {s : String} {t : ActionType} (h : ofText? s = some t) : t.text = s := by
  simpa using List.find?_some h

end ActionType

def roleAuthority : Dict String String := .ofList
  [("agent", "actor_claim"), ("approver", "actor_claim"),
    ("authoritative_external_system", "authoritative_verification"),
    ("customer", "actor_claim"), ("operator_human", "actor_claim"),
    ("supplier", "actor_claim"), ("system_scheduler", "system_event")]

end Vocabulary

section Payloads

/-- The primitive kinds a payload field may hold. -/
inductive PayloadKind where
  | string
  | optionalString
  | integer
  | boolean
  deriving DecidableEq

def PayloadKind.text : PayloadKind → String
  | string => "string"
  | optionalString => "optional_string"
  | integer => "integer"
  | boolean => "boolean"

structure PayloadSchema where
  required : List (String × PayloadKind)
  optional : List (String × PayloadKind)

def PayloadSchema.fields (schema : PayloadSchema) : List (String × PayloadKind) :=
  schema.required ++ schema.optional

def eventPayloadSchema : EventType → PayloadSchema
  | .customerIssueReported =>
    ⟨[("issue_id", .string), ("classification", .string), ("cycle_id", .string)],
      [("description_fixture_id", .string)]⟩
  | .customerResolutionReported =>
    ⟨[("issue_id", .string), ("status", .string)],
      [("related_visit_id", .string), ("cycle_id", .string)]⟩
  | .supplierVisitResponse =>
    ⟨[("visit_id", .string), ("cycle_id", .string), ("response", .string)], []⟩
  | .supplierWorkReported =>
    ⟨[("visit_id", .string), ("cycle_id", .string), ("outcome", .string),
      ("scope_digest", .string)], []⟩
  | .supplierQuoteReceived =>
    ⟨[("quote_id", .string), ("quote_version", .integer), ("cycle_id", .string),
      ("amount_minor", .integer), ("currency", .string), ("scope_digest", .string)],
      [("parent_cycle_id", .string)]⟩
  | .supplierInvoiceReceived =>
    ⟨[("invoice_id", .string), ("cycle_id", .string), ("quote_id", .string),
      ("quote_version", .integer), ("amount_minor", .integer), ("currency", .string)], []⟩
  | .supplierAssertionReceived =>
    ⟨[("assertion_id", .string), ("assertion", .string)], [("cycle_id", .string)]⟩
  | .approverDecisionReceived =>
    ⟨[("checkpoint_id", .string), ("quote_id", .string), ("quote_version", .integer),
      ("amount_minor", .integer), ("currency", .string), ("scope_digest", .string),
      ("decision", .string)], [("cycle_id", .string)]⟩
  | .operatorExceptionResolved =>
    ⟨[("checkpoint_id", .string), ("decision", .string)], [("cycle_id", .string)]⟩
  | .visitAttendanceVerified =>
    ⟨[("visit_id", .string), ("cycle_id", .string), ("attended", .boolean)], []⟩
  | .workEvidenceVerified =>
    ⟨[("evidence_id", .string), ("visit_id", .string), ("cycle_id", .string),
      ("scope_digest", .string), ("outcome", .string)], []⟩
  | .invoiceValidationCompleted =>
    ⟨[("validation_id", .string), ("invoice_id", .string), ("valid", .boolean)],
      [("reason_code", .string), ("cycle_id", .string)]⟩
  | .paymentSettlementConfirmed =>
    ⟨[("settlement_id", .string), ("payment_request_id", .string), ("invoice_id", .string),
      ("cycle_id", .string), ("amount_minor", .integer), ("currency", .string)], []⟩
  | .approvalReminderDue | .approvalDeadlineDue =>
    ⟨[("checkpoint_id", .string), ("cycle_id", .string)], []⟩
  | .visitFollowupDue | .provisionalCloseExpired => ⟨[("cycle_id", .string)], []⟩

/-- Only a version with recovery lets a message name the failed intent it repeats. -/
def actionPayloadSchema (recoveryEnabled : Bool) : ActionType → PayloadSchema
  | .requestSupplierVisit =>
    ⟨[("visit_type", .string), ("cycle_id", .string)], [("scope_digest", .optionalString)]⟩
  | .requestApproval =>
    ⟨[("quote_id", .string), ("quote_version", .integer), ("amount_minor", .integer),
      ("currency", .string), ("scope_digest", .string), ("cycle_id", .string),
      ("deadline_after_minutes", .integer)], []⟩
  | .sendMessage =>
    ⟨[("recipient_actor_id", .string), ("message_fixture_id", .string)],
      ("correlation_id", .optionalString) ::
        if recoveryEnabled then [("recovery_of", .integer)] else []⟩
  | .authoriseSupplierWork =>
    ⟨[("quote_id", .string), ("quote_version", .integer), ("approval_checkpoint_id", .string),
      ("cycle_id", .string)], []⟩
  | .requestInvoiceValidation => ⟨[("invoice_id", .string)], []⟩
  | .requestPayment =>
    ⟨[("invoice_id", .string), ("amount_minor", .integer), ("currency", .string)], []⟩
  | .requestExceptionResolution =>
    ⟨[("exception_type", .string), ("approval_checkpoint_id", .string),
      ("deadline_after_minutes", .integer)], []⟩

def checkText (place name : String) (kind : PayloadKind) (value : Value) : Except String Unit :=
  match value with
  | .bool _ => .error s!"{place}: payload field {pyRepr name} must be a string, got a boolean"
  | .str s =>
    if s = "" then .error s!"{place}: payload field {pyRepr name} must be a non-empty string"
    else .ok ()
  | _ => .error
    s!"{place}: payload field {pyRepr name} must be a {kind.text}, got {value.typeName}"

/-- Hold one field to its kind. A boolean is neither a quantity nor a text. -/
def checkField (place name : String) (kind : PayloadKind) (value : Value) : Except String Unit :=
  match kind, value with
  | .optionalString, .none => .ok ()
  | .string, _ | .optionalString, _ => checkText place name kind value
  | .integer, .bool _ => .error (s!"{place}: payload field {pyRepr name} must be an integer, " ++
      "got a boolean; a yes/no answer is not a quantity")
  | .integer, .int _ | .boolean, .bool _ => .ok ()
  | .integer, _ | .boolean, _ => .error
    s!"{place}: payload field {pyRepr name} must be a {kind.text}, got {value.typeName}"

def checkFields (place : String) (payload : Fields) :
    List (String × PayloadKind) → Except String Unit
  | [] => .ok ()
  | (name, kind) :: fields => do
    match payload.get? name with
    | none => .ok ()
    | some value => checkField place name kind value
    checkFields place payload fields

/-- Hold a payload to the exact contract its type declares, or say what is wrong. -/
def validatePayload (schema : PayloadSchema) (payload : Fields) (place what : String) :
    Except String Unit :=
  let allowed := schema.fields.map Prod.fst
  let unknown := sortTexts (payload.keys.filter fun name => name ∉ allowed)
  let missing := sortTexts ((schema.required.map Prod.fst).filter fun name =>
    !payload.contains name)
  if unknown ≠ [] then
    .error (s!"{place}: payload: unknown field(s) {reprList unknown}; this build refuses a spec " ++
      s!"it cannot fully honour. Known fields are {reprList (sortTexts allowed)}")
  else if missing ≠ [] then
    .error (s!"{place}: payload for {pyRepr what} is missing required field(s) " ++
      s!"{reprList missing}; the handler indexes these, so a payload without them " ++
      "cannot be executed")
  else checkFields place payload schema.fields

variable {schema : PayloadSchema} {payload : Fields} {place what name : String}

theorem checkText_ok {kind : PayloadKind} {value : Value}
    (h : checkText place name kind value = .ok ()) : ∃ s, value = .str s ∧ s ≠ "" := by
  unfold checkText at h
  split at h
  · cases h
  · rename_i s
    split at h
    · cases h
    · exact ⟨s, rfl, ‹_›⟩
  · cases h

theorem checkFields_ok {fields : List (String × PayloadKind)} {kind : PayloadKind} {value : Value}
    (h : checkFields place payload fields = .ok ()) (hm : (name, kind) ∈ fields)
    (hv : payload.get? name = some value) : checkField place name kind value = .ok () := by
  induction fields with
  | nil => cases hm
  | cons field fields ih =>
    rw [checkFields] at h
    rcases List.mem_cons.mp hm with rfl | hm
    · rw [hv] at h
      exact (bind_ok h).choose_spec.1
    · split at h
      · exact ih (bind_ok h).choose_spec.2 hm
      · exact ih (bind_ok h).choose_spec.2 hm

theorem validatePayload_ok (h : validatePayload schema payload place what = .ok ()) :
    (∀ e ∈ schema.required, payload.contains e.1 = true) ∧
      checkFields place payload schema.fields = .ok () := by
  unfold validatePayload at h
  dsimp only at h
  split at h
  · cases h
  split at h
  · cases h
  · rename_i hmissing
    refine ⟨fun e he => ?_, h⟩
    by_contra hc
    have hm : e.1 ∈ sortTexts ((schema.required.map Prod.fst).filter fun name =>
        !payload.contains name) := by
      rw [sortTexts, List.mem_insertionSort, List.mem_filter]
      exact ⟨List.mem_map_of_mem he, by simpa using hc⟩
    rw [not_not.mp hmissing] at hm
    cases hm

/-- A required text is there and not empty. -/
theorem validated_text (h : validatePayload schema payload place what = .ok ())
    (hm : (name, .string) ∈ schema.required) : ∃ s, payload.get name = .str s ∧ s ≠ "" := by
  obtain ⟨hrequired, hchecked⟩ := validatePayload_ok h
  obtain ⟨value, hv⟩ := Dict.contains_iff.mp (hrequired _ hm)
  have hfield : (name, .string) ∈ schema.fields := List.mem_append_left _ hm
  obtain ⟨s, rfl, hs⟩ := checkText_ok (checkFields_ok hchecked hfield hv)
  exact ⟨s, by rw [Fields.get, hv, Option.getD_some], hs⟩

/-- An optional text is missing or not empty. -/
theorem validated_text? (h : validatePayload schema payload place what = .ok ())
    (hm : (name, .optionalString) ∈ schema.optional) :
    payload.get name = .none ∨ ∃ s, payload.get name = .str s ∧ s ≠ "" := by
  cases hv : payload.get? name with
  | none => exact Or.inl (by rw [Fields.get, hv, Option.getD_none])
  | some value =>
    have hfield := checkFields_ok (validatePayload_ok h).2
      (List.mem_append_right schema.required hm) hv
    rw [Fields.get, hv, Option.getD_some]
    unfold checkField at hfield
    split at hfield
    · exact Or.inl rfl
    · exact Or.inr (checkText_ok hfield)
    · exact Or.inr (checkText_ok hfield)
    all_goals simp_all

end Payloads

section Operation

structure ActorSpec where
  actorId : String
  role : String
  authority : List String

def ActorSpec.holds (actor : ActorSpec) (authority : String) : Bool := authority ∈ actor.authority

/-- Every number of the policy is positive. -/
abbrev Positive := {n : Int // 0 < n}

structure PolicySpec where
  currency : String
  issueClassification : String
  approvalThresholdMinor : Positive
  approvalReminderAfterMinutes : Positive
  approvalDeadlineAfterMinutes : Positive
  approvalValidityMinutes : Positive
  provisionalCloseMinutes : Positive
  visitFollowupAfterMinutes : Positive
  completionNoticeWithinMinutes : Positive
  maxTurnsPerInvocation : Positive
  horizonMinutes : Positive
  maxRetrievalBatchesPerInvocation : Positive

structure ScenarioSpec where
  startsAt : String
  humanCheckpointBudget : ℕ
  events : List PlannedEvent

structure OperationSpec where
  operationVersion : String
  actors : Dict String ActorSpec
  policy : PolicySpec
  messageFixtures : Dict String String
  hiddenState : Fields

/-- The one version whose transfer notices have a secondary channel. -/
def OperationSpec.recoveryEnabled (spec : OperationSpec) : Bool := spec.operationVersion = "0.7.0"

end Operation

section Tools

def recordVersionLength : ℕ := 16

def recordVersionContext : String := "maintenance retrieval record"

def recordIdentitySuffix : String := "maintenance_case"

def recordIdentity (source : String) : String := s!"{source}:{recordIdentitySuffix}"

structure RetrievalToolSpec where
  tool : String
  source : String
  authority : String
  roots : List String

namespace RetrievalToolSpec

def schemaId (spec : RetrievalToolSpec) : String :=
  let revision := if spec.tool ∈ ["get_case_record", "list_communications"] then "v2" else "v1"
  s!"maintenance.{spec.tool}.{revision}"

def catalogueEntry (spec : RetrievalToolSpec) : CatalogueEntry :=
  ⟨spec.source, spec.authority, spec.schemaId, Dict.empty⟩

end RetrievalToolSpec

def retrievalTools : List RetrievalToolSpec :=
  [⟨"get_case_record", "case_service", Authority.systemOfRecord,
      ["phase", "issue_id", "issue_reporting_actor_id", "classification", "customer_resolution",
        "current_cycle_id", "cycles", "ownership_transferred_to", "transfer_notice_sent",
        "provisional_close", "reopen_count", "terminal", "replay_final"]⟩,
    ⟨"list_authoritative_records", "verification_service", Authority.authoritativeVerification,
      ["authoritative_records"]⟩,
    ⟨"list_billing", "billing_service", Authority.systemOfRecord, ["invoices", "payment"]⟩,
    ⟨"list_checkpoints", "approval_service", Authority.systemOfRecord,
      ["approvals", "exceptions"]⟩,
    ⟨"list_communications", "messaging_service", Authority.communication, ["communications"]⟩,
    ⟨"list_obligations", "obligation_service", Authority.systemOfRecord, ["obligations"]⟩,
    ⟨"list_quotes", "quoting_service", Authority.systemOfRecord, ["quotes"]⟩,
    ⟨"list_recent_events", "inbox_service", Authority.actorClaim, ["assertions"]⟩]

def retrievalTool? (tool : String) : Option RetrievalToolSpec :=
  retrievalTools.find? fun spec => spec.tool == tool

/-- The published catalogue. The tools are listed in the order of their names. -/
def retrievalCatalogue : Catalogue :=
  .ofList (retrievalTools.map fun spec => (spec.tool, spec.catalogueEntry))

def retrievalRecordContract : List Value :=
  [.str recordIdentitySuffix, .str recordVersionContext, .str "canonical-json-sha256-prefix-v1",
    .int recordVersionLength]

def recordVersion (sha256 : Value → String) (records : Fields) : String :=
  String.ofList ((sha256 records.asDict).toList.take recordVersionLength)

/-- The named roots of a projection that holds them. -/
def selectRoots (observable : Fields) (roots : List String) : Except PyError Fields := do
  let selected ← roots.mapM fun root =>
    match observable.get? root with
    | some value => .ok (root, value)
    | none => .error (.key root)
  return .ofList selected

/-- Answer one canonical batch, in order, at one instant. -/
def serveRequests (sha256 : Value → String) (observable : Fields) (asOf : String) :
    List RetrievalRequest → Except PyError (List ToolResult)
  | [] => .ok []
  | request :: requests =>
    match retrievalTool? request.tool with
    | none => .error (.key request.tool)
    | some spec => do
      let records ← selectRoots observable spec.roots
      let rest ← serveRequests sha256 observable asOf requests
      return {
        tool := spec.tool
        source := spec.source
        authority := spec.authority
        recordId := recordIdentity spec.source
        recordVersion := recordVersion sha256 records
        asOf
        schemaId := spec.schemaId
        records
        ok := true
        errorCode := none } :: rest

end Tools

section Contract

open EvidenceSelector

def reads (tools : List String) : Dict String ReadStrength :=
  .ofList (tools.map fun tool => (tool, .required))

def approvalKey : EvidenceSelector :=
  payloadRegistryKey "list_checkpoints" "approvals" "approval_checkpoint_id"

def invoiceWork : EvidenceSelector :=
  workEvidenceForInvoice "list_billing" "invoices" "invoice_id" "get_case_record" "cycles"
    "list_authoritative_records" "authoritative_records"

/-- What each outcome must have read, and what it must cite. -/
def actionEvidenceContract : ActionEvidenceContract := .ofList
  [("request_supplier_visit", ⟨reads ["get_case_record"], []⟩),
    ("request_approval", ⟨reads ["get_case_record", "list_checkpoints", "list_quotes"], []⟩),
    ("send_message", ⟨reads ["get_case_record", "list_communications"], []⟩),
    ("authorise_supplier_work",
      ⟨reads ["get_case_record", "list_checkpoints", "list_quotes"], [approvalKey]⟩),
    ("request_invoice_validation",
      ⟨reads ["get_case_record", "list_authoritative_records", "list_billing"], [invoiceWork]⟩),
    ("request_payment",
      ⟨reads ["get_case_record", "list_authoritative_records", "list_billing"],
        [payloadRegistryKey "list_billing" "invoices" "invoice_id", invoiceWork]⟩),
    ("request_exception_resolution",
      ⟨reads ["get_case_record", "list_checkpoints", "list_quotes"],
        [approvalKey, quoteForSelectedApproval "list_checkpoints" "approvals"
          "approval_checkpoint_id" "list_quotes" "quotes"]⟩),
    (completeOutcomeKey,
      ⟨reads ["get_case_record", "list_billing", "list_checkpoints", "list_obligations"], []⟩)]

end Contract

end OperateBench.Maintenance
