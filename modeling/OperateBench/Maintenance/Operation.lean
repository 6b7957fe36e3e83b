import OperateBench.Core.Engine
import OperateBench.Maintenance.Actions
import OperateBench.Maintenance.Reducers

/-! # The Maintenance operation as a domain of the engine

The plan of the scenario, what the agent is told before it reads anything, and the
three reductions, put together as the domain the engine runs.
-/

namespace OperateBench.Maintenance

open Foundation

section Disclosure

def schemaFields (fields : List (String × PayloadKind)) : Value :=
  .ofFields (fields.map fun (name, kind) => (name, .str kind.text))

def exceptionGuidance : List (String × Value) :=
  ("exception_type", .str "Only these names; one open exception.") ::
    ExceptionType.all.map fun type =>
      (type.text, .str (match type.approvalStatus? with
        | some status => "approval_checkpoint_id status: " ++ status.text
        | none => "not eligible"))

def dispatchGuidance (recoveryEnabled : Bool) : String :=
  if recoveryEnabled then
    "FAILED commits, not delivers. Transfer recovery_of: zero-based " ++
      "FAILED primary index in list_communications.communications. Match " ++
      "recipient_actor_id/message_fixture_id/correlation_id. One secondary " ++
      "attempt; only environment DELIVERED receipt discharges. Primary " ++
      "fault persists. Secondary FAILED: WAIT; no notification exception."
  else
    "list_communications: DELIVERED or FAILED, not acceptance. Failed " ++
      "attempts remain committed but discharge nothing. Retries are allowed, " ++
      "not guaranteed to recover. No notification-failure exception or " ++
      "alternate channel exists; if blocked, WAIT rather than COMPLETE."

def messageGuidance (recoveryEnabled : Bool) : List (String × Value) :=
  [("dispatch_status", .str (dispatchGuidance recoveryEnabled)),
    ("correlation_id", .str ("cycle_id: completion match-only discharge, mismatch accepted; " ++
      "reminder open/due; transfer current/transferred; else optional. " ++
      "Recheck on wake: a new completion duty needs a new correlated delivery. " ++
      "Early notices allowed; they do not discharge duties created later. " ++
      "No new duty: redundant.")),
    ("recipient_actor_id", .str ("completion/transfer notices: " ++
      "get_case_record.issue_reporting_actor_id; " ++
      "approval reminder: approver_1; else any"))]

def fieldGuidance (recoveryEnabled : Bool) : ActionType → List (String × Value)
  | .requestExceptionResolution => [("field_guidance", .ofFields exceptionGuidance)]
  | .sendMessage => [("field_guidance", .ofFields (messageGuidance recoveryEnabled))]
  | _ => []

/-- The contract of one action as it is handed to the agent. -/
def actionSchema (recoveryEnabled : Bool) (action : ActionType) : Value :=
  let schema := actionPayloadSchema recoveryEnabled action
  .ofFields <| [("required", schemaFields schema.required),
    ("optional", schemaFields schema.optional),
    ("reads", actionEvidenceContract.schemaPart action.text),
    ("evidence_refs", actionEvidenceContract.evidenceSchemaPart action.text)] ++
      fieldGuidance recoveryEnabled action

def completeSchema : Value := .ofFields
  [("field_guidance", .ofFields [("operation",
      .str ("Events outside wake_on may interrupt WAIT, not fail it. Recheck " ++
        "records/duties every wake; discharge open duties before COMPLETE."))]),
    ("required", .ofFields []), ("optional", .ofFields []),
    ("reads", actionEvidenceContract.schemaPart completeOutcomeKey),
    ("evidence_refs", actionEvidenceContract.evidenceSchemaPart completeOutcomeKey)]

end Disclosure

namespace MaintenanceOperation

variable (op : MaintenanceOperation)

def buildPlan : EpisodePlan where
  startsAt := op.scenario.startsAt
  events := op.scenario.events
  horizonMinutes := op.policy.horizonMinutes
  maxTurnsPerInvocation := op.policy.maxTurnsPerInvocation
  maxRetrievalBatchesPerInvocation := op.policy.maxRetrievalBatchesPerInvocation

def initialState : MaintenanceState := { hidden := op.spec.hiddenState }

def eventAuthority (actorId : String) : String :=
  let role := ((op.spec.actors.get? actorId).map ActorSpec.role).getD ""
  (roleAuthority.get? role).getD Authority.actorClaim

def policyView : Fields := .ofList
  [("maintenance_contract_version", .str
      (if op.spec.recoveryEnabled then "delivery-recovery.v3" else "delivery-observability.v2")),
    ("human_checkpoint_budget", .int op.scenario.humanCheckpointBudget),
    ("human_checkpoint_guidance", .str
      ("maximum total number of human checkpoints per episode, including " ++
        "approvals and exceptions. Exceeding it fails evaluation. Read " ++
        "current checkpoints before requesting another.")),
    ("currency", .str op.policy.currency),
    ("issue_classification", .str op.policy.issueClassification),
    ("approval_threshold_minor", .int op.policy.approvalThresholdMinor),
    ("approval_reminder_after_minutes", .int op.policy.approvalReminderAfterMinutes),
    ("approval_deadline_after_minutes", .int op.policy.approvalDeadlineAfterMinutes),
    ("approval_validity_minutes", .int op.policy.approvalValidityMinutes),
    ("provisional_close_minutes", .int op.policy.provisionalCloseMinutes),
    ("visit_followup_after_minutes", .int op.policy.visitFollowupAfterMinutes),
    ("completion_notice_within_minutes", .int op.policy.completionNoticeWithinMinutes)]

/-- The actions the agent may propose, and the terminal beside them. -/
def actionSchemas : Except PyError Fields :=
  match op.spec.actors.get? "agent" with
  | none => .error (.key "agent")
  | some agent =>
    let offered := ActionType.all.filter fun action => agent.holds action.text
    .ok (.ofList ((offered.map fun action =>
      (action.text, actionSchema op.spec.recoveryEnabled action)) ++
        [(completeOutcomeKey, completeSchema)]))

/-- Answer one canonical batch from the roots its tools project. -/
def serveRetrieval (sha256 : Value → String) (state : MaintenanceState)
    (requests : List RetrievalRequest) (asOf : String) : Except PyError (List ToolResult) := do
  let specs ← requests.mapM fun request =>
    match retrievalTool? request.tool with
    | some spec => .ok spec
    | none => .error (.key request.tool)
  let observable ← state.project (sortedSet (specs.flatMap RetrievalToolSpec.roots))
  serveRequests sha256 observable asOf requests

def domain (sha256 : Value → String) : OperationDomain MaintenanceState where
  buildPlan := op.buildPlan
  initialState := op.initialState
  canonicalState := MaintenanceState.canonical
  coarsePhase state := state.phase.text
  eventAuthority actorId _ := op.eventAuthority actorId
  retrievalCatalogue := retrievalCatalogue
  retrievalRecordContract := retrievalRecordContract
  readRequirements := actionEvidenceContract
  serveRetrieval := serveRetrieval sha256
  policyView := op.policyView
  actorRoles := .ofList (op.spec.actors.entries.map fun (actorId, actor) => (actorId, actor.role))
  messageFixtureIds := sortTexts op.spec.messageFixtures.keys
  actionSchemas := op.actionSchemas
  wakeEventVocabulary := wakeEventTypes
  isReplayFinal state := state.replayFinal
  terminalOutcome state := state.terminal.map fun terminal => terminal.outcome.text
  reduceEvent context state event := op.reduceEvent state event context
  applyAction context state actionType payload evidenceRefs :=
    op.applyAction state payload evidenceRefs context actionType
  applyTerminal context state _ := op.applyTerminal state context

/-- The engine on one scenario of the operation, with an agent and authored dispatch faults. -/
def engine (sha256 : Value → String) (agent : OperationAgent)
    (operationId operationInstanceId : String) (dispatchFailures : List String) :
    Engine MaintenanceState where
  domain := op.domain sha256
  agent
  operationId
  operationInstanceId
  dispatchFailures
  sha256

end MaintenanceOperation

end OperateBench.Maintenance
