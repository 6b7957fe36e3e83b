import OperateBench.Core.Evaluation
import OperateBench.Maintenance.Operation

/-! # The duties as the grader sees them

Delivery is reconstructed from proposals and the effects accepted for them, not from what the
record asserts about itself. The trajectory is a list of rows and the final state the mapping of
its roots. What the grader finds in them is stated in terms of the record that was written.
-/

namespace OperateBench.Maintenance

namespace Evaluator

variable (trajectory : List Record) (finalState : Fields)

def rows (recordType : String) : List Record :=
  trajectory.filter fun row => row.isType recordType

section Delivery

/-- The row accepts the proposed send. -/
def acceptsSend (proposal row : Record) : Bool :=
  row.isType "effect_accepted" && (row.get "proposal_id").same (proposal.get "proposal_id") &&
    row.gives "action_type" "send_message" && row.gives "code" "ACCEPTED"

def proposesSend (row : Record) : Bool :=
  row.isType "action_proposed" && row.gives "action_type" "send_message"

/-- The accepted sends before a position: where each was proposed, where accepted, and the
proposal. -/
def committedSends (start : ℕ) : List (ℕ × ℕ × Record) :=
  (trajectory.take start).zipIdx.filterMap fun (proposal, position) =>
    if proposesSend proposal then
      match positions trajectory fun stop row =>
          position < stop && stop < start && acceptsSend proposal row with
      | [stop] => some (position, stop, proposal)
      | _ => none
    else none

def intentFields : List String := ["recipient_actor_id", "message_fixture_id", "correlation_id"]

/-- The receipt recovers an intent that was committed, failed and never recovered before. -/
def recoveryReceiptBound (start : ℕ) (payload : Value) (receipt : Record) : Bool :=
  let communications := (finalState.get "communications").items
  match payload.field "recovery_of" with
  | .int (.ofNat index) =>
    match communications[index]?, (committedSends trajectory start)[index]? with
    | some original, some (position, stop, proposal) =>
      let originalPayload := proposal.get "payload"
      let rows := interval trajectory position stop
      (receipt.get "recovery_of").isInt index && receipt.gives "dispatch_channel" "secondary" &&
        (original.field "dispatch_status").isStr "FAILED" &&
        (original.lookup? "recovery_of").isNone &&
        (payload.field "message_fixture_id").isStr "msg_transfer_notice" &&
        (intentFields.all fun name => (original.field name).same (payload.field name)) &&
        (communications.countP fun row => (row.field "recovery_of").isInt index) == 1 &&
        (originalPayload.lookup? "recovery_of").isNone &&
        (intentFields.all fun name => (originalPayload.field name).same (payload.field name)) &&
        (original.field "at").isStr proposal.instant &&
        (trajectory[stop]?.any fun accepted => accepted.instant = proposal.instant &&
          (accepted.get "cycle_id").same (originalPayload.field "correlation_id")) &&
        (match rows.filter fun row => row.isType "side_effect_failed" with
          | [failure] => failure.gives "channel" "message_dispatch" &&
            (failure.payload.get? "dispatch_channel").isNone &&
            (failure.payload.get? "recovery_of").isNone &&
            (failure.get "message_fixture_id").same (payload.field "message_fixture_id") &&
            (failure.get "recipient_actor_id").same (payload.field "recipient_actor_id") &&
            (failure.get "committed_decision_preserved").isTrue
          | _ => false) &&
        !rows.any fun row =>
          row.recordType ∈ ["side_effect", "action_rejected", "action_proposed"]
    | _, _ => false
  | _ => false

/-- The send proposed at `start` was accepted and its one receipt says delivered. -/
def sendDelivered (fixture recipient cycle : String) (start : ℕ) (proposal : Record) : Bool :=
  let payload := proposal.get "payload"
  match positions trajectory fun stop row => start < stop && acceptsSend proposal row &&
      row.gives "cycle_id" cycle && row.instant = proposal.instant with
  | [stop] =>
    let rows := interval trajectory start stop
    !(rows.any fun row =>
      row.recordType ∈ ["action_proposed", "action_rejected", "side_effect_failed"]) &&
    match rows.filter fun row => row.isType "side_effect" with
    | [receipt] =>
      receipt.gives "channel" "message_dispatch" && receipt.gives "status" "DELIVERED" &&
        receipt.gives "message_fixture_id" fixture && receipt.gives "recipient_actor_id" recipient &&
        receipt.instant = proposal.instant &&
        (if (payload.lookup? "recovery_of").isSome then
          recoveryReceiptBound trajectory finalState start payload receipt
        else (receipt.payload.get? "recovery_of").isNone &&
          (receipt.payload.get? "dispatch_channel").isNone) &&
        (finalState.get "communications").items.any fun message =>
          (message.field "message_fixture_id").isStr fixture &&
            (message.field "recipient_actor_id").isStr recipient &&
            (message.field "correlation_id").isStr cycle &&
            (message.field "at").isStr proposal.instant &&
            ((message.lookup? "dispatch_status").getD (.str "DELIVERED")).isStr "DELIVERED" &&
            (message.field "recovery_of").same (payload.field "recovery_of") &&
            (message.field "dispatch_channel").same (receipt.get "dispatch_channel")
    | _ => false
  | _ => false

/-- Re-derive delivery inside one interval between a proposal and its acceptance. -/
def messageDelivered (fixture recipient cycle : String) (after : ℕ) (before : Option ℕ) : Bool :=
  trajectory.zipIdx.any fun (proposal, start) =>
    let payload := proposal.get "payload"
    after < start && before.all (fun limit => start < limit) && proposesSend proposal &&
      payload.isMapping && (payload.field "message_fixture_id").isStr fixture &&
      (payload.field "recipient_actor_id").isStr recipient &&
      (payload.field "correlation_id").isStr cycle &&
      sendDelivered trajectory finalState fixture recipient cycle start proposal

end Delivery

section Established

/-- The actors whose report of the issue was accepted. -/
def customers : Except PyError (List Value) :=
  Value.asSet (((rows trajectory "event_observed").filter fun row =>
    row.gives "event_type" "customer_issue_reported" && row.gives "code" "ACCEPTED").map fun row =>
      row.get "actor_id")

/-- The row accepts the action, on the checkpoint. -/
def acceptsCheckpoint (actionType : String) (checkpoint : Value) (row : Record) : Bool :=
  row.isType "effect_accepted" && row.gives "action_type" actionType &&
    row.gives "code" "ACCEPTED" && ((row.get "bindings").field "checkpoint_id").same checkpoint

def transferNotificationEstablished : Except PyError Bool := do
  match ← customers trajectory with
  | [customer] =>
    return trajectory.zipIdx.any fun (resolved, position) =>
      resolved.isType "checkpoint_resolved" &&
        resolved.gives "checkpoint_type" "maintenance_exception_resolution" &&
        resolved.gives "resolution" "TAKE_OWNERSHIP" &&
        (trajectory.take position).any fun effect =>
          acceptsCheckpoint "request_exception_resolution" (resolved.get "checkpoint_id") effect &&
            messageDelivered trajectory finalState "msg_transfer_notice" customer.text
              (effect.get "cycle_id").text position none
  | _ => return false

/-- `text.removeprefix(stem)`. -/
def removePrefix (stem text : String) : String :=
  if stem.toList.isPrefixOf text.toList then String.ofList (text.toList.drop stem.length) else text

def reminderEstablished (obligationId : String) : Bool :=
  let checkpoint := removePrefix "approval_reminder:" obligationId
  trajectory.zipIdx.any fun (opened, position) =>
    let ends := positions trajectory fun i row => position < i &&
      row.isType "checkpoint_resolved" && row.gives "checkpoint_id" checkpoint
    let due := positions trajectory fun _ row => row.isType "event_observed" &&
      row.gives "event_id" (reminderTimerId checkpoint) && row.gives "code" "ACCEPTED"
    opened.isType "checkpoint_opened" && opened.gives "checkpoint_type" "repair_quote_approval" &&
      opened.gives "checkpoint_id" checkpoint &&
      (trajectory.drop (position + 1)).any fun effect =>
        acceptsCheckpoint "request_approval" (.str checkpoint) effect &&
          due.any fun fired =>
            messageDelivered trajectory finalState "msg_approval_reminder"
              (opened.get "assignee_actor_id").text (effect.get "cycle_id").text
              (max position fired) ends.head?

/-- The last acceptance of the send with this proposal. -/
def acceptedAt (proposalId : Value) : Option (ℕ × Record) :=
  (trajectory.zipIdx.filter fun (row, _) => row.isType "effect_accepted" &&
    row.gives "action_type" "send_message" &&
    (row.get "proposal_id").same proposalId).getLast?.map Prod.swap

/-- The send at `position` gave the notice that the duty asked for. -/
def givesNotice (obligationId : String) (cycleId : Value) (position : ℕ) (row : Record) : Bool :=
  let payload := row.get "payload"
  let created := positions trajectory fun _ row => row.isType "obligation_created" &&
    row.gives "obligation_id" obligationId
  let discharged := positions trajectory fun _ row => row.isType "obligation_discharged" &&
    row.gives "obligation_id" obligationId
  (payload.field "message_fixture_id").isStr "msg_completion_notice" &&
    (payload.field "correlation_id").same cycleId &&
    ((acceptedAt trajectory (row.get "proposal_id")).any fun (stop, accepted) =>
      position < stop && (accepted.get "cycle_id").same cycleId &&
        accepted.instant = row.instant && accepted.gives "code" "ACCEPTED" &&
        (created.any fun start => start < position) &&
        discharged.any fun fin => position < fin && fin < stop) &&
    (finalState.get "communications").items.any fun message =>
      (message.field "recipient_actor_id").same (payload.field "recipient_actor_id") &&
        (message.field "message_fixture_id").isStr "msg_completion_notice" &&
        (message.field "correlation_id").same cycleId &&
        (message.field "at").isStr row.instant

/-- Look for the send that gave the notice, row by row. -/
def noticeEstablished (customers : List Value) (obligationId : String) (cycleId : Value) :
    List (Record × ℕ) → Except PyError Bool
  | [] => .ok false
  | (row, position) :: rest => do
    let payload := row.get "payload"
    if proposesSend row && payload.isMapping && customers.length == 1 then
      let addressed ← (payload.field "recipient_actor_id").isIn customers
      if addressed && givesNotice trajectory finalState obligationId cycleId position row then
        return true
      else noticeEstablished customers obligationId cycleId rest
    else noticeEstablished customers obligationId cycleId rest

end Established

section Obligations

/-- A discharged notice that no send accounts for. -/
def noticeFinding (customers : List Value) (obligationId : String) (obligation : Value) :
    Except PyError (List Finding) :=
  if (obligation.field "kind").isStr "customer_completion_notice" &&
      (obligation.field "status").isStr "DISCHARGED" then do
    let established ← noticeEstablished trajectory finalState customers obligationId
      (obligation.field "cycle_id") trajectory.zipIdx
    return if established then [] else [{
      code := "CUSTOMER_NOTICE_NOT_ESTABLISHED"
      detail := s!"discharged customer notice {obligationId} lacks a causally " ++
        "accepted completion message to the issue-reporting customer for that cycle" }]
  else .ok []

/-- A discharged reminder that no delivery accounts for. -/
def reminderFinding (obligationId : String) (obligation : Value) : List Finding :=
  if (obligation.field "kind").isStr "approval_reminder" &&
      (obligation.field "status").isStr "DISCHARGED" &&
      !reminderEstablished trajectory finalState obligationId then
    [⟨"OBLIGATION_MESSAGE_NOT_ESTABLISHED", s!"reminder {obligationId} lacks bound delivery", none⟩]
  else []

/-- A transfer of which the customer was not told. -/
def transferFinding (status : String) : Except PyError (List Finding) :=
  if status = TerminalOutcome.transferredToHumanOwnership.text then do
    let established ← transferNotificationEstablished trajectory finalState
    return if established then [] else
      [⟨"OBLIGATION_MESSAGE_NOT_ESTABLISHED", "transfer lacks bound customer delivery", none⟩]
  else .ok []

def breachFinding (row : Record) : Finding where
  code := "SLA_BREACH"
  detail := "obligation " ++ (row.get "obligation_id").text ++ " (" ++ (row.get "kind").text ++
    ") went past its authored deadline"
  instant := some row.instant

def terminalOutcomes : List String :=
  [TerminalOutcome.completedSuccessfully.text, TerminalOutcome.transferredToHumanOwnership.text]

/-- The duties of the final state that are still open. -/
def stillOpen : List String :=
  sortTexts (((finalState.get "obligations").fields.filter fun e =>
    (e.2.field "status").isStr "OPEN").map Prod.fst)

def openFinding (status : String) : List Finding :=
  if status ∈ terminalOutcomes ∧ stillOpen finalState ≠ [] then
    [⟨"OBLIGATION_OPEN_AT_TERMINAL",
      s!"the operation ended with {reprList (stillOpen finalState)} still open", none⟩]
  else []

def obligations (status : String) : Except PyError Dimension := do
  let breached := rows trajectory "obligation_breached"
  let customers ← customers trajectory
  let duties := (finalState.get "obligations").fields
  let notices ← duties.mapM fun (id, obligation) =>
    noticeFinding trajectory finalState customers id obligation
  let reminders := duties.flatMap fun (id, obligation) =>
    reminderFinding trajectory finalState id obligation
  let transfer ← transferFinding trajectory finalState status
  let findings := breached.map breachFinding ++ notices.flatten ++ reminders ++ transfer ++
    openFinding finalState status
  return {
    name := "obligations"
    ok := findings.isEmpty
    findings
    counts := [("breached", breached.length), ("open_at_end", (stillOpen finalState).length),
      ("created", (rows trajectory "obligation_created").length)] }

end Obligations

end Evaluator

end OperateBench.Maintenance

namespace OperateBench

open Foundation

namespace Maintenance

open MaintenanceState

variable {s : MaintenanceState}

/-- Every root is found in the canonical record under its name. -/
theorem canonical_get {name : String} {v : Value} (h : (name, v) ∈ s.roots) :
    s.canonical.get name = v := by
  have hn : ((s.roots ++ [("hidden", s.hidden.asDict)]).map Prod.fst).Nodup := by
    simp [roots]
  rw [Fields.get, canonical, Dict.get?_ofList hn (List.mem_append_left _ h), Option.getD_some]

theorem communications_items :
    (s.canonical.get "communications").items = s.communications.map Communication.asDict := by
  rw [canonical_get (v := .list (s.communications.map Communication.asDict)) (by simp [roots])]
  rfl

namespace Obligation

variable (duty : Obligation)

@[simp] theorem field_status : duty.asDict.field "status" = .str duty.status.text := by
  simp [asDict, Value.field, Value.lookup?_ofFields]

@[simp] theorem field_kind : duty.asDict.field "kind" = .str duty.kind.text := by
  simp [asDict, Value.field, Value.lookup?_ofFields]

@[simp] theorem field_dueAt : duty.asDict.field "due_at" = .str duty.dueAt := by
  simp [asDict, Value.field, Value.lookup?_ofFields]

@[simp] theorem field_closedAt : duty.asDict.field "closed_at" = .ofText? duty.closedAt := by
  simp [asDict, Value.field, Value.lookup?_ofFields]

@[simp] theorem field_cycleId : duty.asDict.field "cycle_id" = .ofText? duty.cycleId := by
  simp [asDict, Value.field, Value.lookup?_ofFields]

end Obligation

end Maintenance

end OperateBench
