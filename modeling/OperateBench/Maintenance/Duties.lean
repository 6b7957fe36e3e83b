import OperateBench.Foundation.Naming
import OperateBench.Maintenance.Messages

/-! # What handlers do to duties

A handler works on its transaction by a few operations. `Op` names them, with the
duties that may be discharged and the rows that may be written beside those about
duties; every call is a refusal or a sequence of such operations.
-/

namespace OperateBench.Maintenance

open Foundation Relation

variable {op : MaintenanceOperation} {s : MaintenanceState} {context : EnvironmentContext}
  {now : String} {r : Reduction MaintenanceState} {event : Event}

/-- What the row about a new duty says. -/
def Obligation.createdRow (duty : Obligation) : List (String × Value) :=
  [("obligation_id", .str duty.obligationId), ("kind", .str duty.kind.text),
    ("due_at", .str duty.dueAt)]

/-- What the row about a duty that is closed says. -/
def Obligation.closedRow (duty : Obligation) : List (String × Value) :=
  [("obligation_id", .str duty.obligationId), ("kind", .str duty.kind.text)]

/-- The identity of a duty says what kind it is and what it is about. -/
def Obligation.Named (duty : Obligation) : Prop :=
  match duty.kind with
  | .visitProgress => ∃ cycleId, duty.obligationId = visitObligationId cycleId
  | .approvalReminder => ∃ checkpointId, duty.obligationId = reminderObligationId checkpointId
  | .approvalDecision => ∃ checkpointId, duty.obligationId = decisionObligationId checkpointId
  | .customerCompletionNotice => ∃ cycleId, duty.obligationId = noticeObligationId cycleId ∧
      duty.cycleId = some cycleId

def Obligation.close (duty : Obligation) (now : String) (closure : Closure) : Obligation :=
  { duty with status := closure.status, closedAt := some now }

namespace Transaction

def opening (t : Transaction) (duty : Obligation) : Transaction :=
  { t with state.obligations := t.state.obligations.put duty }.record "obligation_created"
    duty.createdRow

def closing (t : Transaction) (now : String) (duty : Obligation) (closure : Closure) :
    Transaction :=
  { t with state.obligations := t.state.obligations.put (duty.close now closure) }.record
    closure.recordType duty.closedRow

theorem get?_closeDuty_of_ne {duties : Duties} {id k : String} {closure : Closure} (h : id ≠ k) :
    (closeDuty duties now id closure).get? k = duties.get? k := by
  unfold closeDuty
  split
  · rfl
  · split
    · rfl
    · rename_i duty hf _
      exact Registry.get?_put_of_ne _ (by rwa [show duty.obligationId = id from Registry.ident_of_get? hf])

theorem reminder_ne_decision (a b : String) : reminderObligationId a ≠ decisionObligationId b :=
  stem_ne (p := "approval_reminder:") (q := "approval_decision:") (by decide) a b

/-- What a call is allowed to do: the duties it may discharge, the rows it may write beside
those about duties, the ways in which it may move checkpoints, and whether it may send and
arm timers. -/
structure Terms where
  discharges : Obligation → Prop
  writes : MaintenanceState → String → List (String × Value) → Prop
  moves : MaintenanceState → MaintenanceState → Prop
  sends : Prop
  arms : Prop

/-- One operation of a handler at the instant `now`, within the terms of the call. -/
inductive Op (now : String) (T : Terms) : Transaction → Transaction → Prop
  | framed {t : Transaction} {state : MaintenanceState}
      (duties : state.obligations = t.state.obligations)
      (approvals : state.approvals = t.state.approvals)
      (exceptions : state.exceptions = t.state.exceptions)
      (communications : state.communications = t.state.communications) :
      Op now T t { t with state }
  | sent {t : Transaction} {row : Communication} (sends : T.sends) :
      Op now T t { t with state.communications := t.state.communications ++ [row] }
  | moved {t : Transaction} {state : MaintenanceState}
      (duties : state.obligations = t.state.obligations) (moves : T.moves t.state state)
      (communications : state.communications = t.state.communications) :
      Op now T t { t with state }
  | recorded {t : Transaction} {recordType : String} {payload : List (String × Value)}
      (own : T.writes t.state recordType payload) : Op now T t (t.record recordType payload)
  | scheduled {t : Transaction} {eventId : String} {eventType : EventType} {delayMinutes : Int}
      {payload : List (String × Value)} (arms : T.arms) :
      Op now T t (t.scheduleTimer eventId eventType delayMinutes payload)
  | cancelled {t : Transaction} {eventId : String} : Op now T t (t.cancelTimer eventId)
  | opened {t : Transaction} {duty : Obligation}
      (fresh : t.state.obligations.get? duty.obligationId = none)
      (status : duty.status = .opened) (unclosed : duty.closedAt = none) (named : duty.Named) :
      Op now T t (t.opening duty)
  | closed {t : Transaction} {duty : Obligation} {closure : Closure}
      (onFile : t.state.obligations.get? duty.obligationId = some duty)
      (opened : duty.status = .opened) (allowed : closure = .discharged → T.discharges duty) :
      Op now T t (t.closing now duty closure)

abbrev Ops (now : String) (T : Terms) :
    Transaction → Transaction → Prop :=
  ReflTransGen (Op now T)

variable {T : Terms} {t t' : Transaction}

namespace Ops

theorem framed {state : MaintenanceState} (duties : state.obligations = t.state.obligations)
    (approvals : state.approvals = t.state.approvals)
    (exceptions : state.exceptions = t.state.exceptions)
    (communications : state.communications = t.state.communications) :
    Ops now T t { t with state } :=
  .single (.framed duties approvals exceptions communications)

theorem begun {state : MaintenanceState} (duties : state.obligations = s.obligations)
    (approvals : state.approvals = s.approvals) (exceptions : state.exceptions = s.exceptions)
    (communications : state.communications = s.communications) :
    Ops now T (Transaction.begin s) (Transaction.begin state) :=
  framed (t := Transaction.begin s) duties approvals exceptions communications

theorem sent {row : Communication} (sends : T.sends) :
    Ops now T (Transaction.begin s)
      (Transaction.begin { s with communications := s.communications ++ [row] }) :=
  .single (.sent (t := Transaction.begin s) sends)

theorem moved {state : MaintenanceState} (moves : T.moves s state)
    (duties : state.obligations = s.obligations)
    (communications : state.communications = s.communications) :
    Ops now T (Transaction.begin s) (Transaction.begin state) :=
  .single (.moved (t := Transaction.begin s) duties moves communications)

theorem recorded {recordType : String} {payload : List (String × Value)}
    (h : T.writes t.state recordType payload) : Ops now T t (t.record recordType payload) :=
  .single (.recorded h)

theorem scheduled {eventId : String} {eventType : EventType} {delayMinutes : Int}
    {payload : List (String × Value)} (arms : T.arms) :
    Ops now T t (t.scheduleTimer eventId eventType delayMinutes payload) := .single (.scheduled arms)

theorem cancelled {eventId : String} : Ops now T t (t.cancelTimer eventId) := .single .cancelled

theorem openObligation {obligationId : String} {kind : ObligationKind} {cycleId : Option String}
    {minutes : Int} (h : t.openObligation now obligationId kind cycleId minutes = .ok t')
    (hn : ∀ dueAt, Obligation.Named { obligationId, kind, cycleId, dueAt }) : Ops now T t t' := by
  unfold Transaction.openObligation at h
  split at h
  · exact Except.ok.inj h ▸ .refl
  · rename_i hc
    obtain ⟨dueAt, _, h⟩ := bind_ok h
    have hfresh : t.state.obligations.get? obligationId = none :=
      Registry.get?_eq_none_iff.mpr (by simpa using hc)
    have hop : Op now T t (t.opening { obligationId, kind, cycleId, dueAt }) :=
      .opened hfresh rfl rfl (hn dueAt)
    exact pure_ok h ▸ .single hop

theorem closeObligation {obligationId : String} {closure : Closure}
    (h : closure = .discharged → ∀ duty, t.state.obligations.get? obligationId = some duty →
      duty.status = .opened → T.discharges duty) :
    Ops now T t (t.closeObligation now obligationId closure) := by
  unfold Transaction.closeObligation
  split
  · exact .refl
  · rename_i duty hf
    split
    · exact .refl
    · rename_i ho
      have ho : duty.status = .opened := by simpa using ho
      obtain rfl : duty.obligationId = obligationId := Registry.ident_of_get? hf
      exact .single (.closed hf ho fun hd => h hd duty hf ho)

theorem closeUndone {obligationId : String} {closure : Closure} (h : closure ≠ .discharged) :
    Ops now T t (t.closeObligation now obligationId closure) :=
  closeObligation fun hd => absurd hd h

theorem opens {state : MaintenanceState} {obligationId : String} {kind : ObligationKind}
    {cycleId : Option String} {minutes : Int}
    (h : (Transaction.begin state).openObligation now obligationId kind cycleId minutes = .ok t)
    (hn : ∀ dueAt, Obligation.Named { obligationId, kind, cycleId, dueAt })
    (duties : state.obligations = s.obligations) (approvals : state.approvals = s.approvals)
    (exceptions : state.exceptions = s.exceptions)
    (communications : state.communications = s.communications) :
    Ops now T (Transaction.begin s) t :=
  (begun duties approvals exceptions communications).trans (openObligation h hn)

end Ops

end Transaction

open Transaction

/-- The call discharges the duty. -/
inductive Discharges (op : MaintenanceOperation) (s : MaintenanceState) : Call → Obligation → Prop
  | visit {context : EnvironmentContext} {event : Event} {cycle : Cycle} {duty : Obligation}
      (admitted : op.Admits event .visitAttendanceVerified)
      (found : cycleForVisit s (event.payload.text "visit_id") = some cycle)
      (scheduled : cycle.visitStatus = .scheduled)
      (confirmed : (event.payload.get "attended").truthy = true)
      (onFile : s.obligations.get? (visitObligationId cycle.cycleId) = some duty) :
      Discharges op s ⟨context, .event event⟩ duty
  | decision {context : EnvironmentContext} {event : Event} {approval : Approval}
      {duty : Obligation} (admitted : op.Admits event .approverDecisionReceived)
      (found : s.approvals.get? (event.payload.text "checkpoint_id") = some approval)
      (opened : approval.status = .opened)
      (onFile : s.obligations.get? (decisionObligationId approval.checkpointId) = some duty) :
      Discharges op s ⟨context, .event event⟩ duty
  | notice {context : EnvironmentContext} {payload : Fields} {evidenceRefs : List String}
      {cycle : Cycle} {duty : Obligation}
      (fixture : payload.text "message_fixture_id" = MaintenanceOperation.completionNotice)
      (delivered : context.dispatchFails MaintenanceOperation.completionNotice = false)
      (addressed : some (payload.text "recipient_actor_id") = s.issueReportingActorId)
      (found : (payload.text? "correlation_id").bind s.cycles.get? = some cycle)
      (onFile : s.obligations.get? (noticeObligationId cycle.cycleId) = some duty) :
      Discharges op s ⟨context, .action "send_message" payload evidenceRefs⟩ duty
  | reminder {context : EnvironmentContext} {payload : Fields} {evidenceRefs : List String}
      {approval : Approval} {duty : Obligation}
      (fixture : payload.text "message_fixture_id" = MaintenanceOperation.approvalReminder)
      (delivered : context.dispatchFails MaintenanceOperation.approvalReminder = false)
      (addressed : payload.text "recipient_actor_id" = "approver_1")
      (opened : approval ∈ s.openApprovals) (fired : approval.reminderFired = true)
      (correlated : some approval.cycleId = payload.text? "correlation_id")
      (onFile : s.obligations.get? (reminderObligationId approval.checkpointId) = some duty) :
      Discharges op s ⟨context, .action "send_message" payload evidenceRefs⟩ duty

/-- What became of a duty while a handler worked on the duties there were before. -/
inductive Fate (now : String) (D : Obligation → Prop) (before : Duties) (effects : List Effect) :
    Obligation → Prop
  | unchanged {duty : Obligation} (onFile : before.get? duty.obligationId = some duty) :
      Fate now D before effects duty
  | opened {duty : Obligation} (status : duty.status = .opened) (unclosed : duty.closedAt = none)
      (named : duty.Named) (created : .record "obligation_created" (.ofList duty.createdRow) ∈ effects) :
      Fate now D before effects duty
  | closed {duty : Obligation} {closure : Closure} (source : Fate now D before effects duty)
      (opened : duty.status = .opened) (allowed : closure = .discharged → D duty)
      (recorded : .record closure.recordType (.ofList duty.closedRow) ∈ effects) :
      Fate now D before effects (duty.close now closure)

theorem Fate.mono {D : Obligation → Prop} {before : Duties} {a b : List Effect} {duty : Obligation}
    (h : Fate now D before a duty) (hab : a ⊆ b) : Fate now D before b duty := by
  induction h with
  | unchanged onFile => exact .unchanged onFile
  | opened status unclosed named created => exact .opened status unclosed named (hab created)
  | closed source opened allowed recorded ih => exact .closed ih opened allowed (hab recorded)

theorem Ops.fate {T : Terms} {t : Transaction} (h : Ops now T (Transaction.begin s) t) :
    ∀ duty ∈ t.state.obligations.values,
      Fate now T.discharges s.obligations t.effects duty := by
  induction h with
  | refl =>
    intro duty hd
    exact .unchanged (Registry.mem_values_iff.mp hd)
  | tail _ op ih =>
    intro duty hd
    cases op with
    | framed duties =>
      rw [show Registry.values _ = _ from congrArg Registry.values duties] at hd
      exact ih duty hd
    | sent => exact ih duty hd
    | moved duties =>
      rw [show Registry.values _ = _ from congrArg Registry.values duties] at hd
      exact ih duty hd
    | recorded => exact (ih duty hd).mono (List.subset_append_left _ _)
    | scheduled => exact (ih duty hd).mono (List.subset_append_left _ _)
    | cancelled => exact (ih duty hd).mono (List.subset_append_left _ _)
    | opened _ status unclosed named =>
      rcases Registry.mem_put hd with rfl | hd
      · exact .opened status unclosed named (List.mem_append_right _ List.mem_cons_self)
      · exact (ih duty hd).mono (List.subset_append_left _ _)
    | closed onFile opened allowed =>
      rcases Registry.mem_put hd with rfl | hd
      · refine .closed ?_ opened allowed (List.mem_append_right _ List.mem_cons_self)
        exact (ih _ (Registry.mem_values_iff.mpr onFile)).mono (List.subset_append_left _ _)
      · exact (ih duty hd).mono (List.subset_append_left _ _)

/-- A row that a handler writes: one about a duty, or one of its own. -/
inductive RowOf (W : MaintenanceState → String → List (String × Value) → Prop) :
    String → Fields → Prop
  | own {state : MaintenanceState} {recordType : String} {payload : List (String × Value)}
      (own : W state recordType payload) : RowOf W recordType (.ofList payload)
  | created {duty : Obligation} : RowOf W "obligation_created" (.ofList duty.createdRow)
  | closed {duty : Obligation} {closure : Closure} :
      RowOf W closure.recordType (.ofList duty.closedRow)

theorem Ops.rows {T : Terms} {t : Transaction} (h : Ops now T (Transaction.begin s) t)
    {recordType : String} {payload : Fields}
    (hm : Effect.record recordType payload ∈ t.effects) : RowOf T.writes recordType payload := by
  induction h with
  | refl => cases hm
  | tail _ op ih =>
    cases op with
    | framed => exact ih hm
    | sent => exact ih hm
    | moved => exact ih hm
    | recorded own =>
      rcases List.mem_append.mp hm with hm | hm
      · exact ih hm
      · obtain ⟨rfl, rfl⟩ := Effect.record.inj (List.mem_singleton.mp hm)
        exact .own own
    | scheduled =>
      rcases List.mem_append.mp hm with hm | hm
      · exact ih hm
      · cases List.mem_singleton.mp hm
    | cancelled =>
      rcases List.mem_append.mp hm with hm | hm
      · exact ih hm
      · cases List.mem_singleton.mp hm
    | opened =>
      rcases List.mem_append.mp hm with hm | hm
      · exact ih hm
      · obtain ⟨rfl, rfl⟩ := Effect.record.inj (List.mem_singleton.mp hm)
        exact .created
    | closed =>
      rcases List.mem_append.mp hm with hm | hm
      · exact ih hm
      · obtain ⟨rfl, rfl⟩ := Effect.record.inj (List.mem_singleton.mp hm)
        exact .closed

/-- A handler arms a timer only where its terms allow it. -/
theorem Ops.arms {T : Terms} {t : Transaction} (h : Ops now T (Transaction.begin s) t)
    {eventId eventType actorId : String} {delayMinutes : Int} {payload : Fields}
    {triggersAgent : Bool} (hm : Effect.scheduleTimer eventId eventType actorId delayMinutes payload
      triggersAgent ∈ t.effects) : T.arms := by
  induction h with
  | refl => cases hm
  | tail _ op ih =>
    cases op with
    | framed | sent | moved => exact ih hm
    | scheduled arms => exact arms
    | recorded | cancelled | opened | closed =>
      rcases List.mem_append.mp hm with hm | hm
      · exact ih hm
      · cases List.mem_singleton.mp hm

/-- The row about an approval checkpoint that is no longer open. -/
def approvalResolved (checkpointId : String) (status : ApprovalStatus) : List (String × Value) :=
  [("checkpoint_id", .str checkpointId), ("checkpoint_type", .str "repair_quote_approval"),
    ("resolution", .str status.text)]

def exceptionResolved (checkpointId : String) (resolution : ExceptionResolution) :
    List (String × Value) :=
  [("checkpoint_id", .str checkpointId),
    ("checkpoint_type", .str "maintenance_exception_resolution"),
    ("resolution", .str resolution.text)]

def approvalOpened (checkpointId deadlineAt : String) : List (String × Value) :=
  [("checkpoint_id", .str checkpointId), ("checkpoint_type", .str "repair_quote_approval"),
    ("assignee_actor_id", .str "approver_1"), ("required", .bool true),
    ("deadline_at", .str deadlineAt)]

def exceptionOpened (checkpointId typeName deadlineAt : String) (evidenceRefs : List String) :
    List (String × Value) :=
  [("checkpoint_id", .str checkpointId),
    ("checkpoint_type", .str "maintenance_exception_resolution"),
    ("assignee_actor_id", .str "operator_1"), ("required", .bool true),
    ("exception_type", .str typeName), ("evidence_refs", .ofTexts evidenceRefs),
    ("deadline_at", .str deadlineAt)]

/-- The approval is no longer open. -/
def MaintenanceState.Decided (s : MaintenanceState) (checkpointId : String) : Prop :=
  ∃ approval, s.approvals.get? checkpointId = some approval ∧ approval.status ≠ .opened

/-- The rows that a call may write beside those about duties. -/
inductive Writes (op : MaintenanceOperation) (s state : MaintenanceState) :
    Call → String → List (String × Value) → Prop
  | decided {context : EnvironmentContext} {event : Event} {approval : Approval}
      {status : ApprovalStatus} (admitted : op.Admits event .approverDecisionReceived)
      (found : s.approvals.get? (event.payload.text "checkpoint_id") = some approval)
      (opened : approval.status = .opened) (closed : state.Decided approval.checkpointId) :
      Writes op s state ⟨context, .event event⟩ "checkpoint_resolved"
        (approvalResolved approval.checkpointId status)
  | expired {context : EnvironmentContext} {event : Event} {approval : Approval}
      (admitted : op.Admits event .approvalDeadlineDue)
      (found : s.approvals.get? (event.payload.text "checkpoint_id") = some approval)
      (opened : approval.status = .opened) (closed : state.Decided approval.checkpointId) :
      Writes op s state ⟨context, .event event⟩ "checkpoint_resolved"
        (approvalResolved approval.checkpointId .expired)
  | resolved {context : EnvironmentContext} {event : Event} {checkpoint : ExceptionCheckpoint}
      {resolution : ExceptionResolution} (admitted : op.Admits event .operatorExceptionResolved)
      (found : s.exceptions.get? (event.payload.text "checkpoint_id") = some checkpoint)
      (opened : checkpoint.status = .opened)
      (decided : ExceptionResolution.ofText? (event.payload.text "decision") = some resolution) :
      Writes op s state ⟨context, .event event⟩ "checkpoint_resolved"
        (exceptionResolved checkpoint.checkpointId resolution)
  | reopened {context : EnvironmentContext} {event : Event} {payload : List (String × Value)}
      (admitted : op.Admits event .customerResolutionReported) :
      Writes op s state ⟨context, .event event⟩ "operation_reopened" payload
  | finalized {context : EnvironmentContext} {event : Event} {payload : List (String × Value)}
      (admitted : op.Admits event .provisionalCloseExpired) :
      Writes op s state ⟨context, .event event⟩ "terminal_accepted" payload
  | asked {context : EnvironmentContext} {payload : Fields} {evidenceRefs : List String}
      {deadlineAt : String} :
      Writes op s state ⟨context, .action "request_approval" payload evidenceRefs⟩ "checkpoint_opened"
        (approvalOpened (allocateCheckpointId s) deadlineAt)
  | escalated {context : EnvironmentContext} {payload : Fields} {evidenceRefs : List String}
      {typeName deadlineAt : String} :
      Writes op s state ⟨context, .action "request_exception_resolution" payload evidenceRefs⟩
        "checkpoint_opened"
        (exceptionOpened (allocateCheckpointId s) typeName deadlineAt evidenceRefs)
  | delivered {context : EnvironmentContext} {payload : Fields} {evidenceRefs : List String}
      {row : Communication} (delivered : row.delivered = true) :
      Writes op s state ⟨context, .action "send_message" payload evidenceRefs⟩ "side_effect" (receipt row)
  | failed {context : EnvironmentContext} {payload : Fields} {evidenceRefs : List String}
      {row : Communication} (failed : row.delivered = false) :
      Writes op s state ⟨context, .action "send_message" payload evidenceRefs⟩ "side_effect_failed"
        (receipt row)
  | transferred {context : EnvironmentContext} {evidenceRefs : List String}
      {payload : List (String × Value)} :
      Writes op s state ⟨context, .terminal evidenceRefs⟩ "terminal_accepted" payload
  | closed {context : EnvironmentContext} {evidenceRefs : List String}
      {payload : List (String × Value)} :
      Writes op s state ⟨context, .terminal evidenceRefs⟩ "provisional_close_entered" payload

/-- The ways in which a call may move checkpoints. -/
inductive Moves (op : MaintenanceOperation) (s before after : MaintenanceState) : Call → Prop
  | asked {context : EnvironmentContext} {payload : Fields}
      {evidenceRefs : List String} {approval : Approval}
      (allocated : approval.checkpointId = allocateCheckpointId s)
      (opened : approval.status = .opened) (unfired : approval.reminderFired = false)
      (approvals : after.approvals = before.approvals.put approval)
      (exceptions : after.exceptions = before.exceptions) :
      Moves op s before after ⟨context, .action "request_approval" payload evidenceRefs⟩
  | closed {context : EnvironmentContext} {event : Event}
      {approval : Approval} {status : ApprovalStatus} {resolvedAt : Option String}
      (onFile : before.approvals.get? approval.checkpointId = some approval)
      (closed : status ≠ .opened)
      (approvals : after.approvals = before.approvals.put { approval with status, resolvedAt })
      (exceptions : after.exceptions = before.exceptions) :
      Moves op s before after ⟨context, .event event⟩
  | fired {context : EnvironmentContext} {event : Event}
      {approval : Approval} (admitted : op.Admits event .approvalReminderDue)
      (found : before.approvals.get? (event.payload.text "checkpoint_id") = some approval)
      (opened : approval.status = .opened)
      (approvals : after.approvals = before.approvals.put { approval with reminderFired := true })
      (exceptions : after.exceptions = before.exceptions) :
      Moves op s before after ⟨context, .event event⟩
  | escalated {context : EnvironmentContext} {payload : Fields}
      {evidenceRefs : List String} {checkpoint : ExceptionCheckpoint}
      (allocated : checkpoint.checkpointId = allocateCheckpointId s)
      (opened : checkpoint.status = .opened) (unresolved : checkpoint.resolution = none)
      (approvals : after.approvals = before.approvals)
      (exceptions : after.exceptions = before.exceptions.put checkpoint) :
      Moves op s before after ⟨context, .action "request_exception_resolution" payload evidenceRefs⟩
  | resolved {context : EnvironmentContext} {event : Event}
      {checkpoint : ExceptionCheckpoint} {resolution : ExceptionResolution}
      {resolvedAt : Option String} (admitted : op.Admits event .operatorExceptionResolved)
      (found : before.exceptions.get? (event.payload.text "checkpoint_id") = some checkpoint)
      (opened : checkpoint.status = .opened)
      (approvals : after.approvals = before.approvals)
      (exceptions : after.exceptions = before.exceptions.put { checkpoint with
        status := .resolved, resolution := some resolution, resolvedAt }) :
      Moves op s before after ⟨context, .event event⟩

/-- The call proposes the action. -/
inductive Asks (actionType : String) : Call → Prop
  | action {context : EnvironmentContext} {payload : Fields} {evidenceRefs : List String} :
      Asks actionType ⟨context, .action actionType payload evidenceRefs⟩

/-- What a call is allowed to do. -/
def terms (op : MaintenanceOperation) (s : MaintenanceState) (call : Call) : Terms where
  discharges := Discharges op s call
  writes state := Writes op s state call
  moves before after := Moves op s before after call
  sends := Asks "send_message" call
  arms := call.cause.IsProposal

/-- A refusal, or a sequence of operations that the call allows. -/
def Worked (op : MaintenanceOperation) (s : MaintenanceState) (call : Call)
    (r : Reduction MaintenanceState) : Prop :=
  (∃ code detail, r = .refused s code detail) ∨ r.verdict.accepted = true ∧
    Ops call.context.now (terms op s call) (Transaction.begin s)
      ⟨r.state, r.effects⟩

variable {call : Call} {t : Transaction}

theorem Worked.refused {code detail : String} (h : refuse s code detail = .ok r) :
    Worked op s call r :=
  Or.inl ⟨code, detail, (Except.ok.inj h).symm⟩

theorem Worked.accepted {verdict : Verdict} (h : t.accept verdict = .ok r)
    (hv : verdict.accepted = true)
    (ht : Ops call.context.now (terms op s call) (Transaction.begin s) t) :
    Worked op s call r :=
  Except.ok.inj h ▸ Or.inr ⟨hv, ht⟩

/-- The handler did nothing but change the record elsewhere. -/
theorem Worked.framed {verdict : Verdict} {state : MaintenanceState}
    (h : (Transaction.begin state).accept verdict = .ok r) (hv : verdict.accepted = true)
    (duties : state.obligations = s.obligations) (approvals : state.approvals = s.approvals)
    (exceptions : state.exceptions = s.exceptions)
    (communications : state.communications = s.communications) : Worked op s call r :=
  .accepted h hv (Ops.framed (t := Transaction.begin s) duties approvals exceptions communications)

/-- The handler did nothing but move a checkpoint. -/
theorem Worked.moved {verdict : Verdict} {state : MaintenanceState}
    (h : (Transaction.begin state).accept verdict = .ok r) (hv : verdict.accepted = true)
    (moves : Moves op s s state call) (duties : state.obligations = s.obligations)
    (communications : state.communications = s.communications) : Worked op s call r :=
  .accepted h hv (Ops.moved moves duties communications)

namespace MaintenanceOperation

section Reducers

theorem reduceAttendanceVerified_worked (ha : op.Admits event .visitAttendanceVerified)
    (h : reduceAttendanceVerified s event context = .ok r) :
    Worked op s ⟨context, .event event⟩ r := by
  unfold reduceAttendanceVerified at h
  dsimp only at h
  split at h
  · exact .refused h
  rename_i cycle hf
  split at h
  · exact .refused h
  rename_i hs
  split at h
  · exact .refused h
  · rename_i hc
    refine .accepted h rfl (.trans (Ops.framed ?_ ?_ ?_ ?_)
      (.trans Ops.cancelled (Ops.closeObligation ?_)))
    · rfl
    · rfl
    · rfl
    · rfl
    · intro _ duty hd _
      exact .visit ha hf (by simpa using hs) (by simpa using hc) hd

theorem reduceVisitFollowupDue_worked (h : reduceVisitFollowupDue s event context = .ok r) :
    Worked op s ⟨context, .event event⟩ r := by
  unfold reduceVisitFollowupDue at h
  dsimp only at h
  split at h
  · exact .refused h
  · exact .accepted h rfl (Ops.closeUndone (by decide))

theorem reduceWorkEvidence_worked (h : op.reduceWorkEvidence s event context = .ok r) :
    Worked op s ⟨context, .event event⟩ r := by
  unfold reduceWorkEvidence at h
  dsimp only at h
  split at h
  · exact .refused h
  split at h
  · exact .refused h
  split at h
  · exact .refused h
  split at h
  · exact .refused h
  split at h
  · obtain ⟨t, ht, h⟩ := bind_ok h
    obtain rfl := Except.ok.inj ht
    exact .framed h rfl rfl rfl rfl rfl
  · obtain ⟨t, ht, h⟩ := bind_ok h
    exact .accepted h rfl (Ops.opens ht (fun _ => ⟨_, rfl, rfl⟩) rfl rfl rfl rfl)

theorem reduceSettlement_worked (h : op.reduceSettlement s event context = .ok r) :
    Worked op s ⟨context, .event event⟩ r := by
  unfold reduceSettlement at h
  dsimp only at h
  split at h
  · exact .refused h
  split at h
  · exact .refused h
  split at h
  · exact .refused h
  · obtain ⟨t, ht, h⟩ := bind_ok h
    exact .accepted h rfl (Ops.opens ht (fun _ => ⟨_, rfl, rfl⟩) rfl rfl rfl rfl)

theorem reduceApproverDecision_worked (ha : op.Admits event .approverDecisionReceived)
    (h : reduceApproverDecision s event context = .ok r) :
    Worked op s ⟨context, .event event⟩ r := by
  unfold reduceApproverDecision at h
  dsimp only at h
  split at h
  · exact .refused h
  rename_i approval hf
  split at h
  · exact .refused h
  rename_i ho
  have ho : approval.status = .opened := by simpa using ho
  have hid : approval.checkpointId = event.payload.text "checkpoint_id" :=
    Registry.ident_of_get? hf
  split at h
  · exact .refused h
  obtain ⟨instant, _, h⟩ := bind_ok h
  obtain ⟨deadline, _, h⟩ := bind_ok h
  split at h
  · exact .refused h
  -- The reminder is cancelled and the decision kept, whatever was decided.
  have hops : ∀ (status : ApprovalStatus) (resolvedAt : Option String) (state : MaintenanceState),
      status ≠ .opened → state.obligations = s.obligations →
      state.approvals = s.approvals.put { approval with status, resolvedAt } →
      state.exceptions = s.exceptions → state.communications = s.communications →
      Ops context.now (terms op s ⟨context, .event event⟩) (Transaction.begin s)
        (((((Transaction.begin state).cancelTimer (reminderTimerId approval.checkpointId)).cancelTimer
          (deadlineTimerId approval.checkpointId)).closeObligation context.now
            (reminderObligationId approval.checkpointId) .cancelled).closeObligation context.now
              (decisionObligationId approval.checkpointId) .discharged |>.record
                "checkpoint_resolved" (approvalResolved approval.checkpointId status)) := by
    intro status resolvedAt state hne hs hmoved hkept hsent
    have hmove : Moves op s s state ⟨context, .event event⟩ :=
      .closed (hid ▸ hf) hne hmoved hkept
    refine (Ops.moved hmove hs hsent).trans (Ops.cancelled.trans (Ops.cancelled.trans
      ((Ops.closeUndone (by decide)).trans ((Ops.closeObligation ?_).trans (Ops.recorded ?_)))))
    · intro _ duty hd _
      refine .decision ha hf ho ?_
      rw [← hd, Transaction.state_closeObligation]
      exact hs ▸ (get?_closeDuty_of_ne (reminder_ne_decision _ _)).symm
    · refine .decided ha hf ho ⟨{ approval with status, resolvedAt }, ?_, hne⟩
      simp only [Transaction.state_closeObligation, Transaction.state_cancelTimer]
      rw [show (Transaction.begin state).state.approvals = _ from hmoved]
      exact Registry.get?_put_self _ _
  rw [← hid] at h
  split at h
  · exact .accepted h rfl (hops .approved _ _ (by simp) rfl rfl rfl rfl)
  split at h
  · exact .accepted h rfl (hops .rejected _ _ (by simp) rfl rfl rfl rfl)
  · exact .refused h

theorem reduceOperatorResolution_worked (ha : op.Admits event .operatorExceptionResolved)
    (h : reduceOperatorResolution s event context = .ok r) :
    Worked op s ⟨context, .event event⟩ r := by
  unfold reduceOperatorResolution at h
  dsimp only at h
  split at h
  · exact .refused h
  rename_i checkpoint hf
  split at h
  · exact .refused h
  rename_i ho
  split at h
  · exact .refused h
  · rename_i resolution hr
    have hid : checkpoint.checkpointId = event.payload.text "checkpoint_id" :=
      Registry.ident_of_get? hf
    rw [← hid] at h
    have ho : checkpoint.status = .opened := by simpa using ho
    refine .accepted h rfl (.trans (Ops.moved ?_ ?_ ?_) (Ops.recorded ?_))
    · exact .resolved ha hf ho rfl rfl
    · rfl
    · rfl
    · exact .resolved ha hf ho hr

theorem reduceDeadlineDue_worked (ha : op.Admits event .approvalDeadlineDue)
    (h : reduceDeadlineDue s event context = .ok r) : Worked op s ⟨context, .event event⟩ r := by
  unfold reduceDeadlineDue at h
  dsimp only at h
  split at h
  · exact .refused h
  rename_i approval hf
  split at h
  · exact .refused h
  · rename_i ho
    have hid : approval.checkpointId = event.payload.text "checkpoint_id" :=
      Registry.ident_of_get? hf
    rw [← hid] at h
    have hmove : Moves op s s { s with
        approvals := s.approvals.put { approval with
          status := .expired, resolvedAt := some context.now }
        quotes := settleQuote s approval .expired } ⟨context, .event event⟩ :=
      have hne : ApprovalStatus.expired ≠ .opened := nofun
      .closed (hid ▸ hf) hne rfl rfl
    refine .accepted h rfl (.trans (Ops.moved hmove rfl rfl) (Ops.cancelled.trans
      ((Ops.closeUndone (by decide)).trans ((Ops.closeUndone (by decide)).trans
        (Ops.recorded ?_)))))
    refine .expired ha hf (by simpa using ho) ⟨{ approval with
      status := .expired, resolvedAt := some context.now }, ?_, nofun⟩
    simp only [Transaction.state_closeObligation, Transaction.state_cancelTimer]
    exact Registry.get?_put_self _ _

theorem reopen_worked (ha : op.Admits event .customerResolutionReported)
    (h : reopen s = .ok r) : Worked op s ⟨context, .event event⟩ r := by
  unfold reopen at h
  dsimp only at h
  split at h
  · cases h
  · refine .accepted h rfl (.trans ?_ (Ops.recorded (.reopened ha)))
    cases s.provisionalClose.timerEventId with
    | none => exact Ops.framed rfl rfl rfl rfl
    | some timerId => exact .trans Ops.cancelled (Ops.framed rfl rfl rfl rfl)

theorem reduceCustomerResolution_worked (ha : op.Admits event .customerResolutionReported)
    (h : reduceCustomerResolution s event context = .ok r) :
    Worked op s ⟨context, .event event⟩ r := by
  unfold reduceCustomerResolution at h
  dsimp only at h
  split at h
  · exact .refused h
  split at h
  · obtain ⟨instant, _, h⟩ := bind_ok h
    obtain ⟨limit, _, h⟩ := bind_ok h
    split at h
    · exact .refused h
    · exact reopen_worked ha h
  split at h
  · exact .framed h rfl rfl rfl rfl rfl
  split at h
  · exact .refused h
  · exact .framed h rfl rfl rfl rfl rfl

theorem reduceProvisionalExpired_worked (ha : op.Admits event .provisionalCloseExpired)
    (h : reduceProvisionalExpired s context = .ok r) : Worked op s ⟨context, .event event⟩ r := by
  unfold reduceProvisionalExpired at h
  dsimp only at h
  split at h
  · exact .refused h
  split at h
  · exact .refused h
  split at h
  · exact .refused h
  · refine .accepted h rfl (.trans (Ops.begun ?_ ?_ ?_ ?_) (Ops.recorded (.finalized ha)))
    · rfl
    · rfl
    · rfl
    · rfl

theorem reduceIssueReported_worked (h : op.reduceIssueReported s event = .ok r) :
    Worked op s call r := by
  unfold reduceIssueReported at h
  dsimp only at h
  split at h
  · exact .refused h
  split at h
  · exact .refused h
  · exact .framed h rfl rfl rfl rfl rfl

theorem reduceVisitResponse_worked (h : reduceVisitResponse s event = .ok r) :
    Worked op s call r := by
  unfold reduceVisitResponse at h
  split at h
  · exact .refused h
  split at h
  · exact .refused h
  dsimp only at h
  split at h
  · exact .framed h rfl rfl rfl rfl rfl
  split at h
  · exact .framed h rfl rfl rfl rfl rfl
  · exact .refused h

theorem reduceWorkReported_worked (h : reduceWorkReported s event = .ok r) :
    Worked op s call r := by
  unfold reduceWorkReported at h
  dsimp only at h
  split at h
  · exact .refused h
  split at h
  · exact .refused h
  · exact .framed h rfl rfl rfl rfl rfl

theorem reduceQuoteReceived_worked (h : op.reduceQuoteReceived s event context = .ok r) :
    Worked op s call r := by
  unfold reduceQuoteReceived at h
  dsimp only at h
  split at h
  · exact .refused h
  split at h
  · exact .refused h
  split at h
  · exact .refused h
  · obtain ⟨validUntil, _, h⟩ := bind_ok h
    exact .framed h rfl rfl rfl rfl rfl

theorem reduceInvoiceReceived_worked (h : reduceInvoiceReceived s event = .ok r) :
    Worked op s call r := by
  unfold reduceInvoiceReceived at h
  dsimp only at h
  split at h
  · exact .refused h
  · exact .framed h rfl rfl rfl rfl rfl

theorem reduceInvoiceValidation_worked (h : reduceInvoiceValidation s event context = .ok r) :
    Worked op s call r := by
  unfold reduceInvoiceValidation at h
  dsimp only at h
  split at h
  · exact .refused h
  split at h
  · exact .refused h
  · exact .framed h rfl rfl rfl rfl rfl

theorem reduceReminderDue_worked (ha : op.Admits event .approvalReminderDue)
    (h : reduceReminderDue s event = .ok r) : Worked op s ⟨context, .event event⟩ r := by
  unfold reduceReminderDue at h
  dsimp only at h
  split at h
  · exact .refused h
  rename_i approval hf
  split at h
  · exact .refused h
  rename_i ho
  split at h
  · exact .refused h
  · refine .moved h rfl ?_ rfl rfl
    exact .fired ha hf (by simpa using ho) rfl rfl

theorem reduceEvent_worked (h : op.reduceEvent s event context = .ok r) :
    Worked op s ⟨context, .event event⟩ r := by
  rcases reduceEvent_cases h with hr | ⟨eventType, ha, hr⟩
  · exact Or.inl hr
  · cases eventType with
    | customerIssueReported => exact reduceIssueReported_worked hr
    | customerResolutionReported => exact reduceCustomerResolution_worked ha hr
    | supplierVisitResponse => exact reduceVisitResponse_worked hr
    | supplierWorkReported => exact reduceWorkReported_worked hr
    | supplierQuoteReceived => exact reduceQuoteReceived_worked hr
    | supplierInvoiceReceived => exact reduceInvoiceReceived_worked hr
    | supplierAssertionReceived => exact .framed hr rfl rfl rfl rfl rfl
    | approverDecisionReceived => exact reduceApproverDecision_worked ha hr
    | operatorExceptionResolved => exact reduceOperatorResolution_worked ha hr
    | visitAttendanceVerified => exact reduceAttendanceVerified_worked ha hr
    | workEvidenceVerified => exact reduceWorkEvidence_worked hr
    | invoiceValidationCompleted => exact reduceInvoiceValidation_worked hr
    | paymentSettlementConfirmed => exact reduceSettlement_worked hr
    | approvalReminderDue => exact reduceReminderDue_worked ha hr
    | approvalDeadlineDue => exact reduceDeadlineDue_worked ha hr
    | visitFollowupDue => exact reduceVisitFollowupDue_worked hr
    | provisionalCloseExpired => exact reduceProvisionalExpired_worked ha hr

end Reducers

section Actions

variable {payload : Fields} {evidenceRefs : List String} {actionType : String}

theorem armVisitFollowup_ops {T : Terms} {t t' : Transaction} {cycleId : String} (arms : T.arms)
    (h : op.armVisitFollowup t now cycleId = .ok t') : Ops now T t t' :=
  (Ops.scheduled arms).trans (Ops.openObligation h fun _ => ⟨_, rfl⟩)

theorem actRequestVisit_worked (h : op.actRequestVisit s payload context = .ok r) :
    Worked op s ⟨context, .action actionType payload evidenceRefs⟩ r := by
  unfold actRequestVisit at h
  dsimp only at h
  split at h
  · exact .refused h
  iterate 4
    split at h
    · exact .refused h
  obtain ⟨t, ht, h⟩ := bind_ok h
  refine .accepted h rfl (.trans (Ops.begun ?_ ?_ ?_ ?_) (armVisitFollowup_ops trivial ht))
  · rfl
  · rfl
  · rfl
  · rfl

theorem actAuthoriseSupplierWork_worked
    (h : op.actAuthoriseSupplierWork s payload evidenceRefs context = .ok r) :
    Worked op s ⟨context, .action actionType payload evidenceRefs⟩ r := by
  unfold actAuthoriseSupplierWork at h
  dsimp only at h
  split at h
  · exact .refused h
  split at h
  · exact .refused h
  obtain ⟨citation, _, h⟩ := bind_ok h
  split at h
  · exact .refused h
  split at h
  · exact .refused h
  split at h
  · exact .refused h
  split at h
  · exact .refused h
  obtain ⟨lapsed, _, h⟩ := bind_ok h
  split at h
  · exact .refused h
  split at h
  · cases h
  split at h
  · exact .refused h
  obtain ⟨t, ht, h⟩ := bind_ok h
  refine .accepted h rfl (.trans (Ops.begun ?_ ?_ ?_ ?_) (armVisitFollowup_ops trivial ht))
  · rfl
  · rfl
  · rfl
  · rfl

theorem actRequestApproval_worked (h : op.actRequestApproval s payload context = .ok r) :
    Worked op s ⟨context, .action "request_approval" payload evidenceRefs⟩ r := by
  unfold actRequestApproval at h
  dsimp only at h
  split at h
  · exact .refused h
  iterate 5
    split at h
    · exact .refused h
  obtain ⟨deadlineAt, _, h⟩ := bind_ok h
  obtain ⟨t, ht, h⟩ := bind_ok h
  obtain ⟨u, hu, h⟩ := bind_ok h
  refine .accepted h rfl (.trans (Ops.moved ?_ ?_ ?_) (.trans (Ops.recorded .asked)
    ((Ops.scheduled trivial).trans ((Ops.scheduled trivial).trans ((Ops.openObligation ht fun _ => ⟨_, rfl⟩).trans
      (Ops.openObligation hu fun _ => ⟨_, rfl⟩))))))
  · exact .asked rfl rfl rfl rfl rfl
  · rfl
  · rfl

theorem actRequestExceptionResolution_worked
    (h : actRequestExceptionResolution s payload evidenceRefs context = .ok r) :
    Worked op s ⟨context, .action "request_exception_resolution" payload evidenceRefs⟩ r := by
  unfold actRequestExceptionResolution at h
  dsimp only at h
  split at h
  · exact .refused h
  split at h
  · exact .refused h
  split at h
  · exact .refused h
  obtain ⟨citation, _, h⟩ := bind_ok h
  split at h
  · exact .refused h
  obtain ⟨deadlineAt, _, h⟩ := bind_ok h
  refine .accepted h rfl (.trans (Ops.moved ?_ ?_ ?_) (Ops.recorded .escalated))
  · exact .escalated rfl rfl rfl rfl rfl
  · rfl
  · rfl

theorem actRequestInvoiceValidation_worked
    (h : actRequestInvoiceValidation s payload evidenceRefs = .ok r) : Worked op s call r := by
  unfold actRequestInvoiceValidation at h
  dsimp only at h
  split at h
  · exact .refused h
  split at h
  · exact .refused h
  split at h
  · exact .refused h
  split at h
  · exact .refused h
  split at h
  · exact .refused h
  split at h
  · exact .refused h
  obtain ⟨citation, _, h⟩ := bind_ok h
  split at h
  · exact .refused h
  · exact .framed h rfl rfl rfl rfl rfl

theorem actRequestPayment_worked (h : actRequestPayment s payload evidenceRefs = .ok r) :
    Worked op s call r := by
  unfold actRequestPayment at h
  dsimp only at h
  split at h
  · exact .refused h
  split at h
  · exact .refused h
  split at h
  · exact .refused h
  iterate 4
    split at h
    · exact .refused h
  obtain ⟨citation, _, h⟩ := bind_ok h
  split at h
  · exact .refused h
  · exact .framed h rfl rfl rfl rfl rfl

/-- A duty that is still open is the one that was. -/
theorem opened_of_closeDuty {duties : Duties} {id k : String} {closure : Closure} {duty : Obligation}
    (h : (closeDuty duties now id closure).get? k = some duty) (ho : duty.status = .opened) :
    duties.get? k = some duty := by
  unfold closeDuty at h
  split at h
  · exact h
  split at h
  · exact h
  · rename_i before _ _
    rw [Registry.get?_put] at h
    split at h
    · obtain rfl := Option.some.inj h
      exact absurd ho closure.status_ne_opened
    · exact h

theorem foldl_discharge_ops {T : Terms} {duties : Duties}
    {approvals : List Approval} {t : Transaction}
    (hd : ∀ approval ∈ approvals, ∀ duty,
      duties.get? (reminderObligationId approval.checkpointId) = some duty → T.discharges duty)
    (ht : ∀ id duty, t.state.obligations.get? id = some duty → duty.status = .opened →
      duties.get? id = some duty) :
    Ops now T t (approvals.foldl (fun t approval =>
      t.closeObligation now (reminderObligationId approval.checkpointId) .discharged) t) := by
  induction approvals generalizing t with
  | nil => exact .refl
  | cons approval approvals ih =>
    rw [List.foldl_cons]
    refine (Ops.closeObligation fun _ duty hf ho => ?_).trans (ih ?_ ?_)
    · exact hd _ List.mem_cons_self _ (ht _ _ hf ho)
    · exact fun a ha => hd a (List.mem_cons_of_mem _ ha)
    · intro id duty hf ho
      rw [Transaction.state_closeObligation] at hf
      exact ht id duty (opened_of_closeDuty hf ho) ho

theorem dischargeNotice_ops {row : Communication} {recoveryOf : Option ℕ}
    (sent : Sent op s context payload recoveryOf r)
    (hdelivered : (message context payload recoveryOf).delivered = true) :
    Ops context.now (terms op s ⟨context, .action "send_message" payload evidenceRefs⟩)
      (Transaction.begin s)
      (dischargeNotice (Transaction.begin { s with communications := s.communications ++ [row] })
        context.now
        (payload.text "message_fixture_id") (payload.text? "correlation_id")) := by
  have hdispatch : ∀ fixtureId, payload.text "message_fixture_id" = fixtureId →
      fixtureId ≠ transferNotice → context.dispatchFails fixtureId = false := by
    rintro fixtureId rfl hne
    cases recoveryOf with
    | none => simpa [message] using hdelivered
    | some index => exact absurd (messageRecovery_some sent.recovery) hne
  have hbegun : Ops context.now
      (terms op s ⟨context, .action "send_message" payload evidenceRefs⟩) (Transaction.begin s)
      (Transaction.begin { s with communications := s.communications ++ [row] }) :=
    Ops.sent .action
  refine hbegun.trans ?_
  unfold dischargeNotice
  split
  · rename_i hfixture
    split
    · exact .refl
    · rename_i cycle hcycle
      refine .trans (Ops.framed ?_ ?_ ?_ ?_) (Ops.closeObligation fun _ duty hf _ => ?_)
      · rfl
      · rfl
      · rfl
      · rfl
      · exact .notice hfixture (hdispatch _ hfixture (by decide)) (sent.completion hfixture)
          hcycle hf
  split
  · exact Ops.framed rfl rfl rfl rfl
  split
  · rename_i hfixture
    refine foldl_discharge_ops ?_ fun _ _ hf _ => hf
    intro approval ha duty hf
    obtain ⟨ho, hc⟩ := List.mem_filter.mp ha
    obtain ⟨hfired, hcorrelated⟩ : approval.reminderFired = true ∧
        some approval.cycleId = payload.text? "correlation_id" := by simpa using hc
    exact .reminder hfixture (hdispatch _ hfixture (by decide)) (sent.reminder hfixture).1 ho
      hfired hcorrelated hf
  · exact .refl

theorem actSendMessage_worked (h : op.actSendMessage s payload context = .ok r) :
    Worked op s ⟨context, .action "send_message" payload evidenceRefs⟩ r := by
  rcases actSendMessage_sent h with hr | ⟨recoveryOf, sent⟩
  · exact Or.inl hr
  refine .accepted sent.result rfl ?_
  unfold sending
  dsimp only
  split
  · exact (dischargeNotice_ops sent ‹_›).trans (Ops.recorded (.delivered ‹_›))
  · rename_i hfailed
    exact .trans (Ops.sent .action) (Ops.recorded (.failed (by simpa using hfailed)))

theorem applyAction_worked (h : op.applyAction s payload evidenceRefs context actionType = .ok r) :
    Worked op s ⟨context, .action actionType payload evidenceRefs⟩ r := by
  unfold applyAction at h
  split at h
  · exact .refused h
  split at h
  · cases h
  split at h
  · exact .refused h
  split at h
  · exact .refused h
  rename_i action hnamed
  split at h
  · exact .refused h
  split at h
  · exact .refused h
  obtain rfl := ActionType.text_of_ofText? hnamed
  cases action with
  | requestSupplierVisit => exact actRequestVisit_worked h
  | requestApproval => exact actRequestApproval_worked h
  | sendMessage => exact actSendMessage_worked h
  | authoriseSupplierWork => exact actAuthoriseSupplierWork_worked h
  | requestInvoiceValidation => exact actRequestInvoiceValidation_worked h
  | requestPayment => exact actRequestPayment_worked h
  | requestExceptionResolution => exact actRequestExceptionResolution_worked h

end Actions

section Terminal

variable {evidenceRefs : List String}

theorem applyTerminal_worked (h : op.applyTerminal s context = .ok r) :
    Worked op s ⟨context, .terminal evidenceRefs⟩ r := by
  unfold applyTerminal at h
  iterate 4
    split at h
    · exact .refused h
  split at h
  · unfold terminalTransfer at h
    split at h
    · exact .refused h
    split at h
    · exact .refused h
    · refine .accepted h rfl (.trans (Ops.begun ?_ ?_ ?_ ?_) (Ops.recorded .transferred))
      · rfl
      · rfl
      · rfl
      · rfl
  · unfold terminalProvisionalClose at h
    split at h
    · exact .refused h
    iterate 4
      split at h
      · exact .refused h
    obtain ⟨reopenUntil, _, h⟩ := bind_ok h
    refine .accepted h rfl (.trans (Ops.begun ?_ ?_ ?_ ?_) (.trans (Ops.recorded .closed)
      (Ops.scheduled trivial)))
    · rfl
    · rfl
    · rfl
    · rfl

end Terminal

theorem respond_worked (h : op.respond call s = .ok r) : Worked op s call r := by
  obtain ⟨context, cause⟩ := call
  cases cause with
  | event event => exact reduceEvent_worked h
  | action actionType payload evidenceRefs => exact applyAction_worked h
  | terminal evidenceRefs => exact applyTerminal_worked h

end MaintenanceOperation

end OperateBench.Maintenance
