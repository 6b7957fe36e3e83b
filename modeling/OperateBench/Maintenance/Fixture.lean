import OperateBench.Maintenance.Proposals

/-! # The shipped fixture

The actors, the policy and the messages of the executable fixture, with short forms for what
happens in a scenario and for what an agent answers. The concrete runs of this development are all
runs of this operation. Refused calls and final records, which no run gets past, are at the end.
-/

namespace OperateBench.Maintenance

open Foundation

namespace Fixture

def actors : Dict String ActorSpec := .ofList <|
  [⟨"customer_1", "customer", ["report_issue", "confirm_resolution"]⟩,
    ⟨"supplier_1", "supplier",
      ["respond_to_visit", "report_work", "submit_quote", "submit_invoice", "assert_status"]⟩,
    ⟨"approver_1", "approver", ["approve_repair_quote"]⟩,
    ⟨"operator_1", "operator_human", ["resolve_exception"]⟩,
    ⟨"maintenance_system", "authoritative_external_system", ["verify_attendance", "verify_work"]⟩,
    ⟨"payment_system", "authoritative_external_system",
      ["validate_invoice", "confirm_settlement"]⟩,
    ⟨"scheduler", "system_scheduler", ["emit_timer"]⟩,
    ⟨"agent", "agent", ActionType.all.map ActionType.text ++ ["complete"]⟩].map
      fun actor : ActorSpec => (actor.actorId, actor)

def policy : PolicySpec where
  currency := "GBP"
  issueClassification := "NON_EMERGENCY_RECURRING_LEAK"
  approvalThresholdMinor := ⟨25000, by decide⟩
  approvalReminderAfterMinutes := ⟨2880, by decide⟩
  approvalDeadlineAfterMinutes := ⟨4320, by decide⟩
  approvalValidityMinutes := ⟨10080, by decide⟩
  provisionalCloseMinutes := ⟨2880, by decide⟩
  visitFollowupAfterMinutes := ⟨4320, by decide⟩
  completionNoticeWithinMinutes := ⟨720, by decide⟩
  maxTurnsPerInvocation := ⟨8, by decide⟩
  horizonMinutes := ⟨43200, by decide⟩
  maxRetrievalBatchesPerInvocation := ⟨6, by decide⟩

def spec : OperationSpec where
  operationVersion := "0.6.0"
  actors := actors
  policy := policy
  messageFixtures := .ofList
    [("msg_completion_notice", "Synthetic notice that the reported issue is resolved."),
      ("msg_transfer_notice", "Synthetic notice that a human colleague has taken over."),
      ("msg_approval_reminder", "Synthetic reminder that a quote decision is outstanding.")]
  hiddenState := .ofList [("root_cause_fixture_id", .str "hidden_fixture_perished_seal")]

def operation (events : List PlannedEvent) : MaintenanceOperation :=
  ⟨spec, ⟨"2031-03-03T09:00:00Z", 1, events⟩⟩

section Scenarios

/-- An authored event at its instant. -/
def happens (sequence : ℕ) (instant : String) (actorId : String) (eventType : EventType)
    (triggersAgent : Bool) (payload : List (String × Value)) : PlannedEvent :=
  ⟨s!"event_{sequence}", eventType.text, actorId, sequence, .ofList payload, triggersAgent,
    some instant, none, 0⟩

def reads (tools : List String) : Answer :=
  .retrieve (.sequence (tools.map fun tool => .request (.str tool) (.dict [])))

def waits (minutes : Int) (h : 0 < minutes) : Answer :=
  .wait ⟨.str "waiting", .list [], .int minutes, fallback_declared minutes, fallback_positive h⟩

def rests : Answer := waits 10000 (by decide)

def completes : Answer := .complete (.str "done") (.list [])

/-- The engine on the fixture with an agent that gives the scripted answers in turn. The scripts
propose on a record before it moves again, so their reads need no digest to tell it apart. -/
def engine (events : List PlannedEvent) (script : List Answer) : Engine MaintenanceState :=
  (operation events).engine (fun _ => "") (fun shown => .ok (script.getD (shown.length - 1)
    (.other "NoneType"))) "lettings_maintenance_synthetic_v1" "instance_1" []

def reported (cycleId : String) : PlannedEvent :=
  happens 1 "2031-03-03T09:00:00Z" "customer_1" .customerIssueReported true
    [("issue_id", .str "issue_1"), ("classification", .str "NON_EMERGENCY_RECURRING_LEAK"),
      ("cycle_id", .str cycleId)]

/-- The visit to the cycle is made and its work is verified within three hours. -/
def visited (cycleId evidenceId : String) : List PlannedEvent :=
  [happens 2 "2031-03-03T10:00:00Z" "supplier_1" .supplierVisitResponse false
      [("visit_id", .str "visit_1"), ("cycle_id", .str cycleId), ("response", .str "ACCEPTED")],
    happens 3 "2031-03-03T11:00:00Z" "maintenance_system" .visitAttendanceVerified false
      [("visit_id", .str "visit_1"), ("cycle_id", .str cycleId), ("attended", .bool true)],
    happens 4 "2031-03-03T12:00:00Z" "maintenance_system" .workEvidenceVerified true
      [("evidence_id", .str evidenceId), ("visit_id", .str "visit_1"), ("cycle_id", .str cycleId),
        ("scope_digest", .str "scope_1"), ("outcome", .str "FIXED")]]

def diagnosed : List PlannedEvent := reported "cycle_1" :: visited "cycle_1" "evidence_1"

def persists (sequence : ℕ) (instant : String) : PlannedEvent :=
  happens sequence instant "customer_1" .customerResolutionReported true
    [("issue_id", .str "issue_1"), ("status", .str "PERSISTS")]

/-- What an agent proposes to do. -/
structure Proposal where
  actionType : ActionType
  payload : List (String × Value)
  evidenceRefs : List String := []

def Proposal.answer (proposal : Proposal) : Answer :=
  .act (.str proposal.actionType.text) (.ofFields proposal.payload)
    (.ofTexts proposal.evidenceRefs) (.str "")

def visits (cycleId : String) : Proposal where
  actionType := .requestSupplierVisit
  payload := [("visit_type", .str "DIAGNOSTIC"), ("cycle_id", .str cycleId)]

def notifies (cycleId : String) : Proposal where
  actionType := .sendMessage
  payload := [("recipient_actor_id", .str "customer_1"),
    ("message_fixture_id", .str "msg_completion_notice"), ("correlation_id", .str cycleId)]

/-- Quoted work that is approved, done and billed, under the identities it goes by. -/
structure Job where
  cycleId : String
  quoteId : String
  checkpointId : String
  visitId : String
  evidenceId : String
  invoiceId : String

namespace Job

variable (job : Job) (sequence : ℕ) (instant : String)

/-- The terms of the quote. They are the same for every job. -/
def terms : List (String × Value) :=
  [("amount_minor", .int 30000), ("currency", .str "GBP"), ("scope_digest", .str "scope_2")]

def quote : List (String × Value) :=
  [("quote_id", .str job.quoteId), ("quote_version", .int 1)]

def quoted : PlannedEvent :=
  happens sequence instant "supplier_1" .supplierQuoteReceived true
    (job.quote ++ ("cycle_id", .str job.cycleId) :: terms)

def approved : PlannedEvent :=
  happens sequence instant "approver_1" .approverDecisionReceived true
    (job.quote ++ terms ++ [("checkpoint_id", .str job.checkpointId),
      ("decision", .str "APPROVED")])

def attended : PlannedEvent :=
  happens sequence instant "maintenance_system" .visitAttendanceVerified false
    [("visit_id", .str job.visitId), ("cycle_id", .str job.cycleId), ("attended", .bool true)]

def verified : PlannedEvent :=
  happens sequence instant "maintenance_system" .workEvidenceVerified false
    [("evidence_id", .str job.evidenceId), ("visit_id", .str job.visitId),
      ("cycle_id", .str job.cycleId), ("scope_digest", .str "scope_2"), ("outcome", .str "FIXED")]

def invoiced : PlannedEvent :=
  happens sequence instant "supplier_1" .supplierInvoiceReceived true
    (job.quote ++ [("invoice_id", .str job.invoiceId), ("cycle_id", .str job.cycleId),
      ("amount_minor", .int 30000), ("currency", .str "GBP")])

def validated : PlannedEvent :=
  happens sequence instant "payment_system" .invoiceValidationCompleted true
    [("validation_id", .str s!"validation_of_{job.invoiceId}"), ("invoice_id", .str job.invoiceId),
      ("valid", .bool true)]

def settled : PlannedEvent :=
  happens sequence instant "payment_system" .paymentSettlementConfirmed false
    [("settlement_id", .str "settlement_1"), ("payment_request_id", .str "payment_1"),
      ("invoice_id", .str job.invoiceId), ("cycle_id", .str job.cycleId),
      ("amount_minor", .int 30000), ("currency", .str "GBP")]

def asksApproval : Proposal where
  actionType := .requestApproval
  payload := job.quote ++ terms ++
    [("cycle_id", .str job.cycleId), ("deadline_after_minutes", .int 4320)]

def authorises : Proposal where
  actionType := .authoriseSupplierWork
  payload := job.quote ++
    [("approval_checkpoint_id", .str job.checkpointId), ("cycle_id", .str job.cycleId)]
  evidenceRefs := [job.checkpointId]

def asksValidation : Proposal where
  actionType := .requestInvoiceValidation
  payload := [("invoice_id", .str job.invoiceId)]
  evidenceRefs := [job.evidenceId]

def pays : Proposal where
  actionType := .requestPayment
  payload := [("invoice_id", .str job.invoiceId), ("amount_minor", .int 30000),
    ("currency", .str "GBP")]
  evidenceRefs := [job.invoiceId, job.evidenceId]

end Job

/-- An agent that has the visit made, tells the customer and closes. -/
def closes : List Answer :=
  [reads ["get_case_record"],
    (visits "cycle_1").answer,
    rests,
    reads ["get_case_record", "list_communications"],
    (notifies "cycle_1").answer,
    reads ["get_case_record", "list_billing", "list_checkpoints", "list_obligations"],
    completes]

end Scenarios

section Calls

/-- The operation on its own, in an environment whose dispatches all succeed. -/
def environment (now : String) : EnvironmentContext := ⟨now, fun _ => false, fun _ => false⟩

/-- An authored event, at its instant. -/
def brings (planned : PlannedEvent) : Call :=
  let instant := planned.instant.getD ""
  ⟨environment instant, .event (toEvent planned instant none Dict.empty)⟩

def Proposal.call (proposal : Proposal) (now : String) : Call :=
  ⟨environment now, .action proposal.actionType.text (.ofList proposal.payload)
    proposal.evidenceRefs⟩

def terminates (now : String) : Call := ⟨environment now, .terminal []⟩

/-- The issue is reported on the cycle, the visit made and its work verified. -/
def diagnosedOn (cycleId evidenceId : String) : List Call :=
  brings (reported cycleId) :: (visits cycleId).call "2031-03-03T09:00:00Z" ::
    (visited cycleId evidenceId).map brings

/-- The job from its quote to a validated invoice, all at one instant. -/
def Job.billed (job : Job) (instant : String) : List Call :=
  [brings (job.quoted 0 instant), job.asksApproval.call instant, brings (job.approved 0 instant),
    job.authorises.call instant, brings (job.attended 0 instant), brings (job.verified 0 instant),
    brings (job.invoiced 0 instant), job.asksValidation.call instant,
    brings (job.validated 0 instant)]

/-- The job from its quote to the settlement of its payment. -/
def Job.paid (job : Job) (instant : String) : List Call :=
  job.billed instant ++ [job.pays.call instant, brings (job.settled 0 instant)]

def firstJob : Job :=
  ⟨"cycle_2", "quote_1", "checkpoint_1", "visit_1", "evidence_1", "invoice_1"⟩

def secondJob : Job :=
  ⟨"cycle_3", "quote_2", "checkpoint_2", "visit_2", "evidence_2", "invoice_2"⟩

/-- The first job after a visit was already made. -/
def laterJob : Job :=
  ⟨"cycle_2", "quote_1", "checkpoint_1", "visit_2", "evidence_2", "invoice_1"⟩

end Calls

end Fixture

variable {op : MaintenanceOperation} {s s' : MaintenanceState} {call : Call}
  {r : Reduction MaintenanceState}

section Refusals

theorem refused_changes_nothing (h : op.respond call s = .ok r)
    (hr : r.verdict.accepted = false) : r.state = s ∧ r.effects = [] := by
  rcases MaintenanceOperation.respond_answered h with ⟨code, detail, rfl⟩ | ⟨ha, _⟩
  · exact ⟨rfl, rfl⟩
  · rw [ha] at hr
    cases hr

/-- A terminal proposed before there is any work is refused and moves nothing. -/
theorem refused_terminal_changes_nothing : ∃ r,
    (Fixture.operation []).respond (Fixture.terminates "2031-03-03T09:00:00Z")
      (Fixture.operation []).initialState = .ok r ∧ r.verdict.accepted = false ∧
      r.state = (Fixture.operation []).initialState ∧ r.effects = [] := by
  obtain ⟨r, h, hc⟩ := ok_of_any (x := (Fixture.operation []).respond
    (Fixture.terminates "2031-03-03T09:00:00Z") (Fixture.operation []).initialState)
    (p := fun r => !r.verdict.accepted) (by decide +kernel)
  have hr : r.verdict.accepted = false := by simpa using hc
  exact ⟨r, h, hr, refused_changes_nothing h hr⟩

end Refusals

section Final

/-- Events stop at the engine; what an agent proposes stops at the operation. -/
theorem step_final (hf : s.replayFinal = true)
    (hl : ¬call.cause.IsProposal → s.replayFinal = false) (h : op.Step s call s') : s' = s := by
  obtain ⟨context, cause⟩ := call
  obtain ⟨r, hr, rfl⟩ := h
  cases cause with
  | event event => simp [hl nofun] at hf
  | action actionType payload evidenceRefs => exact MaintenanceOperation.applyAction_final hf hr
  | terminal evidenceRefs => exact MaintenanceOperation.applyTerminal_final hf hr

variable {sha256 : Value → String} {agent : OperationAgent} {operationId instanceId : String}
  {faults : List String}

/-- The run of the operation that a run of its engine is. -/
theorem engine_runs_operation {P : EngineState MaintenanceState → Prop}
    {t t' : EngineState MaintenanceState}
    (h : (op.engine sha256 agent operationId instanceId faults).RunsVia P t t') :
    Run op.Step (fun state call => ¬call.cause.IsProposal → state.replayFinal = false)
      t.state t'.state := by
  have hr := Engine.RunsVia.operation h
  rwa [show (op.engine sha256 agent operationId instanceId faults).domain = op.domain sha256
    from rfl, op.step_domain sha256] at hr

theorem final_record_stands {t t' : EngineState MaintenanceState}
    (hf : t.state.replayFinal = true)
    (h : (op.engine sha256 agent operationId instanceId faults).RunsVia (fun _ => True) t t') :
    t'.state = t.state ∧ t'.state.canonical = t.state.canonical := by
  have hs : t'.state = t.state := by
    refine Run.related (I := fun state => state.replayFinal = true) (R := fun a b => b = a)
      (engine_runs_operation h) hf ?_ (fun _ => rfl) (fun _ _ _ h₁ h₂ => h₂.trans h₁) ?_
    · intro a call b ha hl hab
      exact step_final ha hl hab ▸ ha
    · intro a call b ha hl hab
      exact step_final ha hl hab
  exact ⟨hs, by rw [hs]⟩

/-- The customer writes again a day after the operation was finalized. -/
def writesAgain : Engine MaintenanceState :=
  Fixture.engine (Fixture.diagnosed ++
    [Fixture.persists 5 "2031-03-06T12:00:00Z"]) Fixture.closes

theorem writesAgain_changes_nothing : ∃ t t', t.state.replayFinal = true ∧
    writesAgain.runSteps 1 t = .ok t' ∧ t'.delivered.length = t.delivered.length + 1 ∧
      t'.state = t.state ∧ t'.state.canonical = t.state.canonical := by
  obtain ⟨t, ht, hc⟩ := ok_of_any (x := writesAgain.start >>= writesAgain.runSteps 12)
    (p := fun t => t.state.replayFinal && t.delivered.length == 5) (by decide +kernel)
  obtain ⟨t', ht', hd⟩ := ok_of_any (x := writesAgain.start >>= writesAgain.runSteps 13)
    (p := fun t' => t'.delivered.length == 6) (by decide +kernel)
  obtain ⟨hf, hn⟩ := Bool.and_eq_true_iff.mp hc
  have hs : writesAgain.runSteps 1 t = .ok t' := by
    rw [← ht', show 13 = 12 + 1 from rfl, bind_congr (writesAgain.runSteps_add 12 1),
      ← bind_assoc, ht, ok_bind]
  have hl : t'.delivered.length = t.delivered.length + 1 := by
    rw [beq_iff_eq.mp hd, beq_iff_eq.mp hn]
  exact ⟨t, t', hf, hs, hl, final_record_stands hf (Engine.runSteps_runs hs)⟩

end Final

end OperateBench.Maintenance
