import OperateBench.ReturnRefund.Proposals

/-! # The shipped return/refund fixture

The actors, the policy and the messages of the executable fixture, with short forms
for the events of a return and for what an agent proposes. The concrete runs of this
operation are all runs on it.
-/

namespace OperateBench.ReturnRefund

open Foundation

section Checks

/-- What the loader checks of one authored event, as a check. -/
def authors (spec : ReturnRefundSpec) (startsAt : String) (event : PlannedEvent) : Bool :=
  match EventType.ofText? event.eventType, spec.actors.get? event.actorId, event.instant,
    event.trigger, strptime startsAt with
  | some eventType, some actor, some instant, none, .ok start =>
    !isBlank event.eventId && actor.holds eventType.authority &&
      (validatePayload (eventPayloadSchema eventType) event.payload "event"
        event.eventType).toOption.isSome &&
      ((event.payload.get? "amount_minor").all fun value =>
        value.isInt spec.policy.refundAmountMinor.1) &&
      ((event.payload.get? "currency").all fun value => value.isStr spec.policy.currency) &&
      event.delayMinutes == 0 &&
      (strptime instant).toOption.any fun moment =>
        decide (start ≤ moment ∧ moment - start ≤ spec.policy.horizonMinutes.1 * 60)
  | _, _, _, _, _ => false

theorem authored_of_authors {spec : ReturnRefundSpec} {startsAt : String} {event : PlannedEvent}
    (h : authors spec startsAt event = true) : Authored spec startsAt event := by
  unfold authors at h
  split at h
  · rename_i eventType actor instant start htype hactor hinstant htrigger hstart
    simp only [Bool.and_eq_true, Bool.not_eq_true', beq_iff_eq, Option.any_eq_true,
      Option.all_eq_true, decide_eq_true_eq] at h
    obtain ⟨⟨⟨⟨⟨⟨hid, hholds⟩, hpayload⟩, hamount⟩, hcurrency⟩, hdelay⟩, moment, hmoment, hlate⟩ := h
    refine ⟨hid, ⟨eventType, actor, htype, hactor, hholds, "event", ?_⟩,
      fun value hv => hamount value hv, fun value hv => hcurrency value hv, ?_, ?_, ?_⟩
    · cases hv : validatePayload (eventPayloadSchema eventType) event.payload "event"
          event.eventType with
      | ok u => rfl
      | error e => simp [hv, Except.toOption] at hpayload
    · simp [hinstant, htrigger]
    · exact ⟨hdelay.ge, by simp [htrigger]⟩
    · intro instant' hi
      obtain rfl := Option.some.inj (hinstant.symm.trans hi)
      refine ⟨hdelay, start, moment, hstart, ?_, hlate.1, hlate.2⟩
      cases hm : strptime instant with
      | ok n => simp_all [Except.toOption]
      | error e => simp [hm, Except.toOption] at hmoment
  · cases h

end Checks

namespace Fixture

def actors : Dict String ActorSpec := .ofList
  [("customer_1", ⟨"customer", ["request_return", "claim_handover"]⟩),
    ("returns_approver_1", ⟨"returns_approver", ["approve_refund"]⟩),
    ("carrier_system", ⟨"authoritative_external_system", ["verify_handover"]⟩),
    ("warehouse_system", ⟨"authoritative_external_system", ["inspect_return"]⟩),
    ("payment_system", ⟨"authoritative_external_system", ["settle_refund", "reverse_refund"]⟩),
    ("scheduler", ⟨"system_scheduler", ["emit_timer"]⟩),
    ("agent", ⟨"agent", ActionType.all.map ActionType.text ++ [completeOutcomeKey]⟩)]

def positive (n : Int) (h : decide (0 < n) = true) : Positive := ⟨n, of_decide_eq_true h⟩

def policy : PolicySpec where
  currency := "USD"
  refundAmountMinor := positive 60000 rfl
  approvalThresholdMinor := positive 30000 rfl
  handoverReminderAfterMinutes := positive 2880 rfl
  handoverDeadlineAfterMinutes := positive 10080 rfl
  approvalDeadlineAfterMinutes := positive 4320 rfl
  provisionalCloseMinutes := positive 2880 rfl
  completionNoticeWithinMinutes := positive 720 rfl
  maxTurnsPerInvocation := positive 8 rfl
  horizonMinutes := positive 43200 rfl
  maxRetrievalBatchesPerInvocation := positive 6 rfl
  exceedsThreshold := by decide
  remindsFirst := by decide
  turns := by decide
  batches := by decide
  bounded := by decide

theorem rolesAllow : ∀ e ∈ actors.entries, ∃ allowed,
    roleAllowedAuthorities.get? e.2.role = some allowed ∧ ∀ a ∈ e.2.authority, a ∈ allowed := by
  have h : ∀ e ∈ actors.entries, ((roleAllowedAuthorities.get? e.2.role).any fun allowed =>
      e.2.authority.all fun a => a ∈ allowed) = true := by decide
  intro e he
  obtain ⟨allowed, hallowed, ha⟩ := Option.any_eq_true _ _ |>.mp (h e he)
  exact ⟨allowed, hallowed, by simpa using ha⟩

theorem actorsThere : ∀ e ∈ requiredActors, ∃ actor, actors.get? e.1 = some actor ∧
    actor.role = e.2.1 ∧ ∀ a ∈ e.2.2, actor.holds a = true := by
  have h : ∀ e ∈ requiredActors, ((actors.get? e.1).any fun actor =>
      actor.role == e.2.1 && e.2.2.all actor.holds) = true := by decide
  intro e he
  obtain ⟨actor, hactor, ha⟩ := Option.any_eq_true _ _ |>.mp (h e he)
  exact ⟨actor, hactor, by simpa using ha⟩

def spec : ReturnRefundSpec where
  actors
  policy
  messageFixtures := .ofList
    [("msg_handover_reminder", "Synthetic reminder to hand the return to the carrier."),
      ("msg_return_expired", "Synthetic notice that the return window expired."),
      ("msg_refund_complete", "Synthetic notice that the refund settled."),
      ("msg_refund_denied", "Synthetic notice that the refund was not approved.")]
  hiddenState := .ofList [("customer_segment_fixture", .str "hidden_fixture_segment_c")]
  rolesAllow
  actorsThere
  fixturesThere := by decide

def startsAt : String := "2034-04-08T09:00:00Z"

theorem starts : ∃ start, strptime startsAt = .ok start := by
  obtain ⟨start, hs, _⟩ := ok_of_any (x := strptime startsAt) (p := fun _ => true) (by decide)
  exact ⟨start, hs⟩

/-- The fixture on authored events that pass the checks of the loader. -/
def operation (events : List PlannedEvent)
    (authored : events.all (authors spec startsAt) = true)
    (distinct : (events.map PlannedEvent.eventId).Nodup)
    (sequenced : events.map PlannedEvent.sequence = (List.range events.length).map (↑)) :
    ReturnRefundOperation := ⟨spec, {
  startsAt
  dispatchFailures := []
  events
  starts := starts
  authored := fun event he => authored_of_authors (List.all_eq_true.mp authored event he)
  distinct
  sequenced := fun i event he => by
    have hi := congrArg (fun l => l[i]?) sequenced
    obtain ⟨hlt, heq⟩ := List.getElem?_eq_some_iff.mp he
    rw [← heq]
    simpa [hlt] using hi }⟩

/-- The operation where nothing is authored: what happens is up to the caller. -/
def plain : ReturnRefundOperation := operation [] (by decide) (by decide) (by decide)

section Events

/-- An authored event at its instant. -/
def happens (sequence : ℕ) (instant actorId : String) (eventType : EventType)
    (payload : List (String × Value)) : PlannedEvent :=
  ⟨s!"event_{sequence}", eventType.text, actorId, sequence, .ofList payload, true, some instant,
    none, 0⟩

/-- What the whole operation refunds. -/
def amount : List (String × Value) := [("amount_minor", .int 60000), ("currency", .str "USD")]

def requested (sequence : ℕ) (instant : String) : PlannedEvent :=
  happens sequence instant "customer_1" .customerReturnRequested
    ([("return_id", .str "return_1"), ("order_id", .str "order_1"),
      ("cycle_id", .str firstRefundCycle)] ++ amount)

def handedOver (sequence : ℕ) (instant : String) : PlannedEvent :=
  happens sequence instant "carrier_system" .carrierHandoverVerified
    [("carrier_record_id", .str "carrier_record_1"), ("return_id", .str "return_1"),
      ("authorisation_id", .str "return_authorisation_1"), ("cycle_id", .str firstRefundCycle),
      ("handed_over", .bool true)]

def inspected (sequence : ℕ) (instant : String) : PlannedEvent :=
  happens sequence instant "warehouse_system" .warehouseInspectionCompleted
    ([("inspection_id", .str "inspection_1"), ("return_id", .str "return_1"),
      ("cycle_id", .str firstRefundCycle), ("disposition", .str eligibleDisposition)] ++ amount)

def approved (sequence : ℕ) (instant : String) : PlannedEvent :=
  happens sequence instant "returns_approver_1" .refundApprovalReceived
    ([("checkpoint_id", .str "refund_checkpoint_1"), ("inspection_id", .str "inspection_1"),
      ("cycle_id", .str firstRefundCycle), ("decision", .str Decision.approved.text)] ++ amount)

def settled (sequence : ℕ) (instant requestId cycleId : String) : PlannedEvent :=
  happens sequence instant "payment_system" .refundSettlementConfirmed
    ([("settlement_id", .str "settlement_1"), ("refund_request_id", .str requestId),
      ("inspection_id", .str "inspection_1"), ("cycle_id", .str cycleId)] ++ amount)

def reversed (sequence : ℕ) (instant requestId cycleId : String) : PlannedEvent :=
  happens sequence instant "payment_system" .refundSettlementReversed
    [("reversal_id", .str "reversal_1"), ("refund_request_id", .str requestId),
      ("cycle_id", .str cycleId), ("reason_code", .str "BANK_RETURN")]

end Events

section Proposals

/-- What an agent proposes to do. -/
structure Proposal where
  actionType : ActionType
  payload : List (String × Value)
  evidenceRefs : List String := []

def authorises : Proposal where
  actionType := .issueReturnAuthorisation
  payload := [("return_id", .str "return_1"), ("cycle_id", .str firstRefundCycle)]

def asksApproval : Proposal where
  actionType := .requestRefundApproval
  payload := [("inspection_id", .str "inspection_1"), ("cycle_id", .str firstRefundCycle)]
  evidenceRefs := ["inspection_1"]

def asksRefund (cycleId : String) : Proposal where
  actionType := .requestRefund
  payload := [("inspection_id", .str "inspection_1"), ("cycle_id", .str cycleId),
    ("approval_checkpoint_id", .str "refund_checkpoint_1")]
  evidenceRefs := ["inspection_1", "refund_checkpoint_1"]

def notifies (cycleId : String) : Proposal where
  actionType := .sendMessage
  payload := [("recipient_actor_id", .str customerActorId),
    ("message_fixture_id", .str msgRefundComplete), ("cycle_id", .str cycleId)]

end Proposals

section Calls

/-- The operation on its own, in an environment whose dispatches all succeed. -/
def environment (now : String) : EnvironmentContext := ⟨now, fun _ => false, fun _ => false⟩

def brings (planned : PlannedEvent) : Call :=
  let instant := planned.instant.getD ""
  ⟨environment instant, .event (toEvent planned instant none Dict.empty)⟩

def Proposal.call (proposal : Proposal) (now : String) : Call :=
  ⟨environment now, .action proposal.actionType.text (.ofList proposal.payload)
    proposal.evidenceRefs⟩

def terminates (now : String) : Call := ⟨environment now, .terminal []⟩

/-- The goods are back and the refund of them is approved. -/
def ready : List Call :=
  [brings (requested 0 startsAt), authorises.call startsAt, brings (handedOver 1 startsAt),
    brings (inspected 2 startsAt), asksApproval.call startsAt, brings (approved 3 startsAt)]

/-- The refund of a cycle is asked for, settled and provisionally closed. -/
def refunded (requestId cycleId : String) : List Call :=
  [(asksRefund cycleId).call startsAt, brings (settled 4 startsAt requestId cycleId),
    (notifies cycleId).call startsAt, terminates startsAt]

/-- The calls one after the other. -/
def respondAll (op : ReturnRefundOperation) (calls : List Call) (state : ReturnRefundState) :
    Except PyError ReturnRefundState :=
  calls.foldlM (fun state call => (op.respond call state).map Reduction.state) state

theorem run_of_respondAll {op : ReturnRefundOperation} {s s' : ReturnRefundState}
    {P : ReturnRefundState → Call → Prop} {calls : List Call} (hP : ∀ call ∈ calls, ∀ s, P s call)
    (h : respondAll op calls s = .ok s') : Run op.Step P s s' := by
  refine Run.of_foldlM (fun s call t hst => ?_) hP h
  cases hr : op.respond call s with
  | error e => simp [hr, Except.map] at hst
  | ok r => exact ⟨r, hr, by simpa [hr, Except.map] using hst⟩

end Calls

section Episodes

def reads (tools : List String) : Answer :=
  .retrieve (.sequence (tools.map fun tool => .request (.str tool) (.dict [])))

def rests : Answer :=
  .wait ⟨.str "waiting", .list [], .int 20000, Or.inr nofun, by rintro n ⟨⟩; decide⟩

def completes : Answer := .complete (.str "done") (.list [])

def Proposal.answer (proposal : Proposal) : Answer :=
  .act (.str proposal.actionType.text) (.ofFields proposal.payload)
    (.ofTexts proposal.evidenceRefs) (.str "")

/-- The engine on the operation with an agent that gives the scripted answers in turn. The scripts
propose on a record before it moves again, so their reads need no digest to tell it apart. -/
def engine (op : ReturnRefundOperation) (script : List Answer) : Engine ReturnRefundState :=
  op.engine (fun _ => "") (fun shown => .ok (script.getD (shown.length - 1) (.other "NoneType")))
    "commerce_return_refund_synthetic_v1" "instance_1"

/-- The return is settled within two days. -/
def settledReturn : ReturnRefundOperation := operation
  [requested 0 startsAt, handedOver 1 "2034-04-08T12:00:00Z", inspected 2 "2034-04-09T12:00:00Z",
    approved 3 "2034-04-09T16:00:00Z",
    settled 4 "2034-04-09T20:00:00Z" "refund_request_1" firstRefundCycle]
  (by decide +kernel) (by decide) (by decide)

/-- An agent that brings the refund about. -/
def refunds : List Answer :=
  [reads ["get_return_case"], authorises.answer, rests, rests,
    reads ["get_return_case", "list_inspections", "list_checkpoints"], asksApproval.answer, rests,
    reads ["get_return_case", "list_carrier_records", "list_inspections", "list_checkpoints",
      "list_refunds"], (asksRefund firstRefundCycle).answer, rests]

/-- An agent that brings the refund about, tells the customer and closes. -/
def refundsAndCloses : List Answer :=
  refunds ++ [reads ["get_return_case", "list_communications", "list_obligations"],
    (notifies firstRefundCycle).answer,
    reads ["get_return_case", "list_checkpoints", "list_refunds", "list_communications",
      "list_obligations"], completes, rests]

end Episodes

end Fixture

end OperateBench.ReturnRefund
