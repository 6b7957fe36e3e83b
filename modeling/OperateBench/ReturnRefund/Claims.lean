import OperateBench.ReturnRefund.Fixture

/-! # Customer claims move nothing

No reduction looks at what customers claim but the one that records a claim and the one
that resolves evidence. So the calls of a run are answered alike with and without the
claims among them, for as long as nobody cites the identity of a claim.
-/

namespace OperateBench.ReturnRefund

open Foundation

section Forgetting

/-- The record without what customers claim. -/
def ReturnRefundState.forget (s : ReturnRefundState) : ReturnRefundState :=
  { s with customerClaims := .empty }

/-- The reduction without what customers claim. -/
def forgetting (r : Reduction ReturnRefundState) : Reduction ReturnRefundState :=
  { r with state := r.state.forget }

def Transaction.forget (t : Transaction) : Transaction := { t with state := t.state.forget }

variable {s : ReturnRefundState}

theorem forget_of_none (h : s.customerClaims = .empty) : s.forget = s := by
  cases s
  cases h
  rfl

theorem forget_put (c : CustomerClaim) :
    ({ s with customerClaims := s.customerClaims.put c } : ReturnRefundState).forget = s.forget :=
  rfl

theorem refuse_forget (code detail : String) :
    Mirrors forgetting (refuse s code detail) (refuse s.forget code detail) := rfl

theorem accept_forget (t : Transaction) (v : Verdict) :
    Mirrors forgetting (t.accept v) (t.forget.accept v) := rfl

theorem closeObligation_forget (t : Transaction) (now id : String) (closure : Closure) :
    Mirrors Transaction.forget (t.closeObligation now id closure)
      (t.forget.closeObligation now id closure) := by
  unfold Transaction.closeObligation
  dsimp only [Transaction.forget, ReturnRefundState.forget]
  split
  · exact mirrors_ok t
  · refine Mirrors.ite (fun _ => mirrors_ok t) fun _ => ?_
    exact Mirrors.bind_same fun _ => mirrors_ok _

theorem openObligation_forget (t : Transaction) (now id : String) (kind : ObligationKind)
    (cycleId : Option String) (after : Int) :
    Mirrors Transaction.forget (t.openObligation now id kind cycleId after)
      (t.forget.openObligation now id kind cycleId after) := by
  unfold Transaction.openObligation
  refine Mirrors.ite (fun _ => mirrors_ok t) fun _ => ?_
  exact Mirrors.bind_same fun _ => mirrors_ok _

end Forgetting

namespace ReturnRefundOperation

variable (op : ReturnRefundOperation) (s : ReturnRefundState) (event : Event)
  (context : EnvironmentContext)

section Reducers

theorem reduceReturnRequested_forget : Mirrors forgetting (op.reduceReturnRequested s event)
    (op.reduceReturnRequested s.forget event) := by
  refine Mirrors.ite (fun _ => refuse_forget _ _) fun _ => ?_
  refine Mirrors.ite (fun _ => refuse_forget _ _) fun _ => ?_
  exact accept_forget _ _

theorem reduceHandoverVerified_forget :
    Mirrors forgetting (reduceHandoverVerified s event context)
      (reduceHandoverVerified s.forget event context) := by
  unfold reduceHandoverVerified
  dsimp only [ReturnRefundState.forget]
  split
  · exact refuse_forget _ _
  refine Mirrors.ite (fun _ => refuse_forget _ _) fun _ => ?_
  refine Mirrors.ite (fun _ => refuse_forget _ _) fun _ => ?_
  refine Mirrors.ite (fun _ => refuse_forget _ _) fun _ => ?_
  refine (closeObligation_forget _ _ _ _).bind fun t => ?_
  refine (closeObligation_forget t _ _ _).bind fun t => ?_
  exact accept_forget _ _

theorem oweDenialNotice_forget (t : Transaction) (now cycleId : String) :
    Mirrors Transaction.forget (op.oweDenialNotice t now cycleId)
      (op.oweDenialNotice t.forget now cycleId) :=
  openObligation_forget _ _ _ _ _ _

theorem afterInspection_forget (t : Transaction) (now cycleId disposition : String) :
    Mirrors Transaction.forget (op.afterInspection t now cycleId disposition)
      (op.afterInspection t.forget now cycleId disposition) := by
  refine Mirrors.ite (fun _ => oweDenialNotice_forget op _ _ _) fun _ => ?_
  exact Mirrors.ite (fun _ => mirrors_ok _) fun _ => mirrors_ok _

theorem reduceInspectionCompleted_forget :
    Mirrors forgetting (op.reduceInspectionCompleted s event context)
      (op.reduceInspectionCompleted s.forget event context) := by
  unfold reduceInspectionCompleted
  dsimp only [ReturnRefundState.forget]
  refine Mirrors.ite (fun _ => refuse_forget _ _) fun _ => ?_
  refine Mirrors.ite (fun _ => refuse_forget _ _) fun _ => ?_
  split
  · exact refuse_forget _ _
  refine Mirrors.ite (fun _ => refuse_forget _ _) fun _ => ?_
  refine Mirrors.ite (fun _ => refuse_forget _ _) fun _ => ?_
  refine (afterInspection_forget op _ _ _ _).bind fun t => ?_
  exact accept_forget _ _

theorem reduceApprovalReceived_forget :
    Mirrors forgetting (op.reduceApprovalReceived s event context)
      (op.reduceApprovalReceived s.forget event context) := by
  unfold reduceApprovalReceived
  dsimp only [ReturnRefundState.forget]
  split
  · exact refuse_forget _ _
  refine Mirrors.ite (fun _ => refuse_forget _ _) fun _ => ?_
  refine Mirrors.ite (fun _ => refuse_forget _ _) fun _ => ?_
  split
  · exact refuse_forget _ _
  · refine (closeObligation_forget _ _ _ _).bind fun t => ?_
    split
    · exact accept_forget _ _
    · refine (oweDenialNotice_forget op _ _ _).bind fun t => ?_
      exact accept_forget _ _

theorem reduceSettlementConfirmed_forget :
    Mirrors forgetting (op.reduceSettlementConfirmed s event context)
      (op.reduceSettlementConfirmed s.forget event context) := by
  unfold reduceSettlementConfirmed
  dsimp only [ReturnRefundState.forget]
  split
  · exact refuse_forget _ _
  refine Mirrors.ite (fun _ => refuse_forget _ _) fun _ => ?_
  refine Mirrors.ite (fun _ => refuse_forget _ _) fun _ => ?_
  refine (closeObligation_forget _ _ _ _).bind fun t => ?_
  refine (openObligation_forget t _ _ _ _ _).bind fun t => ?_
  exact accept_forget _ _

theorem reduceSettlementReversed_forget :
    Mirrors forgetting (op.reduceSettlementReversed s event context)
      (op.reduceSettlementReversed s.forget event context) := by
  unfold reduceSettlementReversed
  dsimp only [ReturnRefundState.forget]
  split
  · exact refuse_forget _ _
  split
  · exact refuse_forget _ _
  refine Mirrors.ite (fun _ => refuse_forget _ _) fun _ => ?_
  refine (openObligation_forget _ _ _ _ _ _).bind fun t => ?_
  exact accept_forget _ _

end Reducers

section Timers

theorem reduceReminderDue_forget :
    Mirrors forgetting (op.reduceReminderDue s event context)
      (op.reduceReminderDue s.forget event context) := by
  refine Mirrors.bind_same fun verdict => ?_
  split
  · exact refuse_forget _ _
  dsimp only [ReturnRefundState.forget]
  split
  · exact refuse_forget _ _
  refine Mirrors.ite (fun _ => refuse_forget _ _) fun _ => ?_
  refine Mirrors.ite (fun _ => refuse_forget _ _) fun _ => ?_
  refine (openObligation_forget _ _ _ _ _ _).bind fun t => ?_
  exact accept_forget _ _

theorem reduceDeadlineDue_forget :
    Mirrors forgetting (op.reduceDeadlineDue s event context)
      (op.reduceDeadlineDue s.forget event context) := by
  refine Mirrors.bind_same fun verdict => ?_
  split
  · exact refuse_forget _ _
  dsimp only [ReturnRefundState.forget]
  split
  · exact refuse_forget _ _
  refine Mirrors.ite (fun _ => refuse_forget _ _) fun _ => ?_
  refine Mirrors.ite (fun _ => refuse_forget _ _) fun _ => ?_
  refine (closeObligation_forget _ _ _ _).bind fun t => ?_
  refine (closeObligation_forget t _ _ _).bind fun t => ?_
  refine (openObligation_forget t _ _ _ _ _).bind fun t => ?_
  exact accept_forget _ _

theorem reduceApprovalDeadlineDue_forget :
    Mirrors forgetting (op.reduceApprovalDeadlineDue s event context)
      (op.reduceApprovalDeadlineDue s.forget event context) := by
  refine Mirrors.bind_same fun verdict => ?_
  split
  · exact refuse_forget _ _
  dsimp only [ReturnRefundState.forget]
  split
  · exact refuse_forget _ _
  refine Mirrors.ite (fun _ => refuse_forget _ _) fun _ => ?_
  refine Mirrors.ite (fun _ => refuse_forget _ _) fun _ => ?_
  refine (closeObligation_forget _ _ _ _).bind fun t => ?_
  refine (oweDenialNotice_forget op t _ _).bind fun t => ?_
  exact accept_forget _ _

theorem reduceCooldownExpired_forget :
    Mirrors forgetting (reduceCooldownExpired s event context)
      (reduceCooldownExpired s.forget event context) := by
  unfold reduceCooldownExpired
  dsimp only [ReturnRefundState.forget]
  refine Mirrors.ite (fun _ => refuse_forget _ _) fun _ => ?_
  split
  · exact refuse_forget _ _
  refine Mirrors.bind_same fun verdict => ?_
  split
  · exact refuse_forget _ _
  refine Mirrors.ite (fun _ => refuse_forget _ _) fun _ => ?_
  refine Mirrors.ite (fun _ => refuse_forget _ _) fun _ => ?_
  refine Mirrors.ite (fun _ => refuse_forget _ _) fun _ => ?_
  exact accept_forget _ _

end Timers

section Actions

variable (payload : Fields) (evidenceRefs : List String)

theorem actIssueReturnAuthorisation_forget :
    Mirrors forgetting (op.actIssueReturnAuthorisation s payload context)
      (op.actIssueReturnAuthorisation s.forget payload context) := by
  refine Mirrors.ite (fun _ => refuse_forget _ _) fun _ => ?_
  refine Mirrors.ite (fun _ => refuse_forget _ _) fun _ => ?_
  refine (openObligation_forget _ _ _ _ _ _).bind fun t => ?_
  exact accept_forget _ _

theorem requiredEvidenceProblem_forget (action : ActionType)
    (h : actionEvidenceContract.evidenceFor action.text = [inspectionKey]) :
    requiredEvidenceProblem s.forget action payload evidenceRefs =
      requiredEvidenceProblem s action payload evidenceRefs := by
  rw [requiredEvidenceProblem_eq payload evidenceRefs h,
    requiredEvidenceProblem_eq payload evidenceRefs h]
  rfl

theorem actRequestRefundApproval_forget :
    Mirrors forgetting (op.actRequestRefundApproval s payload evidenceRefs context)
      (op.actRequestRefundApproval s.forget payload evidenceRefs context) := by
  unfold actRequestRefundApproval
  simp only [requiredEvidenceProblem_forget s payload evidenceRefs .requestRefundApproval rfl]
  dsimp only [ReturnRefundState.forget]
  split
  · exact refuse_forget _ _
  refine Mirrors.bind_same fun needed => ?_
  refine Mirrors.ite (fun _ => refuse_forget _ _) fun _ => ?_
  refine Mirrors.ite (fun _ => refuse_forget _ _) fun _ => ?_
  refine Mirrors.ite (fun _ => refuse_forget _ _) fun _ => ?_
  refine Mirrors.bind_same fun problem => ?_
  split
  · exact refuse_forget _ _
  refine Mirrors.bind_same fun deadlineAt => ?_
  refine (openObligation_forget _ _ _ _ _ _).bind fun t => ?_
  exact accept_forget _ _

theorem approvalProblem_forget (inspection : Inspection) :
    op.approvalProblem s.forget payload inspection = op.approvalProblem s payload inspection := rfl

theorem actRequestRefund_forget :
    Mirrors forgetting (op.actRequestRefund s payload evidenceRefs context)
      (op.actRequestRefund s.forget payload evidenceRefs context) := by
  unfold actRequestRefund
  simp only [requiredEvidenceProblem_forget s payload evidenceRefs .requestRefund rfl,
    approvalProblem_forget]
  dsimp only [ReturnRefundState.forget]
  refine Mirrors.ite (fun _ => refuse_forget _ _) fun _ => ?_
  refine Mirrors.ite (fun _ => refuse_forget _ _) fun _ => ?_
  split
  · exact refuse_forget _ _
  refine Mirrors.ite (fun _ => refuse_forget _ _) fun _ => ?_
  refine Mirrors.ite (fun _ => refuse_forget _ _) fun _ => ?_
  split
  · exact refuse_forget _ _
  refine Mirrors.ite (fun _ => refuse_forget _ _) fun _ => ?_
  refine Mirrors.bind_same fun problem => ?_
  split
  · exact refuse_forget _ _
  refine (closeObligation_forget _ _ _ _).bind fun t => ?_
  refine (openObligation_forget t _ _ _ _ _).bind fun t => ?_
  exact accept_forget _ _

theorem messageCycle_forget : messageCycle s.forget payload = messageCycle s payload := rfl

theorem noticeObligation_forget (fixtureId cycleId : String) :
    noticeObligation s.forget fixtureId cycleId = noticeObligation s fixtureId cycleId := rfl

theorem actSendMessage_forget :
    Mirrors forgetting (op.actSendMessage s payload context)
      (op.actSendMessage s.forget payload context) := by
  unfold actSendMessage
  simp only [noticeObligation_forget, messageCycle_forget]
  dsimp only [ReturnRefundState.forget]
  refine Mirrors.ite (fun _ => refuse_forget _ _) fun _ => ?_
  refine Mirrors.ite (fun _ => refuse_forget _ _) fun _ => ?_
  refine Mirrors.ite (fun _ => refuse_forget _ _) fun _ => ?_
  refine Mirrors.ite (fun _ => refuse_forget _ _) fun _ => ?_
  split
  · exact refuse_forget _ _
  refine Mirrors.ite (fun _ => refuse_forget _ _) fun _ => ?_
  refine (closeObligation_forget _ _ _ _).bind fun t => ?_
  exact accept_forget _ _

end Actions

section Terminal

variable (evidenceRefs : List String)

theorem settlementProblem_forget (refund : Refund) :
    op.settlementProblem s.forget refund = op.settlementProblem s refund := rfl

theorem enterCooldown_forget (refund : Refund) :
    Mirrors forgetting (op.enterCooldown s context refund)
      (op.enterCooldown s.forget context refund) :=
  Mirrors.bind_same fun _ => accept_forget _ _

theorem unresolvedEvidence_forget (h : (evidenceRefs.any fun ref => s.customerClaims.contains ref) =
    false) : unresolvedEvidence s.forget evidenceRefs = unresolvedEvidence s evidenceRefs := by
  have hnone : (evidenceRefs.any fun ref => s.forget.customerClaims.contains ref) = false :=
    List.any_eq_false.mpr fun _ _ => Bool.false_ne_true
  unfold unresolvedEvidence
  rw [h, hnone]
  rfl

theorem applyTerminal_forget (h : s.replayFinal = false →
    (evidenceRefs.any fun ref => s.customerClaims.contains ref) = false) :
    Mirrors forgetting (op.applyTerminal s evidenceRefs context)
      (op.applyTerminal s.forget evidenceRefs context) := by
  unfold applyTerminal
  refine Mirrors.ite (fun _ => refuse_forget _ _) fun hopen => ?_
  rw [unresolvedEvidence_forget s evidenceRefs (h (by simpa using hopen))]
  split
  · exact refuse_forget _ _
  refine Mirrors.ite (fun _ => refuse_forget _ _) fun _ => ?_
  refine Mirrors.ite (fun _ => refuse_forget _ _) fun _ => ?_
  refine Mirrors.ite (fun _ => refuse_forget _ _) fun _ => ?_
  refine Mirrors.ite (fun _ => accept_forget _ _) fun _ => ?_
  refine Mirrors.ite (fun _ => accept_forget _ _) fun _ => ?_
  refine Mirrors.ite (fun _ => refuse_forget _ _) fun _ => ?_
  rw [show s.forget.currentRefund = s.currentRefund from rfl]
  split
  · exact refuse_forget _ _
  rw [settlementProblem_forget]
  refine Mirrors.bind_same fun problem => ?_
  split
  · exact refuse_forget _ _
  · exact enterCooldown_forget op s context _

end Terminal

section Calls

/-- Does the call bring what a customer says about a handover? -/
def claims (call : Call) : Bool :=
  match call.cause with
  | .event event => event.eventType = EventType.customerHandoverClaimed.text
  | _ => false

/-- Is the action one that the agent may take, with the payload it takes? -/
def offers (actionType : String) (payload : Fields) : Bool :=
  match op.spec.actors.get? "agent", ActionType.ofText? actionType with
  | some agent, some action => agent.holds actionType &&
    (validatePayload (actionPayloadSchema action) payload s!"action {actionType}"
      actionType).toOption.isSome
  | _, _ => false

/-- The references that are looked up to answer the call. -/
def consulted : Cause → List String
  | .event _ => []
  | .action actionType payload evidenceRefs =>
    if !s.replayFinal && op.offers actionType payload then evidenceRefs else []
  | .terminal evidenceRefs => if !s.replayFinal then evidenceRefs else []

/-- Does the call rest on nothing that carries the identity of a claim on file? -/
def spares (call : Call) : Bool :=
  !(op.consulted s call.cause).any fun ref => s.customerClaims.contains ref

variable {op s} {call : Call}

theorem reducer_forget {eventType : EventType} (h : eventType ≠ .customerHandoverClaimed) :
    Mirrors forgetting (op.reducer s event context eventType)
      (op.reducer s.forget event context eventType) := by
  cases eventType with
  | customerReturnRequested => exact reduceReturnRequested_forget op s event
  | customerHandoverClaimed => exact absurd rfl h
  | carrierHandoverVerified => exact reduceHandoverVerified_forget s event context
  | warehouseInspectionCompleted => exact reduceInspectionCompleted_forget op s event context
  | refundApprovalReceived => exact reduceApprovalReceived_forget op s event context
  | refundSettlementConfirmed => exact reduceSettlementConfirmed_forget op s event context
  | refundSettlementReversed => exact reduceSettlementReversed_forget op s event context
  | handoverReminderDue => exact reduceReminderDue_forget op s event context
  | handoverDeadlineDue => exact reduceDeadlineDue_forget op s event context
  | approvalDeadlineDue => exact reduceApprovalDeadlineDue_forget op s event context
  | resolutionCooldownExpired => exact reduceCooldownExpired_forget s event context

theorem reduceEvent_forget (h : event.eventType ≠ EventType.customerHandoverClaimed.text) :
    Mirrors forgetting (op.reduceEvent s event context) (op.reduceEvent s.forget event context) := by
  unfold reduceEvent
  split
  · exact refuse_forget _ _
  split
  · exact refuse_forget _ _
  rename_i eventType htype
  refine Mirrors.ite (fun _ => refuse_forget _ _) fun _ => ?_
  split
  · exact refuse_forget _ _
  · refine reducer_forget event context ?_
    rintro rfl
    exact h (EventType.text_of_ofText? htype).symm

theorem handler_forget (payload : Fields) (evidenceRefs : List String) (action : ActionType) :
    Mirrors forgetting (op.handler s payload evidenceRefs context action)
      (op.handler s.forget payload evidenceRefs context action) := by
  cases action with
  | issueReturnAuthorisation => exact actIssueReturnAuthorisation_forget op s context payload
  | requestRefundApproval => exact actRequestRefundApproval_forget op s context payload evidenceRefs
  | requestRefund => exact actRequestRefund_forget op s context payload evidenceRefs
  | sendMessage => exact actSendMessage_forget op s context payload

theorem applyAction_forget {actionType : String} {payload : Fields} {evidenceRefs : List String}
    (h : s.replayFinal = false → op.offers actionType payload = true →
      (evidenceRefs.any fun ref => s.customerClaims.contains ref) = false) :
    Mirrors forgetting (op.applyAction s payload evidenceRefs context actionType)
      (op.applyAction s.forget payload evidenceRefs context actionType) := by
  unfold applyAction
  refine Mirrors.ite (fun _ => refuse_forget _ _) fun hopen => ?_
  split
  · exact mirrors_error _
  rename_i agent hagent
  refine Mirrors.ite (fun _ => refuse_forget _ _) fun hholds => ?_
  split
  · exact refuse_forget _ _
  rename_i action htype
  split
  · exact refuse_forget _ _
  rename_i hvalid
  have hoffers : op.offers actionType payload = true := by
    unfold offers
    rw [hagent, htype]
    simp only [hvalid, Bool.and_eq_true]
    exact ⟨by simpa using hholds, rfl⟩
  rw [unresolvedEvidence_forget s evidenceRefs (h (by simpa using hopen) hoffers)]
  split
  · exact refuse_forget _ _
  · exact handler_forget context payload evidenceRefs action

theorem respond_forget (hclaim : claims call = false) (hspares : op.spares s call = true) :
    Mirrors forgetting (op.respond call s) (op.respond call s.forget) := by
  obtain ⟨context, cause⟩ := call
  cases cause with
  | event event =>
    refine reduceEvent_forget event context ?_
    simpa [claims] using hclaim
  | action actionType payload evidenceRefs =>
    refine applyAction_forget context fun hopen hoffers => ?_
    simpa [spares, consulted, hopen, hoffers] using hspares
  | terminal evidenceRefs =>
    refine applyTerminal_forget op s context evidenceRefs fun hopen => ?_
    simpa [spares, consulted, hopen] using hspares

/-- A claim is put on file or refused, and nothing else comes of it. -/
theorem respond_claimed (hclaim : claims call = true) :
    ∃ r, op.respond call s = .ok r ∧ r.state.forget = s.forget := by
  obtain ⟨context, cause⟩ := call
  cases cause with
  | action | terminal => cases hclaim
  | event event =>
    have htype : event.eventType = EventType.customerHandoverClaimed.text := by
      simpa [claims] using hclaim
    change ∃ r, op.reduceEvent s event context = .ok r ∧ r.state.forget = s.forget
    unfold reduceEvent
    split
    · exact ⟨_, rfl, rfl⟩
    rw [htype, show EventType.ofText? EventType.customerHandoverClaimed.text =
      some .customerHandoverClaimed by decide]
    dsimp only
    split
    · exact ⟨_, rfl, rfl⟩
    split
    · exact ⟨_, rfl, rfl⟩
    change ∃ r, reduceHandoverClaimed s event context = .ok r ∧ r.state.forget = s.forget
    unfold reduceHandoverClaimed
    split
    · exact ⟨_, rfl, rfl⟩
    dsimp only
    split
    · exact ⟨_, rfl, rfl⟩
    · exact ⟨_, rfl, rfl⟩

end Calls

section Runs

/-- What came of each call, made one after the other, and the record they leave. -/
def answers : List Call → ReturnRefundState →
    Except PyError (List (Call × Reduction ReturnRefundState) × ReturnRefundState)
  | [], s => .ok ([], s)
  | call :: calls, s => do
    let r ← op.respond call s
    let (rows, last) ← answers calls r.state
    return ((call, r) :: rows, last)

/-- Does the check hold of each call on the record it is made on? -/
def throughout (check : ReturnRefundState → Call → Bool) :
    List Call → ReturnRefundState → Bool
  | [], _ => true
  | call :: calls, s => check s call &&
    match op.respond call s with
    | .ok r => throughout check calls r.state
    | .error _ => true

/-- What came of the calls that are no claims, but for what is claimed. -/
def withoutClaims (run : List (Call × Reduction ReturnRefundState) × ReturnRefundState) :
    List (Call × Reduction ReturnRefundState) × ReturnRefundState :=
  ((run.1.filter fun row => !claims row.1).map fun row => (row.1, forgetting row.2), run.2.forget)

variable {op}

theorem answers_forget {calls : List Call} {s : ReturnRefundState}
    (h : op.throughout op.spares calls s = true) : Mirrors withoutClaims (op.answers calls s)
      (op.answers (calls.filter fun call => !claims call) s.forget) := by
  induction calls generalizing s with
  | nil => exact mirrors_ok _
  | cons call calls ih =>
    rw [throughout, Bool.and_eq_true] at h
    obtain ⟨hspares, hrest⟩ := h
    cases hclaim : claims call with
    | true =>
      obtain ⟨r, hr, hstate⟩ : ∃ r, op.respond call s = .ok r ∧ r.state.forget = s.forget :=
        respond_claimed hclaim
      simp only [hr] at hrest
      have hrows := ih hrest
      rw [hstate] at hrows
      rw [List.filter_cons_of_neg (by simp [hclaim]), answers, hr, ok_bind]
      cases hanswers : op.answers calls r.state with
      | error e =>
        rw [hanswers] at hrows
        exact hrows
      | ok run =>
        rw [hanswers] at hrows
        rw [hrows, ok_bind]
        simp [Mirrors, withoutClaims, hclaim, Except.map, pure, Except.pure]
    | false =>
      have hcall := respond_forget hclaim hspares
      rw [List.filter_cons_of_pos (by simp [hclaim]), answers, answers]
      cases hr : op.respond call s with
      | error e =>
        rw [hr] at hcall
        rw [hcall]
        rfl
      | ok r =>
        rw [hr] at hcall
        simp only [hr] at hrest
        rw [hcall, Except.map, ok_bind, ok_bind]
        refine (ih hrest).bind fun run => ?_
        simp [Mirrors, withoutClaims, hclaim, Except.map, pure, Except.pure]

/-- What customers claim moves nothing but the claims, while no proposal that is looked at cites
the identity of a claim: without them every other call is answered as before, and leaves the same
record. -/
theorem claims_move_nothing {calls : List Call}
    (h : op.throughout op.spares calls op.initialState = true) :
    op.answers (calls.filter fun call => !claims call) op.initialState =
      (op.answers calls op.initialState).map withoutClaims :=
  answers_forget h

end Runs

end ReturnRefundOperation

section Runs

open ReturnRefundOperation Fixture

/-- The goods are authorised, claimed, handed over and inspected, and a decision is asked for. -/
def claimedReturn (claimId : String) : List Call :=
  [brings (requested 0 startsAt), authorises.call startsAt,
    brings (happens 1 startsAt "customer_1" .customerHandoverClaimed
      [("claim_id", .str claimId), ("return_id", .str "return_1"),
        ("authorisation_id", .str "return_authorisation_1"), ("cycle_id", .str firstRefundCycle)]),
    brings (handedOver 2 startsAt), brings (inspected 3 startsAt), asksApproval.call startsAt]

theorem claim_beside_inspection :
    plain.answers ((claimedReturn "claim_1").filter fun call => !claims call) plain.initialState =
      (plain.answers (claimedReturn "claim_1") plain.initialState).map withoutClaims :=
  claims_move_nothing (by decide +kernel)

/-- Does every reference of the call name a record? -/
def resolves (s : ReturnRefundState) (call : Call) : Bool :=
  match call.cause with
  | .event _ => true
  | .action _ _ evidenceRefs | .terminal evidenceRefs => evidenceRefs.all (resolvesToRecord s)

/-- A claim that carries the identity of the inspection bars the request that cites it. -/
theorem claim_bars_approval : plain.throughout resolves (claimedReturn "inspection_1")
    plain.initialState = true ∧
      plain.answers ((claimedReturn "inspection_1").filter fun call => !claims call)
        plain.initialState ≠
      (plain.answers (claimedReturn "inspection_1") plain.initialState).map withoutClaims := by
  have hcodes : ((plain.answers ((claimedReturn "inspection_1").filter fun call => !claims call)
      plain.initialState).map fun run => run.1.map fun row => row.2.verdict.code) ≠
    ((plain.answers (claimedReturn "inspection_1") plain.initialState).map withoutClaims).map
      fun run => run.1.map fun row => row.2.verdict.code := by decide +kernel
  exact ⟨by decide +kernel, fun h => hcodes (congrArg _ h)⟩

end Runs

end OperateBench.ReturnRefund
