import OperateBench.Profiles.Commit
import OperateBench.Core.Calendar
import OperateBench.Core.Pending

/-! # Inversion of the handlers

Each handler is looked into once, to see that it refuses or makes the change that is listed for
it. From here on a call is known by its answer alone. A step of the engine leaves the case as it
was, or makes one of the changes at the instant that the clock then shows.
-/

namespace OperateBench.Profiles

open Foundation

namespace CommerceProfilesDomain

variable {op : CommerceProfilesDomain} {s : ProfileState} {event : Event}
  {context : EnvironmentContext} {r : Reduction ProfileState}

section Events

theorem answered_of_refuse {now code detail : String} {cause : Cause}
    (h : refuse s code detail = .ok r) : op.Answered now s cause r :=
  .refused (Except.ok.inj h).symm

theorem answered_of_commit {now : String} {cause : Cause} {t : ProfileState}
    {effects : List Effect} (ha : op.Admitted now s cause) (hc : op.Change now s cause t effects)
    (h : op.commit s t (kindOf cause) effects = .ok r) : op.Answered now s cause r :=
  .committed ha hc (Except.ok.inj h).symm

theorem reduceLabelClaim_answered (ha : op.Admitted context.now s (.event event))
    (hb : Brings op event .customerLabelClaim) (h : op.reduceLabelClaim s event = .ok r) :
    op.Answered context.now s (.event event) r := by
  cases hb with
  | claim authored =>
    refine answered_of_commit ha (.claimed authored) ?_
    rw [reduceLabelClaim, text_of_same authored.payload (s := labelText) rfl] at h
    exact h

theorem reduceReturnVerified_answered (ha : op.Admitted context.now s (.event event))
    (hb : Brings op event .returnVerified) (h : op.reduceReturnVerified s event context = .ok r) :
    op.Answered context.now s (.event event) r := by
  cases hb with
  | proof authored =>
  unfold reduceReturnVerified at h
  split at h
  · exact answered_of_refuse h
  rename_i hopen
  simp only [not_or, Bool.not_eq_true', Bool.not_eq_false, Option.isSome_iff_ne_none,
    not_not] at hopen
  obtain ⟨hauthorized, -, hfresh⟩ := hopen
  obtain ⟨seconds, hseconds, h⟩ := bind_ok h
  dsimp only at h
  split at h
  · cases h
  rename_i authorizedAt hsince
  obtain ⟨due, hdue, h⟩ := bind_ok h
  split at h
  · exact answered_of_refuse h
  rename_i htimely
  simp only [not_or, not_not] at htimely
  obtain ⟨late, hlate, h⟩ := bind_ok h
  split at h
  · exact answered_of_refuse h
  obtain ⟨owed, howed, h⟩ := bind_ok h
  rw [text_of_same authored.payload (s := op.scenario.dispatchDate.isoformat) rfl] at h
  refine answered_of_commit ha (.proven authored hauthorized hsince (htimely.1 ▸ hdue) hfresh
    (parseTimestamp_ok.mp hseconds) ?_) h
  unfold dueDate at howed
  unfold DueDate
  split at howed
  · rename_i huk
    rw [if_pos huk]
    cases hdate : (op.zone.localDate op.profile.timezone seconds).addDays 14 with
    | error e => simp [hdate, Except.map] at howed
    | ok date => exact ⟨date, rfl, by simpa [hdate, Except.map] using howed.symm⟩
  · rename_i huk
    rw [if_neg huk]
    exact (Except.ok.inj howed).symm

theorem reduceAuthorityGranted_answered (ha : op.Admitted context.now s (.event event))
    (hb : Brings op event .authorityGranted)
    (h : op.reduceAuthorityGranted s event context = .ok r) :
    op.Answered context.now s (.event event) r := by
  cases hb with
  | grant authored =>
  have hp := authored.payload
  unfold reduceAuthorityGranted at h
  dsimp only at h
  split at h
  · exact answered_of_refuse h
  · exact answered_of_refuse h
  rename_i proof hrequested honFile
  split at h
  · exact answered_of_refuse h
  obtain ⟨serviceDueAt, hservice, h⟩ := bind_ok h
  refine answered_of_commit ha (.granted authored hrequested honFile hservice) ?_
  rw [text_of_same hp (s := caseId) rfl, text_of_same hp (s := orderId) rfl,
    text_of_same hp (s := op.profileDigest) rfl, number_of_same hp (n := op.quoteAmount) rfl,
    text_of_same hp (s := op.profile.currency) rfl, text_of_same hp (s := tenderRef) rfl,
    text_of_same hp (s := "proof_1") rfl] at h
  exact h

/-- The status and the key that an answer of the processor carries. -/
theorem ProcessorResult.payload {planned : PlannedEvent} {status : PaymentStatus}
    {webhookId : String} (hr : op.ProcessorResult planned status webhookId)
    (ha : Authored event planned) : PaymentStatus.ofText? (event.payload.text "status") =
      some status ∧ event.payload.text "webhook_id" = webhookId ∧
        event.payload.text? "intent_id" = some intentId := by
  have hp := ha.payload
  cases hr with
  | processor =>
    rw [text_of_same hp (s := (processorStatus op.scenario.paymentMode).text) rfl,
      text_of_same hp (s := "webhook_1") rfl, text?_of_same hp (s := intentId) rfl]
    refine ⟨?_, rfl, rfl⟩
    cases op.scenario.paymentMode <;> rfl
  | query | duplicate =>
    rw [text_of_same hp (s := PaymentStatus.settled.text) rfl,
      text_of_same hp (s := "webhook_2") rfl, text?_of_same hp (s := intentId) rfl]
    exact ⟨rfl, rfl, rfl⟩

theorem reducePaymentUpdate_answered (ha : op.Admitted context.now s (.event event))
    (hb : Brings op event .paymentUpdate)
    (h : op.reducePaymentUpdate s event context = .ok r) :
    op.Answered context.now s (.event event) r := by
  cases hb with
  | payment result authored =>
  obtain ⟨hstatus, hwebhook, hintent⟩ := result.payload authored
  unfold reducePaymentUpdate at h
  dsimp only at h
  rw [hstatus, hwebhook, hintent] at h
  dsimp only at h
  split at h
  · exact answered_of_refuse h
  rename_i hbound
  simp only [not_or, Option.isNone_iff_eq_none, not_and, Bool.not_eq_true', Bool.not_eq_false]
    at hbound
  split at h
  · exact answered_of_refuse h
  rename_i hquoted
  simp only [not_or, not_not] at hquoted
  split at h
  · rename_i hknown
    split at h
    · exact answered_of_refuse h
    · rename_i hsame
      exact .ignored rfl ha result authored hknown (not_not.mp hsame) (Except.ok.inj h).symm
  rename_i hfresh
  split at h
  · exact answered_of_refuse h
  rename_i hlive
  refine answered_of_commit ha (.paid result authored hquoted.1.symm hfresh (not_or.mp hlive)
    hbound.2) ?_
  unfold CommerceProfilesDomain.paid
  split at h
  · rename_i hsettled
    rw [if_pos hsettled]
    exact h
  · rename_i hsettled
    rw [if_neg hsettled]
    exact h

theorem reduceReviewAcknowledged_answered (ha : op.Admitted context.now s (.event event))
    (ht : event.eventType = EventType.reviewAcknowledged.text)
    (h : op.reduceReviewAcknowledged s event = .ok r) :
    op.Answered context.now s (.event event) r := by
  unfold reduceReviewAcknowledged at h
  split at h
  · exact answered_of_refuse h
  · rename_i hrequested
    exact answered_of_commit ha (.acknowledged ht (by simpa using hrequested)) h

theorem reduceRepairVerified_answered (ha : op.Admitted context.now s (.event event))
    (ht : event.eventType = EventType.repairVerified.text)
    (h : op.reduceRepairVerified s event context = .ok r) :
    op.Answered context.now s (.event event) r := by
  unfold reduceRepairVerified at h
  split at h
  · exact answered_of_refuse h
  rename_i hrequested
  split at h
  · cases h
  rename_i requestedAt hsince
  obtain ⟨due, hdue, h⟩ := bind_ok h
  split at h
  · exact answered_of_refuse h
  · rename_i htimely
    exact answered_of_commit ha (.mended ht (by simpa using hrequested) hsince
      (not_not.mp htimely ▸ hdue)) h

theorem isFinality_ok (h : isFinality s event context = .ok true) : event.eventId = "finality_1" ∧
    ∃ settledAt, s.payment.settledAt = some settledAt ∧
      shiftMinutes settledAt 5 "timestamp" = .ok context.now := by
  unfold isFinality at h
  split at h
  · cases h
  rename_i hid
  simp only [not_or, not_not] at hid
  split at h
  · cases h
  rename_i settledAt hsince
  obtain ⟨due, hdue, h⟩ := bind_ok h
  have hnow : context.now = due := by simpa using pure_ok h
  exact ⟨hid.1, settledAt, hsince, hnow ▸ hdue⟩

theorem reduceFinalityDue_answered (ha : op.Admitted context.now s (.event event))
    (ht : event.eventType = EventType.finalityDue.text)
    (hf : isFinality s event context = .ok true) (h : op.reduceFinalityDue s event = .ok r) :
    op.Answered context.now s (.event event) r := by
  obtain ⟨hid, settledAt, hsince, hdue⟩ := isFinality_ok hf
  unfold reduceFinalityDue at h
  split at h
  · exact answered_of_refuse h
  · rename_i hsettled
    exact answered_of_commit ha (.finalised ht hid (not_not.mp hsettled) hsince hdue) h

theorem text_of_ofText? {eventType : EventType} {text : String}
    (h : EventType.ofText? text = some eventType) : text = eventType.text := by
  have ht := List.find?_some (p := fun eventType : EventType => eventType.text == text) h
  exact (beq_iff_eq.mp ht).symm

theorem reduceEvent_answered (h : op.reduceEvent s event context = .ok r) :
    op.Answered context.now s (.event event) r := by
  unfold reduceEvent at h
  split at h
  · exact answered_of_refuse h
  rename_i eventType htype
  split at h
  · exact answered_of_refuse h
  rename_i hactor
  split at h
  · exact answered_of_refuse h
  rename_i hbinding
  split at h
  · exact answered_of_refuse h
  rename_i hauthored
  obtain ⟨timed, htimed, h⟩ := bind_ok h
  split at h
  · exact answered_of_refuse h
  rename_i hdue
  split at h
  · exact answered_of_refuse h
  rename_i hcurrent
  simp only [not_or, not_not, Bool.not_eq_true', Bool.not_eq_false] at hactor hbinding hcurrent hdue
  subst hdue
  have ha : op.Admitted context.now s (.event event) :=
    ⟨⟨eventType, htype, hactor⟩, hbinding.1, hbinding.2, hcurrent.1, by simpa using hcurrent.2⟩
  have ht := text_of_ofText? htype
  have hbrings : eventType ≠ .finalityDue → Brings op event eventType := fun hne =>
    brings_of_isAuthored (by simpa [hne] using hauthored) htype
  cases eventType with
  | intake =>
    cases hbrings nofun with
    | intake authored => exact answered_of_commit ha (.intake authored) h
  | customerLabelClaim => exact reduceLabelClaim_answered ha (hbrings nofun) h
  | returnVerified => exact reduceReturnVerified_answered ha (hbrings nofun) h
  | authorityGranted => exact reduceAuthorityGranted_answered ha (hbrings nofun) h
  | paymentUpdate => exact reducePaymentUpdate_answered ha (hbrings nofun) h
  | reviewAcknowledged => exact reduceReviewAcknowledged_answered ha ht h
  | repairVerified => exact reduceRepairVerified_answered ha ht h
  | finalityDue => exact reduceFinalityDue_answered ha ht htimed h

end Events

section Actions

variable {payload : Fields} {evidenceRefs : List String}

theorem actDecideEntitlement_answered
    (ha : op.Admitted context.now s
      (.action ActionType.decideEntitlement.text payload evidenceRefs))
    (h : op.actDecideEntitlement s payload = .ok r) : op.Answered context.now s
      (.action ActionType.decideEntitlement.text payload evidenceRefs) r := by
  unfold actDecideEntitlement at h
  split at h
  · exact answered_of_refuse h
  rename_i hfirst
  dsimp only at h
  split at h
  · exact answered_of_refuse h
  · rename_i hnamed
    exact answered_of_commit ha (.decided (by simpa using hfirst) (not_not.mp hnamed)) h

theorem actAuthorizeReturn_answered
    (ha : op.Admitted context.now s (.action ActionType.authorizeReturn.text payload evidenceRefs))
    (h : op.actAuthorizeReturn s context = .ok r) : op.Answered context.now s
      (.action ActionType.authorizeReturn.text payload evidenceRefs) r := by
  unfold actAuthorizeReturn at h
  split at h
  · exact answered_of_refuse h
  · rename_i hallowed
    simp only [not_or, not_not, Bool.not_eq_true] at hallowed
    exact answered_of_commit ha (.authorized hallowed.1 hallowed.2) h

theorem actRequestAuthority_answered
    (ha : op.Admitted context.now s (.action ActionType.requestAuthority.text payload evidenceRefs))
    (h : op.actRequestAuthority s evidenceRefs context = .ok r) : op.Answered context.now s
      (.action ActionType.requestAuthority.text payload evidenceRefs) r := by
  unfold actRequestAuthority at h
  split at h
  · exact answered_of_refuse h
  · rename_i hallowed
    simp only [not_or, not_not, Bool.not_eq_true, Option.isNone_iff_eq_none,
      ← Option.isSome_iff_ne_none] at hallowed
    obtain ⟨hdecided, honFile, hcited, hfirst⟩ := hallowed
    obtain ⟨proof, hproof⟩ := Option.isSome_iff_exists.mp (by simpa using honFile)
    exact answered_of_commit ha (.requested hdecided hproof hcited hfirst) h

theorem grantBinds_ok {grant : Grant} {now : String} (h : op.grantBinds s grant now = .ok true) :
    ∃ proof requestedAt, op.Binds s grant proof requestedAt now := by
  unfold grantBinds at h
  split at h
  · cases h
  rename_i hquote
  simp only [not_or, not_not, Bool.not_eq_true', Bool.not_eq_false] at hquote
  obtain ⟨hcase, horder, hamount, hcurrency, htender, hdigest, hproof, hrequested⟩ := hquote
  split at h
  · cases h
  rename_i proof honFile
  dsimp only at h
  split at h
  · cases h
  split at h
  · cases h
  rename_i requestedAt hsince
  obtain ⟨due, hdue, h⟩ := bind_ok h
  have hchecked : grant.grantedAt = due ∧ proof.suppliedAt ≤ grant.grantedAt ∧
      grant.grantedAt ≤ now := by simpa using pure_ok h
  exact ⟨proof, requestedAt, hcase, horder, hamount, hcurrency, htender, hdigest, hproof,
    hrequested, honFile, hsince, hchecked.1 ▸ hdue, hchecked.2⟩

theorem actSubmitRefund_answered
    (ha : op.Admitted context.now s (.action ActionType.submitRefund.text payload evidenceRefs))
    (h : op.actSubmitRefund s payload evidenceRefs context = .ok r) : op.Answered context.now s
      (.action ActionType.submitRefund.text payload evidenceRefs) r := by
  unfold actSubmitRefund at h
  split at h
  · exact answered_of_refuse h
  rename_i hfirst
  dsimp only at h
  split at h
  · exact answered_of_refuse h
  rename_i grant hgranted
  split at h
  · exact answered_of_refuse h
  rename_i hallowed
  simp only [not_or, not_not] at hallowed
  obtain ⟨bound, hbound, h⟩ := bind_ok h
  split at h
  · exact answered_of_refuse h
  rename_i hbinds
  simp only [Bool.not_eq_true', Bool.not_eq_false] at hbinds
  subst hbinds
  obtain ⟨proof, requestedAt, hbinds⟩ := grantBinds_ok hbound
  split at h
  · exact answered_of_refuse h
  · rename_i hexact
    simp only [not_or, not_not] at hexact
    exact answered_of_commit ha (.submitted (by simpa using hfirst) hallowed.1 hgranted hallowed.2
      hbinds hexact) h

theorem actQueryPayment_answered
    (ha : op.Admitted context.now s (.action ActionType.queryPayment.text payload evidenceRefs))
    (h : op.actQueryPayment s payload = .ok r) : op.Answered context.now s
      (.action ActionType.queryPayment.text payload evidenceRefs) r := by
  unfold actQueryPayment at h
  split at h
  · exact answered_of_refuse h
  · rename_i hallowed
    simp only [not_or, not_not, Bool.not_eq_true] at hallowed
    exact answered_of_commit ha (.queried hallowed.1 hallowed.2.2) h

theorem actRequestRepair_answered
    (ha : op.Admitted context.now s (.action ActionType.requestRepair.text payload evidenceRefs))
    (h : op.actRequestRepair s context = .ok r) : op.Answered context.now s
      (.action ActionType.requestRepair.text payload evidenceRefs) r := by
  unfold actRequestRepair at h
  split at h
  · exact answered_of_refuse h
  · rename_i hallowed
    simp only [not_or, not_not, Bool.not_eq_true] at hallowed
    exact answered_of_commit ha (.repairRequested hallowed.1 hallowed.2) h

theorem actRequestReview_answered
    (ha : op.Admitted context.now s (.action ActionType.requestReview.text payload evidenceRefs))
    (h : op.actRequestReview s payload context = .ok r) : op.Answered context.now s
      (.action ActionType.requestReview.text payload evidenceRefs) r := by
  unfold actRequestReview at h
  obtain ⟨allowed, hallowed, h⟩ := bind_ok h
  split at h
  · exact answered_of_refuse h
  rename_i hfirst
  split at h
  · rename_i htrue
    subst htrue
    exact answered_of_commit ha (.reviewRequested (by simpa using hfirst) hallowed) h
  · split at h <;> exact answered_of_refuse h

theorem actNotifyCustomer_answered
    (ha : op.Admitted context.now s (.action ActionType.notifyCustomer.text payload evidenceRefs))
    (h : op.actNotifyCustomer s payload = .ok r) : op.Answered context.now s
      (.action ActionType.notifyCustomer.text payload evidenceRefs) r := by
  unfold actNotifyCustomer at h
  split at h
  · exact answered_of_refuse h
  rename_i hfirst
  split at h
  · split at h <;> exact answered_of_refuse h
  rename_i result hready
  split at h
  · exact answered_of_refuse h
  · rename_i hnamed
    exact answered_of_commit ha (.notified (by simpa using hfirst) hready (not_not.mp hnamed)) h

theorem actionText_of_ofText? {action : ActionType} {text : String}
    (h : ActionType.ofText? text = some action) : text = action.text := by
  have ht := List.find?_some (p := fun action : ActionType => action.text == text) h
  exact (beq_iff_eq.mp ht).symm

theorem applyAction_answered {actionType : String}
    (h : op.applyAction s payload evidenceRefs context actionType = .ok r) :
    op.Answered context.now s (.action actionType payload evidenceRefs) r := by
  unfold applyAction at h
  split at h
  · exact answered_of_refuse h
  rename_i action htype
  split at h
  · exact answered_of_refuse h
  rename_i hwellFormed
  split at h
  · exact answered_of_refuse h
  rename_i hbinding
  split at h
  · exact answered_of_refuse h
  rename_i hversion
  split at h
  · exact answered_of_refuse h
  rename_i hopen
  split at h
  · exact answered_of_refuse h
  rename_i hcited
  simp only [not_or, not_not, Bool.not_eq_true', Bool.not_eq_false] at hwellFormed hbinding
  rw [not_not] at hversion hcited
  have ha : op.Admitted context.now s (.action actionType payload evidenceRefs) :=
    ⟨⟨action, htype, hwellFormed⟩, hbinding.1, hbinding.2, hversion, by simpa using hopen, hcited⟩
  obtain rfl := actionText_of_ofText? htype
  cases action with
  | decideEntitlement => exact actDecideEntitlement_answered ha h
  | authorizeReturn => exact actAuthorizeReturn_answered ha h
  | requestAuthority => exact actRequestAuthority_answered ha h
  | submitRefund => exact actSubmitRefund_answered ha h
  | queryPayment => exact actQueryPayment_answered ha h
  | requestRepair => exact actRequestRepair_answered ha h
  | requestReview => exact actRequestReview_answered ha h
  | notifyCustomer => exact actNotifyCustomer_answered ha h

theorem applyTerminal_answered {now : String} (h : op.applyTerminal s evidenceRefs = .ok r) :
    op.Answered now s (.terminal evidenceRefs) r := by
  unfold applyTerminal at h
  dsimp only at h
  split at h
  · exact answered_of_refuse h
  rename_i result hready
  split at h
  · exact answered_of_refuse h
  · rename_i hallowed
    simp only [not_or, not_not] at hallowed
    exact answered_of_commit hallowed.2 (.completed hready hallowed.1) h

end Actions

section Calls

/-- The operation's answer to a call. -/
def respond (op : CommerceProfilesDomain) (call : Call) (state : ProfileState) : Result :=
  match call.cause with
  | .event event => op.reduceEvent state event call.context
  | .action actionType payload evidenceRefs =>
    op.applyAction state payload evidenceRefs call.context actionType
  | .terminal evidenceRefs => op.applyTerminal state evidenceRefs

theorem reduce_domain (workflow : Fields) : (op.domain workflow).reduce = op.respond := by
  funext call state
  obtain ⟨context, cause⟩ := call
  cases cause <;> rfl

theorem respond_answered {call : Call} (h : op.respond call s = .ok r) :
    op.Answered call.context.now s call.cause r := by
  obtain ⟨context, cause⟩ := call
  cases cause with
  | event => exact reduceEvent_answered h
  | action => exact applyAction_answered h
  | terminal => exact applyTerminal_answered h

theorem respond_of_engine {workflow : Fields} {agent : OperationAgent}
    {operationId instanceId : String} {call : Call}
    (h : (op.engine workflow agent operationId instanceId).domain.reduce call s = .ok r) :
    op.respond call s = .ok r := by
  rwa [show (op.engine workflow agent operationId instanceId).domain = op.domain workflow from rfl,
    reduce_domain] at h

/-- The operation on its own: one call that returned. -/
def Step (op : CommerceProfilesDomain) (s : ProfileState) (call : Call) (s' : ProfileState) :
    Prop :=
  ∃ reduction, op.respond call s = .ok reduction ∧ reduction.state = s'

/-- A step leaves the record as it was, or makes one change. -/
theorem step_cases {s' : ProfileState} {call : Call} (h : op.Step s call s') : s' = s ∨
    ∃ t effects, op.Admitted call.context.now s call.cause ∧
      op.Change call.context.now s call.cause t effects ∧ s' = ProfileState.bump t := by
  obtain ⟨r, hr, rfl⟩ := h
  cases respond_answered hr with
  | refused h => exact Or.inl (by rw [h]; rfl)
  | ignored _ _ _ _ _ _ h => exact Or.inl (by rw [h])
  | committed admitted change h => exact Or.inr ⟨_, _, admitted, change, by rw [h]; rfl⟩

end Calls

end CommerceProfilesDomain

end OperateBench.Profiles

namespace OperateBench.Profiles

open Foundation

namespace CommerceProfilesDomain

variable {op : CommerceProfilesDomain} {workflow : Fields} {agent : OperationAgent}
  {operationId instanceId : String} {s s' : EngineState ProfileState}

theorem start_state (h : (op.engine workflow agent operationId instanceId).start = .ok s) :
    s.state = op.initialState := by
  obtain ⟨clock, _, h⟩ := bind_ok h
  obtain ⟨queue, _, h⟩ := bind_ok h
  rw [EngineState.log_ok h]
  rfl

theorem start_clock (h : (op.engine workflow agent operationId instanceId).start = .ok s) :
    s.clock.seconds = s.clock.startSeconds := by
  obtain ⟨clock, hc, h⟩ := bind_ok h
  obtain ⟨queue, _, h⟩ := bind_ok h
  obtain ⟨n, _, hc⟩ := bind_ok hc
  obtain rfl := pure_ok hc
  rw [EngineState.log_ok h]

theorem start_inCalendar (op : CommerceProfilesDomain) {delay : Int}
    (h : 0 ≤ delay ∧ delay ≤ 2592000) :
    strptime (strftime (op.scenario.start + delay)) = .ok (op.scenario.start + delay) := by
  have hpinned := op.scenario.pinned
  simp only [january] at hpinned
  apply strptime_strftime
  · simp only [Calendar.minSeconds]
    omega
  · simp only [Calendar.maxSeconds]
    omega

theorem strptime_startsAt (op : CommerceProfilesDomain) :
    strptime op.scenario.startsAt = .ok op.scenario.start := by
  have h : strptime (strftime (op.scenario.start + 0)) = .ok (op.scenario.start + 0) :=
    op.start_inCalendar (by decide)
  rwa [add_zero] at h

/-- An authored event without an instant follows an action. -/
theorem mem_events {planned : PlannedEvent} (h : planned ∈ op.events) :
    planned = op.intakeEvent ∨ planned = op.labelEvent ∨ planned.instant = none := by
  rw [events, List.mem_append] at h
  rcases h with h | h
  · simp only [List.mem_cons, List.not_mem_nil, or_false] at h
    rcases h with rfl | rfl | rfl | rfl | rfl | rfl | rfl | rfl
    · exact Or.inl rfl
    all_goals exact Or.inr (Or.inr rfl)
  · split at h
    · exact Or.inr (Or.inl (List.mem_singleton.mp h))
    · cases h

/-- Nothing is authored for an instant before the case starts. -/
theorem plan_forward : (op.engine workflow agent operationId instanceId).plan.Forward := by
  intro planned hplanned instant hi start n hs hn
  obtain rfl := Except.ok.inj (op.strptime_startsAt.symm.trans hs)
  rcases mem_events hplanned with rfl | rfl | hnone
  · obtain rfl := Option.some.inj hi
    exact (Except.ok.inj (hs.symm.trans hn)).le
  · obtain rfl := Option.some.inj hi
    obtain rfl := Except.ok.inj ((op.start_inCalendar (by decide)).symm.trans hn)
    omega
  · cases hnone.symm.trans hi

/-- What one step of the engine makes of the case. -/
inductive Takes (op : CommerceProfilesDomain) (E : Engine ProfileState)
    (s s' : EngineState ProfileState) : Prop
  | still (state : s'.state = s.state)
  | change {cause : Cause} {t : ProfileState} {effects : List Effect}
      (admitted : op.Admitted s'.clock.now s.state cause)
      (change : op.Change s'.clock.now s.state cause t effects)
      (state : s'.state = ProfileState.bump t)
      (gone : ∀ event, cause = .event event → E.Due s event ∧ s'.queue.Gone event.eventId)

theorem step_takes (h : (op.engine workflow agent operationId instanceId).step s = .ok s') :
    op.Takes (op.engine workflow agent operationId instanceId) s s' := by
  rcases Engine.step_called h with hstill | ⟨⟨context, cause⟩, reduction, hc⟩
  · exact .still hstill
  have hnow : context.now = s'.clock.now := hc.now
  have ha := respond_answered (respond_of_engine hc.reduced)
  simp only [hnow] at ha
  cases ha with
  | refused h =>
    apply Takes.still
    rw [hc.state, h]
    rfl
  | ignored _ _ _ _ _ _ h =>
    apply Takes.still
    rw [hc.state, h]
  | committed admitted change h =>
    refine .change admitted change ?_ hc.gone
    rw [hc.state, h]
    rfl

end CommerceProfilesDomain

end OperateBench.Profiles
