import OperateBench.Maintenance.Fixture
import OperateBench.Maintenance.Agreement

/-! # Lifecycle records

Every record keeps what identifies it, and its status only moves forward along the order of its
kind. Two handlers file a cycle without looking whether its key is taken, the issue report and the
reopening; a step loses a record exactly when one of them meets a key that is. One step of the
engine leaves the record as it is or commits one change to a record that is not final.
-/

namespace OperateBench.Maintenance

open Foundation

section Orders

/-- Work may be verified without a report of the supplier. -/
inductive VisitStatus.Advances : VisitStatus → VisitStatus → Prop
  | requested : Advances .none .requested
  | booked : Advances .none .scheduled
  | scheduled : Advances .requested .scheduled
  | declined : Advances .requested .declined
  | attended : Advances .scheduled .attended
  | reported : Advances .attended .workReported
  | verified : Advances .workReported .workVerified
  | confirmed : Advances .attended .workVerified

inductive InvoiceStatus.Advances : InvoiceStatus → InvoiceStatus → Prop
  | requested : Advances .unvalidated .validationRequested
  | validated : Advances .validationRequested .validated
  | rejected : Advances .validationRequested .rejected

inductive PaymentStatus.Advances : PaymentStatus → PaymentStatus → Prop
  | requested : Advances .notRequested .requested
  | settled : Advances .requested .settled

/-- A cycle keeps its kind, its parent and what it is paid for, and its visit only advances. -/
structure Cycle.Follows (a b : Cycle) : Prop where
  kind : b.kind = a.kind
  parentCycleId : b.parentCycleId = a.parentCycleId
  requiresPayment : b.requiresPayment = a.requiresPayment
  visitStatus : b.visitStatus = a.visitStatus ∨ a.visitStatus.Advances b.visitStatus

/-- A quote keeps what it offers and is closed once. -/
structure Quote.Follows (a b : Quote) : Prop where
  quoteId : b.quoteId = a.quoteId
  version : b.version = a.version
  cycleId : b.cycleId = a.cycleId
  amountMinor : b.amountMinor = a.amountMinor
  currency : b.currency = a.currency
  scopeDigest : b.scopeDigest = a.scopeDigest
  status : b.status = a.status ∨ a.status = .received ∧ b.status ≠ .received

/-- A checkpoint keeps the quote it bound and is closed once. -/
structure Approval.Follows (a b : Approval) : Prop where
  quoteId : b.quoteId = a.quoteId
  quoteVersion : b.quoteVersion = a.quoteVersion
  cycleId : b.cycleId = a.cycleId
  amountMinor : b.amountMinor = a.amountMinor
  currency : b.currency = a.currency
  scopeDigest : b.scopeDigest = a.scopeDigest
  status : b.status = a.status ∨ a.status = .opened ∧ b.status ≠ .opened

structure ExceptionCheckpoint.Follows (a b : ExceptionCheckpoint) : Prop where
  exceptionType : b.exceptionType = a.exceptionType
  cycleId : b.cycleId = a.cycleId
  status : b.status = a.status ∨ a.status = .opened ∧ b.status = .resolved

/-- An invoice keeps what it bills. -/
structure Invoice.Follows (a b : Invoice) : Prop where
  cycleId : b.cycleId = a.cycleId
  quoteId : b.quoteId = a.quoteId
  quoteVersion : b.quoteVersion = a.quoteVersion
  amountMinor : b.amountMinor = a.amountMinor
  currency : b.currency = a.currency
  status : b.status = a.status ∨ a.status.Advances b.status

theorem Cycle.Follows.refl (a : Cycle) : a.Follows a := ⟨rfl, rfl, rfl, Or.inl rfl⟩

theorem Quote.Follows.refl (a : Quote) : a.Follows a :=
  ⟨rfl, rfl, rfl, rfl, rfl, rfl, Or.inl rfl⟩

theorem Approval.Follows.refl (a : Approval) : a.Follows a :=
  ⟨rfl, rfl, rfl, rfl, rfl, rfl, Or.inl rfl⟩

theorem ExceptionCheckpoint.Follows.refl (a : ExceptionCheckpoint) : a.Follows a :=
  ⟨rfl, rfl, Or.inl rfl⟩

theorem Invoice.Follows.refl (a : Invoice) : a.Follows a :=
  ⟨rfl, rfl, rfl, rfl, rfl, Or.inl rfl⟩

/-- Apart from the cycles, no record is lost or replaced, and none moves backwards. -/
structure Advances (s s' : MaintenanceState) : Prop where
  quotes : Registry.Grows Quote.Follows s.quotes s'.quotes
  approvals : Registry.Grows Approval.Follows s.approvals s'.approvals
  exceptions : Registry.Grows ExceptionCheckpoint.Follows s.exceptions s'.exceptions
  invoices : Registry.Grows Invoice.Follows s.invoices s'.invoices
  obligations : DutiesFollow s.obligations s'.obligations
  payment : s'.payment.status = s.payment.status ∨
    s.payment.status.Advances s'.payment.status

theorem Advances.refl (s : MaintenanceState) : Advances s s where
  quotes := Registry.Grows.refl Quote.Follows.refl _
  approvals := Registry.Grows.refl Approval.Follows.refl _
  exceptions := Registry.Grows.refl ExceptionCheckpoint.Follows.refl _
  invoices := Registry.Grows.refl Invoice.Follows.refl _
  obligations := .refl _
  payment := Or.inl rfl

/-- The records advance with the cycles among them, and a cycle opened by a reopening has an
identity of its own. -/
structure Preserves (s s' : MaintenanceState) : Prop extends Advances s s' where
  cycles : Registry.Grows Cycle.Follows s.cycles s'.cycles
  allocated : s'.reopenCount ≠ s.reopenCount →
    ∃ cycleId, s'.currentCycleId = some cycleId ∧ s.cycles.get? cycleId = none

theorem Preserves.refl (s : MaintenanceState) : Preserves s s :=
  ⟨.refl s, Registry.Grows.refl Cycle.Follows.refl _, fun h => absurd rfl h⟩

end Orders

variable {op : MaintenanceOperation} {now : String} {s s' : MaintenanceState} {cause : Cause}
  {call : Call} {t : Transaction}

/-- The key of the cycle that a reopening opens. -/
def reopenedCycleId (s : MaintenanceState) : String := s!"work_cycle_{s.cycles.size + 1}"

/-- The call files a new cycle under a key that another cycle holds. -/
inductive Collides (op : MaintenanceOperation) (s : MaintenanceState) : Call → Prop
  | issue {context : EnvironmentContext} {event : Event}
      (admitted : op.Admits event .customerIssueReported) (first : s.issueId = none)
      (handled : event.payload.text "classification" = op.policy.issueClassification)
      (held : s.cycles.contains (event.payload.text "cycle_id") = true) :
      Collides op s ⟨context, .event event⟩
  | reopening {context : EnvironmentContext} {event : Event} {instant limit : Int}
      (admitted : op.Admits event .customerResolutionReported)
      (report : event.payload.text "status" = "PERSISTS")
      (phase : s.phase = .provisionallyClosed) (moment : strptime context.now = .ok instant)
      (window : strptime (s.provisionalClose.reopenUntil.getD "None") = .ok limit)
      (inTime : instant ≤ limit) (held : s.cycles.contains (reopenedCycleId s) = true) :
      Collides op s ⟨context, .event event⟩

section Forward

theorem grows_settleQuote {approval : Approval} {status : QuoteStatus} (ha : s.Agrees op)
    (onFile : s.approvals.get? approval.checkpointId = some approval)
    (opened : approval.status = .opened) (closed : status ≠ .received) :
    Registry.Grows Quote.Follows s.quotes
      (MaintenanceOperation.settleQuote s approval status) := by
  obtain ⟨quote, hq, hb⟩ := ha.bound approval (Registry.mem_values_iff.mpr onFile)
  rw [settleQuote_of_quote hq]
  refine Registry.grows_put_of Quote.Follows.refl hq rfl ⟨rfl, rfl, rfl, rfl, rfl, rfl, Or.inr ?_⟩
  exact ⟨by rw [hb.status, opened]; rfl, closed⟩

theorem grows_approval {approval approval' : Approval}
    (onFile : s.approvals.get? approval.checkpointId = some approval)
    (sameId : approval'.checkpointId = approval.checkpointId) (h : approval.Follows approval') :
    Registry.Grows Approval.Follows s.approvals (s.approvals.put approval') :=
  Registry.grows_put_of Approval.Follows.refl onFile sameId h

theorem grows_cycle {cycle cycle' : Cycle} (onFile : s.cycles.get? cycle.cycleId = some cycle)
    (sameId : cycle'.cycleId = cycle.cycleId) (kind : cycle'.kind = cycle.kind)
    (parent : cycle'.parentCycleId = cycle.parentCycleId)
    (payable : cycle'.requiresPayment = cycle.requiresPayment)
    (visitStatus : cycle'.visitStatus = cycle.visitStatus ∨
      cycle.visitStatus.Advances cycle'.visitStatus) :
    Registry.Grows Cycle.Follows s.cycles (s.cycles.put cycle') :=
  Registry.grows_put_of Cycle.Follows.refl onFile sameId ⟨kind, parent, payable, visitStatus⟩

theorem Noticed.grows {cycles : Registry Cycle.cycleId} (h : Noticed s cycles) :
    Registry.Grows Cycle.Follows s.cycles cycles := by
  rcases h with rfl | ⟨cycle, onFile, rfl⟩
  · exact Registry.Grows.refl Cycle.Follows.refl _
  · exact grows_cycle onFile rfl rfl rfl rfl (Or.inl rfl)

theorem Commit.advances (ha : s.Agrees op) (hc : Commit op now s cause t) :
    Advances s t.state := by
  have still := Advances.refl s
  cases hc with
  | attended => exact { still with obligations := dutiesFollow_closeDuty _ _ _ _ }
  | workVerified admitted onFile visit attended scope duties =>
    exact { still with obligations := duties }
  | followupDue => exact { still with obligations := dutiesFollow_closeDuty _ _ _ _ }
  | quoteReceived fresh =>
    exact { still with quotes := Registry.grows_put_fresh Quote.Follows.refl fresh }
  | invoiceReceived fresh =>
    exact { still with invoices := Registry.grows_put_fresh Invoice.Follows.refl fresh }
  | invoiceValidated admitted onFile awaited =>
    refine { still with
      invoices := Registry.grows_put_of Invoice.Follows.refl onFile rfl
        ⟨rfl, rfl, rfl, rfl, rfl, Or.inr ?_⟩ }
    rw [awaited]
    dsimp only
    split
    · exact .validated
    · exact .rejected
  | settled admitted requested request bound duties =>
    refine { still with obligations := duties, payment := Or.inr ?_ }
    rw [requested]
    exact .settled
  | decided onFile opened decision moment due inTime =>
    rename_i approval status quoteStatus _ _ _
    have closed : status ≠ .opened ∧ quoteStatus ≠ .received := by
      rcases decision with ⟨rfl, rfl⟩ | ⟨rfl, rfl⟩ <;> exact ⟨nofun, nofun⟩
    exact { still with
      approvals := grows_approval onFile rfl
        ⟨rfl, rfl, rfl, rfl, rfl, rfl, Or.inr ⟨opened, closed.1⟩⟩
      quotes := grows_settleQuote ha onFile opened closed.2
      obligations := (dutiesFollow_closeDuty _ _ _ _).trans (dutiesFollow_closeDuty _ _ _ _) }
  | exceptionResolved onFile opened =>
    exact { still with
      exceptions := Registry.grows_put_of ExceptionCheckpoint.Follows.refl onFile rfl
        ⟨rfl, rfl, Or.inr ⟨opened, rfl⟩⟩ }
  | reminderFired onFile =>
    exact { still with
      approvals := grows_approval onFile rfl ⟨rfl, rfl, rfl, rfl, rfl, rfl, Or.inl rfl⟩ }
  | expired onFile opened =>
    exact { still with
      approvals := grows_approval onFile rfl
        ⟨rfl, rfl, rfl, rfl, rfl, rfl, Or.inr ⟨opened, nofun⟩⟩
      quotes := grows_settleQuote ha onFile opened nofun
      obligations := (dutiesFollow_closeDuty _ _ _ _).trans (dutiesFollow_closeDuty _ _ _ _) }
  | visitRequested onFile unstarted duties => exact { still with obligations := duties }
  | workAuthorised onFile unstarted duties => exact { still with obligations := duties }
  | approvalRequested onFile received above unheld duties =>
    exact { still with
      approvals := Registry.grows_put_fresh Approval.Follows.refl
        (get?_allocateCheckpointId_approvals s)
      obligations := duties }
  | exceptionRequested allocated opened =>
    have fresh := allocated ▸ get?_allocateCheckpointId_exceptions s
    exact { still with
      exceptions := Registry.grows_put_fresh ExceptionCheckpoint.Follows.refl fresh }
  | validationRequested onFile unvalidated =>
    refine { still with
      invoices := Registry.grows_put_of Invoice.Follows.refl onFile rfl
        ⟨rfl, rfl, rfl, rfl, rfl, Or.inr ?_⟩ }
    rw [unvalidated]
    exact .requested
  | paymentRequested onFile unrequested =>
    refine { still with payment := Or.inr ?_ }
    rw [unrequested]
    exact .requested
  | messageSent noticed duties => exact { still with obligations := duties }
  | _ => exact { still with }

/-- The cycles advance and nothing is reopened, or the change files a new cycle, makes it the
current one and collides if its key is held. -/
theorem Commit.cycles_cases (hc : Commit op call.context.now s call.cause t) :
    (Registry.Grows Cycle.Follows s.cycles t.state.cycles ∧
        t.state.reopenCount = s.reopenCount) ∨
      t.state.phase = .active ∧ ∃ cycle, t.state.cycles = s.cycles.put cycle ∧
        t.state.currentCycleId = some cycle.cycleId ∧
        (s.cycles.contains cycle.cycleId = true → Collides op s call) := by
  obtain ⟨context, cause⟩ := call
  cases hc with
  | issueReported admitted first handled =>
    exact Or.inr ⟨rfl, _, rfl, rfl, fun held => .issue admitted first handled held⟩
  | reopened admitted report phase moment window inTime =>
    exact Or.inr ⟨rfl, _, rfl, rfl,
      fun held => .reopening admitted report phase moment window inTime held⟩
  | visitAnswered onFile awaited answer =>
    refine Or.inl ⟨grows_cycle onFile rfl rfl rfl rfl (Or.inr ?_), rfl⟩
    rw [awaited]
    rcases answer with rfl | rfl
    · exact .scheduled
    · exact .declined
  | attended admitted found scheduled =>
    refine Or.inl ⟨grows_cycle (cycleForVisit_some found).1 rfl rfl rfl rfl (Or.inr ?_), rfl⟩
    rw [scheduled]
    exact .attended
  | workReported onFile attended =>
    refine Or.inl ⟨grows_cycle onFile rfl rfl rfl rfl (Or.inr ?_), rfl⟩
    rw [attended]
    exact .reported
  | workVerified admitted onFile visit attended =>
    refine Or.inl ⟨grows_cycle (Registry.get?_ident onFile) rfl rfl rfl rfl (Or.inr ?_), rfl⟩
    rcases attended with h | h
    · rw [h]
      exact .confirmed
    · rw [h]
      exact .verified
  | quoteReceived => exact Or.inl ⟨Registry.grows_putNew Cycle.Follows.refl, rfl⟩
  | visitRequested onFile unstarted =>
    refine Or.inl ⟨grows_cycle onFile rfl rfl rfl rfl (Or.inr ?_), rfl⟩
    rw [unstarted]
    exact .requested
  | workAuthorised onFile unstarted =>
    refine Or.inl ⟨grows_cycle onFile rfl rfl rfl rfl (Or.inr ?_), rfl⟩
    rw [unstarted]
    exact .booked
  | messageSent noticed => exact Or.inl ⟨noticed.grows, rfl⟩
  | _ => exact Or.inl ⟨Registry.Grows.refl Cycle.Follows.refl _, rfl⟩

end Forward

section Backward

/-- Before the issue is reported there is nobody to tell, nothing to close, and no cycle but
those that quotes opened. -/
def MaintenanceState.Quiet (s : MaintenanceState) : Prop :=
  s.issueId = none → s.issueReportingActorId = none ∧ s.phase ≠ .provisionallyClosed ∧
    ∀ cycle ∈ s.cycles.values, cycle.kind = .approvedWork

theorem quiet_put {cycle cycle' : Cycle} (h : ∀ c ∈ s.cycles.values, c.kind = .approvedWork)
    (onFile : s.cycles.get? cycle.cycleId = some cycle) (kind : cycle'.kind = cycle.kind) :
    ∀ c ∈ (s.cycles.put cycle').values, c.kind = .approvedWork :=
  Registry.forall_put h (kind.trans (h cycle (Registry.mem_values_iff.mpr onFile)))

theorem Commit.quiet (h : s.Quiet) (hc : Commit op now s cause t) : t.state.Quiet := by
  cases hc with
  | issueReported => rintro ⟨⟩
  | visitAnswered onFile =>
    exact fun hi => ⟨(h hi).1, (h hi).2.1, quiet_put (h hi).2.2 onFile rfl⟩
  | attended admitted found =>
    exact fun hi => ⟨(h hi).1, (h hi).2.1, quiet_put (h hi).2.2 (cycleForVisit_some found).1 rfl⟩
  | workReported onFile =>
    exact fun hi => ⟨(h hi).1, (h hi).2.1, quiet_put (h hi).2.2 onFile rfl⟩
  | workVerified admitted onFile =>
    exact fun hi => ⟨(h hi).1, (h hi).2.1, quiet_put (h hi).2.2 (Registry.get?_ident onFile) rfl⟩
  | quoteReceived =>
    refine fun hi => ⟨(h hi).1, (h hi).2.1, ?_⟩
    dsimp only [Registry.putNew]
    split
    · exact (h hi).2.2
    · exact Registry.forall_put (h hi).2.2 rfl
  | decided => exact fun hi => ⟨(h hi).1, by simp, (h hi).2.2⟩
  | exceptionResolved => exact fun hi => ⟨(h hi).1, by simp, (h hi).2.2⟩
  | reopened _ _ phase => exact fun hi => absurd phase (h hi).2.1
  | finalized => exact fun hi => ⟨(h hi).1, by simp, (h hi).2.2⟩
  | visitRequested onFile =>
    exact fun hi => ⟨(h hi).1, by simp, quiet_put (h hi).2.2 onFile rfl⟩
  | workAuthorised onFile =>
    exact fun hi => ⟨(h hi).1, by simp, quiet_put (h hi).2.2 onFile rfl⟩
  | approvalRequested => exact fun hi => ⟨(h hi).1, by simp, (h hi).2.2⟩
  | exceptionRequested => exact fun hi => ⟨(h hi).1, by simp, (h hi).2.2⟩
  | messageSent noticed =>
    refine fun hi => ⟨(h hi).1, (h hi).2.1, ?_⟩
    rcases noticed with rfl | ⟨cycle, onFile, rfl⟩
    · exact (h hi).2.2
    · exact quiet_put (h hi).2.2 onFile rfl
  | transferred => exact fun hi => ⟨(h hi).1, by simp, (h hi).2.2⟩
  | provisionallyClosed closable =>
    intro hi
    have told := closable.told
    simp [deliveredNotice, (h hi).1] at told
  | _ => exact h

end Backward

section Steps

/-- The first cycle is called as the first reopening will call its own. -/
def closedAsWarranty : List Call :=
  Fixture.diagnosedOn "work_cycle_2" "evidence_1" ++
    [(Fixture.notifies "work_cycle_2").call "2031-03-03T12:00:00Z",
      Fixture.terminates "2031-03-03T12:00:00Z"]

end Steps

end OperateBench.Maintenance

namespace OperateBench.Maintenance

open Foundation EngineState

variable {op : MaintenanceOperation} {sha256 : Value → String} {agent : OperationAgent}
  {operationId instanceId : String} {faults : List String} {s s' t : EngineState MaintenanceState}

section Steps

/-- A record that is final refuses what is proposed to it. -/
theorem proposal_final {call : Call} {r : Reduction MaintenanceState}
    (hf : s.state.replayFinal = true) (hp : call.cause.IsProposal)
    (h : op.respond call s.state = .ok r) : r.state = s.state := by
  obtain ⟨context, cause⟩ := call
  cases cause with
  | event event => cases hp
  | action actionType payload evidenceRefs => exact MaintenanceOperation.applyAction_final hf h
  | terminal evidenceRefs => exact MaintenanceOperation.applyTerminal_final hf h

/-- The change committed behind a call, and what the engine did about it. -/
structure Committed (op : MaintenanceOperation) (s s' : EngineState MaintenanceState)
    (call : Call) (effects : List Effect) : Prop where
  commit : Commit op call.context.now s.state call.cause ⟨s'.state, effects⟩
  armed : ∀ eventId eventType actorId delayMinutes payload triggersAgent,
    Effect.scheduleTimer eventId eventType actorId delayMinutes payload triggersAgent ∈ effects →
      ∃ instant, shiftMinutes call.context.now delayMinutes s!"timer {eventId}" = .ok instant ∧
        s'.queue.Arms eventId instant

theorem consults_cases {cause : Cause}
    (h : (op.engine sha256 agent operationId instanceId faults).Consults s cause t) :
    s.queue.Evolves t.queue ∧ (t.state = s.state ∨ ∃ call effects,
      call.cause = cause ∧ call.context.now = s.clock.now ∧ Committed op s t call effects ∧
        (cause.IsProposal → s.state.replayFinal = false)) := by
  obtain ⟨s₀, r, s₁, h₀, hr, hc, h₁⟩ := h
  have hcommit := commit_frame hc
  refine ⟨h₀.queue.trans (hcommit.queue.trans h₁.queue), ?_⟩
  have hstate : t.state = r.state := h₁.state.trans hcommit.state
  have hnow : s₀.clock.now = s.clock.now := by rw [h₀.clock]
  rw [show (op.engine sha256 agent operationId instanceId faults).domain = op.domain sha256
    from rfl, op.reduce_domain sha256] at hr
  by_cases hfinal : s.state.replayFinal = true ∧ cause.IsProposal
  · exact Or.inl (hstate.trans (proposal_final hfinal.1 hfinal.2 hr))
  rcases MaintenanceOperation.respond_answered hr with ⟨code, detail, rfl⟩ | ⟨_, hk⟩
  · exact Or.inl hstate
  · refine Or.inr ⟨⟨Engine.context _ s₀, cause⟩, r.effects, rfl, hnow, ⟨hstate ▸ hk, ?_⟩, ?_⟩
    · intro eventId eventType actorId delayMinutes payload triggersAgent hm
      obtain ⟨instant, hi, ha⟩ := commit_arms hc hm
      exact ⟨instant, hi, ha.evolves h₁.queue⟩
    · intro hp
      exact Bool.eq_false_iff.mpr fun hf => hfinal ⟨hf, hp⟩

theorem Committed.later {call : Call} {effects : List Effect} (h : Committed op s t call effects)
    (hs : s'.state = t.state) (hq : t.queue.Evolves s'.queue) :
    Committed op s s' call effects := by
  refine ⟨hs ▸ h.commit, fun eventId eventType actorId delayMinutes payload triggersAgent hm => ?_⟩
  obtain ⟨instant, hi, ha⟩ := h.armed _ _ _ _ _ _ hm
  exact ⟨instant, hi, ha.evolves hq⟩

/-- What one step of the engine does to the record: nothing, or one committed change. -/
inductive Change (op : MaintenanceOperation) (E : Engine MaintenanceState)
    (s s' : EngineState MaintenanceState) : Prop
  | still (state : s'.state = s.state) (queue : s.queue.Evolves s'.queue)
  | commit (call : Call) (effects : List Effect) (live : s.state.replayFinal = false)
      (committed : Committed op s s' call effects) (queue : s.queue.Evolves s'.queue)
      (due : ∀ event, call.cause = .event event → E.Due s event ∧ ∃ seconds,
        strptime event.instant = .ok seconds ∧ call.context.now = strftime seconds)

theorem step_change (h : (op.engine sha256 agent operationId instanceId faults).step s = .ok s') :
    Change op (op.engine sha256 agent operationId instanceId faults) s s' := by
  cases Engine.step_transition h with
  | still state queue => exact .still state queue
  | delivery event queue clock t due live sorted moment consults state later =>
    obtain ⟨hq, ht⟩ := consults_cases consults
    have hqueue := ((EventQueue.sort_evolves sorted).trans EventQueue.tail_evolves).trans
      (hq.trans later)
    rcases ht with hs | ⟨call, effects, hcause, hnow, hc, _⟩
    · exact .still (state.trans hs) hqueue
    · have hl := hc.later state later
      refine .commit call effects live ⟨hl.commit, hl.armed⟩ hqueue fun e he => ?_
      obtain rfl := Cause.event.inj (hcause.symm.trans he)
      exact ⟨due, _, strptime_of_parseTimestamp moment, hnow⟩
  | proposal cause t turn proposed consults state later =>
    obtain ⟨hq, ht⟩ := consults_cases consults
    rcases ht with hs | ⟨call, effects, hcause, hnow, hc, hlive⟩
    · exact .still (state.trans hs) (hq.trans later)
    · refine .commit call effects (hlive proposed) (hc.later state later) (hq.trans later) ?_
      intro e he
      rw [← hcause, he] at proposed
      cases proposed

end Steps

end OperateBench.Maintenance
