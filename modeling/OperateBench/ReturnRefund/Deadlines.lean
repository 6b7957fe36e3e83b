import OperateBench.ReturnRefund.Inbox
import OperateBench.ReturnRefund.Warrant
import OperateBench.Core.Pending
import OperateBench.Core.Timeliness
import OperateBench.ReturnRefund.Proposals

/-! # The deadline of a review

One step of the engine leaves the record as it is, or puts one call to the operation and commits
what it accepts. No reducer compares an approval with the deadline it was asked for by. What keeps
an approval from coming late is the timer: as long as a review is open its timer is pending,
nothing is delivered before a timer that is due earlier, and the timer closes the review.
-/

namespace OperateBench.ReturnRefund

open Foundation EngineState

variable {op : ReturnRefundOperation} {sha256 : Value → String} {agent : OperationAgent}
  {operationId instanceId : String} {s s' : EngineState ReturnRefundState}

section Steps

/-- A change that was committed behind a call, and what became of the queue. -/
structure Committed (op : ReturnRefundOperation) (s s' : EngineState ReturnRefundState)
    (cause : Cause) (effects : List Effect) : Prop where
  commit : Commit op s'.clock.now s.state cause ⟨s'.state, effects⟩
  live : s.state.replayFinal = false
  later : s.clock.seconds ≤ s'.clock.seconds
  halted : cause.IsProposal → s'.clock = s.clock
  kept : ∀ e ∈ s.queue.pending, cause = .event e ∨ .cancelTimer e.eventId ∈ effects ∨
    e ∈ s'.queue.pending
  armed : ∀ eventId eventType actorId delayMinutes payload triggersAgent,
    Effect.scheduleTimer eventId eventType actorId delayMinutes payload triggersAgent ∈ effects →
      .cancelTimer eventId ∉ effects →
    ∃ instant event, shiftMinutes s'.clock.now delayMinutes s!"timer {eventId}" = .ok instant ∧
      IsArmed event eventId eventType actorId instant payload triggersAgent ∧
      event ∈ s'.queue.pending

/-- What one step does to the record, and to what is pending. -/
inductive Change (op : ReturnRefundOperation) (E : Engine ReturnRefundState)
    (s s' : EngineState ReturnRefundState) : Prop
  | still (state : s'.state = s.state) (later : s.clock.seconds ≤ s'.clock.seconds)
      (kept : ∀ e ∈ s.queue.pending, e ∈ s'.queue.pending)
  | late (event : Event) (due : E.Due s event) (final : s.state.replayFinal = true)
      (state : s'.state = s.state) (later : s.clock.seconds ≤ s'.clock.seconds)
      (kept : ∀ e ∈ s.queue.pending, e ≠ event → e ∈ s'.queue.pending)
  | refused (event : Event) (context : EnvironmentContext) (code detail : String)
      (due : E.Due s event) (live : s.state.replayFinal = false)
      (refused : op.respond ⟨context, .event event⟩ s.state = .ok (.refused s.state code detail))
      (state : s'.state = s.state) (later : s.clock.seconds ≤ s'.clock.seconds)
      (kept : ∀ e ∈ s.queue.pending, e ≠ event → e ∈ s'.queue.pending)
  | commit (cause : Cause) (effects : List Effect) (committed : Committed op s s' cause effects)
      (due : ∀ event, cause = .event event → E.Due s event ∧
        strptime event.instant = .ok s'.clock.seconds)

theorem Commit.live {op : ReturnRefundOperation} {now : String} {s : ReturnRefundState}
    {cause : Cause} {t : Transaction} (hc : Commit op now s cause t) (hp : cause.IsProposal) :
    s.replayFinal = false := by
  cases hc with
  | authorised admitted => exact admitted.live
  | reviewRequested admitted => exact admitted.live
  | refundRequested admitted => exact admitted.live
  | messageSent admitted => exact admitted.live
  | closed unblocked => exact unblocked.live
  | provisionallyClosed unblocked => exact unblocked.live
  | _ => cases hp

theorem step_change (h : (op.engine sha256 agent operationId instanceId).step s = .ok s') :
    Change op (op.engine sha256 agent operationId instanceId) s s' := by
  cases Engine.step_played h with
  | still state later kept => exact .still state later fun e he => (kept e).mpr he
  | @proposal cause reduction turn proposed answered =>
    rcases ReturnRefundOperation.respond_answered (op.respond_of_engine answered.reduced) with
      ⟨code, detail, rfl⟩ | ⟨_, hc, _⟩
    · exact .still answered.state (by rw [answered.clock]) fun e he => answered.kept e he
        (List.not_mem_nil)
    · have hnow : s.clock.now = s'.clock.now := by rw [answered.clock]
      change Commit op s.clock.now s.state cause _ at hc
      rw [hnow, ← answered.state] at hc
      refine .commit cause reduction.effects ⟨hc, hc.live proposed, by rw [answered.clock],
        fun _ => answered.clock, ?_, ?_⟩ ?_
      · intro e he
        by_cases hm : Effect.cancelTimer e.eventId ∈ reduction.effects
        · exact Or.inr (Or.inl hm)
        · exact Or.inr (Or.inr (answered.kept e he hm))
      · rw [← hnow]
        exact answered.armed
      · rintro event rfl
        cases proposed
  | @delivery event queue clock due sorted head moved delivered =>
    have htail : ∀ e ∈ s.queue.pending, e ≠ event → e ∈ queue.tail.pending :=
      fun e he hne => Engine.mem_tail_of_ne sorted head he hne
    cases delivered with
    | late final same =>
      refine .late event due final same.state ?_ ?_
      · rw [same.clock]
        exact moved.later
      · rw [same.queue]
        exact htail
    | @live reduction live answered =>
      have hlater : s.clock.seconds ≤ s'.clock.seconds := by
        rw [answered.clock]
        exact moved.later
      rcases ReturnRefundOperation.respond_answered (op.respond_of_engine answered.reduced) with
        ⟨code, detail, hr⟩ | ⟨_, hc, _⟩
      · have hreduced := op.respond_of_engine answered.reduced
        subst hr
        refine .refused event _ code detail due live hreduced answered.state hlater ?_
        exact fun e he hne => answered.kept e (htail e he hne) List.not_mem_nil
      · have hnow : (Engine.context (op.engine sha256 agent operationId instanceId)
            { s with queue := queue.tail, clock }).now = s'.clock.now := by
          rw [answered.clock]
          rfl
        change Commit op (Engine.context _ _).now s.state (.event event) _ at hc
        rw [hnow, ← answered.state] at hc
        refine .commit (.event event) reduction.effects ⟨hc, live, hlater, nofun, ?_, ?_⟩ ?_
        · intro e he
          by_cases hne : e = event
          · exact Or.inl (hne ▸ rfl)
          by_cases hm : Effect.cancelTimer e.eventId ∈ reduction.effects
          · exact Or.inr (Or.inl hm)
          · exact Or.inr (Or.inr (answered.kept e (htail e he hne) hm))
        · rw [answered.clock]
          exact answered.armed
        · rintro _ ⟨⟩
          refine ⟨due, ?_⟩
          rw [answered.clock]
          exact moved.moment

theorem start_state (h : (op.engine sha256 agent operationId instanceId).start = .ok s) :
    s.state = op.initialState := by
  obtain ⟨clock, _, h⟩ := bind_ok h
  obtain ⟨queue, _, h⟩ := bind_ok h
  rw [EngineState.log_ok h]
  rfl

/-- Nothing is authored for an instant before the operation starts. -/
theorem plan_forward : (op.engine sha256 agent operationId instanceId).plan.Forward := by
  intro planned hplanned instant hi start n hs hn
  obtain ⟨_, start', n', hs', hn', hle, _⟩ :=
    (op.scenario.authored planned hplanned).instant instant hi
  obtain rfl := Except.ok.inj (hs.symm.trans hs')
  obtain rfl := Except.ok.inj (hn.symm.trans hn')
  exact hle

end Steps

end OperateBench.ReturnRefund

namespace OperateBench.ReturnRefund

open Foundation EngineState

section Timers

variable {op : ReturnRefundOperation} {s : ReturnRefundState} {now : String} {cause : Cause}
  {t : Transaction} {context : EnvironmentContext} {r : Reduction ReturnRefundState}

def deadlinePayload (checkpoint : Checkpoint) : Fields :=
  .ofList [("checkpoint_id", .str checkpoint.checkpointId),
    ("cycle_id", .ofText? checkpoint.cycleId)]

/-- The event is the timer of the review. -/
abbrev IsDeadline (event : Event) (checkpoint : Checkpoint) : Prop :=
  IsArmed event (approvalDeadlineTimer checkpoint.checkpointId)
    EventType.approvalDeadlineDue.text "scheduler" checkpoint.deadlineAt
    (deadlinePayload checkpoint) true

/-- The names that the timer of the review carries are not blank, and its instant is one. -/
structure Legible (checkpoint : Checkpoint) : Prop where
  checkpointId : isBlank checkpoint.checkpointId = false
  cycleId : ∃ cycleId, checkpoint.cycleId = some cycleId ∧ isBlank cycleId = false
  deadlineAt : ∃ n, strptime checkpoint.deadlineAt = .ok n

theorem deadlinePayload_valid {checkpoint : Checkpoint} (h : Legible checkpoint)
    (place what : String) : validatePayload (eventPayloadSchema .approvalDeadlineDue)
      (deadlinePayload checkpoint) place what = .ok () := by
  obtain ⟨cycleId, hc, hblank⟩ := h.cycleId
  unfold deadlinePayload
  rw [hc, validatePayload_iff]
  exact timerPayload_valid rfl (by decide) h.checkpointId hblank

theorem IsArmed.isTimer {event : Event} {checkpoint : Checkpoint}
    (h : IsDeadline event checkpoint) :
    IsTimer event (approvalDeadlineTimer checkpoint.checkpointId) :=
  ⟨h.cause, h.actorId, h.eventId⟩

namespace ReturnRefundOperation

/-- The timer of an open review is never refused. -/
theorem reduceApprovalDeadlineDue_open {checkpoint : Checkpoint} {event : Event}
    (he : IsDeadline event checkpoint)
    (onFile : s.checkpoints.get? checkpoint.checkpointId = some checkpoint)
    (opened : checkpoint.status = .opened)
    (h : op.reduceApprovalDeadlineDue s event context = .ok r) : r.verdict.accepted = true := by
  have hid : event.payload.text "checkpoint_id" = checkpoint.checkpointId := by
    rw [he.payload]
    rfl
  have hcycle : event.payload.text? "cycle_id" = checkpoint.cycleId := by
    rw [he.payload]
    unfold deadlinePayload
    cases checkpoint.cycleId <;> rfl
  have hverdict : timerEventVerdict event (approvalDeadlineTimer checkpoint.checkpointId) none =
      .ok none := by
    simp [timerEventVerdict, he.cause, he.actorId, he.eventId]
  unfold reduceApprovalDeadlineDue at h
  simp only [hid, hverdict, ok_bind, onFile, opened, ne_eq, not_true_eq_false, if_false,
    hcycle] at h
  obtain ⟨t, _, h⟩ := bind_ok h
  obtain ⟨u, _, h⟩ := bind_ok h
  obtain rfl := Except.ok.inj h
  rfl

theorem respond_deadline {checkpoint : Checkpoint} {event : Event}
    (he : IsDeadline event checkpoint) (hlegible : Legible checkpoint)
    (onFile : s.checkpoints.get? checkpoint.checkpointId = some checkpoint)
    (opened : checkpoint.status = .opened)
    (h : op.respond ⟨context, .event event⟩ s = .ok r) : r.verdict.accepted = true := by
  obtain ⟨actor, hactor, _, hholds⟩ :=
    op.spec.actorsThere ("scheduler", "system_scheduler", ["emit_timer"]) (by simp [requiredActors])
  have htype : EventType.ofText? event.eventType = some .approvalDeadlineDue := by
    rw [he.eventType]
    decide
  change op.reduceEvent s event context = .ok r at h
  unfold reduceEvent at h
  have hauthority : actor.holds (EventType.authority .approvalDeadlineDue) = true :=
    hholds "emit_timer" (by simp)
  simp only [he.actorId, hactor, htype, hauthority, Bool.not_true, Bool.false_eq_true, if_false,
    he.payload, deadlinePayload_valid hlegible] at h
  exact reduceApprovalDeadlineDue_open he onFile opened h

end ReturnRefundOperation

theorem cancel_mem_timersOf {eventId : String} {effects : List Effect}
    (h : .cancelTimer eventId ∈ effects) : .cancelTimer eventId ∈ timersOf effects :=
  List.mem_filter.mpr ⟨h, rfl⟩

theorem mem_of_timersOf {effect : Effect} {effects timers : List Effect}
    (h : timersOf effects = timers) (hm : effect ∈ timers) : effect ∈ effects :=
  List.mem_of_mem_filter (h ▸ hm)

/-- The timer that a change arms for the review. -/
def Schedules (now : String) (effects : List Effect) (checkpoint : Checkpoint) : Prop :=
  ∃ minutes context, Effect.scheduleTimer (approvalDeadlineTimer checkpoint.checkpointId)
      EventType.approvalDeadlineDue.text "scheduler" minutes (deadlinePayload checkpoint) true ∈
        effects ∧ shiftMinutes now minutes context = .ok checkpoint.deadlineAt

/-- A change that leaves an approval awaited is no deadline and cancels nothing, and a review
that it opens has its timer. -/
theorem Commit.awaitingApproval (hc : Commit op now s cause t)
    (hp : t.state.phase = .awaitingApproval) :
    (∀ eventId, .cancelTimer eventId ∉ t.effects) ∧
      (∀ event, cause = .event event →
        EventType.ofText? event.eventType ≠ some .approvalDeadlineDue) ∧
      ∀ c ∈ t.state.checkpoints.values, c ∈ s.checkpoints.values ∨ Schedules now t.effects c := by
  have hnone : ∀ {effects : List Effect}, timersOf effects = [] →
      ∀ eventId, .cancelTimer eventId ∉ effects := by
    intro effects h eventId hm
    have hm := cancel_mem_timersOf hm
    rw [h] at hm
    cases hm
  cases hc with
  | handoverClaimed admitted _ timers =>
    refine ⟨hnone timers, ?_, fun c hc => Or.inl hc⟩
    rintro _ ⟨⟩ htype
    cases admitted.named.symm.trans htype
  | inspected admitted _ _ _ _ _ _ _ timers =>
    refine ⟨hnone timers, ?_, fun c hc => Or.inl hc⟩
    rintro _ ⟨⟩ htype
    cases admitted.named.symm.trans htype
  | reminderFired admitted _ _ _ _ timers =>
    refine ⟨hnone timers, ?_, fun c hc => Or.inl hc⟩
    rintro _ ⟨⟩ htype
    cases admitted.named.symm.trans htype
  | messageSent _ _ _ _ _ timers => exact ⟨hnone timers, nofun, fun c hc => Or.inl hc⟩
  | reviewRequested _ _ _ _ _ _ deadline _ timers =>
    refine ⟨?_, nofun, Registry.forall_put (fun c hc => Or.inl hc) (Or.inr ?_)⟩
    · intro eventId hm
      have hm := cancel_mem_timersOf hm
      rw [timers] at hm
      simp at hm
    · exact ⟨_, _, mem_of_timersOf timers (List.mem_singleton_self _), deadline⟩
  | decided _ _ _ _ _ _ outcome =>
    rcases outcome with ⟨_, rfl, _⟩ | ⟨_, rfl, _⟩ <;> cases hp
  | closed _ closes =>
    cases (show _ = _ from hp)
    revert closes
    generalize s.phase = before
    rintro ⟨⟩
  | _ => cases hp

theorem Commit.legible (hc : Commit op now s cause t) (hcoherent : Coherent op s)
    (h : ∀ c ∈ s.checkpoints.values, Legible c) : ∀ c ∈ t.state.checkpoints.values, Legible c := by
  cases hc with
  | decided _ onFile =>
    have hold := h _ (Registry.mem_of_get? onFile)
    exact Registry.forall_put h ⟨hold.checkpointId, hold.cycleId, hold.deadlineAt⟩
  | approvalExpired _ _ onFile =>
    have hold := h _ (Registry.mem_of_get? onFile)
    exact Registry.forall_put h ⟨hold.checkpointId, hold.cycleId, hold.deadlineAt⟩
  | reviewRequested _ awaited _ _ _ _ deadline =>
    obtain ⟨_, _, _, _, hlegible⟩ := shiftMinutes_ok deadline
    refine Registry.forall_put h ⟨isBlank_allocate (by decide) _, ?_, _, hlegible⟩
    rcases hcoherent.cycle (by rw [awaited]; nofun) with hcycle | hcycle
    · exact ⟨_, hcycle, by decide⟩
    · exact ⟨_, hcycle, by decide⟩
  | _ => exact h

/-- The timer of a review closes it. -/
theorem Commit.deadline (hc : Commit op now s cause t) {event : Event}
    (he : cause = .event event)
    (htype : EventType.ofText? event.eventType = some .approvalDeadlineDue) :
    t.state.phase = .refundDenied := by
  cases hc with
  | approvalExpired => rfl
  | returnRequested admitted => cases he; cases admitted.named.symm.trans htype
  | handoverClaimed admitted => cases he; cases admitted.named.symm.trans htype
  | handoverVerified admitted => cases he; cases admitted.named.symm.trans htype
  | inspected admitted => cases he; cases admitted.named.symm.trans htype
  | decided admitted => cases he; cases admitted.named.symm.trans htype
  | settled admitted => cases he; cases admitted.named.symm.trans htype
  | reversed admitted => cases he; cases admitted.named.symm.trans htype
  | reminderFired admitted => cases he; cases admitted.named.symm.trans htype
  | returnExpired admitted => cases he; cases admitted.named.symm.trans htype
  | finalized admitted => cases he; cases admitted.named.symm.trans htype
  | _ => cases he

end Timers

section Runs

variable {op : ReturnRefundOperation} {sha256 : Value → String} {agent : OperationAgent}
  {operationId instanceId : String} {s s' : EngineState ReturnRefundState}

/-- Every open review has its timer pending. -/
def Awaits (s : EngineState ReturnRefundState) : Prop :=
  ∀ c ∈ s.state.checkpoints.values, c.status = .opened →
    ∃ e ∈ s.queue.pending, IsDeadline e c

/-- The chain behind every refund, and what keeps it in time. -/
structure Warranted (op : ReturnRefundOperation) (s : EngineState ReturnRefundState) : Prop where
  coherent : Coherent op s.state
  grounded : Grounded op s.state
  dated : Dated s.clock.seconds s.state
  legible : ∀ c ∈ s.state.checkpoints.values, Legible c
  awaits : s.state.replayFinal = false → Awaits s

/-- What is committed now is committed before the deadline of an open review. -/
theorem Committed.inTime {cause : Cause} {effects : List Effect}
    (hc : Committed op s s' cause effects)
    (htimely : (op.engine sha256 agent operationId instanceId).Timely s)
    (hnow : strptime s'.clock.now = .ok s'.clock.seconds) (hw : Awaits s)
    (hlegible : ∀ c ∈ s.state.checkpoints.values, Legible c)
    (hdue : ∀ event, cause = .event event →
      (op.engine sha256 agent operationId instanceId).Due s event ∧
        strptime event.instant = .ok s'.clock.seconds) : InTime s'.clock.now s.state := by
  intro c hm opened
  obtain ⟨e, he, hdeadline⟩ := hw c hm opened
  obtain ⟨n, hn⟩ := (hlegible c hm).deadlineAt
  cases cause with
  | event event =>
    obtain ⟨due, hinstant⟩ := hdue event rfl
    obtain ⟨queue, hq⟩ := due.next
    obtain ⟨hsort, hhead⟩ := EventQueue.peekNext_ok hq
    obtain ⟨m, k, hm, hk, hle⟩ :=
      EventQueue.sort_head_le hsort hhead.symm ((EventQueue.mem_sort hsort).mpr he)
    obtain rfl := Except.ok.inj (hinstant.symm.trans hm)
    exact ⟨_, k, hnow, hdeadline.instant ▸ hk, hle⟩
  | action actionType payload evidenceRefs =>
    have hahead := htimely.ahead e he n (hdeadline.instant ▸ hn)
    rw [hc.halted trivial] at hnow ⊢
    exact ⟨_, n, hnow, hn, hahead⟩
  | terminal evidenceRefs =>
    have hahead := htimely.ahead e he n (hdeadline.instant ▸ hn)
    rw [hc.halted trivial] at hnow ⊢
    exact ⟨_, n, hnow, hn, hahead⟩

theorem Warranted.step (hs : (op.engine sha256 agent operationId instanceId).step s = .ok s')
    (htimely : (op.engine sha256 agent operationId instanceId).Timely s)
    (h : Warranted op s) : Warranted op s' := by
  have hnow : strptime s'.clock.now = .ok s'.clock.seconds := (htimely.step hs).onTime.legible
  cases step_change hs with
  | still state later kept =>
    refine ⟨state ▸ h.coherent, state ▸ h.grounded, state ▸ h.dated.mono later,
      state ▸ h.legible, fun hlive c hm opened => ?_⟩
    rw [state] at hlive hm
    obtain ⟨e, he, hdeadline⟩ := h.awaits hlive c hm opened
    exact ⟨e, kept e he, hdeadline⟩
  | late event due final state later kept =>
    refine ⟨state ▸ h.coherent, state ▸ h.grounded, state ▸ h.dated.mono later,
      state ▸ h.legible, fun hlive => ?_⟩
    rw [state, final] at hlive
    cases hlive
  | refused event context code detail due live refused state later kept =>
    refine ⟨state ▸ h.coherent, state ▸ h.grounded, state ▸ h.dated.mono later,
      state ▸ h.legible, fun hlive c hm opened => ?_⟩
    rw [state] at hm
    obtain ⟨e, he, hdeadline⟩ := h.awaits live c hm opened
    refine ⟨e, kept e he ?_, hdeadline⟩
    rintro rfl
    cases ReturnRefundOperation.respond_deadline hdeadline (h.legible c hm)
      (Registry.mem_values_iff.mp hm) opened refused
  | commit cause effects committed due =>
    have hc := committed.commit
    have hdated := h.dated.mono committed.later
    have hawaits := h.awaits committed.live
    have hcoherent : Coherent op s'.state := hc.coherent h.coherent
    refine ⟨hcoherent, hc.grounded h.coherent hdated hnow
      (committed.inTime htimely hnow hawaits h.legible due) h.grounded, hc.dated hnow hdated,
      hc.legible h.coherent h.legible, fun _ c hm opened => ?_⟩
    obtain ⟨hcancels, htype, hreviews⟩ :=
      hc.awaitingApproval (hcoherent.table.opened_phase (mem_status hm opened))
    rcases hreviews c hm with hold | ⟨minutes, place, hscheduled, hshift⟩
    · obtain ⟨e, he, hdeadline⟩ := hawaits c hold opened
      rcases committed.kept e he with hcause | hcancel | hkept
      · exact absurd (by rw [hdeadline.eventType]; decide) (htype e hcause)
      · exact absurd hcancel (hcancels _)
      · exact ⟨e, hkept, hdeadline⟩
    · obtain ⟨instant, e, hi, harmed, hpending⟩ :=
        committed.armed _ _ _ _ _ _ hscheduled (hcancels _)
      obtain rfl := Except.ok.inj ((shiftMinutes_context hi place).symm.trans hshift)
      exact ⟨e, hpending, harmed⟩

theorem start_warranted (h₀ : (op.engine sha256 agent operationId instanceId).start = .ok s) :
    Warranted op s := by
  have hs := start_state h₀
  have hnil : s.state.checkpoints.values = [] := by rw [hs]; rfl
  refine ⟨hs ▸ .initial, hs ▸ .initial, ⟨?_, ?_⟩, ?_, fun _ c hm => ?_⟩
  · rw [hs]
    exact fun _ hc => absurd hc List.not_mem_nil
  · rw [hnil]
    exact fun _ hc => absurd hc List.not_mem_nil
  · rw [hnil]
    exact fun _ hc => absurd hc List.not_mem_nil
  · rw [hnil] at hm
    cases hm

theorem warranted_of_runs {P : EngineState ReturnRefundState → Prop}
    (h₀ : (op.engine sha256 agent operationId instanceId).start = .ok s)
    (h : (op.engine sha256 agent operationId instanceId).RunsVia P s s') : Warranted op s' := by
  refine (Run.invariant (I := fun s => (op.engine sha256 agent operationId instanceId).Timely s ∧
    Warranted op s) h ⟨Engine.start_timely plan_forward h₀, start_warranted h₀⟩ ?_).2
  intro s _ s' hs _ hst
  exact ⟨hs.1.step hst, hs.2.step hst hs.1⟩

/-- Every refund rests on its own full authority, and money leaves once. -/
theorem refund_rests_on_authority
    (h₀ : (op.engine sha256 agent operationId instanceId).start = .ok s)
    (h : (op.engine sha256 agent operationId instanceId).RunsVia (fun _ => True) s s') :
    (∀ refund ∈ s'.state.refunds.values, ∃ inspection carrier checkpoint resolvedAt,
      Rests op s'.state refund inspection carrier checkpoint resolvedAt) ∧
    (∀ refund ∈ s'.state.refunds.values, ∀ other ∈ s'.state.refunds.values,
      refund.cycleId = other.cycleId → refund = other) ∧
    ∀ refund ∈ s'.state.refunds.values, ∀ other ∈ s'.state.refunds.values,
      refund.status ≠ .reversed → other.status ≠ .reversed → refund = other := by
  have hw := warranted_of_runs h₀ h
  refine ⟨hw.grounded.refund, hw.coherent.distinct, ?_⟩
  intro refund hm other hm' hs hs'
  obtain ⟨hcycle, _⟩ := hw.coherent.current hm hs
  obtain ⟨hcycle', _⟩ := hw.coherent.current hm' hs'
  exact hw.coherent.distinct refund hm other hm' (Option.some.inj (hcycle.trans hcycle'.symm))

theorem settled_refund_rests_on_authority : ∃ s s' refund,
    (Fixture.engine Fixture.settledReturn Fixture.refundsAndCloses).start = .ok s ∧
      (Fixture.engine Fixture.settledReturn Fixture.refundsAndCloses).RunsVia (fun _ => True)
        s s' ∧ refund ∈ s'.state.refunds.values ∧ refund.status = .settled ∧
      ∃ inspection carrier checkpoint resolvedAt,
        Rests Fixture.settledReturn s'.state refund inspection carrier checkpoint resolvedAt := by
  obtain ⟨s, hs, hc⟩ := ok_of_any
    (x := (Fixture.engine Fixture.settledReturn Fixture.refundsAndCloses).start)
    (p := fun s => (Fixture.engine Fixture.settledReturn Fixture.refundsAndCloses).checkRun
      (fun _ => true) (fun s' => s'.state.refunds.values.any fun refund =>
        refund.status = .settled) 15 s) (by decide +kernel)
  obtain ⟨s', hr, hl⟩ := Engine.runs_of_checkRun (P := fun _ => True) (fun _ _ => trivial) hc
  obtain ⟨refund, hm, hsettled⟩ := List.any_eq_true.mp hl
  exact ⟨s, s', refund, hs, hr, hm, of_decide_eq_true hsettled,
    (refund_rests_on_authority hs hr).1 refund hm⟩

end Runs

end OperateBench.ReturnRefund
