import OperateBench.Maintenance.Closing
import OperateBench.Maintenance.Lifecycle

/-! # The confirmation window

The close arms a timer for the end of its window. The reducer of that timer asks for
the phase, the last report and the checkpoints; it does not ask whose timer it is,
which cycle is current, or what is still owed. What it leaves behind is right in the
runs in which these three happen to be.
-/

namespace OperateBench.Maintenance

open Foundation

variable {op : MaintenanceOperation} {sha256 : Value → String} {agent : OperationAgent}
  {operationId instanceId : String} {faults : List String} {s s' : EngineState MaintenanceState}

section Ends

/-- The record after the finalization timer completed it. -/
def completedAt (s : MaintenanceState) (now : String) : MaintenanceState :=
  { s with
    phase := .finalized
    replayFinal := true
    terminal := some ⟨.completedSuccessfully, now, s.currentCycleId⟩ }

/-- The record after it was handed to a human. -/
def transferredAt (s : MaintenanceState) (now : String) : MaintenanceState :=
  { s with
    phase := .transferredToHuman
    replayFinal := true
    terminal := some ⟨.transferredToHumanOwnership, now, s.currentCycleId⟩ }

/-- Only the finalization timer and the transfer end an operation. -/
theorem Commit.ending_cases {now : String} {s : MaintenanceState} {cause : Cause}
    {t : Transaction} (hc : Commit op now s cause t) :
    (t.state.terminal = s.terminal ∧ t.state.replayFinal = s.replayFinal) ∨
      (∃ event, cause = .event event ∧ op.Admits event .provisionalCloseExpired ∧
        Finalizable s ∧ t.state = completedAt s now) ∨
      Unblocked s ∧ t.state = transferredAt s now := by
  cases hc with
  | finalized admitted ready => exact Or.inr (Or.inl ⟨_, rfl, admitted, ready, rfl⟩)
  | transferred unblocked => exact Or.inr (Or.inr ⟨unblocked, rfl⟩)
  | _ => exact Or.inl ⟨rfl, rfl⟩

/-- The end of an operation is on record exactly when it is final. -/
def Ended (s : MaintenanceState) : Prop := s.terminal.isSome = true ↔ s.replayFinal = true

theorem Commit.ended {now : String} {s : MaintenanceState} {cause : Cause} {t : Transaction}
    (h : Ended s) (hc : Commit op now s cause t) : Ended t.state := by
  rcases hc.ending_cases with ⟨ht, hf⟩ | ⟨_, _, _, _, hs⟩ | ⟨_, hs⟩
  · rw [Ended, ht, hf]
    exact h
  · rw [hs]
    exact ⟨fun _ => rfl, fun _ => rfl⟩
  · rw [hs]
    exact ⟨fun _ => rfl, fun _ => rfl⟩

end Ends

section Window

/-- The close stands on verified work, and its timer is armed for the end of the window. -/
structure Stands (s : EngineState MaintenanceState) (cycle : Cycle) (reopenUntil : String) :
    Prop where
  closed : s.state.provisionalClose.cycleId = some cycle.cycleId
  onFile : s.state.cycles.get? cycle.cycleId = some cycle
  verified : cycle.workVerified = true
  window : s.state.provisionalClose.reopenUntil = some reopenUntil
  timer : ∃ timerId, s.state.provisionalClose.timerEventId = some timerId ∧
    s.queue.Arms timerId reopenUntil

/-- The terminal names the cycle that was closed, at or after the end of its window, and the
work of that cycle is verified. -/
structure FinalizedInWindow (s : MaintenanceState) (terminal : Terminal) (cycle : Cycle) :
    Prop where
  closed : s.provisionalClose.cycleId = some cycle.cycleId
  named : terminal.cycleId = some cycle.cycleId
  onFile : s.cycles.get? cycle.cycleId = some cycle
  verified : cycle.workVerified = true
  after : ∃ reopenUntil limit seconds, s.provisionalClose.reopenUntil = some reopenUntil ∧
    strptime reopenUntil = .ok limit ∧ terminal.instant = strftime seconds ∧ limit ≤ seconds

/-- A finalization timer that would be accepted is the one the standing close armed, and the
closed cycle is still the current one. -/
def TimerIsOfClose (E : Engine MaintenanceState) (s : EngineState MaintenanceState) : Prop :=
  ∀ event, E.Due s event → event.eventType = EventType.provisionalCloseExpired.text →
    s.state.replayFinal = false → Finalizable s.state →
    s.state.provisionalClose.timerEventId = some event.eventId ∧
      s.state.currentCycleId = s.state.provisionalClose.cycleId

structure WindowKept (s : EngineState MaintenanceState) : Prop where
  ended : Ended s.state
  standing : s.state.phase = .provisionallyClosed → ∃ cycle reopenUntil, Stands s cycle reopenUntil
  finalized : ∀ terminal, s.state.terminal = some terminal →
    terminal.outcome = .completedSuccessfully → ∃ cycle, FinalizedInWindow s.state terminal cycle

theorem Cycle.Follows.workVerified {a b : Cycle} (h : a.Follows b) (hv : a.workVerified = true) :
    b.workVerified = true := by
  have ha : a.visitStatus = .workVerified := of_decide_eq_true hv
  have hs := h.visitStatus
  rw [ha] at hs
  rcases hs with hs | hs
  · exact decide_eq_true hs
  · cases hs

theorem Stands.later {cycle : Cycle} {reopenUntil : String} (h : Stands s cycle reopenUntil)
    (hs : s'.state.provisionalClose = s.state.provisionalClose)
    (hg : Registry.Grows Cycle.Follows s.state.cycles s'.state.cycles)
    (hq : s.queue.Evolves s'.queue) : ∃ cycle', Stands s' cycle' reopenUntil := by
  obtain ⟨cycle', onFile', follows⟩ := hg _ _ h.onFile
  have hid : cycle'.cycleId = cycle.cycleId := Registry.ident_of_get? onFile'
  obtain ⟨timerId, ht, ha⟩ := h.timer
  refine ⟨cycle', ?_, Registry.get?_ident onFile', follows.workVerified h.verified, ?_, timerId, ?_,
    ha.evolves hq⟩
  · rw [hs, h.closed, hid]
  · rw [hs, h.window]
  · rw [hs, ht]

theorem stands_of_closes {call : Call} {effects : List Effect} {cycle : Cycle}
    {reopenUntil : String} (h : Closes op s.state call ⟨s'.state, effects⟩ cycle reopenUntil)
    (hc : Committed op s s' call effects) : Stands s' cycle reopenUntil := by
  have hstate : s'.state = closedOn s.state cycle call.context.now reopenUntil := h.state
  obtain ⟨payload, hm⟩ := h.armed
  obtain ⟨instant, hi, ha⟩ := hc.armed _ _ _ _ _ _ hm
  obtain rfl : instant = reopenUntil := Except.ok.inj ((shiftMinutes_context hi _).symm.trans h.window)
  refine ⟨?_, ?_, h.closable.verified, ?_, provisionalCloseTimerId cycle.cycleId, ?_, ha⟩ <;>
    rw [hstate]
  · rfl
  · exact h.closable.onFile
  · rfl
  · rfl

theorem WindowKept.step
    (h : WindowKept s) (hw : TimerIsOfClose (op.engine sha256 agent operationId instanceId faults) s)
    (hs : (op.engine sha256 agent operationId instanceId faults).step s = .ok s') :
    WindowKept s' := by
  cases step_change hs with
  | still state queue =>
    refine ⟨state ▸ h.ended, fun hp => ?_, state ▸ h.finalized⟩
    obtain ⟨cycle, reopenUntil, hst⟩ := h.standing (state ▸ hp)
    have hlater : ∃ cycle', Stands s' cycle' reopenUntil :=
      hst.later (by rw [state]) (state ▸ Registry.Grows.refl Cycle.Follows.refl _) queue
    obtain ⟨cycle', hst'⟩ := hlater
    exact ⟨cycle', reopenUntil, hst'⟩
  | commit call effects live committed queue due =>
    have hc := committed.commit
    refine ⟨hc.ended h.ended, fun hp => ?_, fun terminal ht ho => ?_⟩
    · rcases hc.closing_cases hp with ⟨hp, hclose, hg⟩ | ⟨cycle, reopenUntil, hcl⟩
      · obtain ⟨cycle, reopenUntil, hst⟩ := h.standing hp
        obtain ⟨cycle', hst'⟩ := hst.later hclose hg queue
        exact ⟨cycle', reopenUntil, hst'⟩
      · exact ⟨cycle, reopenUntil, stands_of_closes hcl committed⟩
    · rcases hc.ending_cases with ⟨hterm, _⟩ | ⟨event, hcause, admitted, ready, hstate⟩ | ⟨_, hstate⟩
      · have hnone : s.state.terminal.isSome = true := by
          rw [← show s'.state.terminal = s.state.terminal from hterm, ht]
          rfl
        rw [h.ended.mp hnone] at live
        cases live
      · obtain ⟨hdue, seconds, hseconds, hnow⟩ := due event hcause
        obtain ⟨hid, hcurrent⟩ := hw event hdue
          (EventType.text_of_ofText? admitted.named).symm live ready
        obtain ⟨cycle, reopenUntil, hst⟩ := h.standing ready.phase
        obtain ⟨timerId, htimer, harmed⟩ := hst.timer
        obtain rfl : timerId = event.eventId := Option.some.inj (htimer.symm.trans hid)
        have hinstant := harmed.due event hdue.mem rfl
        rw [show s'.state = _ from hstate] at ht ⊢
        obtain rfl := Option.some.inj ht
        exact ⟨cycle, hst.closed, hcurrent.trans hst.closed, hst.onFile, hst.verified,
          reopenUntil, seconds, seconds, hst.window, hinstant ▸ hseconds, hnow, le_rfl⟩
      · rw [show s'.state = _ from hstate] at ht
        obtain rfl := Option.some.inj ht
        cases ho

theorem start_state (h : (op.engine sha256 agent operationId instanceId faults).start = .ok s) :
    s.state = op.initialState := by
  obtain ⟨clock, _, h⟩ := bind_ok h
  obtain ⟨queue, _, h⟩ := bind_ok h
  rw [EngineState.log_ok h]
  rfl

/-- In every run whose finalization timers are those of the standing close, over the closed
cycle, a completed operation was finalized in its window. -/
theorem completed_in_window
    (h₀ : (op.engine sha256 agent operationId instanceId faults).start = .ok s)
    (h : (op.engine sha256 agent operationId instanceId faults).RunsVia
      (TimerIsOfClose (op.engine sha256 agent operationId instanceId faults)) s s')
    {terminal : Terminal} (ht : s'.state.terminal = some terminal)
    (ho : terminal.outcome = .completedSuccessfully) :
    ∃ cycle, FinalizedInWindow s'.state terminal cycle := by
  have hs := start_state h₀
  have hk : WindowKept s := by
    refine ⟨?_, fun hp => ?_, fun terminal ht => ?_⟩
    · rw [Ended, hs]
      exact ⟨nofun, nofun⟩
    · rw [hs] at hp
      cases hp
    · rw [hs] at ht
      cases ht
  exact (Run.invariant h hk fun _ _ _ hk hw => hk.step hw).finalized terminal ht ho

/-- A quote for a new cycle arrives while the customer may still answer. -/
def quotedInWindow : List PlannedEvent :=
  Fixture.diagnosed ++
    [{ Fixture.firstJob.quoted 5 "2031-03-04T12:00:00Z" with triggersAgent := false }]

/-- The operation is completed on the quoted cycle, where no work was ever done. -/
theorem completed_on_quoted_cycle :
    (∀ event ∈ quotedInWindow, event.eventType ≠ EventType.provisionalCloseExpired.text) ∧
      ¬∀ s s' terminal, (Fixture.engine quotedInWindow Fixture.closes).start = .ok s →
        (Fixture.engine quotedInWindow Fixture.closes).RunsVia (fun _ => True) s s' →
        s'.state.terminal = some terminal → terminal.outcome = .completedSuccessfully →
        ∃ cycle, FinalizedInWindow s'.state terminal cycle := by
  refine ⟨by decide, fun h => ?_⟩
  obtain ⟨s, hs, hc⟩ := ok_of_any (x := (Fixture.engine quotedInWindow Fixture.closes).start)
    (p := fun s => (Fixture.engine quotedInWindow Fixture.closes).checkRun (fun _ => true)
      (fun s' => s'.state.terminal.any fun terminal =>
        terminal.outcome = .completedSuccessfully && terminal.cycleId = some "cycle_2" &&
          s'.state.provisionalClose.cycleId = some "cycle_1") 13 s) (by decide +kernel)
  obtain ⟨s', hr, hl⟩ := Engine.runs_of_checkRun (fun _ _ => trivial) hc
  obtain ⟨terminal, ht, hl⟩ := (Option.any_eq_true _ _).mp hl
  simp only [Bool.and_eq_true, decide_eq_true_eq] at hl
  obtain ⟨⟨ho, hnamed⟩, hclosed⟩ := hl
  obtain ⟨cycle, hf⟩ := h s s' terminal hs hr ht ho
  have hsame := (hnamed.symm.trans hf.named).trans (hf.closed.symm.trans hclosed)
  exact absurd hsame (by decide)

/-- What comes due next is no finalization timer, or it is that of the standing close. -/
def nextTimerIsOfClose (s : EngineState MaintenanceState) : Bool :=
  match s.queue.peekNext with
  | .ok (some event, _) =>
    event.eventType ≠ EventType.provisionalCloseExpired.text ||
      s.state.provisionalClose.timerEventId = some event.eventId &&
        s.state.currentCycleId = s.state.provisionalClose.cycleId
  | _ => true

theorem timerIsOfClose_of_next {E : Engine MaintenanceState} (h : nextTimerIsOfClose s = true) :
    TimerIsOfClose E s := by
  intro event due expired _ _
  obtain ⟨queue, hq⟩ := due.next
  rw [nextTimerIsOfClose, hq] at h
  simpa [expired] using h

theorem diagnosed_completed_in_window : ∃ s s' terminal cycle,
    (Fixture.engine Fixture.diagnosed Fixture.closes).start = .ok s ∧
      (Fixture.engine Fixture.diagnosed Fixture.closes).RunsVia
        (TimerIsOfClose (Fixture.engine Fixture.diagnosed Fixture.closes)) s s' ∧
      s'.state.terminal = some terminal ∧ FinalizedInWindow s'.state terminal cycle := by
  obtain ⟨s, hs, hc⟩ := ok_of_any (x := (Fixture.engine Fixture.diagnosed Fixture.closes).start)
    (p := fun s => (Fixture.engine Fixture.diagnosed Fixture.closes).checkRun nextTimerIsOfClose
      (fun s' => s'.state.terminal.any fun terminal =>
        terminal.outcome = .completedSuccessfully) 12 s) (by decide +kernel)
  obtain ⟨s', hr, hl⟩ := Engine.runs_of_checkRun (fun _ => timerIsOfClose_of_next) hc
  obtain ⟨terminal, ht, ho⟩ := (Option.any_eq_true _ _).mp hl
  obtain ⟨cycle, hf⟩ := completed_in_window hs hr ht (of_decide_eq_true ho)
  exact ⟨s, s', terminal, cycle, hs, hr, ht, hf⟩

end Window

section Idle

/-- Nothing is left to do: no approval, no exception and no duty is open. -/
structure Idle (s : MaintenanceState) : Prop where
  approvals : s.openApprovals = []
  exceptions : s.openExceptions = []
  obligations : s.openObligations = []

theorem idle_of_unblocked {s : MaintenanceState} (checkpoints : blockingCheckpoints s = [])
    (obligations : s.openObligations = []) : Idle s := by
  have hperm := (List.perm_insertionSort (fun a b : String => a ≤ b) _).symm.trans
    (List.Perm.of_eq checkpoints)
  obtain ⟨approvals, exceptions⟩ := List.append_eq_nil_iff.mp hperm.eq_nil
  exact ⟨List.map_eq_nil_iff.mp approvals, List.map_eq_nil_iff.mp exceptions, obligations⟩

/-- A finalization timer that would be accepted finds no duty open. -/
def FinalizesIdle (E : Engine MaintenanceState) (s : EngineState MaintenanceState) : Prop :=
  ∀ event, E.Due s event → event.eventType = EventType.provisionalCloseExpired.text →
    s.state.replayFinal = false → Finalizable s.state → s.state.openObligations = []

theorem idle_step (h : s.state.replayFinal = true → Idle s.state)
    (hw : FinalizesIdle (op.engine sha256 agent operationId instanceId faults) s)
    (hs : (op.engine sha256 agent operationId instanceId faults).step s = .ok s') :
    s'.state.replayFinal = true → Idle s'.state := by
  intro hf
  cases step_change hs with
  | still state queue =>
    rw [state] at hf ⊢
    exact h hf
  | commit call effects live committed queue due =>
    rcases committed.commit.ending_cases with
      ⟨_, hsame⟩ | ⟨event, hcause, admitted, ready, hstate⟩ | ⟨unblocked, hstate⟩
    · rw [← show s'.state.replayFinal = s.state.replayFinal from hsame, hf] at live
      cases live
    · have hidle := hw event (due event hcause).1 (EventType.text_of_ofText? admitted.named).symm
        live ready
      obtain ⟨approvals, exceptions, obligations⟩ := idle_of_unblocked ready.checkpoints hidle
      rw [show s'.state = _ from hstate]
      exact ⟨approvals, exceptions, obligations⟩
    · obtain ⟨approvals, exceptions, obligations⟩ :=
        idle_of_unblocked unblocked.checkpoints unblocked.obligations
      rw [show s'.state = _ from hstate]
      exact ⟨approvals, exceptions, obligations⟩

/-- In every run whose finalization timers find no duty open, nothing is open behind the end. -/
theorem final_idle
    (h₀ : (op.engine sha256 agent operationId instanceId faults).start = .ok s)
    (h : (op.engine sha256 agent operationId instanceId faults).RunsVia
      (FinalizesIdle (op.engine sha256 agent operationId instanceId faults)) s s')
    (hf : s'.state.replayFinal = true) : Idle s'.state := by
  have hs : s.state.replayFinal = true → Idle s.state := by
    rw [start_state h₀]
    nofun
  exact Run.invariant h hs (fun _ _ _ hi hw => idle_step hi hw) hf

/-- The job is paid for inside the window in which the diagnosis was closed again. -/
def settledInWindow : List PlannedEvent :=
  Fixture.diagnosed ++
    [Fixture.laterJob.quoted 5 "2031-03-03T13:00:00Z",
      Fixture.laterJob.approved 6 "2031-03-03T14:00:00Z",
      Fixture.laterJob.attended 7 "2031-03-03T15:00:00Z",
      Fixture.laterJob.verified 8 "2031-03-03T16:00:00Z",
      Fixture.laterJob.invoiced 9 "2031-03-03T17:00:00Z",
      Fixture.laterJob.validated 10 "2031-03-03T18:00:00Z",
      { Fixture.secondJob with cycleId := "cycle_1" }.quoted 11 "2031-03-03T19:00:00Z",
      Fixture.laterJob.settled 12 "2031-03-03T20:00:00Z"]

/-- The agent asks for the payment of the job, and then closes the diagnosis. -/
def closesUnsettled : List Answer :=
  [Fixture.reads ["get_case_record"], (Fixture.visits "cycle_1").answer, Fixture.rests,
    Fixture.rests] ++
  [Fixture.laterJob.asksApproval, Fixture.laterJob.authorises].flatMap (fun proposal =>
    [Fixture.reads ["get_case_record", "list_checkpoints", "list_quotes"], proposal.answer,
      Fixture.rests]) ++
  [Fixture.laterJob.asksValidation, Fixture.laterJob.pays].flatMap (fun proposal =>
    [Fixture.reads ["get_case_record", "list_authoritative_records", "list_billing"],
      proposal.answer, Fixture.rests]) ++
  [Fixture.reads ["get_case_record", "list_communications"], (Fixture.notifies "cycle_1").answer,
    Fixture.reads ["get_case_record", "list_billing", "list_checkpoints", "list_obligations"],
    Fixture.completes]

/-- The operation ends while the customer is still to be told that the job is done. -/
theorem final_with_open_duty : ¬∀ s s',
    (Fixture.engine settledInWindow closesUnsettled).start = .ok s →
      (Fixture.engine settledInWindow closesUnsettled).RunsVia (fun _ => True) s s' →
      s'.state.replayFinal = true → Idle s'.state := by
  intro h
  obtain ⟨s, hs, hc⟩ := ok_of_any (x := (Fixture.engine settledInWindow closesUnsettled).start)
    (p := fun s => (Fixture.engine settledInWindow closesUnsettled).checkRun (fun _ => true)
      (fun s' => s'.state.replayFinal && !s'.state.openObligations.isEmpty) 33 s)
    (by decide +kernel)
  obtain ⟨s', hr, hl⟩ := Engine.runs_of_checkRun (fun _ _ => trivial) hc
  simp only [Bool.and_eq_true, Bool.not_eq_true', List.isEmpty_eq_false_iff] at hl
  exact hl.2 (h s s' hs hr hl.1).obligations

/-- No duty is open when a finalization timer comes due next. -/
def nextFinalizesIdle (s : EngineState MaintenanceState) : Bool :=
  match s.queue.peekNext with
  | .ok (some event, _) =>
    event.eventType ≠ EventType.provisionalCloseExpired.text || s.state.openObligations.isEmpty
  | _ => true

theorem finalizesIdle_of_next {E : Engine MaintenanceState} (h : nextFinalizesIdle s = true) :
    FinalizesIdle E s := by
  intro event due expired _ _
  obtain ⟨queue, hq⟩ := due.next
  rw [nextFinalizesIdle, hq] at h
  simpa [expired] using h

theorem diagnosed_final_idle : ∃ s s',
    (Fixture.engine Fixture.diagnosed Fixture.closes).start = .ok s ∧
      (Fixture.engine Fixture.diagnosed Fixture.closes).RunsVia
        (FinalizesIdle (Fixture.engine Fixture.diagnosed Fixture.closes)) s s' ∧
      s'.state.replayFinal = true ∧ Idle s'.state := by
  obtain ⟨s, hs, hc⟩ := ok_of_any (x := (Fixture.engine Fixture.diagnosed Fixture.closes).start)
    (p := fun s => (Fixture.engine Fixture.diagnosed Fixture.closes).checkRun nextFinalizesIdle
      (fun s' => s'.state.replayFinal) 12 s) (by decide +kernel)
  obtain ⟨s', hr, hf⟩ := Engine.runs_of_checkRun (fun _ => finalizesIdle_of_next) hc
  exact ⟨s, s', hs, hr, hf, final_idle hs hr hf⟩

end Idle

end OperateBench.Maintenance
