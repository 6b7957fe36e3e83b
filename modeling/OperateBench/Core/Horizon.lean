import OperateBench.Core.Calendar
import OperateBench.Core.Status

/-! # Waits at the horizon

An episode that runs out under a standing wait should say so in one row at the
horizon. The engine writes that row where the world went quiet, and leaves it out
where an event or the declared fallback lies beyond the horizon.
-/

namespace OperateBench

open Foundation EngineState Calendar

variable {σ : Type} {E : Engine σ} {s s' t : EngineState σ}

/-- The records of waits that the horizon ended. -/
def EngineState.horizonRows (s : EngineState σ) : List Record :=
  s.ledger.records.filter fun record => record.recordType = "wait_unresolved_at_horizon"

def Control.isDone : Control → Bool
  | .done => true
  | _ => false

namespace Engine

section Stretches

theorem Consults.clock {cause : Cause} (h : E.Consults s cause s') : s'.clock = s.clock := by
  obtain ⟨s₀, reduction, s₁, h₀, hr, hc, h₁⟩ := h
  rw [h₁.clock, (commit_frame hc).clock, ← h₀.clock]

theorem Handles.clock (h : E.Handles s s') : s'.clock = s.clock := by
  rcases h with hf | ⟨cause, _, hc⟩
  · exact hf.clock
  · exact hc.clock

theorem Wakes.clock {trigger : Option Event} (h : E.Wakes s trigger s') : s'.clock = s.clock := by
  obtain ⟨t, hf, ⟨_, detail, hr⟩ | ⟨_, hi⟩⟩ := h
  · rw [refuseInvocation_ok hr]
    exact hf.clock
  · exact (invoke_ok hi).2.clock.trans hf.clock

theorem deliver_clock {event : Event} (h : E.deliver s event = .ok s') : s'.clock = s.clock := by
  cases hf : E.domain.isReplayFinal s.state with
  | true =>
    obtain ⟨payload, row, rfl⟩ := deliver_final h hf
    rfl
  | false =>
    obtain ⟨t, ht, rfl | ⟨_, hw⟩⟩ := deliver_live h hf
    · exact ht.clock
    · exact hw.clock.trans ht.clock

end Stretches

section Clock

variable {clock clock' : SimulatedClock} {moment context : String}

/-- The clock counts from the start of the plan, shows an instant of the calendar and has
not run past the horizon. -/
structure OnTime (E : Engine σ) (clock : SimulatedClock) : Prop where
  origin : strptime E.plan.startsAt = .ok clock.startSeconds
  legible : strptime clock.now = .ok clock.seconds
  within : clock.seconds ≤ clock.startSeconds + E.plan.horizonMinutes * 60 ∨
    clock.seconds = clock.startSeconds

theorem now_of_strptime (h : strptime moment = .ok clock.seconds) :
    strptime clock.now = .ok clock.seconds := by
  obtain ⟨h₁, h₂⟩ := strptime_bounds h
  exact strptime_strftime h₁ h₂

theorem onTime_start (h : SimulatedClock.start E.plan.startsAt context = .ok clock) :
    E.OnTime clock := by
  obtain ⟨n, hn, h⟩ := bind_ok h
  obtain rfl := pure_ok h
  have hp := parseTimestamp_ok.mp hn
  exact ⟨hp, now_of_strptime hp, Or.inr rfl⟩

/-- The clock moves on to an instant that the horizon does not cut off. -/
theorem OnTime.advanceTo (ht : E.OnTime s.clock) (hb : E.beyondHorizon s moment = .ok false)
    (h : s.clock.advanceTo moment context = .ok clock) : E.OnTime clock := by
  obtain ⟨hm, _, ho⟩ := SimulatedClock.advanceTo_ok h
  have hp := parseTimestamp_ok.mp hm
  obtain ⟨n, hn, hb⟩ := bind_ok hb
  have hle := of_decide_eq_false (pure_ok hb)
  rw [parseTimestamp_ok, hp] at hn
  obtain rfl := Except.ok.inj hn
  refine ⟨ho ▸ ht.origin, now_of_strptime hp, Or.inl ?_⟩
  rw [ho]
  exact Int.not_lt.mp hle

/-- The horizon of the plan lies on the calendar when it can be written. -/
theorem OnTime.horizon (ht : E.OnTime clock) {horizonAt : String}
    (h : shiftMinutes E.plan.startsAt E.plan.horizonMinutes context = .ok horizonAt) :
    0 ≤ E.plan.horizonMinutes ∧
      horizonAt = strftime (clock.startSeconds + E.plan.horizonMinutes * 60) ∧
      strptime horizonAt = .ok (clock.startSeconds + E.plan.horizonMinutes * 60) := by
  obtain ⟨hm, n, hn, hs, hp⟩ := shiftMinutes_ok h
  obtain rfl : n = clock.startSeconds := Except.ok.inj (hn.symm.trans ht.origin)
  exact ⟨hm, hs, hp⟩

/-- Running out the horizon takes the clock there, where it cannot have been passed. -/
theorem OnTime.clockAtHorizon (ht : E.OnTime s.clock) {horizonAt : String}
    (hz : shiftMinutes E.plan.startsAt E.plan.horizonMinutes context = .ok horizonAt)
    (h : clockAtHorizon s horizonAt = .ok clock) :
    clock.now = horizonAt ∧ E.OnTime clock := by
  obtain ⟨hm, htext, hparse⟩ := ht.horizon hz
  obtain ⟨limit, hl, h⟩ := bind_ok h
  obtain ⟨now, hn, h⟩ := bind_ok h
  rw [parseTimestamp_ok, hparse] at hl
  rw [parseTimestamp_ok, ht.legible] at hn
  obtain rfl := Except.ok.inj hl
  obtain rfl := Except.ok.inj hn
  split at h
  · have hadvance := SimulatedClock.advanceTo_ok h
    rw [parseTimestamp_ok, hparse] at hadvance
    obtain ⟨hs, _, ho⟩ := hadvance
    have hs := Except.ok.inj hs
    have hnow : clock.now = horizonAt := by rw [htext, SimulatedClock.now, hs]
    refine ⟨hnow, ho ▸ ht.origin, ?_, Or.inl ?_⟩
    · rw [hnow, hparse, hs]
    · rw [← hs, ho]
  · obtain rfl := Except.ok.inj h
    have hs : s.clock.seconds = s.clock.startSeconds + E.plan.horizonMinutes * 60 := by
      rcases ht.within with hw | hw <;> omega
    exact ⟨by rw [SimulatedClock.now, hs, htext], ht⟩

theorem OnTime.fireFallback (ht : E.OnTime s.clock) (h : E.fireFallback s moment = .ok s') :
    E.OnTime s'.clock := by
  obtain ⟨beyond, hb, h⟩ := bind_ok h
  cases beyond with
  | true =>
    obtain rfl := pure_ok h
    exact ht
  | false =>
    obtain ⟨clock, hc, h⟩ := bind_ok h
    obtain ⟨t, hl, h⟩ := bind_ok h
    obtain ⟨⟨spent, u⟩, hu, h⟩ := bind_ok h
    obtain rfl := log_ok hl
    have hclock := ht.advanceTo hb hc
    rcases outOfInvocations_ok hu with ⟨rfl, rfl, _⟩ | ⟨rfl, _, detail, hr⟩
    · have hi : s'.clock = clock := (invoke_ok h).2.clock
      rwa [hi]
    · obtain rfl := pure_ok h
      rwa [refuseInvocation_ok hr]

theorem OnTime.quiet (ht : E.OnTime s.clock) (h : E.quiet s = .ok s') : E.OnTime s'.clock := by
  unfold Engine.quiet at h
  split at h
  · obtain rfl := Except.ok.inj h
    exact ht
  · obtain ⟨t, hx, h⟩ := bind_ok h
    obtain rfl := pure_ok h
    obtain ⟨horizonAt, hz, hx⟩ := bind_ok hx
    obtain ⟨clock, hc, hx⟩ := bind_ok hx
    obtain ⟨u, hl, hx⟩ := bind_ok hx
    obtain rfl := pure_ok hx
    rw [log_ok hl]
    exact (ht.clockAtHorizon hz hc).2

theorem OnTime.deliverNext {event : Event} (ht : E.OnTime s.clock)
    (hp : ∃ queue, s.queue.popNext = .ok (some event, queue))
    (h : E.deliverNext s event = .ok s') : E.OnTime s'.clock := by
  obtain ⟨beyond, hb, h⟩ := bind_ok h
  cases beyond with
  | true =>
    obtain rfl := pure_ok h
    exact ht
  | false =>
    obtain ⟨queue, hp⟩ := hp
    obtain ⟨⟨popped, rest⟩, hpop, h⟩ := bind_ok h
    obtain ⟨rfl, rfl⟩ := Prod.mk.inj (Except.ok.inj (hp.symm.trans hpop))
    obtain ⟨clock, hc, h⟩ := bind_ok h
    rw [deliver_clock h]
    exact ht.advanceTo hb hc

theorem OnTime.step (ht : E.OnTime s.clock) (h : E.step s = .ok s') : E.OnTime s'.clock := by
  unfold Engine.step at h
  split at h
  · unfold headStep at h
    split at h
    · obtain rfl := Except.ok.inj h
      exact ht
    · obtain ⟨⟨next, queue⟩, hp, h⟩ := bind_ok h
      obtain ⟨due, _, h⟩ := bind_ok h
      have ht : E.OnTime { s with queue }.clock := ht
      split at h
      · exact ht.fireFallback h
      · exact ht.quiet h
      · exact ht.deliverNext ⟨_, EventQueue.popNext_of_peekNext hp⟩ h
  · rcases turnStep_ok h with ⟨code, detail, t, hr, rfl⟩ | ⟨t, hh, he, _⟩
    · rw [refuseInvocation_ok hr]
      exact ht
    · rw [he]
      exact hh.clock ▸ ht
  · exact Except.ok.inj h ▸ ht

end Clock

section LastPass

/-- The pass of the loop that ends the run, from a state the run reached. -/
structure LastPass (E : Engine σ) (s s' : EngineState σ) : Prop where
  reached : ∃ s₀, E.start = .ok s₀ ∧ E.RunsVia (fun _ => True) s₀ s
  head : s.control = .head
  step : E.headStep s = .ok s'
  ended : s'.control = .done

theorem start_head (h : E.start = .ok s) : s.control = .head := by
  obtain ⟨clock, _, h⟩ := bind_ok h
  obtain ⟨queue, _, h⟩ := bind_ok h
  rw [log_ok h]

/-- Only a pass of the loop gets behind the loop. -/
theorem head_of_done (h : E.step s = .ok s') (hd : s'.control = .done) :
    s.control = .done ∧ s' = s ∨ s.control = .head ∧ E.headStep s = .ok s' := by
  unfold Engine.step at h
  split at h
  · exact Or.inr ⟨‹_›, h⟩
  · exfalso
    rcases turnStep_ok h with ⟨code, detail, t, hr, rfl⟩ | ⟨t, hh, he, hne⟩
    · cases hd
    · exact hne hd
  · exact Or.inl ⟨‹_›, (Except.ok.inj h).symm⟩

/-- Every run that got behind the loop did so in one last pass. -/
theorem exists_lastPass {s₀ : EngineState σ} (h₀ : E.start = .ok s₀)
    (h : E.RunsVia (fun _ => True) s₀ s') (hd : s'.control = .done) : ∃ s, E.LastPass s s' := by
  induction h with
  | refl => exact absurd (hd.symm.trans (start_head h₀)) nofun
  | tail hr hst ih =>
    rename_i t u
    obtain ⟨_, _, hs⟩ := hst
    rcases head_of_done hs hd with ⟨ht, rfl⟩ | ⟨hh, hs⟩
    · exact ih ht
    · exact ⟨t, ⟨s₀, h₀, hr⟩, hh, hs, hd⟩

/-- Within the loop the horizon has not been met. -/
def BeforeHorizon (s : EngineState σ) : Prop := s.control ≠ .done → s.halt ≠ some .horizon

theorem deliver_halt {event : Event} (h : E.deliver s event = .ok s') :
    s'.halt = s.halt ∨ s'.halt = some .deadlock := by
  cases hf : E.domain.isReplayFinal s.state with
  | true =>
    obtain ⟨payload, row, rfl⟩ := deliver_final h hf
    exact Or.inl rfl
  | false =>
    obtain ⟨t, ht, rfl | ⟨_, u, hu, ⟨_, detail, hr⟩ | ⟨_, hi⟩⟩⟩ := deliver_live h hf
    · exact Or.inl ht.halt
    · rw [refuseInvocation_ok hr]
      exact Or.inr rfl
    · exact Or.inl ((invoke_ok hi).2.halt.trans (hu.halt.trans ht.halt))

theorem BeforeHorizon.step (hb : BeforeHorizon s) (h : E.step s = .ok s') : BeforeHorizon s' := by
  unfold Engine.step at h
  split at h
  · rename_i hc
    cases headStep_ok hc h with
    | stop => exact fun hn => absurd rfl hn
    | horizon => exact fun hn => absurd rfl hn
    | fallback halt _ _ _ _ invoked =>
      intro _ hh
      have hi : s'.halt = s.halt := (invoke_ok invoked).2.halt
      simp [hi, halt] at hh
    | spent => exact fun hn => absurd rfl hn
    | empty => exact fun hn => absurd rfl hn
    | unresolved => exact fun hn => absurd rfl hn
    | delivery due _ _ _ delivered =>
      intro _ hh
      rcases deliver_halt delivered with hd | hd
      · simp [hd, due.halt] at hh
      · simp [hd] at hh
  · rename_i hc
    rcases turnStep_ok h with ⟨code, detail, t, hr, rfl⟩ | ⟨t, hh, he, _⟩
    · rw [refuseInvocation_ok hr]
      exact fun _ => nofun
    · intro _
      rw [he]
      have hs : s.halt ≠ some .horizon := hb (by rw [hc]; nofun)
      rcases hh with hf | ⟨cause, _, hcs⟩
      · rwa [show t.halt = s.halt from hf.halt]
      · rwa [show t.halt = s.halt from hcs.halt]
  · exact Except.ok.inj h ▸ hb

theorem LastPass.onTime (h : E.LastPass s s') : E.OnTime s.clock := by
  obtain ⟨s₀, h₀, hr⟩ := h.reached
  refine Run.invariant (I := fun s => E.OnTime s.clock) hr ?_ fun _ _ _ ht _ h => OnTime.step ht h
  obtain ⟨clock, hc, h₀⟩ := bind_ok h₀
  obtain ⟨queue, _, h₀⟩ := bind_ok h₀
  rw [log_ok h₀]
  exact onTime_start hc

theorem LastPass.beforeHorizon (h : E.LastPass s s') : s.halt ≠ some .horizon := by
  obtain ⟨s₀, h₀, hr⟩ := h.reached
  have hb : BeforeHorizon s := by
    refine Run.invariant (I := BeforeHorizon) hr ?_ fun _ _ _ hb _ => hb.step
    intro _ hh
    obtain ⟨clock, _, h₀⟩ := bind_ok h₀
    obtain ⟨queue, _, h₀⟩ := bind_ok h₀
    rw [log_ok h₀] at hh
    cases hh
  exact hb (by rw [h.head]; nofun)

end LastPass

section Records

/-- The episode holds one record of the wait, stamped at the horizon, and ended there. -/
def RecordsWait (E : Engine σ) (wait : Wait) (outcome : EpisodeOutcome) : Prop :=
  ∃ horizonAt record,
    shiftMinutes E.plan.startsAt E.plan.horizonMinutes "operational horizon" = .ok horizonAt ∧
    (outcome.trajectory.filter fun record =>
      record.recordType = "wait_unresolved_at_horizon") = [record] ∧
    record.instant = horizonAt ∧
    record.payload = .ofList [("reason", .str wait.reason), ("wake_on", .ofTexts wait.wakeOn),
      ("horizon_at", .str horizonAt)] ∧
    outcome.endedAt = horizonAt

theorem horizonRows_write {recordType instant : String} {payload : Fields}
    {ledger : TrajectoryLedger} (h : recordType ≠ "wait_unresolved_at_horizon") :
    (ledger.write instant recordType payload).records.filter
        (fun record => record.recordType = "wait_unresolved_at_horizon") =
      ledger.records.filter fun record => record.recordType = "wait_unresolved_at_horizon" := by
  simp [h]

theorem finish_record {outcome : EpisodeOutcome} (h : E.finish s = .ok outcome) :
    outcome.endedAt = s.clock.now ∧ (outcome.trajectory.filter fun record =>
      record.recordType = "wait_unresolved_at_horizon") = s.horizonRows := by
  obtain ⟨t, ht, h⟩ := bind_ok h
  obtain rfl := log_ok ht
  obtain ⟨_, h⟩ := unless_ok h
  obtain ⟨_, h⟩ := unless_ok h
  obtain rfl := pure_ok h
  exact ⟨rfl, horizonRows_write (by decide)⟩

/-- Nothing is left to happen and no fallback is declared. -/
def Quiet (s : EngineState σ) : Prop := s.queue.pending = [] ∧ s.fallbackAt = none

theorem LastPass.running (h : E.LastPass s s') (hh : s'.halt = some .horizon) : s.halt = none := by
  cases hs : s.halt with
  | none => rfl
  | some halt =>
    have hp := h.step
    rw [headStep, if_pos (by simp [hs])] at hp
    obtain rfl := Except.ok.inj hp
    exact absurd hh h.beforeHorizon

theorem LastPass.looked (h : E.LastPass s s') (hh : s.halt = none) (hq : s.queue.pending = []) :
    ∃ queue, (s.fallbackAt = none → E.quiet { s with queue } = .ok s') ∧
      ∀ moment, s.fallbackAt = some moment → E.fireFallback { s with queue } moment = .ok s' := by
  have hs := h.step
  rw [headStep, if_neg (by simp [hh])] at hs
  obtain ⟨⟨next, queue⟩, hp, hs⟩ := bind_ok hs
  obtain ⟨hsort, rfl⟩ := EventQueue.peekNext_ok hp
  have hempty : queue.pending = [] := by
    have hperm := inDeliveryOrder_perm (EventQueue.sort_ok hsort).1
    rw [hq] at hperm
    exact hperm.eq_nil
  rw [hempty] at hs
  refine ⟨queue, fun hf => ?_, fun moment hf => ?_⟩
  · simpa [fallbackDueBefore, hf, ok_bind] using hs
  · simpa [fallbackDueBefore, hf, ok_bind] using hs

/-- Under a wait, the pass in which the world went quiet writes the row at the horizon. -/
theorem LastPass.recorded (h : E.LastPass s s') (hh : s.halt = none) (hq : s.queue.pending = [])
    (hf : s.fallbackAt = none) {wait : Wait} (hw : s'.activeWait = some wait) : ∃ horizonAt,
      shiftMinutes E.plan.startsAt E.plan.horizonMinutes "operational horizon" = .ok horizonAt ∧
      s'.clock.now = horizonAt ∧ s'.ledger = s.ledger.write horizonAt "wait_unresolved_at_horizon"
        (.ofList [("reason", .str wait.reason), ("wake_on", .ofTexts wait.wakeOn),
          ("horizon_at", .str horizonAt)]) := by
  obtain ⟨queue, hquiet, _⟩ := h.looked hh hq
  have hs := hquiet hf
  simp only [Engine.quiet] at hs
  split at hs
  · rename_i hnone
    obtain rfl := Except.ok.inj hs
    simp [hnone] at hw
  · rename_i standing hsome
    obtain ⟨t, hx, hs⟩ := bind_ok hs
    obtain rfl := pure_ok hs
    obtain ⟨horizonAt, hz, hx⟩ := bind_ok hx
    obtain ⟨clock, hc, hx⟩ := bind_ok hx
    obtain ⟨u, hl, hx⟩ := bind_ok hx
    obtain rfl := pure_ok hx
    obtain ⟨hnow, _⟩ := OnTime.clockAtHorizon (s := { s with queue }) h.onTime hz hc
    rw [log_ok hl] at hw ⊢
    obtain rfl : standing = wait := Option.some.inj (hsome.symm.trans hw)
    exact ⟨horizonAt, hz, hnow, by rw [← hnow]⟩

/-- A fallback that comes due writes no row about the horizon. -/
theorem fireFallback_unrecorded {moment : String} (h : E.fireFallback s moment = .ok s')
    (hh : s.halt = none) (hz : s'.halt = some .horizon) : s'.ledger = s.ledger := by
  obtain ⟨beyond, _, h⟩ := bind_ok h
  cases beyond with
  | true =>
    obtain rfl := pure_ok h
    rfl
  | false =>
    exfalso
    obtain ⟨clock, _, h⟩ := bind_ok h
    obtain ⟨t, hl, h⟩ := bind_ok h
    obtain ⟨⟨spent, u⟩, hu, h⟩ := bind_ok h
    obtain rfl := log_ok hl
    rcases outOfInvocations_ok hu with ⟨rfl, rfl, _⟩ | ⟨rfl, _, detail, hr⟩
    · have hi : s'.halt = s.halt := (invoke_ok h).2.halt
      simp [hi, hh] at hz
    · obtain rfl := pure_ok h
      rw [refuseInvocation_ok hr] at hz
      cases hz

/-- A pass that the horizon cut off while something was left writes no row. -/
theorem LastPass.unrecorded (h : E.LastPass s s') (hh : s'.halt = some .horizon)
    (hq : ¬(s.queue.pending = [] ∧ s.fallbackAt = none)) : s'.ledger = s.ledger := by
  have halt := h.running hh
  by_cases hempty : s.queue.pending = []
  · obtain ⟨queue, _, hfire⟩ := h.looked halt hempty
    cases hf : s.fallbackAt with
    | none => exact absurd ⟨hempty, hf⟩ hq
    | some moment => exact fireFallback_unrecorded (s := { s with queue }) (hfire moment hf) halt hh
  · cases headStep_ok h.head h.step with
    | stop hsome => simp [halt] at hsome
    | horizon => rfl
    | fallback _ _ _ _ _ invoked =>
      have hi : s'.halt = s.halt := (invoke_ok invoked).2.halt
      simp [hi, halt] at hh
    | spent _ _ _ refused =>
      rw [refuseInvocation_ok refused] at hh
      cases hh
    | empty => simp [halt] at hh
    | unresolved _ sorted quiet =>
      have hperm := inDeliveryOrder_perm (EventQueue.sort_ok sorted).1
      rw [quiet] at hperm
      exact absurd hperm.symm.eq_nil hempty
    | delivery due _ _ _ delivered =>
      rcases deliver_halt delivered with hd | hd
      · rw [hd] at hh
        simp [due.halt] at hh
      · simp [hd] at hh

/-- A wait that the horizon ended would always be recorded. -/
def RecordsStandingWaits (E : Engine σ) : Prop :=
  ∀ fuel s₀ s' outcome wait, E.start = .ok s₀ → E.runSteps fuel s₀ = .ok s' →
    s'.control = .done → E.finish s' = .ok outcome → outcome.status = Halt.horizon.text →
    s'.activeWait = some wait → E.RecordsWait wait outcome

/-- The wait is recorded when nothing was pending and no fallback was declared. -/
theorem wait_recorded_iff {fuel : ℕ} {outcome : EpisodeOutcome}
    (h : E.run fuel = .ok (some outcome)) (hs : outcome.status = Halt.horizon.text) :
    ∃ s s', E.LastPass s s' ∧ E.finish s' = .ok outcome ∧
      ∀ wait, s'.activeWait = some wait → s.horizonRows = [] →
        (E.RecordsWait wait outcome ↔ s.queue.pending = [] ∧ s.fallbackAt = none) := by
  obtain ⟨s₀, s', h₀, hsteps, hdone, hfin⟩ := run_ok h
  have hruns := runSteps_runs hsteps
  obtain ⟨s, hlast⟩ := exists_lastPass h₀ hruns hdone
  refine ⟨s, s', hlast, hfin, ?_⟩
  intro wait hwait hrows
  have hhalt : s'.halt = some .horizon := by
    have hset := settled_of_runs h₀ hruns
    cases hh : s'.halt with
    | none => simp [(hset.exhausted hdone hh).2] at hwait
    | some halt =>
      rw [(finish_ok hfin).1, status, hh] at hs
      have htext : halt.text = Halt.horizon.text := hs
      cases halt with
      | horizon => rfl
      | deadlock => exact absurd htext (by decide)
  have hnone := hlast.running hhalt
  obtain ⟨hended, htrajectory⟩ := finish_record hfin
  constructor
  · rintro ⟨horizonAt, record, _, hrecord, _⟩
    by_contra hq
    rw [htrajectory, horizonRows, hlast.unrecorded hhalt hq, ← horizonRows, hrows] at hrecord
    cases hrecord
  · rintro ⟨hq, hf⟩
    obtain ⟨horizonAt, hz, hnow, hledger⟩ := hlast.recorded hnone hq hf hwait
    have hrow : s'.horizonRows = [⟨s.ledger.records.length, horizonAt,
        "wait_unresolved_at_horizon", .ofList [("reason", .str wait.reason),
          ("wake_on", .ofTexts wait.wakeOn), ("horizon_at", .str horizonAt)]⟩] := by
      rw [horizonRows, hledger, TrajectoryLedger.records_write, List.filter_append, ← horizonRows,
        hrows]
      rfl
    exact ⟨horizonAt, _, hz, htrajectory.trans hrow, rfl, rfl, hended.trans hnow⟩

/-- A knock wakes the agent, whose answer is a wait; no further event is authored. -/
def knockThenWait (horizonMinutes : Int) (wait : Answer) : Engine Bool :=
  latchEngine {
    startsAt := "2031-03-03T09:00:00Z"
    events := [latchEvent "event_1" "knock" "2031-03-03T09:00:00Z" 1 true]
    horizonMinutes
    maxTurnsPerInvocation := 2 } [wait]

/-- A wait for an event that never comes, without a fallback. -/
def waitForClose : Answer :=
  .wait ⟨.str "waiting", .list [.str "close"], .none, Or.inl rfl, nofun⟩

def hourlyKnock : Engine Bool := knockThenWait 30 (waitMinutes 60 hour_pos)

/-- The wait gives up after an hour, but the horizon comes after half of it. -/
theorem hourlyKnock_unrecorded : ¬hourlyKnock.RecordsStandingWaits := by
  obtain ⟨s₀, h₀, hc⟩ := ok_of_any (x := hourlyKnock.start)
    (p := fun s₀ => (hourlyKnock.runSteps 3 s₀).toOption.any fun s =>
      s.control.isDone && s.activeWait.isSome &&
        (hourlyKnock.finish s).toOption.any fun outcome =>
          outcome.status = Halt.horizon.text &&
            (outcome.trajectory.filter fun record =>
              record.recordType = "wait_unresolved_at_horizon").isEmpty) (by decide +kernel)
  obtain ⟨s, hs, hc⟩ := ok_of_any hc
  simp only [Bool.and_eq_true] at hc
  obtain ⟨⟨hdone, hwait⟩, hc⟩ := hc
  obtain ⟨outcome, hfin, hc⟩ := ok_of_any hc
  simp only [Bool.and_eq_true, decide_eq_true_eq, List.isEmpty_iff] at hc
  obtain ⟨wait, hwait⟩ := Option.isSome_iff_exists.mp hwait
  have hcontrol : s.control = .done := by
    cases h : s.control <;> simp [h, Control.isDone] at hdone ⊢
  intro h
  obtain ⟨_, record, _, hrecord, _⟩ := h 3 s₀ s outcome wait h₀ hs hcontrol hfin hc.1 hwait
  rw [hc.2] at hrecord
  cases hrecord

def quietKnock : Engine Bool := knockThenWait 30 waitForClose

theorem quietKnock_recorded : ∃ outcome, quietKnock.run 3 = .ok (some outcome) ∧
    (outcome.trajectory.any fun record => record.recordType = "wait_unresolved_at_horizon") ∧
    ∃ s s', quietKnock.LastPass s s' ∧ quietKnock.finish s' = .ok outcome ∧
      ∀ wait, s'.activeWait = some wait → s.horizonRows = [] →
        (quietKnock.RecordsWait wait outcome ↔ s.queue.pending = [] ∧ s.fallbackAt = none) := by
  obtain ⟨result, hr, hc⟩ := ok_of_any (x := quietKnock.run 3)
    (p := fun result => result.any fun outcome => outcome.status = Halt.horizon.text &&
      outcome.trajectory.any fun record => record.recordType = "wait_unresolved_at_horizon")
    (by decide +kernel)
  cases result with
  | none => cases hc
  | some outcome =>
    simp only [Option.any_some, Bool.and_eq_true, decide_eq_true_eq] at hc
    exact ⟨outcome, hr, hc.2, wait_recorded_iff hr hc.1⟩

end Records

end Engine

end OperateBench
