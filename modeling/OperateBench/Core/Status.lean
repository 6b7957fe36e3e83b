import OperateBench.Core.Finality

/-! # The reported status

A run ends because nothing is left or because the engine gave up: the horizon cut
off an event, a fallback or a standing wait, or a limit on invocations was met.
When it did not give up, a final operation is reported by its own terminal.
-/

namespace OperateBench

open Foundation EngineState

variable {σ : Type} {E : Engine σ} {s s' t : EngineState σ}

namespace Engine

/-- Why an episode was stopped, as the state still shows it. -/
inductive GaveUp (E : Engine σ) (s : EngineState σ) : Halt → Prop
  | event {event : Event} (pending : event ∈ s.queue.pending)
      (beyond : E.beyondHorizon s event.instant = .ok true) : GaveUp E s .horizon
  | fallback {moment : String} (declared : s.fallbackAt = some moment)
      (beyond : E.beyondHorizon s moment = .ok true) : GaveUp E s .horizon
  | wait {wait : Wait} (standing : s.activeWait = some wait) (quiet : s.queue.pending = []) :
      GaveUp E s .horizon
  | limit {record : Record} (last : s.ledger.records.getLast? = some record)
      (violation : record.recordType = "critical_violation") : GaveUp E s .deadlock

/-- How halting, the point of the program and what is left fit together. -/
structure Settled (E : Engine σ) (s : EngineState σ) : Prop where
  running : s.control.inTurn = true → s.halt = none
  gaveUp : ∀ halt, s.halt = some halt → E.GaveUp s halt
  exhausted : s.control = .done → s.halt = none → s.queue.pending = [] ∧ s.activeWait = none

theorem settled_of_running (hh : s.halt = none) (hc : s.control ≠ .done) : E.Settled s :=
  ⟨fun _ => hh, fun _ h => absurd (hh.symm.trans h) nofun, fun h => absurd h hc⟩

theorem settled_of_refused {code detail : String} (h : s.refuseInvocation code detail = .ok t)
    {control : Control} (hc : control.inTurn = false) : E.Settled { t with control } := by
  rw [refuseInvocation_ok h]
  refine ⟨fun hi => absurd (hc.symm.trans hi) nofun, ?_, fun _ hh => absurd hh nofun⟩
  rintro halt ⟨⟩
  exact .limit List.getLast?_concat rfl

theorem Settled.headStep (hs : E.Settled s) (hc : s.control = .head) (h : E.HeadStep s s') :
    E.Settled s' := by
  cases h with
  | stop halt =>
    refine ⟨nofun, fun halt hh => ?_, fun _ hh => ?_⟩
    · cases hs.gaveUp halt hh with
      | event pending beyond => exact .event pending beyond
      | fallback declared beyond => exact .fallback declared beyond
      | wait standing quiet => exact .wait standing quiet
      | limit last violation => exact .limit last violation
    · simp [show s.halt = none from hh] at halt
  | horizon _ sorted source beyond =>
    refine ⟨nofun, ?_, fun _ hh => absurd hh nofun⟩
    rintro _ ⟨⟩
    rcases source with hf | ⟨event, he, rfl⟩
    · exact .fallback hf beyond
    · exact .event he beyond
  | fallback halt _ _ _ _ invoked =>
    obtain ⟨hi, hf⟩ := invoke_ok invoked
    exact settled_of_running (hf.halt.trans halt) (by rw [hi]; nofun)
  | spent _ _ _ refused => exact settled_of_refused refused rfl
  | empty halt _ quiet wait =>
    exact ⟨nofun, fun _ hh => absurd (halt.symm.trans hh) nofun, fun _ _ => ⟨quiet, wait⟩⟩
  | unresolved _ _ quiet standing _ =>
    refine ⟨nofun, ?_, fun _ hh => absurd hh nofun⟩
    rintro _ ⟨⟩
    exact .wait standing quiet
  | delivery due _ _ _ delivered =>
    cases hf : E.domain.isReplayFinal s.state with
    | true =>
      obtain ⟨payload, row, rfl⟩ := deliver_final delivered hf
      exact settled_of_running due.halt (by simp [hc])
    | false =>
      obtain ⟨t, ht, rfl | ⟨_, u, hu, ⟨_, detail, hr⟩ | ⟨_, hi⟩⟩⟩ := deliver_live delivered hf
      · exact settled_of_running (ht.halt.trans due.halt) (by rw [ht.control]; simp [hc])
      · have hcontrol : s'.control.inTurn = false := by
          rw [refuseInvocation_ok hr]
          show u.control.inTurn = false
          rw [hu.control, ht.control]
          simp [hc, Control.inTurn]
        exact settled_of_refused hr hcontrol
      · obtain ⟨hc', hf'⟩ := invoke_ok hi
        refine settled_of_running ?_ (by rw [hc']; nofun)
        exact (hf'.halt.trans hu.halt).trans (ht.halt.trans due.halt)

theorem Settled.step (hs : E.Settled s) (h : E.step s = .ok s') : E.Settled s' := by
  unfold Engine.step at h
  split at h
  · exact hs.headStep ‹_› (headStep_ok ‹_› h)
  · rename_i hc
    rcases turnStep_ok h with ⟨code, detail, t, ht, rfl⟩ | ⟨t, ht, he, hd⟩
    · exact settled_of_refused ht rfl
    · refine settled_of_running ?_ hd
      have hh : s.halt = none := hs.running (by rw [hc]; rfl)
      rw [he]
      rcases ht with hf | ⟨cause, _, hcs⟩
      · exact hf.halt.trans hh
      · exact hcs.halt.trans hh
  · exact Except.ok.inj h ▸ hs

theorem start_settled (h : E.start = .ok s) : E.Settled s := by
  obtain ⟨clock, _, h⟩ := bind_ok h
  obtain ⟨queue, _, h⟩ := bind_ok h
  rw [log_ok h]
  exact settled_of_running rfl nofun

theorem settled_of_runs {P : EngineState σ → Prop} (h₀ : E.start = .ok s)
    (h : E.RunsVia P s s') : E.Settled s' :=
  Run.invariant h (start_settled h₀) fun _ _ _ hs _ => hs.step

theorem finish_ok {outcome : EpisodeOutcome} (h : E.finish s = .ok outcome) :
    outcome.status = E.status s ∧ outcome.replayFinal = E.domain.isReplayFinal s.state ∧
      outcome.terminalOutcome = E.domain.terminalOutcome s.state := by
  obtain ⟨t, ht, h⟩ := bind_ok h
  obtain rfl := log_ok ht
  obtain ⟨_, h⟩ := unless_ok h
  obtain ⟨_, h⟩ := unless_ok h
  obtain rfl := pure_ok h
  exact ⟨rfl, rfl, rfl⟩

theorem run_ok {fuel : ℕ} {outcome : EpisodeOutcome} (h : E.run fuel = .ok (some outcome)) :
    ∃ s₀ s, E.start = .ok s₀ ∧ E.runSteps fuel s₀ = .ok s ∧ s.control = .done ∧
      E.finish s = .ok outcome := by
  obtain ⟨s₀, h₀, h⟩ := bind_ok h
  obtain ⟨s, hs, h⟩ := bind_ok h
  split at h
  · rename_i hd
    obtain ⟨result, hr, hp⟩ := bind_ok h
    exact ⟨s₀, s, h₀, hs, hd, Option.some.inj (pure_ok hp) ▸ hr⟩
  · cases pure_ok h

end Engine

end OperateBench
