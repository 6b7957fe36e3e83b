import OperateBench.Core.Consultation

/-! # Final operations and the agent

Once the operation is final and no invocation is open, the loop only records what
still arrives. One continuation can nevertheless reach for the agent: the fallback
of a wait that was declared before. When none can fire, the agent is never asked
again.
-/

namespace OperateBench

open Foundation EngineState

variable {σ : Type} {E : Engine σ} {s s' t : EngineState σ}

/-- The records that open an invocation. -/
def EngineState.invocationRows (s : EngineState σ) : List Record :=
  s.ledger.records.filter fun record => record.recordType = "agent_invoked"

def Control.inTurn : Control → Bool
  | turn _ _ _ => true
  | head | done => false

namespace Engine

/-- The operation is final and no invocation is open. -/
structure Rests (E : Engine σ) (s : EngineState σ) : Prop where
  final : E.domain.isReplayFinal s.state = true
  outside : s.control.inTurn = false

/-- No declared fallback can fire: none stands, it lies beyond the horizon, or the allowance
of invocations is spent. -/
def NoFallbackLeft (E : Engine σ) (s : EngineState σ) : Prop :=
  ∀ moment, s.fallbackAt = some moment →
    E.beyondHorizon s moment = .ok true ∨ ¬s.invocations < E.plan.maxInvocations

/-- The agent was not asked in between, and no invocation was opened. -/
structure Unasked (s s' : EngineState σ) : Prop where
  asked : s'.asked = s.asked
  rows : s'.invocationRows = s.invocationRows

theorem Unasked.refl (s : EngineState σ) : Unasked s s := ⟨rfl, rfl⟩

theorem Unasked.trans (h₁ : Unasked s t) (h₂ : Unasked t s') : Unasked s s' :=
  ⟨h₂.asked.trans h₁.asked, h₂.rows.trans h₁.rows⟩

/-- A row of another type opens no invocation. -/
theorem rows_write {recordType instant : String} {payload : Fields} {ledger : TrajectoryLedger}
    (h : recordType ≠ "agent_invoked") :
    (ledger.write instant recordType payload).records.filter
        (fun record => record.recordType = "agent_invoked") =
      ledger.records.filter fun record => record.recordType = "agent_invoked" := by
  simp [h]

theorem NoFallbackLeft.congr (h : E.NoFallbackLeft s) (hf : s'.fallbackAt = s.fallbackAt)
    (hc : s'.clock.startSeconds = s.clock.startSeconds) (hi : s'.invocations = s.invocations) :
    E.NoFallbackLeft s' := by
  intro moment hm
  rw [beyondHorizon, hc, hi]
  exact h moment (hf ▸ hm)

/-- The state of a final operation at rest, with no fallback that can fire. -/
structure Dormant (E : Engine σ) (s : EngineState σ) : Prop extends E.Rests s where
  noFallback : E.NoFallbackLeft s

theorem Dormant.headStep (hd : E.Dormant s) (h : E.HeadStep s s') :
    E.Dormant s' ∧ Unasked s s' := by
  cases h with
  | stop => exact ⟨⟨⟨hd.final, rfl⟩, hd.noFallback⟩, rfl, rfl⟩
  | horizon => exact ⟨⟨⟨hd.final, rfl⟩, hd.noFallback⟩, rfl, rfl⟩
  | empty => exact ⟨⟨⟨hd.final, rfl⟩, hd.noFallback⟩, rfl, rfl⟩
  | unresolved _ _ _ _ origin =>
    exact ⟨⟨⟨hd.final, rfl⟩, hd.noFallback.congr rfl origin rfl⟩, rfl, rows_write (by decide)⟩
  | fallback _ _ declared within allowed =>
    exfalso
    rcases hd.noFallback _ declared with hb | hn
    · rw [hb] at within
      cases within
    · exact absurd allowed hn
  | spent halt sorted declared refused =>
    rw [refuseInvocation_ok refused]
    refine ⟨⟨⟨hd.final, rfl⟩, nofun⟩, rfl, ?_⟩
    exact (rows_write (by decide)).trans (rows_write (by decide))
  | delivery due sorted moment origin delivered =>
    obtain ⟨payload, row, rfl⟩ := deliver_final delivered hd.final
    exact ⟨⟨⟨hd.final, hd.outside⟩, hd.noFallback.congr rfl origin rfl⟩, rfl,
      rows_write (by decide)⟩

theorem Dormant.step (hd : E.Dormant s) (h : E.step s = .ok s') :
    E.Dormant s' ∧ Unasked s s' := by
  unfold Engine.step at h
  split at h
  · exact hd.headStep (headStep_ok ‹_› h)
  · rename_i trigger business turn hc
    have ho := hd.outside
    rw [hc] at ho
    cases ho
  · obtain rfl := Except.ok.inj h
    exact ⟨hd, .refl _⟩

end Engine

section Latch

/-- The smallest operation: a latch that one event or the terminal closes for good. -/
def latch (plan : EpisodePlan) : OperationDomain Bool where
  buildPlan := plan
  initialState := false
  canonicalState closed := .ofList [("closed", .bool closed)]
  coarsePhase closed := if closed then "CLOSED" else "OPEN"
  eventAuthority _ _ := Authority.systemEvent
  retrievalCatalogue := Dict.empty
  retrievalRecordContract := []
  readRequirements := Dict.empty
  serveRetrieval _ _ _ := .ok []
  policyView := Dict.empty
  actorRoles := Dict.empty
  messageFixtureIds := []
  actionSchemas := .ok Dict.empty
  wakeEventVocabulary := ["close", "knock"]
  isReplayFinal closed := closed
  terminalOutcome closed := if closed then some "closed" else none
  reduceEvent _ closed event :=
    .ok ⟨.ok "ACCEPTED" none Dict.empty, closed || event.eventType = "close", []⟩
  applyAction _ closed _ _ _ :=
    .ok (.refused closed "UNKNOWN_ACTION_TYPE" "a latch takes no action")
  applyTerminal _ _ _ := .ok ⟨.ok "CLOSED" none Dict.empty, true, []⟩

def latchEvent (eventId eventType instant : String) (sequence : Int) (triggersAgent : Bool) :
    PlannedEvent :=
  ⟨eventId, eventType, "world", sequence, Dict.empty, triggersAgent, some instant, none, 0⟩

theorem hour_pos : (0 : Int) < 60 := by decide

/-- A wait for nothing but its own fallback. -/
def waitMinutes (minutes : Int) (h : 0 < minutes) : Answer :=
  .wait ⟨.str "waiting", .list [], .int minutes, fallback_declared minutes, fallback_positive h⟩

/-- An engine on the latch whose agent gives the scripted answers in turn. -/
def latchEngine (plan : EpisodePlan) (script : List Answer) : Engine Bool where
  domain := latch plan
  agent shown := .ok (script.getD (shown.length - 1) (.other "NoneType"))
  operationId := "latch"
  operationInstanceId := "latch_1"
  dispatchFailures := []
  sha256 _ := ""

/-- A knock wakes the agent, which waits for an hour; ten minutes later the latch closes. -/
def closedUnderWait (horizonMinutes : Int) : Engine Bool :=
  latchEngine {
    startsAt := "2031-03-03T09:00:00Z"
    events := [latchEvent "event_1" "knock" "2031-03-03T09:00:00Z" 1 true,
      latchEvent "event_2" "close" "2031-03-03T09:10:00Z" 2 false]
    horizonMinutes
    maxTurnsPerInvocation := 2 } [waitMinutes 60 hour_pos, .complete (.str "done") (.list [])]

end Latch

namespace Engine

/-- The promise: at rest in a final operation, the engine never reaches for the agent again. -/
def NeverReenters (E : Engine σ) : Prop :=
  ∀ s₀ s s', E.start = .ok s₀ → E.RunsVia (fun _ => True) s₀ s → E.Rests s →
    E.RunsVia (fun _ => True) s s' → Unasked s s'

/-- The promise is kept from every state in which no fallback can fire. -/
theorem unasked_of_noFallbackLeft {P : EngineState σ → Prop} (hr : E.Rests s)
    (hn : E.NoFallbackLeft s) (h : E.RunsVia P s s') : Unasked s s' :=
  Run.related (I := E.Dormant) h ⟨hr, hn⟩ (fun _ _ _ hd _ hs => (hd.step hs).1) Unasked.refl
    (fun _ _ _ => Unasked.trans) fun _ _ _ hd _ hs => (hd.step hs).2

/-- The fallback declared before the latch closed asks the agent again. -/
theorem closedUnderWait_reenters : ¬(closedUnderWait 600).NeverReenters := by
  obtain ⟨s₀, h₀, hc⟩ := ok_of_any (x := (closedUnderWait 600).start)
    (p := fun s₀ => ((closedUnderWait 600).runSteps 3 s₀).toOption.any fun s =>
      s.state && !s.control.inTurn && ((closedUnderWait 600).runSteps 2 s).toOption.any fun s' =>
        s'.asked.length ≠ s.asked.length) (by decide +kernel)
  obtain ⟨s, hs, hc⟩ := ok_of_any hc
  simp only [Bool.and_eq_true, Bool.not_eq_true'] at hc
  obtain ⟨⟨hfinal, houtside⟩, hc⟩ := hc
  obtain ⟨s', hs', hne⟩ := ok_of_any hc
  intro hn
  have hu := hn s₀ s s' h₀ (runSteps_runs hs) ⟨hfinal, houtside⟩ (runSteps_runs hs')
  simp [hu.asked] at hne

/-- A fallback that the horizon cuts off leaves the agent alone to the end of the episode. -/
theorem closedUnderWait_unasked : ∃ s s', (closedUnderWait 30).Rests s ∧ s.fallbackAt.isSome ∧
    (closedUnderWait 30).runSteps 1 s = .ok s' ∧ s'.halt = some .horizon ∧ Unasked s s' := by
  obtain ⟨s₀, h₀, hc⟩ := ok_of_any (x := (closedUnderWait 30).start)
    (p := fun s₀ => ((closedUnderWait 30).runSteps 3 s₀).toOption.any fun s =>
      s.state && !s.control.inTurn && s.fallbackAt.isSome &&
      (s.fallbackAt.all fun moment =>
        ((closedUnderWait 30).beyondHorizon s moment).toOption.any id) &&
      ((closedUnderWait 30).runSteps 1 s).toOption.any fun s' => s'.halt = some .horizon)
    (by decide +kernel)
  obtain ⟨s, hs, hc⟩ := ok_of_any hc
  simp only [Bool.and_eq_true, Bool.not_eq_true'] at hc
  obtain ⟨⟨⟨⟨hfinal, houtside⟩, hsome⟩, hbeyond⟩, hc⟩ := hc
  obtain ⟨s', hs', hhalt⟩ := ok_of_any hc
  have hn : (closedUnderWait 30).NoFallbackLeft s := by
    intro moment hm
    obtain ⟨beyond, hb, ht⟩ := ok_of_any (p := id) (by simpa [hm] using hbeyond)
    exact Or.inl (hb.trans (congrArg Except.ok ht))
  exact ⟨s, s', ⟨hfinal, houtside⟩, hsome, hs', by simpa using hhalt,
    unasked_of_noFallbackLeft ⟨hfinal, houtside⟩ hn (runSteps_runs hs')⟩

end Engine

end OperateBench
