import OperateBench.Core.Passes

/-! # The scenes of a step

A step plays in scenes: a proposal with its answer, a terminal with its answer, a
delivery with its verdict, and rows on the side that touch none of these. An invariant
of the operation and its trajectory is preserved by every scene, and so by every step.
-/

namespace OperateBench

open Foundation EngineState Relation

variable {σ : Type} {E : Engine σ} {s s' t : EngineState σ}

namespace Engine

section Scenes

/-- The rows that say nothing about proposals, effects, terminals and deliveries. -/
def asideRows : List String :=
  ["agent_invoked", "derived_context_invalidated", "agent_outcome", "outcome_rejected",
    "wait_declared", "wait_rejected", "wait_unresolved_at_horizon", "critical_violation",
    "retrieval_served", "retrieval_refused"]

/-- Rows were written on the side, and the clock may have moved on before. -/
structure Aside (s s' : EngineState σ) (es : List Entry) : Prop where
  aside : ∀ e ∈ es, e.1 ∈ asideRows
  state : s'.state = s.state
  delivered : s'.delivered = s.delivered
  proposalCounter : s'.proposalCounter = s.proposalCounter
  later : s.clock.seconds ≤ s'.clock.seconds
  ledger : s'.ledger = s.ledger.extend s'.clock.now es

/-- What the outcome proposes. -/
def proposal? : AgentOutcome → Option Cause
  | .act outcome => some (.action outcome.actionType outcome.payload outcome.evidenceRefs)
  | .ask outcome => some (.action "send_message" (askPayload outcome) [])
  | .escalate outcome => some (.action "request_exception_resolution" (escalatePayload outcome)
      outcome.evidenceRefs)
  | .complete outcome => some (.terminal outcome.evidenceRefs)
  | .wait _ => none

/-- The read guard lets the proposal pass. -/
def Passable (E : Engine σ) (s : EngineState σ) : Cause → Prop
  | .event _ => E.domain.isReplayFinal s.state = false
  | .action actionType _ evidenceRefs => E.readGuardProblem s actionType evidenceRefs = .ok none
  | .terminal evidenceRefs => E.readGuardProblem s completeOutcomeKey evidenceRefs = .ok none

/-- The next step proposes this, whether or not the read guard lets it pass. -/
def Voices (E : Engine σ) (s : EngineState σ) (cause : Cause) : Prop :=
  ∃ trigger business turn observation answer outcome,
    s.control = .turn trigger business turn ∧
      E.agent (asking s observation turn).asked = .ok answer ∧
      outcomeContract answer = .ok outcome ∧ proposal? outcome = some cause

/-- The call that the next step puts to the domain. -/
inductive Puts (E : Engine σ) (s : EngineState σ) : Call → Prop
  | event {queue : EventQueue} {clock : SimulatedClock} {event : Event} (due : E.Due s event)
      (sorted : s.queue.sort = .ok queue) (moved : Moved s.clock clock event.instant)
      (live : E.Passable s (.event event)) :
      Puts E s ⟨E.context { s with queue := queue.tail, clock }, .event event⟩
  | proposal {cause : Cause} (voiced : E.Voices s cause) (guard : E.Passable s cause) :
      Puts E s ⟨E.context s, cause⟩

/-- The call that the next step puts to the domain, in the state it finds there. -/
def PutsAt (E : Engine σ) (s : EngineState σ) (state : σ) (call : Call) : Prop :=
  state = s.state ∧ E.Puts s call

/-- One scene of a step, all of whose calls and proposals are among the given ones. -/
inductive Scene (E : Engine σ) (P : σ → Call → Prop) (V : Cause → Prop) (s s' : EngineState σ) :
    Prop
  | aside {l : List Entry} (aside : Aside s s' l)
  | proposal {actionType : String} {payload : Fields} {evidenceRefs : List String}
      {accepted : Bool} (proposed : E.Proposed s actionType payload evidenceRefs accepted s')
      (voiced : V (.action actionType payload evidenceRefs))
      (put : E.Passable s (.action actionType payload evidenceRefs) →
        P s.state ⟨E.context s, .action actionType payload evidenceRefs⟩)
  | terminal {outcome : Complete} {accepted : Bool} (concluded : E.Concluded s outcome accepted s')
      (voiced : V (.terminal outcome.evidenceRefs))
      (put : E.Passable s (.terminal outcome.evidenceRefs) →
        P s.state ⟨E.context s, .terminal outcome.evidenceRefs⟩)
  | delivery {event : Event} (reported : E.Reported s event s')
      (put : E.Passable s (.event event) → P s.state ⟨E.context s, .event event⟩)

abbrev Scenes (E : Engine σ) (P : σ → Call → Prop) (V : Cause → Prop) :
    EngineState σ → EngineState σ → Prop :=
  ReflTransGen (E.Scene P V)

variable {P : σ → Call → Prop} {V : Cause → Prop}

/-- Nothing was written and nothing moved but the engine's own fields. -/
theorem Scenes.inner (state : s'.state = s.state) (delivered : s'.delivered = s.delivered)
    (proposalCounter : s'.proposalCounter = s.proposalCounter) (clock : s'.clock = s.clock)
    (ledger : s'.ledger = s.ledger) : E.Scenes P V s s' :=
  .single (.aside (l := []) ⟨nofun, state, delivered, proposalCounter, clock ▸ le_rfl, ledger⟩)

theorem Summoned.scenes {trigger : Option Event} {spent : Bool}
    (h : E.Summoned s trigger spent s') : E.Scenes P V s s' := by
  cases h with
  | spent =>
    refine .single (.aside (l := [violationEntry _ _]) ⟨?_, rfl, rfl, rfl, le_rfl, rfl⟩)
    simp [violationEntry, entry, asideRows]
  | invoked =>
    refine .single (.aside (l := [_, _]) ⟨?_, rfl, rfl, rfl, le_rfl, rfl⟩)
    simp [invokedEntry, invalidatedEntry, entry, asideRows]

theorem Waited.scenes {wait : Wait} {ended : Bool} (h : E.Waited s wait ended s') :
    E.Scenes P V s s' := by
  cases h with
  | refused =>
    refine .single (.aside (l := [_]) ⟨?_, rfl, rfl, rfl, le_rfl, rfl⟩)
    simp [entry, asideRows]
  | standing =>
    refine .single (.aside (l := [_]) ⟨?_, rfl, rfl, rfl, le_rfl, rfl⟩)
    simp [entry, asideRows]

theorem Handled.scenes {outcome : AgentOutcome} {ended : Bool} (h : E.Handled s outcome ended s')
    (hV : ∀ cause, proposal? outcome = some cause → V cause)
    (hP : ∀ cause, proposal? outcome = some cause → E.Passable s cause →
      P s.state ⟨E.context s, cause⟩) : E.Scenes P V s s' := by
  cases h with
  | wait waited => exact waited.scenes
  | complete concluded => exact .single (.terminal concluded (hV _ rfl) (hP _ rfl))
  | act proposed => exact .single (.proposal proposed (hV _ rfl) (hP _ rfl))
  | ask proposed waited => exact .head (.proposal proposed (hV _ rfl) (hP _ rfl)) waited.scenes
  | unasked proposed => exact .single (.proposal proposed (hV _ rfl) (hP _ rfl))
  | escalate proposed waited => exact .head (.proposal proposed (hV _ rfl) (hP _ rfl)) waited.scenes
  | unescalated proposed => exact .single (.proposal proposed (hV _ rfl) (hP _ rfl))

theorem serving_frame (results : List ToolResult) (s : EngineState σ) :
    (results.foldl serving s).state = s.state ∧ (results.foldl serving s).clock = s.clock ∧
      (results.foldl serving s).ledger = s.ledger ∧
      (results.foldl serving s).delivered = s.delivered ∧
      (results.foldl serving s).proposalCounter = s.proposalCounter := by
  induction results generalizing s with
  | nil => exact ⟨rfl, rfl, rfl, rfl, rfl⟩
  | cons result results ih =>
    rw [List.foldl_cons]
    obtain ⟨h₁, h₂, h₃, h₄, h₅⟩ := ih (serving s result)
    rw [h₁, h₂, h₃, h₄, h₅]
    unfold serving
    split <;> exact ⟨rfl, rfl, rfl, rfl, rfl⟩

theorem Batched.scenes {batch : RawRequests} {turnIndex : ℕ} (h : E.Batched s batch turnIndex s') :
    E.Scenes P V s s' := by
  cases h with
  | refused =>
    refine .single (.aside (l := [_]) ⟨?_, rfl, rfl, rfl, le_rfl, rfl⟩)
    simp [entry, asideRows]
  | served _ _ =>
    rename_i results _ _
    obtain ⟨h₁, h₂, h₃, h₄, h₅⟩ := serving_frame results
      { s with retrievalBatches := s.retrievalBatches + 1 }
    refine .single (.aside (l := results.zipIdx.map (servedEntry s turnIndex s.retrievalBatches))
      ⟨?_, h₁, h₄, h₅, ?_, ?_⟩)
    · rintro e he
      obtain ⟨result, _, rfl⟩ := List.mem_map.mp he
      simp [servedEntry, asideRows]
    · rw [show (write _ _).clock = _ from h₂]
    · simp only [write, h₂, h₃]

theorem Turned.scenes {trigger : Option Event} {business turn : ℕ}
    (hc : s.control = .turn trigger business turn) (h : E.Turned s trigger business turn s') :
    E.Scenes (E.PutsAt s) (E.Voices s) s s' := by
  cases h with
  | spent =>
    refine .single (.aside (l := [violationEntry _ _]) ⟨?_, rfl, rfl, rfl, le_rfl, rfl⟩)
    simp [violationEntry, entry, asideRows]
  | read asked batched =>
    rename_i observation batch t
    have hasked : E.Scenes (E.PutsAt s) (E.Voices s) s (asking s observation turn) :=
      Scenes.inner rfl rfl rfl rfl rfl
    exact hasked.trans (batched.scenes.trans (Scenes.inner rfl rfl rfl rfl rfl))
  | malformed =>
    refine .single (.aside (l := [_]) ⟨?_, rfl, rfl, rfl, le_rfl, rfl⟩)
    simp [entry, asideRows]
  | answered asked contract handled =>
    rename_i observation answer outcome ended t
    have hrow : E.Scenes (E.PutsAt s) (E.Voices s) s
        ((asking s observation turn).write [outcomeEntry s turn outcome]) := by
      refine .single (.aside (l := [_]) ⟨?_, rfl, rfl, rfl, le_rfl, rfl⟩)
      simp [outcomeEntry, entry, asideRows]
    have hvoiced : ∀ cause, proposal? outcome = some cause → E.Voices s cause :=
      fun cause hp => ⟨_, _, _, _, _, _, hc, asked, contract, hp⟩
    refine hrow.trans ((handled.scenes hvoiced fun cause hp hg => ?_).trans
      (Scenes.inner rfl rfl rfl rfl rfl))
    exact ⟨rfl, .proposal (hvoiced cause hp) (by cases cause <;> exact hg)⟩

theorem Arrived.scenes {event : Event} (h : E.Arrived s event s')
    (hP : E.Passable s (.event event) → P s.state ⟨E.context s, .event event⟩) : E.Scenes P V s s' := by
  cases h with
  | silent reported => exact .single (.delivery reported hP)
  | summons reported live summoned =>
    refine .head (.delivery reported hP) (.head ?_ summoned.scenes)
    refine .aside ⟨?_, rfl, rfl, rfl, le_rfl, rfl⟩
    unfold wakeEntries
    split
    · nofun
    · split
      · nofun
      · simp [entry, asideRows]

theorem Passed.scenes (h : E.Passed s s') : E.Scenes (E.PutsAt s) (E.Voices s) s s' := by
  cases h with
  | stopped => exact Scenes.inner rfl rfl rfl rfl rfl
  | horizon => exact Scenes.inner rfl rfl rfl rfl rfl
  | empty => exact Scenes.inner rfl rfl rfl rfl rfl
  | unresolved sorted later standing =>
    refine .single (.aside (l := [_]) ⟨?_, rfl, rfl, rfl, later, rfl⟩)
    simp [entry, asideRows]
  | fallback sorted declared moved summoned =>
    rename_i queue clock instant spent t
    have hfired : E.Scenes (E.PutsAt s) (E.Voices s) s (clearWait ({ s with queue, clock }.write
        [entry "wait_declared" [("fallback_fired", .bool true)]])) := by
      refine .single (.aside (l := [_]) ⟨?_, rfl, rfl, rfl, moved.later, rfl⟩)
      simp [entry, asideRows]
    exact hfired.trans (summoned.scenes.trans (Scenes.inner rfl rfl rfl rfl rfl))
  | delivery due sorted moved arrived =>
    rename_i queue clock event
    have hpopped : E.Scenes (E.PutsAt s) (E.Voices s) s { s with queue := queue.tail, clock } :=
      .single (.aside (l := []) ⟨nofun, rfl, rfl, rfl, moved.later, rfl⟩)
    exact hpopped.trans (arrived.scenes fun live => ⟨rfl, .event due sorted moved live⟩)

/-- The state is what a call made of it, and the rows that the call asked for were written. -/
structure Reduced (E : Engine σ) (P : σ → Call → Prop) (s s' : EngineState σ) (call : Call)
    (reduction : Reduction σ) : Prop where
  put : P s.state call
  context : call.context = E.context s
  reduced : E.domain.reduce call s.state = .ok reduction
  state : s'.state = reduction.state
  written : ∀ recordType payload, Effect.record recordType payload ∈ reduction.effects →
    ∃ row ∈ s'.ledger.records, row.recordType = recordType ∧ row.payload = payload

theorem mem_records_write {es : List Entry} {row : Record} (h : row ∈ s.ledger.records) :
    row ∈ (s.write es).ledger.records := by
  rw [records_write]
  exact List.mem_append_left _ h

theorem exists_records_write {es : List Entry} {e : Entry} (h : e ∈ es) :
    ∃ row ∈ (s.write es).ledger.records, row.recordType = e.1 ∧ row.payload = e.2 := by
  obtain ⟨index, hm⟩ : ∃ index, (⟨index, s.clock.now, e.1, e.2⟩ : Record) ∈
      numbered s.ledger.records.length s.clock.now es := numbered_mem h
  rw [records_write]
  exact ⟨_, List.mem_append_right _ hm, rfl, rfl⟩

theorem commit_written {reduction : Reduction σ} (h : s.commit reduction = .ok t) :
    t.state = reduction.state ∧ (∀ row ∈ s.ledger.records, row ∈ t.ledger.records) ∧
      ∀ recordType payload, Effect.record recordType payload ∈ reduction.effects →
        ∃ row ∈ t.ledger.records, row.recordType = recordType ∧ row.payload = payload := by
  obtain ⟨queue, timerCounter, es, hes, rfl⟩ := commit_ok h
  refine ⟨rfl, fun row hr => mem_records_write hr, fun recordType payload hm => ?_⟩
  exact exists_records_write (hes.mem hm)

/-- What was written stays written. -/
theorem written_write {es : List Entry} {recordType : String} {payload : Fields}
    (h : ∃ row ∈ s.ledger.records, row.recordType = recordType ∧ row.payload = payload) :
    ∃ row ∈ (s.write es).ledger.records, row.recordType = recordType ∧ row.payload = payload := by
  obtain ⟨row, hm, ht⟩ := h
  exact ⟨row, mem_records_write hm, ht⟩

theorem Proposed.reduced {actionType : String} {payload : Fields} {evidenceRefs : List String}
    {accepted : Bool} (h : E.Proposed s actionType payload evidenceRefs accepted s')
    (put : E.Passable s (.action actionType payload evidenceRefs) →
      P s.state ⟨E.context s, .action actionType payload evidenceRefs⟩) :
    (∀ row ∈ s.ledger.records, row ∈ s'.ledger.records) ∧
      (s'.state = s.state ∨ ∃ call reduction, E.Reduced P s s' call reduction) := by
  cases h with
  | stopped => exact ⟨fun row hr => mem_records_write (mem_records_write hr), Or.inl rfl⟩
  | refused guard reduced committed =>
    obtain ⟨hstate, hkept, hwritten⟩ := commit_written committed
    refine ⟨fun row hr => mem_records_write (hkept row (mem_records_write hr)), Or.inr ⟨_, _,
      put guard, rfl, reduced, hstate, fun recordType payload hm => ?_⟩⟩
    exact written_write (hwritten recordType payload hm)
  | accepted guard reduced committed _ fired =>
    obtain ⟨hstate, hkept, hwritten⟩ := commit_written committed
    obtain ⟨conditionals, queue, rfl⟩ := fireConditionals_ok fired
    refine ⟨fun row hr => mem_records_write (hkept row (mem_records_write hr)), Or.inr ⟨_, _,
      put guard, rfl, reduced, hstate, fun recordType payload hm => ?_⟩⟩
    exact written_write (hwritten recordType payload hm)

theorem Concluded.reduced {outcome : Complete} {accepted : Bool}
    (h : E.Concluded s outcome accepted s')
    (put : E.Passable s (.terminal outcome.evidenceRefs) →
      P s.state ⟨E.context s, .terminal outcome.evidenceRefs⟩) :
    (∀ row ∈ s.ledger.records, row ∈ s'.ledger.records) ∧
      (s'.state = s.state ∨ ∃ call reduction, E.Reduced P s s' call reduction) := by
  cases h with
  | stopped => exact ⟨fun row hr => mem_records_write (mem_records_write hr), Or.inl rfl⟩
  | refused guard reduced committed =>
    obtain ⟨hstate, hkept, hwritten⟩ := commit_written committed
    refine ⟨fun row hr => mem_records_write (hkept row (mem_records_write hr)), Or.inr ⟨_, _,
      put guard, rfl, reduced, hstate, fun recordType payload hm => ?_⟩⟩
    exact written_write (hwritten recordType payload hm)
  | accepted guard reduced committed _ fired =>
    obtain ⟨hstate, hkept, hwritten⟩ := commit_written committed
    obtain ⟨conditionals, queue, rfl⟩ := fireConditionals_ok fired
    exact ⟨fun row hr => hkept row (mem_records_write hr), Or.inr ⟨_, _, put guard, rfl, reduced,
      hstate, hwritten⟩⟩

theorem Reported.reduced {event : Event} (h : E.Reported s event s')
    (put : E.Passable s (.event event) → P s.state ⟨E.context s, .event event⟩) :
    (∀ row ∈ s.ledger.records, row ∈ s'.ledger.records) ∧
      (s'.state = s.state ∨ ∃ call reduction, E.Reduced P s s' call reduction) := by
  cases h with
  | late => exact ⟨fun row hr => mem_records_write hr, Or.inl rfl⟩
  | rejected live reduced committed =>
    obtain ⟨hstate, hkept, hwritten⟩ := commit_written committed
    refine ⟨fun row hr => mem_records_write (hkept row hr), Or.inr ⟨_, _, put live, rfl, reduced,
      hstate, fun recordType payload hm => ?_⟩⟩
    exact written_write (hwritten recordType payload hm)
  | accepted live reduced committed _ fired =>
    obtain ⟨hstate, hkept, hwritten⟩ := commit_written committed
    obtain ⟨conditionals, queue, rfl⟩ := fireConditionals_ok fired
    refine ⟨fun row hr => mem_records_write (hkept row hr), Or.inr ⟨_, _, put live, rfl, reduced,
      hstate, fun recordType payload hm => ?_⟩⟩
    exact written_write (hwritten recordType payload hm)

/-- A scene keeps what is on record, and changes the state through a call only. -/
theorem Scene.reduced (h : E.Scene P V s s') :
    (∀ row ∈ s.ledger.records, row ∈ s'.ledger.records) ∧
      (s'.state = s.state ∨ ∃ call reduction, E.Reduced P s s' call reduction) := by
  cases h with
  | aside aside =>
    refine ⟨fun row hr => ?_, Or.inl aside.state⟩
    rw [aside.ledger, records_extend]
    exact List.mem_append_left _ hr
  | proposal proposed _ put => exact proposed.reduced put
  | terminal concluded _ put => exact concluded.reduced put
  | delivery reported put => exact reported.reduced put

/-- Every step is played in scenes. -/
theorem step_scenes (h : E.step s = .ok s') : E.Scenes (E.PutsAt s) (E.Voices s) s s' := by
  unfold step at h
  split at h
  · exact (headStep_passed ‹_› h).scenes
  · exact (turnStep_turned h).scenes ‹_›
  · exact Except.ok.inj h ▸ .refl

/-- What a run hands over: the record, the last instant and the rows with the closing one. -/
theorem finish_written {outcome : EpisodeOutcome} (h : E.finish s = .ok outcome) :
    outcome.finalState = E.domain.canonicalState s.state ∧ outcome.endedAt = s.clock.now ∧
      outcome.status = E.status s ∧ ∃ payload,
        outcome.trajectory = (s.write [entry "episode_ended" payload]).ledger.records := by
  obtain ⟨t, ht, h⟩ := bind_ok h
  obtain rfl := log_write ht
  obtain ⟨_, h⟩ := unless_ok h
  obtain ⟨_, h⟩ := unless_ok h
  obtain rfl := pure_ok h
  exact ⟨rfl, rfl, rfl, _, rfl⟩

end Scenes

end Engine

end OperateBench
