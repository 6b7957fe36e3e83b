import OperateBench.Core.Conservation
import OperateBench.Core.Scenes

/-! # What stays pending

One step puts at most one call to the domain. An event that was pending before it is
pending after it, unless it is the one that was delivered or the call has it cancelled,
and a timer that the call asks for is pending from then on. Nothing else becomes pending
but the conditionals that the call fires.
-/

namespace OperateBench

open Foundation EngineState

variable {σ : Type} {E : Engine σ} {s s' t : EngineState σ}

namespace EngineState

section Effects

theorem serving_queue (results : List ToolResult) (s : EngineState σ) :
    (results.foldl Engine.serving s).queue = s.queue := by
  induction results generalizing s with
  | nil => rfl
  | cons result results ih =>
    rw [List.foldl_cons, ih]
    unfold Engine.serving
    split <;> rfl

theorem serving_conditionals (results : List ToolResult) (s : EngineState σ) :
    (results.foldl Engine.serving s).conditionals = s.conditionals := by
  induction results generalizing s with
  | nil => rfl
  | cons result results ih =>
    rw [List.foldl_cons, ih]
    unfold Engine.serving
    split <;> rfl

/-- The timer was armed by the state, to come due at the instant. -/
structure IsArmed (event : Event) (eventId eventType actorId instant : String) (payload : Fields)
    (triggersAgent : Bool) : Prop where
  eventId : event.eventId = eventId
  eventType : event.eventType = eventType
  actorId : event.actorId = actorId
  instant : event.instant = instant
  payload : event.payload = payload
  triggersAgent : event.triggersAgent = triggersAgent
  cause : event.causedBy = some "timer"

theorem applyEffect_keeps {effect : Effect} {e : Event} (h : s.applyEffect effect = .ok s')
    (hm : e ∈ s.queue.pending) (hn : effect ≠ .cancelTimer e.eventId) : e ∈ s'.queue.pending := by
  cases effect with
  | record recordType payload =>
    obtain ⟨ledger, _, h⟩ := bind_ok h
    exact pure_ok h ▸ hm
  | scheduleTimer eventId eventType actorId delayMinutes payload triggersAgent =>
    obtain ⟨event, _, _, hq, _⟩ := scheduleTimer_ok h
    rw [(EventQueue.schedule_ok hq).2.1]
    exact List.mem_append_left _ hm
  | cancelTimer eventId =>
    have hkept : e ∈ (s.queue.cancel eventId).2.pending :=
      EventQueue.mem_without.mpr ⟨hm, fun heq => hn (heq ▸ rfl)⟩
    change s.cancelTimer eventId = .ok s' at h
    unfold cancelTimer at h
    split at h
    rename_i hq
    rw [hq] at hkept
    split at h
    · exact log_ok h ▸ hkept
    · exact Except.ok.inj h ▸ hkept

theorem foldlM_applyEffect_keeps {effects : List Effect} {e : Event}
    (h : effects.foldlM applyEffect s = .ok s') (hm : e ∈ s.queue.pending)
    (hn : .cancelTimer e.eventId ∉ effects) : e ∈ s'.queue.pending := by
  induction effects generalizing s with
  | nil => exact pure_ok h ▸ hm
  | cons effect effects ih =>
    rw [List.foldlM_cons] at h
    obtain ⟨t, ht, h⟩ := bind_ok h
    rw [List.mem_cons, not_or] at hn
    exact ih h (applyEffect_keeps ht hm (Ne.symm hn.1)) hn.2

theorem commit_keeps {reduction : Reduction σ} {e : Event} (h : s.commit reduction = .ok s')
    (hm : e ∈ s.queue.pending) (hn : .cancelTimer e.eventId ∉ reduction.effects) :
    e ∈ s'.queue.pending :=
  foldlM_applyEffect_keeps h hm hn

/-- A timer among the effects that they do not cancel again is pending behind them. -/
theorem commit_pending {reduction : Reduction σ} {eventId eventType actorId : String}
    {delayMinutes : Int} {payload : Fields} {triggersAgent : Bool}
    (h : s.commit reduction = .ok s') (hm : Effect.scheduleTimer eventId eventType actorId
      delayMinutes payload triggersAgent ∈ reduction.effects)
    (hn : .cancelTimer eventId ∉ reduction.effects) :
    ∃ instant event, shiftMinutes s.clock.now delayMinutes s!"timer {eventId}" = .ok instant ∧
      IsArmed event eventId eventType actorId instant payload triggersAgent ∧
      event ∈ s'.queue.pending := by
  obtain ⟨before, after, he⟩ := List.append_of_mem hm
  rw [commit, he, List.foldlM_append] at h
  obtain ⟨t, ht, h⟩ := bind_ok h
  rw [List.foldlM_cons] at h
  obtain ⟨u, hu, hrest⟩ := bind_ok h
  have hclock : t.clock = s.clock := by
    obtain ⟨_, _, _, _, rfl⟩ := foldlM_applyEffect_ok ht
    rfl
  change t.scheduleTimer _ _ _ _ _ _ = .ok u at hu
  obtain ⟨instant, hi, hu⟩ := bind_ok hu
  obtain ⟨queue, hq, hu⟩ := bind_ok hu
  obtain rfl := log_ok hu
  rw [hclock] at hi
  obtain ⟨event, hmem, harmed⟩ : ∃ event ∈ queue.pending,
      IsArmed event eventId eventType actorId instant payload triggersAgent := by
    rw [(EventQueue.schedule_ok hq).2.1]
    exact ⟨_, List.mem_append_right _ (List.mem_singleton_self _), rfl, rfl, rfl, rfl, rfl, rfl, rfl⟩
  refine ⟨instant, event, hi, harmed, foldlM_applyEffect_keeps hrest hmem ?_⟩
  rw [harmed.eventId]
  exact fun hc => hn (he ▸ List.mem_append_right _ (List.mem_cons_of_mem _ hc))

/-- Behind the effects only timers that they asked for are pending as well. -/
theorem applyEffect_brings {effect : Effect} {e : Event} (h : s.applyEffect effect = .ok s')
    (hm : e ∈ s'.queue.pending) : e ∈ s.queue.pending ∨
      ∃ eventId eventType actorId delayMinutes payload triggersAgent instant,
        effect = .scheduleTimer eventId eventType actorId delayMinutes payload triggersAgent ∧
        IsArmed e eventId eventType actorId instant payload triggersAgent := by
  cases effect with
  | record recordType payload =>
    obtain ⟨ledger, _, h⟩ := bind_ok h
    obtain rfl := pure_ok h
    exact Or.inl hm
  | scheduleTimer eventId eventType actorId delayMinutes payload triggersAgent =>
    obtain ⟨instant, _, h⟩ := bind_ok h
    obtain ⟨queue, hq, h⟩ := bind_ok h
    obtain rfl := log_ok h
    rw [show ({ s with queue } : EngineState σ).queue = queue from rfl,
      (EventQueue.schedule_ok hq).2.1] at hm
    rcases List.mem_append.mp hm with hm | hm
    · exact Or.inl hm
    · obtain rfl := List.mem_singleton.mp hm
      exact Or.inr ⟨_, _, _, _, _, _, instant, rfl, rfl, rfl, rfl, rfl, rfl, rfl, rfl⟩
  | cancelTimer eventId =>
    have hwithout : ∀ e ∈ (s.queue.cancel eventId).2.pending, e ∈ s.queue.pending :=
      fun e he => (EventQueue.mem_without.mp he).1
    change s.cancelTimer eventId = .ok s' at h
    unfold cancelTimer at h
    split at h
    rename_i hq
    rw [hq] at hwithout
    split at h
    · obtain rfl := log_ok h
      exact Or.inl (hwithout e hm)
    · obtain rfl := Except.ok.inj h
      exact Or.inl (hwithout e hm)

theorem foldlM_applyEffect_brings {effects : List Effect} {e : Event}
    (h : effects.foldlM applyEffect s = .ok s') (hm : e ∈ s'.queue.pending) :
    e ∈ s.queue.pending ∨
      ∃ eventId eventType actorId delayMinutes payload triggersAgent instant,
        Effect.scheduleTimer eventId eventType actorId delayMinutes payload triggersAgent ∈
          effects ∧ IsArmed e eventId eventType actorId instant payload triggersAgent := by
  induction effects generalizing s with
  | nil =>
    obtain rfl := pure_ok h
    exact Or.inl hm
  | cons effect effects ih =>
    rw [List.foldlM_cons] at h
    obtain ⟨t, ht, h⟩ := bind_ok h
    rcases ih h with hm | ⟨eventId, eventType, actorId, delay, payload, triggers, instant, hin, ha⟩
    · rcases applyEffect_brings ht hm with hm | ⟨_, _, _, _, _, _, instant, rfl, ha⟩
      · exact Or.inl hm
      · exact Or.inr ⟨_, _, _, _, _, _, instant, List.mem_cons_self, ha⟩
    · exact Or.inr ⟨_, _, _, _, _, _, instant, List.mem_cons_of_mem _ hin, ha⟩

/-- Only conditionals that were waiting are pending as well once some were fired. -/
theorem fireMatching_brings {now typeName : String} {kind : TriggerKind}
    {cycleId : Option String} {bindings : Bindings} {events remaining : List PlannedEvent}
    {queue queue' : EventQueue}
    (h : fireMatching now kind typeName cycleId bindings events queue = .ok (remaining, queue')) :
    (∀ p ∈ remaining, p ∈ events) ∧ ∀ e ∈ queue'.pending, e ∈ queue.pending ∨
      ∃ planned ∈ events, ∃ instant cause, e = toEvent planned instant (some cause) bindings := by
  induction events generalizing queue remaining with
  | nil =>
    obtain ⟨rfl, rfl⟩ := Prod.mk.inj (Except.ok.inj h)
    exact ⟨by simp, fun _ => Or.inl⟩
  | cons planned events ih =>
    rw [fireMatching] at h
    split at h
    · cases h
    split at h
    · obtain ⟨instant, _, h⟩ := bind_ok h
      obtain ⟨q, hq, h⟩ := bind_ok h
      obtain ⟨hremaining, hbrought⟩ := ih h
      refine ⟨fun p hp => List.mem_cons_of_mem _ (hremaining p hp), fun e he => ?_⟩
      rcases hbrought e he with he | ⟨p, hp, hfired⟩
      · rw [(EventQueue.schedule_ok hq).2.1] at he
        rcases List.mem_append.mp he with he | he
        · exact Or.inl he
        · exact Or.inr ⟨planned, List.mem_cons_self, instant, _, List.mem_singleton.mp he⟩
      · exact Or.inr ⟨p, List.mem_cons_of_mem _ hp, hfired⟩
    · obtain ⟨⟨rest, q⟩, hr, h⟩ := bind_ok h
      obtain ⟨rfl, rfl⟩ := Prod.mk.inj (pure_ok h)
      obtain ⟨hremaining, hbrought⟩ := ih hr
      refine ⟨fun p hp => ?_, fun e he => ?_⟩
      · rcases List.mem_cons.mp hp with rfl | hp
        · exact List.mem_cons_self
        · exact List.mem_cons_of_mem _ (hremaining p hp)
      · apply (hbrought e he).imp_right
        rintro ⟨p, hp, hfired⟩
        exact ⟨p, List.mem_cons_of_mem _ hp, hfired⟩

/-- What may happen to the queue and the conditionals between two calls. -/
structure Fires (accepted : Bool) (bindings : Bindings) (s s' : EngineState σ) : Prop where
  kept : ∀ e ∈ s.queue.pending, e ∈ s'.queue.pending
  conditionals : ∀ p ∈ s'.conditionals, p ∈ s.conditionals
  brought : ∀ e ∈ s'.queue.pending, e ∈ s.queue.pending ∨ accepted = true ∧
    ∃ planned ∈ s.conditionals, ∃ instant cause,
      e = toEvent planned instant (some cause) bindings

theorem Fires.of_eq {accepted : Bool} {bindings : Bindings} (hq : s'.queue = s.queue)
    (hc : s'.conditionals = s.conditionals) : Fires accepted bindings s s' := by
  refine ⟨?_, ?_, ?_⟩
  · rw [hq]
    exact fun _ => id
  · rw [hc]
    exact fun _ => id
  · rw [hq]
    exact fun _ => Or.inl

theorem fireConditionals_keeps {kind : TriggerKind} {typeName : String}
    {cycleId : Option String} {bindings : Bindings} {e : Event}
    (h : s.fireConditionals kind typeName cycleId bindings = .ok s')
    (hm : e ∈ s.queue.pending) : e ∈ s'.queue.pending := by
  obtain ⟨⟨conditionals, queue⟩, hq, h⟩ := bind_ok h
  obtain rfl := pure_ok h
  obtain ⟨puts, _, hp, _⟩ := fireMatching_moves hq
  rw [show ({ s with conditionals, queue } : EngineState σ).queue = queue from rfl, hp]
  exact List.mem_append_left _ hm

theorem fireConditionals_fires {kind : TriggerKind} {typeName : String}
    {cycleId : Option String} {accepted : Bool} {bindings : Bindings}
    (h : s.fireConditionals kind typeName cycleId bindings = .ok s') (ha : accepted = true) :
    Fires accepted bindings s s' := by
  have hkept := fun e => fireConditionals_keeps (e := e) h
  obtain ⟨⟨conditionals, queue⟩, hq, h⟩ := bind_ok h
  obtain rfl := pure_ok h
  obtain ⟨hremaining, hbrought⟩ := fireMatching_brings hq
  exact ⟨hkept, hremaining, fun e he => (hbrought e he).imp_right fun hf => ⟨ha, hf⟩⟩

end Effects

end EngineState

namespace Engine

section Calls

/-- What a call can make pending. -/
inductive Brought (conditionals : List PlannedEvent) (reduction : Reduction σ) (e : Event) : Prop
  | fired (planned : PlannedEvent) (instant cause : String) (mem : planned ∈ conditionals)
      (accepted : reduction.verdict.accepted = true)
      (fired : e = toEvent planned instant (some cause) reduction.verdict.bindings)
  | timer (eventId eventType actorId : String) (delayMinutes : Int) (payload : Fields)
      (triggersAgent : Bool) (instant : String)
      (mem : Effect.scheduleTimer eventId eventType actorId delayMinutes payload triggersAgent ∈
        reduction.effects)
      (armed : IsArmed e eventId eventType actorId instant payload triggersAgent)

/-- The domain answered the call, and the queue went on from the answer. -/
structure Answered (E : Engine σ) (s s' : EngineState σ) (call : Call) (reduction : Reduction σ) :
    Prop where
  context : call.context = E.context s
  reduced : E.domain.reduce call s.state = .ok reduction
  state : s'.state = reduction.state
  clock : s'.clock = s.clock
  kept : ∀ e ∈ s.queue.pending, .cancelTimer e.eventId ∉ reduction.effects → e ∈ s'.queue.pending
  armed : ∀ eventId eventType actorId delayMinutes payload triggersAgent,
    Effect.scheduleTimer eventId eventType actorId delayMinutes payload triggersAgent ∈
      reduction.effects → .cancelTimer eventId ∉ reduction.effects →
    ∃ instant event, shiftMinutes s.clock.now delayMinutes s!"timer {eventId}" = .ok instant ∧
      IsArmed event eventId eventType actorId instant payload triggersAgent ∧
      event ∈ s'.queue.pending
  conditionals : ∀ p ∈ s'.conditionals, p ∈ s.conditionals
  brought : ∀ e ∈ s'.queue.pending, e ∈ s.queue.pending ∨ Brought s.conditionals reduction e

/-- Nothing that matters to the domain has changed. -/
structure Same (s s' : EngineState σ) : Prop where
  state : s'.state = s.state
  clock : s'.clock = s.clock
  queue : s'.queue = s.queue
  conditionals : s'.conditionals = s.conditionals

theorem Same.refl (s : EngineState σ) : Same s s := ⟨rfl, rfl, rfl, rfl⟩

theorem Same.trans (h₁ : Same s t) (h₂ : Same t s') : Same s s' :=
  ⟨h₂.state.trans h₁.state, h₂.clock.trans h₁.clock, h₂.queue.trans h₁.queue,
    h₂.conditionals.trans h₁.conditionals⟩

variable {call : Call} {reduction : Reduction σ} {cause : Cause}

/-- The answer was committed between two stretches that keep what is pending. -/
theorem answered_of_commit {s₀ s₁ : EngineState σ} (h₀ : Same s s₀)
    (hr : E.domain.reduce ⟨E.context s, cause⟩ s.state = .ok reduction)
    (hc : s₀.commit reduction = .ok s₁) (hstate : s'.state = s₁.state)
    (hclock : s'.clock = s₁.clock)
    (hfires : Fires reduction.verdict.accepted reduction.verdict.bindings s₁ s') :
    E.Answered s s' ⟨E.context s, cause⟩ reduction := by
  have hf := commit_frame hc
  have hconditionals : s₁.conditionals = s.conditionals := by
    obtain ⟨_, _, _, _, rfl⟩ := foldlM_applyEffect_ok hc
    exact h₀.conditionals
  refine ⟨rfl, hr, hstate.trans hf.state, ?_, ?_, ?_, ?_, ?_⟩
  · rw [hclock, hf.clock]
    exact h₀.clock
  · intro e he hn
    exact hfires.kept e (commit_keeps hc (h₀.queue ▸ he) hn)
  · intro eventId eventType actorId delayMinutes payload triggersAgent hm hn
    obtain ⟨instant, event, hi, ha, hp⟩ := commit_pending hc hm hn
    rw [h₀.clock] at hi
    exact ⟨instant, event, hi, ha, hfires.kept event hp⟩
  · rw [← hconditionals]
    exact hfires.conditionals
  · intro e he
    rcases hfires.brought e he with he | ⟨ha, planned, hp, instant, cause, hfired⟩
    · rcases foldlM_applyEffect_brings hc he with he | ⟨_, _, _, _, _, _, instant, hin, harmed⟩
      · exact Or.inl (h₀.queue ▸ he)
      · exact Or.inr (.timer _ _ _ _ _ _ instant hin harmed)
    · exact Or.inr (.fired planned instant cause (hconditionals ▸ hp) ha hfired)

theorem Answered.same (h : E.Answered s t call reduction) (hs : Same t s') :
    E.Answered s s' call reduction := by
  refine ⟨h.context, h.reduced, hs.state.trans h.state, hs.clock.trans h.clock, ?_, ?_, ?_, ?_⟩
  · rw [hs.queue]
    exact h.kept
  · rw [hs.queue]
    exact h.armed
  · rw [hs.conditionals]
    exact h.conditionals
  · rw [hs.queue]
    exact h.brought

/-- Nothing was put to the domain, or a proposal was. -/
inductive Heard (E : Engine σ) (s s' : EngineState σ) : Prop
  | same (same : Same s s')
  | proposal {cause : Cause} {reduction : Reduction σ} (proposed : cause.IsProposal)
      (answered : E.Answered s s' ⟨E.context s, cause⟩ reduction)

theorem Heard.before_same (h : E.Heard s t) (hs : Same t s') : E.Heard s s' := by
  cases h with
  | same same => exact .same (same.trans hs)
  | proposal proposed answered => exact .proposal proposed (answered.same hs)

/-- An answer that was committed right after the proposal was put on record. -/
theorem heard_of_commit {s₀ s₁ : EngineState σ} (hp : cause.IsProposal) (h₀ : Same s s₀)
    (hr : E.domain.reduce ⟨E.context s, cause⟩ s.state = .ok reduction)
    (hc : s₀.commit reduction = .ok s₁) (hstate : s'.state = s₁.state)
    (hclock : s'.clock = s₁.clock)
    (hfires : Fires reduction.verdict.accepted reduction.verdict.bindings s₁ s') :
    E.Heard s s' :=
  .proposal hp (answered_of_commit h₀ hr hc hstate hclock hfires)

theorem Proposed.heard {actionType : String} {payload : Fields} {evidenceRefs : List String}
    {accepted : Bool} (h : E.Proposed s actionType payload evidenceRefs accepted s') :
    E.Heard s s' := by
  have hp : (Cause.action actionType payload evidenceRefs).IsProposal := trivial
  have h₀ : Same s (proposing s actionType payload evidenceRefs) := ⟨rfl, rfl, rfl, rfl⟩
  cases h with
  | stopped => exact .same ⟨rfl, rfl, rfl, rfl⟩
  | refused guard reduced committed =>
    exact heard_of_commit hp h₀ reduced committed rfl rfl (.of_eq rfl rfl)
  | accepted guard reduced committed verdict fired =>
    have hf := fireConditionals_fires fired verdict
    obtain ⟨conditionals, queue, rfl⟩ := fireConditionals_ok fired
    exact heard_of_commit hp h₀ reduced committed rfl rfl ⟨hf.kept, hf.conditionals, hf.brought⟩

theorem Concluded.heard {outcome : Complete} {accepted : Bool}
    (h : E.Concluded s outcome accepted s') : E.Heard s s' := by
  have hp : (Cause.terminal outcome.evidenceRefs).IsProposal := trivial
  have h₀ : Same s (concluding s outcome) := ⟨rfl, rfl, rfl, rfl⟩
  cases h with
  | stopped => exact .same ⟨rfl, rfl, rfl, rfl⟩
  | refused guard reduced committed =>
    exact heard_of_commit hp h₀ reduced committed rfl rfl (.of_eq rfl rfl)
  | accepted guard reduced committed verdict fired =>
    have hf := fireConditionals_fires fired verdict
    obtain ⟨conditionals, queue, rfl⟩ := fireConditionals_ok fired
    exact heard_of_commit hp h₀ reduced committed rfl rfl ⟨hf.kept, hf.conditionals, hf.brought⟩

theorem Waited.same {wait : Wait} {ended : Bool} (h : E.Waited s wait ended s') : Same s s' := by
  cases h with
  | refused => exact ⟨rfl, rfl, rfl, rfl⟩
  | standing => exact ⟨rfl, rfl, rfl, rfl⟩

theorem Handled.heard {outcome : AgentOutcome} {ended : Bool}
    (h : E.Handled s outcome ended s') : E.Heard s s' := by
  cases h with
  | wait waited => exact .same waited.same
  | complete concluded => exact concluded.heard
  | act proposed => exact proposed.heard
  | ask proposed waited => exact proposed.heard.before_same waited.same
  | unasked proposed => exact proposed.heard
  | escalate proposed waited => exact proposed.heard.before_same waited.same
  | unescalated proposed => exact proposed.heard

theorem Heard.after_same (h : E.Heard t s') (hs : Same s t) (hc : E.context t = E.context s) :
    E.Heard s s' := by
  cases h with
  | same same => exact .same (hs.trans same)
  | @proposal cause reduction proposed answered =>
    have hanswered : E.Answered s s' ⟨E.context s, cause⟩ reduction := by
      refine ⟨rfl, ?_, answered.state, answered.clock.trans hs.clock, ?_, ?_, ?_, ?_⟩
      · rw [← hs.state, ← hc]
        exact answered.reduced
      · rw [← hs.queue]
        exact answered.kept
      · rw [← hs.clock]
        exact answered.armed
      · rw [← hs.conditionals]
        exact answered.conditionals
      · rw [← hs.queue, ← hs.conditionals]
        exact answered.brought
    exact .proposal proposed hanswered

theorem Batched.same {batch : RawRequests} {turnIndex : ℕ} (h : E.Batched s batch turnIndex s') :
    Same s s' := by
  cases h with
  | refused => exact ⟨rfl, rfl, rfl, rfl⟩
  | served _ _ =>
    rename_i results _ _
    obtain ⟨hstate, hclock, _⟩ := serving_frame results
      { s with retrievalBatches := s.retrievalBatches + 1 }
    exact ⟨hstate, hclock, serving_queue results _, serving_conditionals results _⟩

theorem Turned.heard {trigger : Option Event} {business turn : ℕ}
    (h : E.Turned s trigger business turn s') : E.Heard s s' := by
  cases h with
  | spent => exact .same ⟨rfl, rfl, rfl, rfl⟩
  | read asked batched =>
    have hb := batched.same
    exact .same ⟨hb.state, hb.clock, hb.queue, hb.conditionals⟩
  | malformed => exact .same ⟨rfl, rfl, rfl, rfl⟩
  | @answered observation answer outcome ended t asked contract handled =>
    have hs : Same s ((asking s observation turn).write [outcomeEntry s turn outcome]) :=
      ⟨rfl, rfl, rfl, rfl⟩
    exact (handled.heard.after_same hs rfl).before_same ⟨rfl, rfl, rfl, rfl⟩

/-- A delivery was late for the operation, or it was put to the domain. -/
inductive Delivered (E : Engine σ) (s : EngineState σ) (event : Event) (s' : EngineState σ) : Prop
  | late (final : E.domain.isReplayFinal s.state = true) (same : Same s s')
  | live {reduction : Reduction σ} (live : E.domain.isReplayFinal s.state = false)
      (answered : E.Answered s s' ⟨E.context s, .event event⟩ reduction)

theorem Reported.delivered {event : Event} (h : E.Reported s event s') :
    E.Delivered s event s' := by
  cases h with
  | late final => exact .late final ⟨rfl, rfl, rfl, rfl⟩
  | rejected live reduced committed =>
    exact .live live (answered_of_commit (Same.refl s) reduced committed rfl rfl (.of_eq rfl rfl))
  | accepted live reduced committed verdict fired =>
    have hf := fireConditionals_fires fired verdict
    obtain ⟨conditionals, queue, rfl⟩ := fireConditionals_ok fired
    exact .live live (answered_of_commit (Same.refl s) reduced committed rfl rfl
      ⟨hf.kept, hf.conditionals, hf.brought⟩)

theorem Delivered.same {event : Event} (h : E.Delivered s event t) (hs : Same t s') :
    E.Delivered s event s' := by
  cases h with
  | late final same => exact .late final (same.trans hs)
  | live live answered => exact .live live (answered.same hs)

theorem Summoned.same {trigger : Option Event} {spent : Bool}
    (h : E.Summoned s trigger spent s') : Same s s' := by
  cases h with
  | spent => exact ⟨rfl, rfl, rfl, rfl⟩
  | invoked => exact ⟨rfl, rfl, rfl, rfl⟩

theorem Arrived.delivered {event : Event} (h : E.Arrived s event s') : E.Delivered s event s' := by
  cases h with
  | silent reported => exact reported.delivered
  | summons reported live summoned =>
    have hs := summoned.same
    exact reported.delivered.same ⟨hs.state, hs.clock, hs.queue, hs.conditionals⟩

end Calls

section Steps

/-- What one step puts to the domain, and what stays pending behind it. -/
inductive Played (E : Engine σ) (s s' : EngineState σ) : Prop
  | still (state : s'.state = s.state) (later : s.clock.seconds ≤ s'.clock.seconds)
      (kept : ∀ e, e ∈ s'.queue.pending ↔ e ∈ s.queue.pending)
      (conditionals : s'.conditionals = s.conditionals)
  | proposal {cause : Cause} {reduction : Reduction σ} (turn : s.control ≠ .head)
      (proposed : cause.IsProposal) (answered : E.Answered s s' ⟨E.context s, cause⟩ reduction)
  | delivery {event : Event} {queue : EventQueue} {clock : SimulatedClock} (due : E.Due s event)
      (sorted : s.queue.sort = .ok queue) (head : queue.pending.head? = some event)
      (moved : Moved s.clock clock event.instant)
      (delivered : E.Delivered { s with queue := queue.tail, clock } event s')

theorem Due.head {event : Event} {queue : EventQueue} (h : E.Due s event)
    (hs : s.queue.sort = .ok queue) : queue.pending.head? = some event := by
  obtain ⟨queue', hq⟩ := h.next
  obtain ⟨hs', he⟩ := EventQueue.peekNext_ok hq
  obtain rfl : queue' = queue := Except.ok.inj (hs'.symm.trans hs)
  exact he.symm

theorem Passed.played (h : E.Passed s s') : E.Played s s' := by
  have hkept : ∀ {queue : EventQueue}, s.queue.sort = .ok queue →
      ∀ e, e ∈ queue.pending ↔ e ∈ s.queue.pending :=
    fun hs _ => EventQueue.mem_sort hs
  cases h with
  | stopped => exact .still rfl le_rfl (fun _ => Iff.rfl) rfl
  | horizon sorted => exact .still rfl le_rfl (hkept sorted) rfl
  | empty sorted => exact .still rfl le_rfl (hkept sorted) rfl
  | unresolved sorted later standing => exact .still rfl later (hkept sorted) rfl
  | fallback sorted declared moved summoned =>
    have hs := summoned.same
    refine .still hs.state ?_ ?_ hs.conditionals
    · rw [hs.clock]
      exact moved.later
    · rw [hs.queue]
      exact hkept sorted
  | delivery due sorted moved arrived =>
    exact .delivery due sorted (due.head sorted) moved arrived.delivered

theorem step_played (h : E.step s = .ok s') : E.Played s s' := by
  unfold step at h
  split at h
  · exact (headStep_passed ‹_› h).played
  · rename_i hc
    cases (turnStep_turned h).heard with
    | same same =>
      refine .still same.state (same.clock ▸ le_rfl) (fun e => ?_) same.conditionals
      rw [same.queue]
    | proposal proposed answered => exact .proposal (by simp [hc]) proposed answered
  · exact Except.ok.inj h ▸ .still rfl le_rfl (fun _ => Iff.rfl) rfl

/-- What is pending beside the head of the queue stays there when the head is taken. -/
theorem mem_tail_of_ne {queue : EventQueue} {event e : Event} (hs : s.queue.sort = .ok queue)
    (hn : queue.pending.head? = some event) (he : e ∈ s.queue.pending) (hne : e ≠ event) :
    e ∈ queue.tail.pending := by
  have hm := (EventQueue.mem_sort hs).mpr he
  change e ∈ queue.pending.tail
  cases hp : queue.pending with
  | nil => simp [hp] at hm
  | cons a l =>
    rw [hp] at hm hn
    obtain rfl := Option.some.inj hn
    rcases List.mem_cons.mp hm with rfl | hm
    · exact absurd rfl hne
    · exact hm

/-- What one step makes pending was asked for by the call that it put to the domain. -/
theorem step_brought (h : E.step s = .ok s') : (∀ p ∈ s'.conditionals, p ∈ s.conditionals) ∧
    ∀ e ∈ s'.queue.pending, e ∈ s.queue.pending ∨ ∃ call reduction,
      E.domain.reduce call s.state = .ok reduction ∧ call.context.now = s'.clock.now ∧
        s'.state = reduction.state ∧ Brought s.conditionals reduction e := by
  cases step_played h with
  | still state later kept conditionals =>
    exact ⟨fun p hp => conditionals ▸ hp, fun e he => Or.inl ((kept e).mp he)⟩
  | @proposal cause reduction turn proposed answered =>
    refine ⟨answered.conditionals, fun e he => ?_⟩
    rcases answered.brought e he with he | hb
    · exact Or.inl he
    · exact Or.inr ⟨_, reduction, answered.reduced, by rw [answered.clock]; rfl,
        answered.state, hb⟩
  | @delivery event queue clock due sorted head moved delivered =>
    have htail : ∀ e ∈ queue.tail.pending, e ∈ s.queue.pending :=
      fun e he => (EventQueue.mem_sort sorted).mp (List.mem_of_mem_tail he)
    cases delivered with
    | late final same =>
      refine ⟨fun p hp => same.conditionals ▸ hp, fun e he => Or.inl (htail e ?_)⟩
      rw [same.queue] at he
      exact he
    | @live reduction live answered =>
      refine ⟨answered.conditionals, fun e he => ?_⟩
      rcases answered.brought e he with he | hb
      · exact Or.inl (htail e he)
      · exact Or.inr ⟨_, reduction, answered.reduced, by rw [answered.clock]; rfl,
          answered.state, hb⟩

/-- The step put the call to the domain, and went on from what it answered. -/
structure Called (E : Engine σ) (s s' : EngineState σ) (call : Call) (reduction : Reduction σ) :
    Prop where
  reduced : E.domain.reduce call s.state = .ok reduction
  state : s'.state = reduction.state
  now : call.context.now = s'.clock.now
  gone : ∀ event, call.cause = .event event → E.Due s event ∧ s'.queue.Gone event.eventId

theorem step_evolves (h : E.step s = .ok s') : s.queue.Evolves s'.queue := by
  cases step_transition h with
  | still _ queue => exact queue
  | delivery event queue clock t _ _ sorted _ consults _ later =>
    obtain ⟨s₀, reduction, s₁, h₀, _, hc, h₁⟩ := consults
    exact ((EventQueue.sort_evolves sorted).trans EventQueue.tail_evolves).trans
      (((h₀.queue.trans (commit_frame hc).queue).trans h₁.queue).trans later)
  | proposal cause t _ _ consults _ later =>
    obtain ⟨s₀, reduction, s₁, h₀, _, hc, h₁⟩ := consults
    exact ((h₀.queue.trans (commit_frame hc).queue).trans h₁.queue).trans later

/-- What became of a consultation. -/
theorem Consults.called {cause : Cause} (h : E.Consults s cause t) : ∃ context reduction,
    E.domain.reduce ⟨context, cause⟩ s.state = .ok reduction ∧ t.state = reduction.state ∧
      context.now = t.clock.now ∧ s.queue.Evolves t.queue := by
  obtain ⟨s₀, reduction, s₁, h₀, hr, hc, h₁⟩ := h
  have hf := commit_frame hc
  refine ⟨_, reduction, hr, h₁.state.trans hf.state, ?_, (h₀.queue.trans hf.queue).trans h₁.queue⟩
  rw [h₁.clock, hf.clock]
  rfl

theorem Wakes.later {trigger : Option Event} (h : E.Wakes s trigger s') :
    s'.state = s.state ∧ s'.clock = s.clock ∧ s.queue.Evolves s'.queue := by
  obtain ⟨t, hf, ⟨_, detail, hr⟩ | ⟨_, hi⟩⟩ := h
  · rw [refuseInvocation_ok hr]
    exact ⟨hf.state, hf.clock, hf.queue⟩
  · have hi := (invoke_ok hi).2
    exact ⟨hi.state.trans hf.state, hi.clock.trans hf.clock, hf.queue.trans hi.queue⟩

/-- A step leaves the operation as it was, or puts one call to it. -/
theorem step_called (h : E.step s = .ok s') :
    s'.state = s.state ∨ ∃ call reduction, E.Called s s' call reduction := by
  unfold step at h
  split at h
  · cases headStep_ok ‹_› h with
    | stop => exact Or.inl rfl
    | horizon => exact Or.inl rfl
    | empty => exact Or.inl rfl
    | unresolved => exact Or.inl rfl
    | fallback _ _ _ _ _ invoked => exact Or.inl (invoke_ok invoked).2.state
    | spent _ _ _ refused =>
      rw [refuseInvocation_ok refused]
      exact Or.inl rfl
    | delivery due sorted moment origin delivered =>
      rename_i queue event clock
      cases hf : E.domain.isReplayFinal s.state with
      | true =>
        obtain ⟨payload, row, rfl⟩ := deliver_final delivered hf
        exact Or.inl rfl
      | false =>
        obtain ⟨t, ht, hs'⟩ := deliver_live delivered hf
        obtain ⟨context, reduction, hr, hstate, hnow, hqueue⟩ := ht.called
        have hlater : s'.state = t.state ∧ s'.clock = t.clock ∧ t.queue.Evolves s'.queue := by
          rcases hs' with rfl | ⟨_, hw⟩
          · exact ⟨rfl, rfl, .refl _⟩
          · exact hw.later
        refine Or.inr ⟨⟨context, .event event⟩, reduction, hr, hlater.1.trans hstate, ?_, ?_⟩
        · rw [hlater.2.1]
          exact hnow
        · rintro _ ⟨⟩
          exact ⟨due, (EventQueue.gone_tail (due.head sorted)).evolves (hqueue.trans hlater.2.2)⟩
  · rcases turnStep_ok h with ⟨code, detail, t, ht, rfl⟩ | ⟨t, ht, hs, _⟩
    · rw [refuseInvocation_ok ht]
      exact Or.inl rfl
    · rcases ht with hf | ⟨cause, hp, hcs⟩
      · rw [hs]
        exact Or.inl hf.state
      · obtain ⟨context, reduction, hr, hstate, hnow, _⟩ := hcs.called
        refine Or.inr ⟨⟨context, cause⟩, reduction, hr, ?_, ?_, ?_⟩
        · rw [hs]
          exact hstate
        · rw [hs]
          exact hnow
        · rintro event rfl
          exact absurd hp id
  · exact Except.ok.inj h ▸ Or.inl rfl

end Steps

end Engine

end OperateBench
