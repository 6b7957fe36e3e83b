import OperateBench.Core.Bookkeeping
import OperateBench.Foundation.Transition

/-! # What one step of the engine does to the operation

The operation changes only where the engine consults its domain: on the event it
delivers, and on what an agent proposes inside an invocation. Every other step
leaves the operation as it is. Steps are taken apart here once, and every property
of runs is derived from these cases.
-/

namespace OperateBench

open Foundation EngineState

variable {σ : Type}

/-- What a domain is consulted on. -/
inductive Cause where
  | event (event : Event)
  | action (actionType : String) (payload : Fields) (evidenceRefs : List String)
  | terminal (evidenceRefs : List String)

def Cause.IsProposal : Cause → Prop
  | event _ => False
  | action _ _ _ | terminal _ => True

def Cause.isTerminal : Cause → Bool
  | terminal _ => true
  | event _ | action _ _ _ => false

structure Call where
  context : EnvironmentContext
  cause : Cause

namespace OperationDomain

variable (domain : OperationDomain σ)

def reduce (call : Call) (state : σ) : Except PyError (Reduction σ) :=
  match call.cause with
  | .event event => domain.reduceEvent call.context state event
  | .action actionType payload evidenceRefs =>
    domain.applyAction call.context state actionType payload evidenceRefs
  | .terminal evidenceRefs => domain.applyTerminal call.context state evidenceRefs

/-- The operation on its own: one call of its domain that returned. -/
def Step (state : σ) (call : Call) (state' : σ) : Prop :=
  ∃ reduction, domain.reduce call state = .ok reduction ∧ reduction.state = state'

end OperationDomain

/-- The state in which the declared fallback has fired. -/
def EngineState.fallbackFired (s : EngineState σ) (queue : EventQueue) (clock : SimulatedClock)
    (payload : Fields) : EngineState σ :=
  EngineState.clearWait { s with
    queue, clock, ledger := s.ledger.write clock.now "wait_declared" payload }

namespace Engine

variable {E : Engine σ} {s s' t : EngineState σ} {cause : Cause}

/-- The domain was consulted once between the two states, and the rest is bookkeeping. -/
def Consults (E : Engine σ) (s : EngineState σ) (cause : Cause) (s' : EngineState σ) : Prop :=
  ∃ s₀ reduction s₁, Frame s s₀ ∧ E.domain.reduce ⟨E.context s₀, cause⟩ s.state = .ok reduction ∧
    s₀.commit reduction = .ok s₁ ∧ Frame s₁ s'

namespace Consults

theorem trans_frame (h : E.Consults s cause t) (hf : Frame t s') : E.Consults s cause s' := by
  obtain ⟨s₀, reduction, s₁, h₀, hr, hc, h₁⟩ := h
  exact ⟨s₀, reduction, s₁, h₀, hr, hc, h₁.trans hf⟩

theorem of_frame (hf : Frame s t) (h : E.Consults t cause s') : E.Consults s cause s' := by
  obtain ⟨s₀, reduction, s₁, h₀, hr, hc, h₁⟩ := h
  exact ⟨s₀, reduction, s₁, hf.trans h₀, hf.state ▸ hr, hc, h₁⟩

theorem halt (h : E.Consults s cause s') : s'.halt = s.halt := by
  obtain ⟨s₀, reduction, s₁, h₀, hr, hc, h₁⟩ := h
  rw [h₁.halt, (commit_frame hc).halt, ← h₀.halt]

theorem control (h : E.Consults s cause s') : s'.control = s.control := by
  obtain ⟨s₀, reduction, s₁, h₀, hr, hc, h₁⟩ := h
  rw [h₁.control, (commit_frame hc).control, ← h₀.control]

theorem step (h : E.Consults s cause s') :
    ∃ context, E.domain.Step s.state ⟨context, cause⟩ s'.state := by
  obtain ⟨s₀, reduction, s₁, _, hr, hc, h₁⟩ := h
  exact ⟨_, reduction, hr, by rw [h₁.state, (commit_frame hc).state]⟩

end Consults

section Proposals

/-- A refusal that asked nothing of the environment commits to nothing. -/
theorem commit_refused {code detail : String}
    (h : s.commit (.refused s.state code detail) = .ok s') : s' = s :=
  (pure_ok h).symm

theorem guarded_ok {guard : Option (String × String)}
    {reduce : Except PyError (Reduction σ)} {reduction : Reduction σ}
    (h : guarded s guard reduce = .ok reduction) :
    reduce = .ok reduction ∨ ∃ code detail, reduction = .refused s.state code detail := by
  cases guard with
  | none => exact Or.inl h
  | some problem => exact Or.inr ⟨_, _, (Except.ok.inj h).symm⟩

/-- What the guard stopped is a refusal; the rest is the domain's answer. -/
theorem commit_guarded (cause : Cause) {guard : Option (String × String)} {reduction : Reduction σ}
    (hg : guarded s guard (E.domain.reduce ⟨E.context s, cause⟩ s.state) = .ok reduction)
    (hc : s.commit reduction = .ok t) (hf : Frame t s') :
    Frame s s' ∨ E.Consults s cause s' := by
  rcases guarded_ok hg with hr | ⟨code, detail, rfl⟩
  · exact Or.inr ⟨s, reduction, t, .refl s, hr, hc, hf⟩
  · exact Or.inl (commit_refused hc ▸ hf)

theorem proposeAction_ok {actionType : String} {payload : Fields} {evidenceRefs : List String}
    {accepted : Bool}
    (h : E.proposeAction s actionType payload evidenceRefs = .ok (accepted, s')) :
    Frame s s' ∨ E.Consults s (.action actionType payload evidenceRefs) s' := by
  obtain ⟨s₀, h₀, h⟩ := bind_ok h
  obtain ⟨guard, _, h⟩ := bind_ok h
  obtain ⟨reduction, hg, h⟩ := bind_ok h
  obtain ⟨s₁, hc, h⟩ := bind_ok h
  have hf : Frame s s₀ := by
    refine Frame.trans ?_ (log_frame h₀)
    exact ⟨rfl, rfl, rfl, rfl, .refl _⟩
  have ht : Frame s₁ s' := by
    split at h
    · obtain ⟨s₂, h₂, h⟩ := bind_ok h
      obtain ⟨_, rfl⟩ := Prod.mk.inj (pure_ok h)
      exact (log_frame h₂).trans ⟨rfl, rfl, rfl, rfl, .refl _⟩
    · obtain ⟨s₂, h₂, h⟩ := bind_ok h
      obtain ⟨s₃, h₃, h⟩ := bind_ok h
      obtain ⟨s₄, h₄, h⟩ := bind_ok h
      obtain ⟨_, rfl⟩ := Prod.mk.inj (pure_ok h)
      have h₁₂ : Frame s₁ s₂ := by
        refine Frame.trans ?_ (log_frame h₂)
        exact ⟨rfl, rfl, rfl, rfl, .refl _⟩
      exact (h₁₂.trans (invalidateDerivedContext_frame h₃)).trans (fireConditionals_frame h₄)
  exact (commit_guarded (.action actionType payload evidenceRefs) hg hc ht).imp hf.trans
    (.of_frame hf)

theorem proposeTerminal_ok {outcome : Complete} {accepted : Bool}
    (h : E.proposeTerminal s outcome = .ok (accepted, s')) :
    Frame s s' ∨ E.Consults s (.terminal outcome.evidenceRefs) s' := by
  obtain ⟨s₀, h₀, h⟩ := bind_ok h
  obtain ⟨guard, _, h⟩ := bind_ok h
  obtain ⟨reduction, hg, h⟩ := bind_ok h
  obtain ⟨s₁, hc, h⟩ := bind_ok h
  have ht : Frame s₁ s' := by
    split at h
    · obtain ⟨s₂, h₂, h⟩ := bind_ok h
      obtain ⟨_, rfl⟩ := Prod.mk.inj (pure_ok h)
      exact (log_frame h₂).trans ⟨rfl, rfl, rfl, rfl, .refl _⟩
    · obtain ⟨s₂, h₂, h⟩ := bind_ok h
      obtain ⟨_, rfl⟩ := Prod.mk.inj (pure_ok h)
      refine Frame.trans ?_ (fireConditionals_frame h₂)
      exact ⟨rfl, rfl, rfl, rfl, .refl _⟩
  exact (commit_guarded (.terminal outcome.evidenceRefs) hg hc ht).imp
    (log_frame h₀).trans (.of_frame (log_frame h₀))

/-- The states between which one outcome of the agent was handled. -/
def Handles (E : Engine σ) (s s' : EngineState σ) : Prop :=
  Frame s s' ∨ ∃ cause : Cause, cause.IsProposal ∧ E.Consults s cause s'

theorem Handles.trans_frame (h : E.Handles s t) (hf : Frame t s') : E.Handles s s' :=
  h.imp (·.trans hf) fun ⟨cause, hp, hc⟩ => ⟨cause, hp, hc.trans_frame hf⟩

theorem Handles.of_frame (hf : Frame s t) (h : E.Handles t s') : E.Handles s s' :=
  h.imp hf.trans fun ⟨cause, hp, hc⟩ => ⟨cause, hp, hc.of_frame hf⟩

theorem handles_of_proposal (h : Frame s s' ∨ E.Consults s cause s') (hp : cause.IsProposal) :
    E.Handles s s' :=
  h.imp_right fun hc => ⟨cause, hp, hc⟩

theorem handle_ok {outcome : AgentOutcome} {ended : Bool}
    (h : E.handle s outcome = .ok (ended, s')) : E.Handles s s' := by
  cases outcome with
  | wait wait => exact Or.inl (declareWait_frame h)
  | complete outcome => exact handles_of_proposal (proposeTerminal_ok h) trivial
  | act outcome =>
    obtain ⟨⟨accepted, t⟩, ht, h⟩ := bind_ok h
    obtain ⟨_, rfl⟩ := Prod.mk.inj (pure_ok h)
    exact handles_of_proposal (proposeAction_ok ht) trivial
  | ask outcome =>
    obtain ⟨⟨accepted, t⟩, ht, h⟩ := bind_ok h
    have hp := handles_of_proposal (proposeAction_ok ht) trivial
    cases accepted with
    | true => exact hp.trans_frame (declareWait_frame h)
    | false =>
      obtain ⟨_, rfl⟩ := Prod.mk.inj (pure_ok h)
      exact hp
  | escalate outcome =>
    obtain ⟨⟨accepted, t⟩, ht, h⟩ := bind_ok h
    have hp := handles_of_proposal (proposeAction_ok ht) trivial
    cases accepted with
    | true => exact hp.trans_frame (declareWait_frame h)
    | false =>
      obtain ⟨_, rfl⟩ := Prod.mk.inj (pure_ok h)
      exact hp

/-- A turn ends the invocation at one of its limits, or handles one answer of the agent. -/
theorem turnStep_ok {trigger : Option Event} {business turn : ℕ}
    (h : E.turnStep s trigger business turn = .ok s') :
    (∃ code detail t, s.refuseInvocation code detail = .ok t ∧ s' = { t with control := .head }) ∨
      ∃ t, E.Handles s t ∧ s' = { t with control := s'.control } ∧ s'.control ≠ .done := by
  unfold turnStep at h
  split at h
  · obtain ⟨t, ht, h⟩ := bind_ok h
    exact Or.inl ⟨_, _, t, ht, (pure_ok h).symm⟩
  split at h
  · obtain ⟨t, ht, h⟩ := bind_ok h
    exact Or.inl ⟨_, _, t, ht, (pure_ok h).symm⟩
  right
  obtain ⟨observation, _, h⟩ := bind_ok h
  obtain ⟨answer, _, h⟩ := bind_ok h
  have hf : Frame s { s with turnIndex := turn, asked := s.asked ++ [observation] } :=
    ⟨rfl, rfl, rfl, rfl, .refl _⟩
  split at h
  · obtain ⟨t, ht, h⟩ := bind_ok h
    obtain rfl := pure_ok h
    exact ⟨t, Or.inl (hf.trans (serveBatch_frame ht)), rfl, nofun⟩
  · split at h
    · cases h
    · obtain ⟨t, ht, h⟩ := bind_ok h
      obtain rfl := pure_ok h
      exact ⟨t, Or.inl (hf.trans (refuseOutcome_frame ht)), rfl, nofun⟩
    · obtain ⟨s₀, h₀, h⟩ := bind_ok h
      obtain ⟨⟨ended, t⟩, ht, h⟩ := bind_ok h
      obtain rfl := pure_ok h
      refine ⟨t, (handle_ok ht).of_frame (hf.trans (log_frame h₀)), rfl, ?_⟩
      cases ended <;> nofun

end Proposals

section Deliveries

/-- The end of a pass that reaches for the agent: the allowance is spent, or it is invoked. -/
def Wakes (E : Engine σ) (s : EngineState σ) (trigger : Option Event) (s' : EngineState σ) : Prop :=
  ∃ t, Frame s t ∧
    ((¬t.invocations < E.plan.maxInvocations ∧
        ∃ detail, t.refuseInvocation "INVOCATION_LIMIT_EXCEEDED" detail = .ok s') ∨
      t.invocations < E.plan.maxInvocations ∧ E.invoke t trigger = .ok s')

/-- To a final operation an event is delivered for the record only. -/
theorem deliver_final {event : Event} (h : E.deliver s event = .ok s')
    (hf : E.domain.isReplayFinal s.state = true) : ∃ payload row, s' = { s with
      ledger := s.ledger.write s.clock.now "event_after_terminal" payload
      delivered := s.delivered ++ [row] } := by
  simp only [deliver, hf, if_true] at h
  obtain ⟨t, ht, h⟩ := bind_ok h
  obtain rfl := pure_ok h
  rw [log_ok ht]
  exact ⟨_, _, rfl⟩

/-- Delivered to a live operation an event is put to the domain, and may wake the agent. -/
theorem deliver_live {event : Event} (h : E.deliver s event = .ok s')
    (hf : E.domain.isReplayFinal s.state = false) : ∃ t, E.Consults s (.event event) t ∧
      (s' = t ∨ E.domain.isReplayFinal t.state = false ∧ E.Wakes t (some event) s') := by
  simp only [deliver, hf, Bool.false_eq_true, if_false] at h
  obtain ⟨reduction, hr, h⟩ := bind_ok h
  obtain ⟨s₁, hc, h⟩ := bind_ok h
  have hs : ∀ t, Frame s₁ t → E.Consults s (.event event) t := fun t ht =>
    ⟨s, reduction, s₁, .refl s, hr, hc, ht⟩
  split at h
  · obtain ⟨s₂, h₂, h⟩ := bind_ok h
    obtain rfl := pure_ok h
    exact ⟨_, hs _ ((log_frame h₂).trans (noteDelivery_frame _ _)), Or.inl rfl⟩
  · obtain ⟨s₂, h₂, h⟩ := bind_ok h
    obtain ⟨s₃, h₃, h⟩ := bind_ok h
    have ht := hs s₃ (((log_frame h₂).trans (noteDelivery_frame _ _)).trans
      (fireConditionals_frame h₃))
    split at h
    · exact ⟨s₃, ht, Or.inl (pure_ok h).symm⟩
    split at h
    · exact ⟨s₃, ht, Or.inl (pure_ok h).symm⟩
    · rename_i hlive
      obtain ⟨s₄, h₄, h⟩ := bind_ok h
      obtain ⟨⟨spent, s₅⟩, h₅, hw⟩ := bind_ok h
      refine ⟨s₃, ht, Or.inr ⟨by simpa using hlive, s₄, checkDeclaredWake_frame h₄, ?_⟩⟩
      rcases outOfInvocations_ok h₅ with ⟨rfl, rfl, hlt⟩ | ⟨rfl, hge, hd⟩
      · exact Or.inr ⟨hlt, hw⟩
      · exact Or.inl ⟨hge, pure_ok hw ▸ hd⟩

/-- The event comes due at the head of the loop: nothing halted, no fallback is earlier and
the horizon is not. -/
structure Due (E : Engine σ) (s : EngineState σ) (event : Event) : Prop where
  control : s.control = .head
  halt : s.halt = none
  next : ∃ queue, s.queue.peekNext = .ok (some event, queue)
  noFallback : s.fallbackDueBefore (some event) = .ok none
  within : E.beyondHorizon s event.instant = .ok false

theorem Due.mem {event : Event} (h : E.Due s event) : event ∈ s.queue.pending := by
  obtain ⟨queue, hq⟩ := h.next
  obtain ⟨hs, he⟩ := EventQueue.peekNext_ok hq
  exact (EventQueue.mem_sort hs).mp (List.mem_of_mem_head? he.symm)

/-- One pass of the delivery loop. -/
inductive HeadStep (E : Engine σ) (s : EngineState σ) : EngineState σ → Prop
  | stop (halt : s.halt.isSome) : HeadStep E s { s with control := .done }
  | horizon {queue : EventQueue} {moment : String} (halt : s.halt = none)
      (sorted : s.queue.sort = .ok queue)
      (source : s.fallbackAt = some moment ∨ ∃ e ∈ queue.pending, e.instant = moment)
      (beyond : E.beyondHorizon s moment = .ok true) :
      HeadStep E s { s with queue, halt := some .horizon, control := .done }
  | fallback {queue : EventQueue} {moment : String} {clock : SimulatedClock} {payload : Fields}
      {s' : EngineState σ} (halt : s.halt = none) (sorted : s.queue.sort = .ok queue)
      (declared : s.fallbackAt = some moment) (within : E.beyondHorizon s moment = .ok false)
      (allowed : s.invocations < E.plan.maxInvocations)
      (invoked : E.invoke (s.fallbackFired queue clock payload) none = .ok s') : HeadStep E s s'
  | spent {queue : EventQueue} {moment detail : String} {clock : SimulatedClock}
      {payload : Fields} {t : EngineState σ} (halt : s.halt = none)
      (sorted : s.queue.sort = .ok queue) (declared : s.fallbackAt = some moment)
      (refused : (s.fallbackFired queue clock payload).refuseInvocation
        "INVOCATION_LIMIT_EXCEEDED" detail = .ok t) :
      HeadStep E s { t with control := .done }
  | empty {queue : EventQueue} (halt : s.halt = none) (sorted : s.queue.sort = .ok queue)
      (quiet : queue.pending = []) (wait : s.activeWait = none) :
      HeadStep E s { s with queue, control := .done }
  | unresolved {queue : EventQueue} {wait : Wait} {clock : SimulatedClock} {payload : Fields}
      (halt : s.halt = none) (sorted : s.queue.sort = .ok queue) (quiet : queue.pending = [])
      (standing : s.activeWait = some wait) (origin : clock.startSeconds = s.clock.startSeconds) :
      HeadStep E s { s with
        queue, clock
        ledger := s.ledger.write clock.now "wait_unresolved_at_horizon" payload
        halt := some .horizon
        control := .done }
  | delivery {queue : EventQueue} {event : Event} {clock : SimulatedClock} {s' : EngineState σ}
      (due : E.Due s event) (sorted : s.queue.sort = .ok queue)
      (moment : parseTimestamp event.instant s!"event {event.eventId}" = .ok clock.seconds)
      (origin : clock.startSeconds = s.clock.startSeconds)
      (delivered : E.deliver { s with queue := queue.tail, clock } event = .ok s') : HeadStep E s s'

theorem fallbackDueBefore_ok {upcoming : Option Event} {due : Option String}
    (h : s.fallbackDueBefore upcoming = .ok due) :
    (∃ moment, due = some moment ∧ s.fallbackAt = some moment) ∨ due = none := by
  unfold fallbackDueBefore at h
  split at h
  · exact Or.inr (Except.ok.inj h).symm
  · exact Or.inl ⟨_, (Except.ok.inj h).symm, ‹_›⟩
  · obtain ⟨fallback, _, h⟩ := bind_ok h
    obtain ⟨event, _, h⟩ := bind_ok h
    obtain rfl := pure_ok h
    split
    · exact Or.inl ⟨_, rfl, ‹_›⟩
    · exact Or.inr rfl

theorem clockAtHorizon_ok {horizonAt : String} {clock : SimulatedClock}
    (h : clockAtHorizon s horizonAt = .ok clock) : clock.startSeconds = s.clock.startSeconds := by
  obtain ⟨horizon, _, h⟩ := bind_ok h
  obtain ⟨now, _, h⟩ := bind_ok h
  split at h
  · exact (SimulatedClock.advanceTo_ok h).2.2
  · rw [Except.ok.inj h]

theorem exhaustHorizonUnderWait_ok {wait : Wait} (h : E.exhaustHorizonUnderWait s wait = .ok s') :
    ∃ clock payload, clock.startSeconds = s.clock.startSeconds ∧ s' = { s with
      clock
      ledger := s.ledger.write clock.now "wait_unresolved_at_horizon" payload
      halt := some .horizon } := by
  obtain ⟨horizonAt, _, h⟩ := bind_ok h
  obtain ⟨clock, hc, h⟩ := bind_ok h
  obtain ⟨t, ht, h⟩ := bind_ok h
  obtain rfl := pure_ok h
  rw [log_ok ht]
  exact ⟨clock, _, clockAtHorizon_ok hc, rfl⟩

theorem headStep_ok (hc : s.control = .head) (h : E.headStep s = .ok s') : E.HeadStep s s' := by
  unfold headStep at h
  split at h
  · obtain rfl := Except.ok.inj h
    exact .stop ‹_›
  rename_i hh
  have halt : s.halt = none := by simpa using hh
  obtain ⟨⟨next, queue⟩, hp, h⟩ := bind_ok h
  obtain ⟨hs, hn⟩ := EventQueue.peekNext_ok hp
  obtain ⟨due, hd, h⟩ := bind_ok h
  split at h
  · rename_i _ moment
    have hm : s.fallbackAt = some moment := by
      rcases fallbackDueBefore_ok hd with ⟨m, hm, hf⟩ | hm
      · exact Option.some.inj hm ▸ hf
      · cases hm
    obtain ⟨beyond, hb, h⟩ := bind_ok h
    cases beyond with
    | true =>
      obtain rfl := pure_ok h
      exact .horizon halt hs (Or.inl hm) hb
    | false =>
      obtain ⟨clock, _, h⟩ := bind_ok h
      obtain ⟨t, ht, h⟩ := bind_ok h
      obtain ⟨⟨spent, u⟩, hu, hw⟩ := bind_ok h
      obtain rfl := log_ok ht
      rcases outOfInvocations_ok hu with ⟨rfl, rfl, hlt⟩ | ⟨rfl, hge, detail, hr⟩
      · exact .fallback halt hs hm hb hlt hw
      · obtain rfl := pure_ok hw
        exact .spent halt hs hm hr
  · have hq : queue.pending = [] := by simpa using hn.symm
    unfold quiet at h
    split at h
    · obtain rfl := Except.ok.inj h
      exact .empty halt hs hq ‹_›
    · obtain ⟨t, ht, h⟩ := bind_ok h
      obtain ⟨clock, payload, ho, rfl⟩ := exhaustHorizonUnderWait_ok ht
      obtain rfl := pure_ok h
      exact .unresolved halt hs hq ‹_› ho
  · rename_i event _
    obtain ⟨beyond, hb, h⟩ := bind_ok h
    cases beyond with
    | true =>
      obtain rfl := pure_ok h
      exact .horizon halt hs (Or.inr ⟨event, List.mem_of_mem_head? hn.symm, rfl⟩) hb
    | false =>
      obtain ⟨⟨popped, rest⟩, hpop, h⟩ := bind_ok h
      obtain ⟨rfl, rfl⟩ := Prod.mk.inj (Except.ok.inj
        ((EventQueue.popNext_of_peekNext hp).symm.trans hpop))
      obtain ⟨clock, hk, h⟩ := bind_ok h
      obtain ⟨hm, _, ho⟩ := SimulatedClock.advanceTo_ok hk
      exact .delivery ⟨hc, halt, ⟨queue, hp⟩, hd, hb⟩ hs hm ho h

end Deliveries

section Transitions

theorem Wakes.state {trigger : Option Event} (h : E.Wakes s trigger s') :
    s'.state = s.state ∧ s.queue.Evolves s'.queue := by
  obtain ⟨t, hf, ⟨_, detail, hr⟩ | ⟨_, hi⟩⟩ := h
  · rw [refuseInvocation_ok hr]
    exact ⟨hf.state, hf.queue⟩
  · have hi := (invoke_ok hi).2
    exact ⟨hi.state.trans hf.state, hf.queue.trans hi.queue⟩

/-- What one step does to the operation: nothing, or one consultation of the domain. -/
inductive Transition (E : Engine σ) (s s' : EngineState σ) : Prop
  | still (state : s'.state = s.state) (queue : s.queue.Evolves s'.queue)
  | delivery (event : Event) (queue : EventQueue) (clock : SimulatedClock) (t : EngineState σ)
      (due : E.Due s event) (live : E.domain.isReplayFinal s.state = false)
      (sorted : s.queue.sort = .ok queue)
      (moment : parseTimestamp event.instant s!"event {event.eventId}" = .ok clock.seconds)
      (consults : E.Consults { s with queue := queue.tail, clock } (.event event) t)
      (state : s'.state = t.state) (later : t.queue.Evolves s'.queue)
  | proposal (cause : Cause) (t : EngineState σ) (turn : s.control ≠ .head)
      (proposed : cause.IsProposal) (consults : E.Consults s cause t) (state : s'.state = t.state)
      (later : t.queue.Evolves s'.queue)

theorem HeadStep.transition (h : E.HeadStep s s') : E.Transition s s' := by
  cases h with
  | stop => exact .still rfl (.refl _)
  | horizon _ sorted => exact .still rfl (EventQueue.sort_evolves sorted)
  | empty _ sorted => exact .still rfl (EventQueue.sort_evolves sorted)
  | unresolved _ sorted => exact .still rfl (EventQueue.sort_evolves sorted)
  | fallback _ sorted _ _ _ invoked =>
    have hi := (invoke_ok invoked).2
    exact .still hi.state ((EventQueue.sort_evolves sorted).trans hi.queue)
  | spent _ sorted _ refused =>
    rw [refuseInvocation_ok refused]
    exact .still rfl (EventQueue.sort_evolves sorted)
  | delivery due sorted moment origin delivered =>
    rename_i queue event clock
    cases hf : E.domain.isReplayFinal s.state with
    | true =>
      obtain ⟨payload, row, rfl⟩ := deliver_final delivered hf
      exact .still rfl ((EventQueue.sort_evolves sorted).trans EventQueue.tail_evolves)
    | false =>
      obtain ⟨t, ht, rfl | ⟨_, hw⟩⟩ := deliver_live delivered hf
      · exact .delivery event queue clock _ due hf sorted moment ht rfl (.refl _)
      · exact .delivery event queue clock t due hf sorted moment ht hw.state.1 hw.state.2

theorem step_transition (h : E.step s = .ok s') : E.Transition s s' := by
  unfold step at h
  split at h
  · exact (headStep_ok ‹_› h).transition
  · rename_i hc
    rcases turnStep_ok h with ⟨code, detail, t, ht, rfl⟩ | ⟨t, ht, hs, _⟩
    · rw [refuseInvocation_ok ht]
      exact .still rfl (.refl _)
    · rcases ht with hf | ⟨cause, hp, hcs⟩
      · rw [hs]
        exact .still hf.state hf.queue
      · exact .proposal cause t (by simp [hc]) hp hcs (by rw [hs]) (by rw [hs]; exact .refl _)
  · obtain rfl := Except.ok.inj h
    exact .still rfl (.refl _)

end Transitions

section Runs

/-- The engine as a transition system. -/
def StepsTo (E : Engine σ) (s : EngineState σ) (_ : Unit) (s' : EngineState σ) : Prop :=
  E.step s = .ok s'

/-- The runs of the engine whose steps all meet a condition. -/
abbrev RunsVia (E : Engine σ) (P : EngineState σ → Prop) (s s' : EngineState σ) : Prop :=
  Run E.StepsTo (fun s _ => P s) s s'

theorem runSteps_runs {n : ℕ} (h : E.runSteps n s = .ok s') : E.RunsVia (fun _ => True) s s' := by
  induction n generalizing s with
  | zero =>
    rw [runSteps] at h
    exact Except.ok.inj h ▸ .refl s
  | succ n ih =>
    rw [runSteps] at h
    obtain ⟨t, ht, h⟩ := bind_ok h
    exact ((Run.refl s).tail (a := ()) trivial ht).trans (ih h)

theorem runSteps_add (m n : ℕ) (s : EngineState σ) :
    E.runSteps (m + n) s = E.runSteps m s >>= E.runSteps n := by
  induction m generalizing s with
  | zero => rw [Nat.zero_add]; rfl
  | succ m ih =>
    rw [Nat.add_right_comm, runSteps, runSteps, bind_assoc]
    exact bind_congr ih

/-- Run the number of steps, with a check before each of them and one at the end. -/
def checkRun (E : Engine σ) (check last : EngineState σ → Bool) : ℕ → EngineState σ → Bool
  | 0, s => last s
  | n + 1, s => check s && (E.step s).toOption.any (E.checkRun check last n)

theorem runs_of_checkRun {check last : EngineState σ → Bool} {P : EngineState σ → Prop}
    (hP : ∀ s, check s = true → P s) {n : ℕ} (h : E.checkRun check last n s = true) :
    ∃ s', E.RunsVia P s s' ∧ last s' = true := by
  induction n generalizing s with
  | zero => exact ⟨s, .refl s, h⟩
  | succ n ih =>
    obtain ⟨hc, h⟩ := Bool.and_eq_true_iff.mp h
    obtain ⟨t, ht, h⟩ := ok_of_any h
    obtain ⟨s', hr, hl⟩ := ih h
    exact ⟨s', ((Run.refl s).tail (a := ()) (hP s hc) ht).trans hr, hl⟩

/-- A run of the engine is a run of its domain in which no event reaches a final operation. -/
theorem RunsVia.operation {P : EngineState σ → Prop} (h : E.RunsVia P s s') :
    Run E.domain.Step
      (fun state call => ¬call.cause.IsProposal → E.domain.isReplayFinal state = false)
      s.state s'.state := by
  refine Run.simulates (I := fun _ => True) h trivial (fun _ _ _ _ _ _ => trivial) ?_
  intro s _ t _ _ hst
  cases step_transition hst with
  | still state => exact state ▸ .refl _
  | delivery event queue clock u due live _ _ consults state =>
    obtain ⟨context, hr⟩ := consults.step
    exact state ▸ (Run.refl _).tail (fun _ => live) hr
  | proposal cause u _ proposed consults state =>
    obtain ⟨context, hr⟩ := consults.step
    exact state ▸ (Run.refl _).tail (fun hn => absurd proposed hn) hr

end Runs

end Engine

end OperateBench
