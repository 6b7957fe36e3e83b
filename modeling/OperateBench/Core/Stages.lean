import Mathlib.Logic.Relation
import OperateBench.Core.Horizon

/-! # The stages of a step

Whatever a step does to the queue, the record and the authored conditionals is a
sequence of a few stages: a row of the engine's own, an effect that the domain asked
for, the firing of conditionals. A delivery is noted once between two such sequences.
-/

namespace OperateBench

open Foundation EngineState Relation Calendar

variable {σ : Type} {E : Engine σ} {s s' s'' t : EngineState σ}

/-- In delivery order no event is earlier than the first. -/
theorem EventQueue.sort_head_le {queue queue' : EventQueue} (h : queue.sort = .ok queue')
    {event e : Event} (hn : queue'.pending.head? = some event) (he : e ∈ queue'.pending) :
    ∃ m n, strptime event.instant = .ok m ∧ strptime e.instant = .ok n ∧ m ≤ n := by
  obtain ⟨keyed, hk, h⟩ := bind_ok (sort_ok h).1
  have hp := pure_ok h
  have hs : (keyed.insertionSort fun a b => a.1.le b.1).Pairwise fun a b => a.1.le b.1 :=
    haveI : Std.Total fun a b : OrderKey × Event => a.1.le b.1 := ⟨fun a b => a.1.le_total b.1⟩
    haveI : IsTrans (OrderKey × Event) fun a b => a.1.le b.1 := ⟨fun _ _ _ => OrderKey.le_trans⟩
    List.pairwise_insertionSort _ keyed
  have hkeys : ∀ x ∈ keyed.insertionSort fun a b => a.1.le b.1,
      strptime x.2.instant = .ok x.1.instant := by
    intro x hx
    have ho := (withOrderKeys_ok hk).2 x ((List.perm_insertionSort _ keyed).mem_iff.mp hx)
    obtain ⟨n, hn, ho⟩ := bind_ok ho
    rw [← pure_ok ho]
    exact parseTimestamp_ok.mp hn
  revert hp hs hkeys
  generalize (keyed.insertionSort fun a b => a.1.le b.1) = sorted
  intro hp hs hkeys
  cases sorted with
  | nil =>
    rw [← hp] at hn
    cases hn
  | cons x sorted =>
    rw [← hp] at hn he
    obtain rfl : x.2 = event := Option.some.inj hn
    obtain ⟨y, hy, rfl⟩ := List.mem_map.mp he
    refine ⟨x.1.instant, y.1.instant, hkeys x List.mem_cons_self, hkeys y hy, ?_⟩
    rcases List.mem_cons.mp hy with rfl | hy
    · exact le_rfl
    · rcases List.rel_of_pairwise_cons hs hy with hlt | ⟨heq, _⟩
      · exact hlt.le
      · exact heq.le

/-- The rows the engine writes on its own account, timers apart. -/
def engineRows : List String :=
  ["event_observed", "event_audit_only", "event_rejected", "event_after_terminal", "agent_invoked",
    "agent_outcome", "outcome_rejected", "wait_declared", "wait_rejected",
    "wait_unresolved_at_horizon", "action_proposed", "action_rejected", "effect_accepted",
    "terminal_proposed", "terminal_rejected", "critical_violation", "retrieval_served",
    "retrieval_refused", "derived_context_invalidated", "episode_ended"]

/-- The later state differs in nothing that is scheduled, recorded or delivered. -/
structure EngineState.Alike (s s' : EngineState σ) : Prop where
  clock : s'.clock = s.clock
  queue : s'.queue = s.queue
  ledger : s'.ledger = s.ledger
  conditionals : s'.conditionals = s.conditionals
  delivered : s'.delivered = s.delivered

namespace Engine

inductive Stage (E : Engine σ) (s s' : EngineState σ) : Prop
  | inner (alike : Alike s s')
  | row {recordType : String} {payload : List (String × Value)} (own : recordType ∈ engineRows)
      (written : s.log recordType payload = .ok s')
  | effect {call : Call} {state : σ} {reduction : Reduction σ} {effect : Effect}
      (reduced : E.domain.reduce call state = .ok reduction) (asked : effect ∈ reduction.effects)
      (applied : s.applyEffect effect = .ok s')
  | fire {kind : TriggerKind} {typeName : String} {cycleId : Option String} {bindings : Bindings}
      (fired : s.fireConditionals kind typeName cycleId bindings = .ok s')

abbrev Stages (E : Engine σ) : EngineState σ → EngineState σ → Prop := ReflTransGen E.Stage

namespace Stages

theorem inner (h : Alike s s') : E.Stages s s' := .single (.inner h)

theorem row {recordType : String} {payload : List (String × Value)}
    (h : s.log recordType payload = .ok s') (own : recordType ∈ engineRows) :
    E.Stages s s' := .single (.row own h)

theorem fire {kind : TriggerKind} {typeName : String} {cycleId : Option String}
    {bindings : Bindings} (h : s.fireConditionals kind typeName cycleId bindings = .ok s') :
    E.Stages s s' := .single (.fire h)

end Stages

section Rows

variable {code detail : String}

theorem refuseInvocation_stages (h : s.refuseInvocation code detail = .ok s') : E.Stages s s' := by
  obtain ⟨t, ht, h⟩ := bind_ok h
  obtain rfl := pure_ok h
  exact (Stages.row ht (by decide)).trans (Stages.inner ⟨rfl, rfl, rfl, rfl, rfl⟩)

theorem refuseWait_stages (h : s.refuseWait code detail = .ok s') : E.Stages s s' := by
  obtain ⟨t, ht, h⟩ := bind_ok h
  obtain rfl := pure_ok h
  exact (Stages.row ht (by decide)).trans (Stages.inner ⟨rfl, rfl, rfl, rfl, rfl⟩)

theorem refuseOutcome_stages {turn : ℕ} (h : s.refuseOutcome turn detail = .ok s') :
    E.Stages s s' := by
  obtain ⟨t, ht, h⟩ := bind_ok h
  obtain rfl := pure_ok h
  exact (Stages.row ht (by decide)).trans (Stages.inner ⟨rfl, rfl, rfl, rfl, rfl⟩)

theorem invalidateDerivedContext_stages {cause : InvalidationCause} {turnIndex : ℕ}
    {actionType : Option String}
    (h : s.invalidateDerivedContext cause turnIndex actionType = .ok s') : E.Stages s s' := by
  refine ReflTransGen.trans (Stages.inner ?_) (Stages.row h (by decide))
  split <;> exact ⟨rfl, rfl, rfl, rfl, rfl⟩

theorem checkDeclaredWake_stages {event : Event} (h : s.checkDeclaredWake event = .ok s') :
    E.Stages s s' := by
  unfold checkDeclaredWake at h
  split at h
  · exact Except.ok.inj h ▸ .refl
  · split at h
    · exact Except.ok.inj h ▸ .refl
    · exact Stages.row h (by decide)

theorem outOfInvocations_stages {spent : Bool} (h : E.outOfInvocations s = .ok (spent, s')) :
    E.Stages s s' := by
  rcases outOfInvocations_ok h with ⟨_, rfl, _⟩ | ⟨_, _, detail, hr⟩
  · exact .refl
  · exact refuseInvocation_stages hr

theorem invoke_stages {trigger : Option Event} (h : E.invoke s trigger = .ok s') :
    E.Stages s s' := by
  obtain ⟨t, ht, h⟩ := bind_ok h
  obtain ⟨u, hu, h⟩ := bind_ok h
  obtain rfl := pure_ok h
  refine ReflTransGen.trans (Stages.inner ?_) ((Stages.row ht (by decide)).trans
    ((invalidateDerivedContext_stages hu).trans (Stages.inner ⟨rfl, rfl, rfl, rfl, rfl⟩)))
  exact ⟨rfl, rfl, rfl, rfl, rfl⟩

end Rows

section Reads

variable {turnIndex batchIndex : ℕ}

theorem recordResult_stages {entry : ToolResult × ℕ}
    (h : recordResult turnIndex batchIndex s entry = .ok s') : E.Stages s s' := by
  unfold recordResult at h
  obtain ⟨_, h⟩ := unless_ok h
  refine ReflTransGen.trans (Stages.inner ?_) (Stages.row h (by decide))
  split <;> exact ⟨rfl, rfl, rfl, rfl, rfl⟩

theorem serveBatch_stages {batch : RawRequests} (h : E.serveBatch s batch turnIndex = .ok s') :
    E.Stages s s' := by
  unfold serveBatch at h
  dsimp only at h
  split at h
  · cases h
  · obtain ⟨t, ht, h⟩ := bind_ok h
    obtain rfl := pure_ok h
    exact (Stages.row ht (by decide)).trans (Stages.inner ⟨rfl, rfl, rfl, rfl, rfl⟩)
  · obtain ⟨results, _, h⟩ := bind_ok h
    have hf := foldlM_related (R := E.Stages) (fun _ => .refl) (fun _ _ _ => .trans)
      (fun _ _ _ _ => recordResult_stages) h
    refine ReflTransGen.trans (Stages.inner ?_) hf
    exact ⟨rfl, rfl, rfl, rfl, rfl⟩

theorem declareWait_stages {wait : Wait} {ended : Bool}
    (h : E.declareWait s wait = .ok (ended, s')) : E.Stages s s' := by
  unfold declareWait at h
  dsimp only at h
  split at h
  · obtain ⟨t, ht, h⟩ := bind_ok h
    obtain ⟨_, rfl⟩ := Prod.mk.inj (pure_ok h)
    exact refuseWait_stages ht
  · split at h
    · obtain ⟨t, ht, h⟩ := bind_ok h
      obtain ⟨_, rfl⟩ := Prod.mk.inj (pure_ok h)
      exact refuseWait_stages ht
    · obtain ⟨fallbackAt, _, h⟩ := bind_ok h
      obtain ⟨t, ht, h⟩ := bind_ok h
      obtain ⟨_, rfl⟩ := Prod.mk.inj (pure_ok h)
      refine ReflTransGen.trans (Stages.inner ?_) (Stages.row ht (by decide))
      exact ⟨rfl, rfl, rfl, rfl, rfl⟩

end Reads

section Reductions

/-- What a domain's reduction leaves behind is taken over effect by effect. -/
theorem commit_stages {call : Call} {state : σ} {reduction : Reduction σ}
    (hr : E.domain.reduce call state = .ok reduction) (h : s.commit reduction = .ok s') :
    E.Stages s s' := by
  have hf := foldlM_related (R := E.Stages) (fun _ => .refl) (fun _ _ _ => .trans)
    (fun _ _ _ ha happ => .single (.effect hr ha happ)) h
  refine ReflTransGen.trans (Stages.inner ?_) hf
  exact ⟨rfl, rfl, rfl, rfl, rfl⟩

theorem commit_guarded_stages (cause : Cause) {guard : Option (String × String)}
    {reduction : Reduction σ}
    (hg : guarded s guard (E.domain.reduce ⟨E.context s, cause⟩ s.state) = .ok reduction)
    (h : s.commit reduction = .ok s') : E.Stages s s' := by
  rcases guarded_ok hg with hr | ⟨code, detail, rfl⟩
  · exact commit_stages hr h
  · exact commit_refused h ▸ .refl

theorem proposeAction_stages {actionType : String} {payload : Fields} {evidenceRefs : List String}
    {accepted : Bool}
    (h : E.proposeAction s actionType payload evidenceRefs = .ok (accepted, s')) :
    E.Stages s s' := by
  obtain ⟨s₀, h₀, h⟩ := bind_ok h
  obtain ⟨guard, _, h⟩ := bind_ok h
  obtain ⟨reduction, hg, h⟩ := bind_ok h
  obtain ⟨s₁, hc, h⟩ := bind_ok h
  have hs : E.Stages s s₁ := by
    refine ReflTransGen.trans (Stages.inner ?_) ((Stages.row h₀ (by decide)).trans
      (commit_guarded_stages (.action actionType payload evidenceRefs) hg hc))
    exact ⟨rfl, rfl, rfl, rfl, rfl⟩
  refine hs.trans ?_
  split at h
  · obtain ⟨s₂, h₂, h⟩ := bind_ok h
    obtain ⟨_, rfl⟩ := Prod.mk.inj (pure_ok h)
    exact (Stages.row h₂ (by decide)).trans (Stages.inner ⟨rfl, rfl, rfl, rfl, rfl⟩)
  · obtain ⟨s₂, h₂, h⟩ := bind_ok h
    obtain ⟨s₃, h₃, h⟩ := bind_ok h
    obtain ⟨s₄, h₄, h⟩ := bind_ok h
    obtain ⟨_, rfl⟩ := Prod.mk.inj (pure_ok h)
    refine ReflTransGen.trans (Stages.inner ?_) ((Stages.row h₂ (by decide)).trans
      ((invalidateDerivedContext_stages h₃).trans (Stages.fire h₄)))
    exact ⟨rfl, rfl, rfl, rfl, rfl⟩

theorem proposeTerminal_stages {outcome : Complete} {accepted : Bool}
    (h : E.proposeTerminal s outcome = .ok (accepted, s')) : E.Stages s s' := by
  obtain ⟨s₀, h₀, h⟩ := bind_ok h
  obtain ⟨guard, _, h⟩ := bind_ok h
  obtain ⟨reduction, hg, h⟩ := bind_ok h
  obtain ⟨s₁, hc, h⟩ := bind_ok h
  refine (Stages.row h₀ (by decide)).trans
    ((commit_guarded_stages (.terminal outcome.evidenceRefs) hg hc).trans ?_)
  split at h
  · obtain ⟨s₂, h₂, h⟩ := bind_ok h
    obtain ⟨_, rfl⟩ := Prod.mk.inj (pure_ok h)
    exact (Stages.row h₂ (by decide)).trans (Stages.inner ⟨rfl, rfl, rfl, rfl, rfl⟩)
  · obtain ⟨s₂, h₂, h⟩ := bind_ok h
    obtain ⟨_, rfl⟩ := Prod.mk.inj (pure_ok h)
    refine ReflTransGen.trans (Stages.inner ?_) (Stages.fire h₂)
    exact ⟨rfl, rfl, rfl, rfl, rfl⟩

theorem handle_stages {outcome : AgentOutcome} {ended : Bool}
    (h : E.handle s outcome = .ok (ended, s')) : E.Stages s s' := by
  cases outcome with
  | wait wait => exact declareWait_stages h
  | complete outcome => exact proposeTerminal_stages h
  | act outcome =>
    obtain ⟨⟨accepted, t⟩, ht, h⟩ := bind_ok h
    obtain ⟨_, rfl⟩ := Prod.mk.inj (pure_ok h)
    exact proposeAction_stages ht
  | ask outcome =>
    obtain ⟨⟨accepted, t⟩, ht, h⟩ := bind_ok h
    refine (proposeAction_stages ht).trans ?_
    cases accepted with
    | true => exact declareWait_stages h
    | false =>
      obtain ⟨_, rfl⟩ := Prod.mk.inj (pure_ok h)
      exact .refl
  | escalate outcome =>
    obtain ⟨⟨accepted, t⟩, ht, h⟩ := bind_ok h
    refine (proposeAction_stages ht).trans ?_
    cases accepted with
    | true => exact declareWait_stages h
    | false =>
      obtain ⟨_, rfl⟩ := Prod.mk.inj (pure_ok h)
      exact .refl

end Reductions

section Passes

theorem turnStep_stages {trigger : Option Event} {business turn : ℕ}
    (h : E.turnStep s trigger business turn = .ok s') : E.Stages s s' := by
  unfold turnStep at h
  split at h
  · obtain ⟨t, ht, h⟩ := bind_ok h
    obtain rfl := pure_ok h
    exact (refuseInvocation_stages ht).trans (Stages.inner ⟨rfl, rfl, rfl, rfl, rfl⟩)
  split at h
  · obtain ⟨t, ht, h⟩ := bind_ok h
    obtain rfl := pure_ok h
    exact (refuseInvocation_stages ht).trans (Stages.inner ⟨rfl, rfl, rfl, rfl, rfl⟩)
  obtain ⟨observation, _, h⟩ := bind_ok h
  obtain ⟨answer, _, h⟩ := bind_ok h
  have hs : E.Stages s { s with turnIndex := turn, asked := s.asked ++ [observation] } :=
    Stages.inner ⟨rfl, rfl, rfl, rfl, rfl⟩
  refine hs.trans ?_
  split at h
  · obtain ⟨t, ht, h⟩ := bind_ok h
    obtain rfl := pure_ok h
    exact (serveBatch_stages ht).trans (Stages.inner ⟨rfl, rfl, rfl, rfl, rfl⟩)
  · split at h
    · cases h
    · obtain ⟨t, ht, h⟩ := bind_ok h
      obtain rfl := pure_ok h
      exact (refuseOutcome_stages ht).trans (Stages.inner ⟨rfl, rfl, rfl, rfl, rfl⟩)
    · obtain ⟨s₀, h₀, h⟩ := bind_ok h
      obtain ⟨⟨ended, t⟩, ht, h⟩ := bind_ok h
      obtain rfl := pure_ok h
      exact (Stages.row h₀ (by decide)).trans ((handle_stages ht).trans
        (Stages.inner ⟨rfl, rfl, rfl, rfl, rfl⟩))

/-- A delivery is noted once. -/
theorem deliver_stages {event : Event} (h : E.deliver s event = .ok s') :
    ∃ t disposition code, E.Stages s t ∧ E.Stages (t.noteDelivery event disposition code) s' := by
  unfold deliver at h
  dsimp only at h
  split at h
  · obtain ⟨t, ht, h⟩ := bind_ok h
    obtain rfl := pure_ok h
    exact ⟨t, _, _, Stages.row ht (by decide), .refl⟩
  · obtain ⟨reduction, hr, h⟩ := bind_ok h
    obtain ⟨s₁, hc, h⟩ := bind_ok h
    have hr : E.domain.reduce ⟨E.context s, .event event⟩ s.state = .ok reduction := hr
    have hs : E.Stages s s₁ := commit_stages hr hc
    split at h
    · obtain ⟨s₂, h₂, h⟩ := bind_ok h
      obtain rfl := pure_ok h
      exact ⟨s₂, _, _, hs.trans (Stages.row h₂ (by decide)), .refl⟩
    · obtain ⟨s₂, h₂, h⟩ := bind_ok h
      obtain ⟨s₃, h₃, h⟩ := bind_ok h
      have hrow : E.Stages s₁ s₂ := Stages.row h₂ (by split <;> decide)
      refine ⟨s₂, _, _, hs.trans hrow, (Stages.fire h₃).trans ?_⟩
      split at h
      · exact pure_ok h ▸ .refl
      split at h
      · exact pure_ok h ▸ .refl
      · obtain ⟨s₄, h₄, h⟩ := bind_ok h
        obtain ⟨⟨spent, s₅⟩, h₅, h⟩ := bind_ok h
        refine (checkDeclaredWake_stages h₄).trans ((outOfInvocations_stages h₅).trans ?_)
        split at h
        · exact pure_ok h ▸ .refl
        · exact invoke_stages h

/-- Where a pass of the loop takes the clock: not back, and not past what is pending or past
the declared fallback. -/
structure Ticks (s : EngineState σ) (queue : EventQueue) (clock : SimulatedClock) : Prop where
  sorted : s.queue.sort = .ok queue
  later : s.clock.seconds ≤ clock.seconds
  clear : clock = s.clock ∨
    ∀ e ∈ queue.pending, ∀ n, strptime e.instant = .ok n → clock.seconds ≤ n
  unlapsed : clock = s.clock ∨
    ∀ fallbackAt n, s.fallbackAt = some fallbackAt → strptime fallbackAt = .ok n → clock.seconds ≤ n

theorem clockAtHorizon_le {horizonAt : String} {clock : SimulatedClock}
    (h : clockAtHorizon s horizonAt = .ok clock) : s.clock.seconds ≤ clock.seconds := by
  obtain ⟨horizon, _, h⟩ := bind_ok h
  obtain ⟨now, _, h⟩ := bind_ok h
  split at h
  · exact (SimulatedClock.advanceTo_ok h).2.1
  · rw [Except.ok.inj h]

/-- A fallback that comes due is earlier than all that is pending. -/
theorem clear_of_fallback {queue : EventQueue} {instant : String} {seconds : Int}
    (hs : s.queue.sort = .ok queue)
    (hd : s.fallbackDueBefore queue.pending.head? = .ok (some instant))
    (hi : strptime instant = .ok seconds) :
    ∀ e ∈ queue.pending, ∀ n, strptime e.instant = .ok n → seconds ≤ n := by
  intro e he n hn
  cases hh : queue.pending.head? with
  | none =>
    rw [List.head?_eq_none_iff.mp hh] at he
    cases he
  | some upcoming =>
    obtain ⟨m, k, hm, hk, hle⟩ := EventQueue.sort_head_le hs hh he
    obtain rfl := Except.ok.inj (hk.symm.trans hn)
    rw [hh] at hd
    unfold fallbackDueBefore at hd
    split at hd
    · cases Except.ok.inj hd
    · rename_i hnone
      cases hnone
    · rename_i fallbackAt event _ hsome
      obtain rfl := Option.some.inj hsome
      obtain ⟨fallback, hf, hd⟩ := bind_ok hd
      obtain ⟨due, he, hd⟩ := bind_ok hd
      obtain rfl := Except.ok.inj ((parseTimestamp_ok.mp he).symm.trans hm)
      split at hd
      · obtain rfl := Option.some.inj (pure_ok hd)
        obtain rfl := Except.ok.inj ((parseTimestamp_ok.mp hf).symm.trans hi)
        omega
      · cases pure_ok hd

/-- A fallback that is not due yet is no earlier than the next event. -/
theorem fallbackDueBefore_none {upcoming : Option Event} {fallbackAt : String} {n : Int}
    (hd : s.fallbackDueBefore upcoming = .ok none) (hf : s.fallbackAt = some fallbackAt)
    (hn : strptime fallbackAt = .ok n) :
    ∃ event m, upcoming = some event ∧ strptime event.instant = .ok m ∧ m ≤ n := by
  unfold fallbackDueBefore at hd
  rw [hf] at hd
  cases upcoming with
  | none => cases Except.ok.inj hd
  | some event =>
    obtain ⟨k, hk, hd⟩ := bind_ok hd
    obtain ⟨m, hm, hd⟩ := bind_ok hd
    obtain rfl := Except.ok.inj ((parseTimestamp_ok.mp hk).symm.trans hn)
    refine ⟨event, m, rfl, parseTimestamp_ok.mp hm, ?_⟩
    split at hd
    · cases pure_ok hd
    · omega

/-- One pass of the loop: the clock moves on, and then stages or a delivery follow. -/
theorem headStep_ticks (h : E.headStep s = .ok s') : s' = { s with control := .done } ∨
    ∃ queue clock, Ticks s queue clock ∧ (E.Stages { s with queue, clock } s' ∨
      ∃ event t disposition code, queue.pending.head? = some event ∧
        strptime event.instant = .ok clock.seconds ∧
        E.Stages { s with queue := queue.tail, clock } t ∧
        E.Stages (t.noteDelivery event disposition code) s') := by
  unfold headStep at h
  split at h
  · exact Or.inl (Except.ok.inj h).symm
  right
  obtain ⟨⟨next, queue⟩, hp, h⟩ := bind_ok h
  obtain ⟨hs, hn⟩ := EventQueue.peekNext_ok hp
  have hstay : Ticks s queue s.clock := ⟨hs, le_rfl, Or.inl rfl, Or.inl rfl⟩
  obtain ⟨due, hd, h⟩ := bind_ok h
  split at h
  · rename_i _ fallbackAt
    obtain ⟨beyond, _, h⟩ := bind_ok h
    split at h
    · obtain rfl := pure_ok h
      exact ⟨queue, s.clock, hstay, Or.inl (Stages.inner ⟨rfl, rfl, rfl, rfl, rfl⟩)⟩
    · obtain ⟨clock, hc, h⟩ := bind_ok h
      obtain ⟨t, ht, h⟩ := bind_ok h
      obtain ⟨⟨spent, u⟩, hu, h⟩ := bind_ok h
      obtain ⟨hm, hle, _⟩ := SimulatedClock.advanceTo_ok hc
      have hm := parseTimestamp_ok.mp hm
      have hclear : E.Stages t t.clearWait := Stages.inner ⟨rfl, rfl, rfl, rfl, rfl⟩
      refine ⟨queue, clock, ⟨hs, hle, Or.inr ?_, Or.inr ?_⟩, Or.inl ((Stages.row ht (by decide)).trans
        (hclear.trans ((outOfInvocations_stages hu).trans ?_)))⟩
      · exact clear_of_fallback hs (hn ▸ hd) hm
      · intro declaredAt n hf hdeclared
        rcases fallbackDueBefore_ok hd with ⟨_, hsome, hf'⟩ | hnone
        · obtain rfl := Option.some.inj hsome
          obtain rfl := Option.some.inj (hf.symm.trans hf')
          rw [Except.ok.inj (hm.symm.trans hdeclared)]
        · cases hnone
      · cases spent with
        | true =>
          obtain rfl := pure_ok h
          exact Stages.inner ⟨rfl, rfl, rfl, rfl, rfl⟩
        | false => exact invoke_stages h
  · have hempty : queue.pending = [] := List.head?_eq_none_iff.mp hn.symm
    unfold quiet at h
    split at h
    · obtain rfl := Except.ok.inj h
      exact ⟨queue, s.clock, hstay, Or.inl (Stages.inner ⟨rfl, rfl, rfl, rfl, rfl⟩)⟩
    · obtain ⟨t, hx, h⟩ := bind_ok h
      obtain rfl := pure_ok h
      obtain ⟨horizonAt, _, hx⟩ := bind_ok hx
      obtain ⟨clock, hc, hx⟩ := bind_ok hx
      obtain ⟨u, hl, hx⟩ := bind_ok hx
      obtain rfl := pure_ok hx
      refine ⟨queue, clock, ⟨hs, clockAtHorizon_le hc, Or.inr ?_, Or.inr ?_⟩, Or.inl
        ((Stages.row hl (by decide)).trans (Stages.inner ⟨rfl, rfl, rfl, rfl, rfl⟩))⟩
      · rw [hempty]
        nofun
      · intro fallbackAt n hf hn
        obtain ⟨event, _, hsome, _⟩ := fallbackDueBefore_none hd hf hn
        cases hsome
  · rename_i event _
    obtain ⟨beyond, _, h⟩ := bind_ok h
    split at h
    · obtain rfl := pure_ok h
      exact ⟨queue, s.clock, hstay, Or.inl (Stages.inner ⟨rfl, rfl, rfl, rfl, rfl⟩)⟩
    · obtain ⟨⟨popped, rest⟩, hpop, h⟩ := bind_ok h
      obtain ⟨rfl, rfl⟩ := Prod.mk.inj (Except.ok.inj
        ((EventQueue.popNext_of_peekNext hp).symm.trans hpop))
      obtain ⟨clock, hc, h⟩ := bind_ok h
      obtain ⟨hm, hle, _⟩ := SimulatedClock.advanceTo_ok hc
      obtain ⟨t, disposition, code, hbefore, hafter⟩ := deliver_stages h
      have hm := parseTimestamp_ok.mp hm
      refine ⟨queue, clock, ⟨hs, hle, Or.inr ?_, Or.inr ?_⟩, Or.inr
        ⟨event, t, disposition, code, hn.symm, hm, hbefore, hafter⟩⟩
      · intro e he n hn'
        obtain ⟨m, k, hm', hk, hle⟩ := EventQueue.sort_head_le hs hn.symm he
        obtain rfl := Except.ok.inj (hm.symm.trans hm')
        obtain rfl := Except.ok.inj (hk.symm.trans hn')
        exact hle
      · intro fallbackAt n hf hn'
        obtain ⟨_, m, hsome, hm', hle⟩ := fallbackDueBefore_none hd hf hn'
        obtain rfl := Option.some.inj hsome
        exact Except.ok.inj (hm.symm.trans hm') ▸ hle

/-- One step: stages on their own, stages after the clock moved on, or a delivery. -/
inductive Passage (E : Engine σ) (s s' : EngineState σ) : Prop
  | stages (stages : E.Stages s s')
  | moved {queue : EventQueue} {clock : SimulatedClock} (sorted : s.queue.sort = .ok queue)
      (later : s.clock.seconds ≤ clock.seconds) (stages : E.Stages { s with queue, clock } s')
  | delivery {queue : EventQueue} {clock : SimulatedClock} {event : Event} {t : EngineState σ}
      {disposition : Disposition} {code : String} (sorted : s.queue.sort = .ok queue)
      (next : queue.pending.head? = some event)
      (moment : strptime event.instant = .ok clock.seconds)
      (later : s.clock.seconds ≤ clock.seconds)
      (before : E.Stages { s with queue := queue.tail, clock } t)
      (after : E.Stages (t.noteDelivery event disposition code) s')

theorem headStep_passage (h : E.headStep s = .ok s') : E.Passage s s' := by
  rcases headStep_ticks h with rfl | ⟨queue, clock, hticks, hstages | hdelivery⟩
  · exact .stages (Stages.inner ⟨rfl, rfl, rfl, rfl, rfl⟩)
  · exact .moved hticks.sorted hticks.later hstages
  · obtain ⟨event, t, disposition, code, hn, hm, hbefore, hafter⟩ := hdelivery
    exact .delivery hticks.sorted hn hm hticks.later hbefore hafter

theorem step_passage (h : E.step s = .ok s') : E.Passage s s' := by
  unfold step at h
  split at h
  · exact headStep_passage h
  · exact .stages (turnStep_stages h)
  · exact Except.ok.inj h ▸ .stages .refl

end Passes

end Engine

end OperateBench
