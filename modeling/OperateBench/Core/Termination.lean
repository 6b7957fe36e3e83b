import OperateBench.Core.Spending

/-! # Every run comes to its end

An invocation is paid for out of a declared allowance, and so is a call inside one. A
delivery that opens no invocation takes an event out of the world, and puts none in as
long as the domain arms no timers on events. So some number of steps always gets a run
behind its loop, unless something is raised on the way.
-/

namespace OperateBench

open Foundation EngineState

variable {σ : Type} {E : Engine σ} {s s' t : EngineState σ}

/-- The domain arms no timers when it reduces an event. -/
def OperationDomain.Unarming (domain : OperationDomain σ) : Prop :=
  ∀ context event state reduction,
    domain.reduce ⟨context, .event event⟩ state = .ok reduction →
    ∀ eventId eventType actorId delayMinutes payload triggersAgent,
      Effect.scheduleTimer eventId eventType actorId delayMinutes payload triggersAgent ∉
        reduction.effects

namespace Engine

section Load

/-- What may still be delivered. -/
def load (s : EngineState σ) : ℕ := s.queue.pending.length + s.conditionals.length

theorem cancelTimer_load {eventId : String} (h : s.cancelTimer eventId = .ok s') :
    load s' ≤ load s := by
  have hle : (s.queue.without eventId).pending.length ≤ s.queue.pending.length :=
    List.length_filter_le _ _
  unfold cancelTimer at h
  dsimp only [EventQueue.cancel] at h
  split at h
  · rw [log_ok h]
    exact Nat.add_le_add_right hle _
  · rw [← Except.ok.inj h]
    exact Nat.add_le_add_right hle _

/-- Effects that arm nothing add nothing to what may be delivered. -/
theorem commit_load {reduction : Reduction σ}
    (unarming : ∀ eventId eventType actorId delayMinutes payload triggersAgent,
      Effect.scheduleTimer eventId eventType actorId delayMinutes payload triggersAgent ∉
        reduction.effects) (h : s.commit reduction = .ok s') : load s' ≤ load s := by
  have hfold : load s' ≤ load { s with state := reduction.state } := by
    refine foldlM_related (R := fun a b => load b ≤ load a) (fun _ => le_rfl)
      (fun _ _ _ hab hbc => hbc.trans hab) (fun a effect b hm happ => ?_) h
    cases effect with
    | record recordType payload =>
      obtain ⟨ledger, _, happ⟩ := bind_ok happ
      exact pure_ok happ ▸ le_rfl
    | scheduleTimer => exact absurd hm (unarming _ _ _ _ _ _)
    | cancelTimer => exact cancelTimer_load happ
  exact hfold

/-- Conditionals that fire move into the queue. -/
theorem fireMatching_load {now typeName : String} {kind : TriggerKind} {cycleId : Option String}
    {bindings : Bindings} {events remaining : List PlannedEvent} {queue queue' : EventQueue}
    (h : fireMatching now kind typeName cycleId bindings events queue = .ok (remaining, queue')) :
    queue'.pending.length + remaining.length = queue.pending.length + events.length := by
  induction events generalizing queue remaining with
  | nil =>
    obtain ⟨rfl, rfl⟩ := Prod.mk.inj (Except.ok.inj h)
    rfl
  | cons planned events ih =>
    rw [fireMatching] at h
    split at h
    · cases h
    · split at h
      · obtain ⟨instant, _, h⟩ := bind_ok h
        obtain ⟨q, hq, h⟩ := bind_ok h
        have hlen := ih h
        rw [(EventQueue.schedule_ok hq).2.1, List.length_append, List.length_singleton] at hlen
        rw [hlen, List.length_cons]
        omega
      · obtain ⟨⟨rest, q⟩, hr, h⟩ := bind_ok h
        obtain ⟨rfl, rfl⟩ := Prod.mk.inj (pure_ok h)
        have hlen := ih hr
        rw [List.length_cons, List.length_cons]
        omega

theorem fireConditionals_load {kind : TriggerKind} {typeName : String} {cycleId : Option String}
    {bindings : Bindings} (h : s.fireConditionals kind typeName cycleId bindings = .ok s') :
    load s' = load s := by
  obtain ⟨⟨conditionals, queue⟩, hq, h⟩ := bind_ok h
  obtain rfl := pure_ok h
  exact fireMatching_load hq

theorem Reported.load_le (unarming : E.domain.Unarming) {event : Event}
    (h : E.Reported s event s') : load s' ≤ load s := by
  cases h with
  | late => exact le_rfl
  | rejected _ reduced committed _ =>
    have hcommit := commit_load (unarming _ _ _ _ reduced) committed
    exact hcommit
  | accepted _ reduced committed _ fired =>
    have hcommit := commit_load (unarming _ _ _ _ reduced) committed
    rw [fireConditionals_load fired]
    exact hcommit

end Load

section Burden

/-- How far the program is from the end of the loop, between two invocations. -/
def phase (E : Engine σ) : Control → ℕ
  | .done => 0
  | .head => 1
  | .turn _ _ turn => 2 + (E.callLimit - turn).toNat

/-- What is left to spend: invocations first, then calls of the agent, then deliveries. -/
def burden (E : Engine σ) (s : EngineState σ) : ℕ × ℕ × ℕ :=
  ((E.plan.maxInvocations - s.invocations).toNat, E.phase s.control, load s)

abbrev Lighter : ℕ × ℕ × ℕ → ℕ × ℕ × ℕ → Prop := Prod.Lex (· < ·) (Prod.Lex (· < ·) (· < ·))

theorem lighter_wf : WellFounded Lighter :=
  (Prod.lex ⟨_, Nat.lt_wfRel.wf⟩ (Prod.lex ⟨_, Nat.lt_wfRel.wf⟩ ⟨_, Nat.lt_wfRel.wf⟩)).wf

theorem lighter_of_invoked (allowed : s.invocations < E.plan.maxInvocations)
    (h : s'.invocations = s.invocations + 1) : Lighter (E.burden s') (E.burden s) := by
  refine Prod.Lex.left _ _ ?_
  rw [h]
  omega

theorem lighter_of_phase (h : s'.invocations = s.invocations)
    (hp : E.phase s'.control < E.phase s.control) : Lighter (E.burden s') (E.burden s) := by
  rw [burden, h]
  exact Prod.Lex.right _ (Prod.Lex.left _ _ hp)

theorem lighter_of_load (h : s'.invocations = s.invocations) (hc : s'.control = s.control)
    (hl : load s' < load s) : Lighter (E.burden s') (E.burden s) := by
  rw [burden, h, hc]
  exact Prod.Lex.right _ (Prod.Lex.right _ hl)

/-- Inside an invocation a step uses up a call of the agent, or leaves the invocation. -/
theorem Spends.lighter (h : E.Spends s s') (hc : s.control.inTurn = true) :
    Lighter (E.burden s') (E.burden s) := by
  have hleave : s'.invocations = s.invocations → s'.control = .head →
      Lighter (E.burden s') (E.burden s) := by
    intro hi hhead
    refine lighter_of_phase hi ?_
    cases hs : s.control with
    | turn trigger business turn =>
      rw [hhead, phase, phase]
      omega
    | head | done =>
      rw [hs] at hc
      cases hc
  have hnext : ∀ {trigger business business' turn}, E.Asks s s' trigger business turn →
      s'.control = .turn trigger business' (turn + 1) → Lighter (E.burden s') (E.burden s) := by
    intro trigger business business' turn asks after
    refine lighter_of_phase asks.invocations ?_
    have hlt := asks.allowed
    rw [after, asks.before, phase, phase]
    omega
  cases h with
  | idle behind =>
    rw [behind] at hc
    cases hc
  | passed before | invoked before =>
    rw [before] at hc
    cases hc
  | exceeded _ after _ invocations => exact hleave invocations after
  | refused asks after | served _ asks after => exact hnext asks after
  | answered asks after =>
    rcases after with after | after
    · exact hleave asks.invocations after
    · exact hnext asks after

theorem Passed.lighter (unarming : E.domain.Unarming) (hc : s.control = .head)
    (h : E.Passed s s') : Lighter (E.burden s') (E.burden s) := by
  have hdone : ∀ u : EngineState σ, u.invocations = s.invocations → u.control = .done →
      Lighter (E.burden u) (E.burden s) := by
    intro u hi hu
    refine lighter_of_phase hi ?_
    rw [hu, hc]
    exact Nat.zero_lt_one
  cases h with
  | stopped | horizon | empty | unresolved => exact hdone _ rfl rfl
  | fallback _ _ _ summoned =>
    cases summoned with
    | spent => exact hdone _ rfl rfl
    | invoked allowed => exact lighter_of_invoked allowed rfl
  | delivery due sorted _ arrived =>
    rename_i queue _ event _
    have hlen : queue.tail.pending.length < s.queue.pending.length := by
      have hp := (inDeliveryOrder_perm (EventQueue.sort_ok sorted).1).length_eq
      have hpos := List.length_pos_of_mem due.mem
      have htail : queue.tail.pending.length = queue.pending.length - 1 := List.length_tail
      omega
    cases arrived with
    | silent reported =>
      have ha := reported.account
      refine lighter_of_load (congrArg Account.invocations ha) (congrArg Account.control ha) ?_
      exact (reported.load_le unarming).trans_lt (Nat.add_lt_add_right hlen _)
    | summons reported live summoned triggers heard =>
      rename_i t spent
      have ha := reported.account
      have hl := (reported.load_le unarming).trans_lt (Nat.add_lt_add_right hlen _)
      cases summoned with
      | spent =>
        exact lighter_of_load (congrArg Account.invocations ha) (congrArg Account.control ha) hl
      | invoked allowed =>
        have hi : t.invocations = s.invocations := congrArg Account.invocations ha
        have allowed : (t.invocations : Int) < E.plan.maxInvocations := allowed
        exact lighter_of_invoked (hi ▸ allowed) (congrArg (· + 1) hi)

/-- A step that is not behind the loop lightens the burden. -/
theorem step_lighter (unarming : E.domain.Unarming) (spares : E.domain.Spares meteredRows)
    (hc : s.control ≠ .done) (h : E.step s = .ok s') : Lighter (E.burden s') (E.burden s) := by
  cases hs : s.control with
  | done => exact absurd hs hc
  | head =>
    rw [step, hs] at h
    exact (headStep_passed hs h).lighter unarming hs
  | turn trigger business turn => exact (step_spends spares h).lighter (by rw [hs]; rfl)

end Burden

section Runs

theorem runSteps_done (hc : s.control = .done) (n : ℕ) : E.runSteps n s = .ok s := by
  induction n with
  | zero => rfl
  | succ n ih => rw [runSteps, step, hc, ok_bind, ih]

/-- From every state some number of steps gets behind the loop, or something is raised. -/
theorem runSteps_ends (unarming : E.domain.Unarming) (spares : E.domain.Spares meteredRows)
    (s : EngineState σ) : ∃ n, (∃ e, E.runSteps n s = .error e) ∨
      ∃ s', E.runSteps n s = .ok s' ∧ s'.control = .done := by
  induction hb : E.burden s using lighter_wf.induction generalizing s with
  | _ b ih =>
    subst hb
    by_cases hc : s.control = .done
    · exact ⟨0, Or.inr ⟨s, rfl, hc⟩⟩
    cases ht : E.step s with
    | error e =>
      refine ⟨1, Or.inl ⟨e, ?_⟩⟩
      rw [runSteps, ht]
      rfl
    | ok t =>
      obtain ⟨n, hn⟩ := ih _ (step_lighter unarming spares hc ht) t rfl
      refine ⟨n + 1, ?_⟩
      rw [runSteps, ht]
      exact hn

/-- From some number of steps on, a run has one and the same result. -/
def Terminates (E : Engine σ) : Prop :=
  ∃ fuel result, result ≠ .ok none ∧ ∀ more, fuel ≤ more → E.run more = result

theorem terminates (unarming : E.domain.Unarming) (spares : E.domain.Spares meteredRows) :
    E.Terminates := by
  cases hs : E.start with
  | error e =>
    refine ⟨0, .error e, nofun, fun more _ => ?_⟩
    rw [run, hs]
    rfl
  | ok s =>
    obtain ⟨fuel, ⟨e, he⟩ | ⟨t, ht, hc⟩⟩ := runSteps_ends unarming spares s
    · refine ⟨fuel, .error e, nofun, fun more hm => ?_⟩
      obtain ⟨rest, rfl⟩ := Nat.exists_eq_add_of_le hm
      rw [run, hs, ok_bind, runSteps_add, he]
      rfl
    · refine ⟨fuel, (E.finish t).map some, ?_, fun more hm => ?_⟩
      · cases E.finish t <;> nofun
      · obtain ⟨rest, rfl⟩ := Nat.exists_eq_add_of_le hm
        rw [run, hs, ok_bind, runSteps_add, ht, ok_bind, runSteps_done hc, ok_bind]
        simp only [hc]
        cases E.finish t <;> rfl

end Runs

end Engine

end OperateBench
