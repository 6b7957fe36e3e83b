import OperateBench.Core.Passes

/-! # The standing wait

Proposals, terminals and deliveries leave alone what the engine keeps on its own account.
The wait and its fallback change where a wait is accepted, where the fallback fires, and
where the agent is invoked, and nowhere else.
-/

namespace OperateBench

open Foundation EngineState Calendar

variable {σ : Type} {E : Engine σ} {s s' t : EngineState σ}

namespace Engine

/-- What the engine keeps on its own account. -/
structure Account where
  clock : SimulatedClock
  activeWait : Option Wait
  fallbackAt : Option String
  invocations : ℕ
  retrievalBatches : ℕ
  halt : Option Halt
  control : Control
  turnIndex : ℕ
  asked : List AgentObservation

def account (s : EngineState σ) : Account where
  clock := s.clock
  activeWait := s.activeWait
  fallbackAt := s.fallbackAt
  invocations := s.invocations
  retrievalBatches := s.retrievalBatches
  halt := s.halt
  control := s.control
  turnIndex := s.turnIndex
  asked := s.asked

section Keeping

theorem commit_account {reduction : Reduction σ} (h : s.commit reduction = .ok s') :
    account s' = account s := by
  obtain ⟨queue, timerCounter, es, -, rfl⟩ := commit_ok h
  rfl

theorem fireConditionals_account {kind : TriggerKind} {typeName : String}
    {cycleId : Option String} {bindings : Bindings}
    (h : s.fireConditionals kind typeName cycleId bindings = .ok s') : account s' = account s := by
  obtain ⟨conditionals, queue, rfl⟩ := fireConditionals_ok h
  rfl

theorem Proposed.account {actionType : String} {payload : Fields} {evidenceRefs : List String}
    {accepted : Bool} (h : E.Proposed s actionType payload evidenceRefs accepted s') :
    account s' = account s := by
  cases h with
  | stopped => rfl
  | refused _ _ committed _ =>
    have hc := commit_account committed
    exact hc
  | accepted _ _ committed _ fired =>
    have hc := commit_account committed
    exact (fireConditionals_account fired).trans hc

theorem Concluded.account {outcome : Complete} {accepted : Bool}
    (h : E.Concluded s outcome accepted s') : account s' = account s := by
  cases h with
  | stopped => rfl
  | refused _ _ committed _ =>
    have hc := commit_account committed
    exact hc
  | accepted _ _ committed _ fired =>
    have hc := commit_account committed
    exact (fireConditionals_account fired).trans hc

theorem Reported.account {event : Event} (h : E.Reported s event s') :
    account s' = account s := by
  cases h with
  | late => rfl
  | rejected _ _ committed _ =>
    have hc := commit_account committed
    exact hc
  | accepted _ _ committed _ fired =>
    have hc := commit_account committed
    exact (fireConditionals_account fired).trans hc

end Keeping

section Lapses

/-- What became of the wait and its fallback in one step. -/
inductive Lapse (E : Engine σ) (s s' : EngineState σ) : Prop
  | stands (activeWait : s'.activeWait = s.activeWait) (fallback : s'.fallbackAt = s.fallbackAt)
      (invocations : s'.invocations = s.invocations)
      (control : s'.control.inTurn = true → s.control.inTurn = true)
  | declared {wait : Wait} (turn : s.control.inTurn = true) (ended : s'.control.inTurn = false)
      (clock : s'.clock = s.clock) (invocations : s'.invocations = s.invocations)
      (activeWait : s'.activeWait = some wait)
      (fallback : fallbackInstant s wait = .ok s'.fallbackAt)
  | fired {fallbackAt : String} {es : List Entry} (outside : s.control.inTurn = false)
      (declared : s.fallbackAt = some fallbackAt)
      (moment : strptime fallbackAt = .ok s'.clock.seconds)
      (record : s'.ledger = s.ledger.extend s'.clock.now
        (entry "wait_declared" [("fallback_fired", .bool true)] :: es))
      (activeWait : s'.activeWait = none) (cleared : s'.fallbackAt = none)
  | woken (outside : s.control.inTurn = false) (invoked : s'.invocations = s.invocations + 1)
      (activeWait : s'.activeWait = none) (cleared : s'.fallbackAt = none)

/-- Whatever the domain did before, a wait that is accepted ends the invocation. -/
theorem Waited.lapse {wait : Wait} {ended : Bool} {turn : Control} {turnIndex : ℕ}
    {asked : List AgentObservation} (h : E.Waited t wait ended s')
    (ha : account t = { account s with turnIndex, asked }) (hc : s.control.inTurn = true) :
    E.Lapse s { s' with control := if ended then .head else turn } := by
  cases h with
  | refused =>
    exact .stands (congrArg Account.activeWait ha) (congrArg Account.fallbackAt ha)
      (congrArg Account.invocations ha) fun _ => hc
  | standing _ fallback =>
    have hclock : t.clock = s.clock := congrArg Account.clock ha
    rw [fallbackInstant, hclock] at fallback
    exact .declared hc rfl hclock (congrArg Account.invocations ha) rfl fallback

theorem lapse_of_account {control : Control} {turnIndex : ℕ} {asked : List AgentObservation}
    (ha : account s' = { account s with turnIndex, asked })
    (hc : s.control.inTurn = true) : E.Lapse s { s' with control } :=
  .stands (congrArg Account.activeWait ha) (congrArg Account.fallbackAt ha)
    (congrArg Account.invocations ha) fun _ => hc

/-- Serving results moves nothing on the account but the count of batches. -/
theorem serving_account (results : List ToolResult) (s : EngineState σ) :
    account (results.foldl serving s) = account s := by
  induction results generalizing s with
  | nil => rfl
  | cons result results ih =>
    rw [List.foldl_cons, ih]
    unfold serving
    split <;> rfl

theorem Turned.lapse {trigger : Option Event} {business turn : ℕ}
    (h : E.Turned s trigger business turn s') (hc : s.control.inTurn = true) : E.Lapse s s' := by
  cases h with
  | spent => exact .stands rfl rfl rfl fun _ => hc
  | malformed => exact .stands rfl rfl rfl fun _ => hc
  | read _ batched =>
    cases batched with
    | refused => exact .stands rfl rfl rfl fun _ => hc
    | served =>
      exact .stands (congrArg Account.activeWait (serving_account _ _))
        (congrArg Account.fallbackAt (serving_account _ _))
        (congrArg Account.invocations (serving_account _ _)) fun _ => hc
  | answered _ _ handled =>
    cases handled with
    | wait waited => exact waited.lapse rfl hc
    | complete concluded => exact lapse_of_account concluded.account hc
    | act proposed => exact lapse_of_account proposed.account hc
    | ask proposed waited => exact waited.lapse proposed.account hc
    | unasked proposed => exact lapse_of_account proposed.account hc
    | escalate proposed waited => exact waited.lapse proposed.account hc
    | unescalated proposed => exact lapse_of_account proposed.account hc

theorem Summoned.lapse {clock : SimulatedClock} {trigger : Option Event} {spent : Bool}
    (h : E.Summoned t trigger spent s') (ha : account t = { account s with clock })
    (hc : s.control.inTurn = false) : E.Lapse s s' := by
  cases h with
  | spent =>
    refine .stands (congrArg Account.activeWait ha) (congrArg Account.fallbackAt ha)
      (congrArg Account.invocations ha) fun hturn => ?_
    have hcontrol : t.control = s.control := congrArg Account.control ha
    exact hcontrol ▸ hturn
  | invoked =>
    refine .woken hc ?_ rfl rfl
    exact congrArg (· + 1) (congrArg Account.invocations ha)

theorem Passed.lapse (h : E.Passed s s') (hc : s.control.inTurn = false) : E.Lapse s s' := by
  cases h with
  | stopped => exact .stands rfl rfl rfl nofun
  | horizon => exact .stands rfl rfl rfl nofun
  | empty => exact .stands rfl rfl rfl nofun
  | unresolved => exact .stands rfl rfl rfl nofun
  | fallback _ declared moved summoned =>
    cases summoned with
    | spent => exact .fired hc declared moved.moment rfl rfl rfl
    | invoked => exact .fired hc declared moved.moment rfl rfl rfl
  | delivery _ _ _ arrived =>
    cases arrived with
    | silent reported =>
      have ha := reported.account
      refine .stands (congrArg Account.activeWait ha) (congrArg Account.fallbackAt ha)
        (congrArg Account.invocations ha) fun hturn => ?_
      have hcontrol : s'.control = s.control := congrArg Account.control ha
      exact hcontrol ▸ hturn
    | summons reported _ summoned => exact summoned.lapse reported.account hc

theorem step_lapse (h : E.step s = .ok s') : E.Lapse s s' := by
  unfold step at h
  split at h
  · rename_i hc
    exact (headStep_passed hc h).lapse (by rw [hc]; rfl)
  · rename_i hc
    exact (turnStep_turned h).lapse (by rw [hc]; rfl)
  · exact Except.ok.inj h ▸ .stands rfl rfl rfl id

end Lapses

end Engine

end OperateBench
