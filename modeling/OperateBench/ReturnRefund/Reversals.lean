import OperateBench.ReturnRefund.Deadlines

/-! # Reversals before the terminal

A settlement that is reversed inside the cooldown is reopened, and its timer with it. A
reversal that comes before the provisional close is refused and forgotten, and nothing
looks for it again. As long as none comes so early, no success is ever finalised over a
settlement that was reversed.
-/

namespace OperateBench.ReturnRefund

open Foundation EngineState

section Records

variable {op : ReturnRefundOperation} {s : ReturnRefundState} {now : String} {cause : Cause}
  {t : Transaction} {context : EnvironmentContext} {r : Reduction ReturnRefundState}

/-- The event takes the settlement of the refund back. -/
structure Reverses (op : ReturnRefundOperation) (event : Event) (refund : Refund) : Prop where
  named : EventType.ofText? event.eventType = some .refundSettlementReversed
  authorised : ∃ actor, op.spec.actors.get? event.actorId = some actor ∧
    actor.holds "reverse_refund" = true
  request : event.payload.text? "refund_request_id" = some refund.refundRequestId
  cycle : event.payload.text? "cycle_id" = some refund.cycleId

/-- A provisional close stands over the refund of the current cycle. -/
def Closing (s : ReturnRefundState) : Prop :=
  ∀ p, s.provisional = some p → s.currentCycleId = some p.cycleId ∧
    ∃ refund, s.refunds.get? p.refundRequestId = some refund ∧ refund.cycleId = p.cycleId

theorem Closing.of_eq {s' : ReturnRefundState} (h : Closing s)
    (hp : s'.provisional = s.provisional) (hc : s'.currentCycleId = s.currentCycleId)
    (hr : s'.refunds = s.refunds) : Closing s' := by
  unfold Closing
  rw [hp, hc, hr]
  exact h

theorem Closing.put {obligations : Duties} {phase : Phase} {refund refund' : Refund}
    (h : Closing s) (onFile : s.refunds.get? refund.refundRequestId = some refund)
    (hid : refund'.refundRequestId = refund.refundRequestId)
    (hcycle : refund'.cycleId = refund.cycleId) :
    Closing { s with refunds := s.refunds.put refund', obligations, phase } := by
  intro p hp
  obtain ⟨hcurrent, closed, hg, hc⟩ := h p hp
  refine ⟨hcurrent, ?_⟩
  by_cases he : refund'.refundRequestId = p.refundRequestId
  · refine ⟨refund', (Registry.get?_put _ _ _).trans (if_pos he), ?_⟩
    rw [hid.symm.trans he, hg] at onFile
    rw [hcycle, ← Option.some.inj onFile, hc]
  · exact ⟨closed, (Registry.get?_put_of_ne _ he).trans hg, hc⟩

theorem Commit.closing (hc : Commit op now s cause t) (hs : Coherent op s) (h : Closing s) :
    Closing t.state := by
  cases hc with
  | returnRequested _ first =>
    intro p hp
    have hnone : s.provisional.isSome = false := by
      have htable := hs.table
      rw [first] at htable
      exact htable.of_new.2.2.2.2
    rw [show s.provisional = some p from hp] at hnone
    cases hnone
  | settled _ onFile => exact h.put (Registry.get?_ident onFile) rfl rfl
  | refundRequested _ ready =>
    intro p hp
    have hnone := (hs.table.of_ready ready).2.2.2
    rw [show s.provisional = some p from hp] at hnone
    cases hnone
  | reversed => exact nofun
  | finalized => exact nofun
  | provisionallyClosed _ _ current =>
    rintro p ⟨⟩
    obtain ⟨hm, hcycle⟩ := currentRefund_mem current
    exact ⟨hcycle.symm, _, Registry.mem_values_iff.mp hm, rfl⟩
  | _ => exact h.of_eq rfl rfl rfl

/-- A success was finalised over a settlement that stands, when the cooldown was over. -/
def Finalised (s : ReturnRefundState) : Prop :=
  ∀ terminal, s.terminal = some terminal → s.replayFinal = true ∧
    (terminal.outcome = .completedRefundSettled → ∃ requestId refund,
      terminal.refundRequestId = some requestId ∧ s.refunds.get? requestId = some refund ∧
      refund.status = .settled)

theorem Commit.finalised (hc : Commit op now s cause t) (hlive : s.replayFinal = false)
    (h : Finalised s) : Finalised t.state := by
  have hnone : s.terminal = none := by
    cases ht : s.terminal with
    | none => rfl
    | some terminal => exact absurd (h terminal ht).1 (by simp [hlive])
  cases hc with
  | finalized _ _ _ _ _ _ _ _ _ onFile settled =>
    rintro terminal ⟨⟩
    exact ⟨rfl, fun _ => ⟨_, _, rfl, onFile, settled⟩⟩
  | closed _ closes =>
    rintro terminal ⟨⟩
    refine ⟨rfl, fun ho => ?_⟩
    obtain rfl : _ = TerminalOutcome.completedRefundSettled := ho
    revert closes
    generalize s.phase = before
    rintro ⟨⟩
  | _ =>
    intro terminal ht
    rw [show s.terminal = some terminal from ht] at hnone
    cases hnone

/-- What ends the operation in success is the cooldown of the provisional close. -/
theorem Commit.success (hc : Commit op now s cause t) (hnone : s.terminal = none)
    {terminal : Terminal} (ht : t.state.terminal = some terminal)
    (ho : terminal.outcome = .completedRefundSettled) :
    ∃ p event fired bound, s.provisional = some p ∧
      terminal.refundRequestId = some p.refundRequestId ∧ terminal.cycleId = some p.cycleId ∧
      terminal.instant = now ∧ cause = .event event ∧ strptime event.instant = .ok fired ∧
      strptime p.expiresAt = .ok bound ∧ bound ≤ fired := by
  cases hc with
  | finalized _ _ closed _ moment limit late =>
    cases ht
    exact ⟨_, _, _, _, closed, rfl, rfl, rfl, rfl, moment, limit, late⟩
  | closed _ closes =>
    cases ht
    obtain rfl : _ = TerminalOutcome.completedRefundSettled := ho
    revert closes
    generalize s.phase = before
    rintro ⟨⟩
  | _ =>
    rw [show s.terminal = some terminal from ht] at hnone
    cases hnone

/-- The settlement of the refund was taken back. -/
def IsReversed (refunds : Registry Refund.refundRequestId) (requestId : String) : Prop :=
  ∃ refund, refunds.get? requestId = some refund ∧ refund.status = .reversed

theorem IsReversed.put {refunds : Registry Refund.refundRequestId} {requestId k : String}
    {refund refund' : Refund} (h : IsReversed refunds requestId)
    (onFile : refunds.get? k = some refund) (hstatus : refund.status ≠ .reversed)
    (hid : refund'.refundRequestId = refund.refundRequestId) :
    IsReversed (refunds.put refund') requestId := by
  obtain ⟨old, hg, hreversed⟩ := h
  refine ⟨old, (Registry.get?_put_of_ne _ fun he => hstatus ?_).trans hg, hreversed⟩
  have hg' := Registry.get?_ident onFile
  rw [← hid, he, hg] at hg'
  rwa [← Option.some.inj hg']

/-- What was reversed stays so. -/
theorem Commit.isReversed (hc : Commit op now s cause t) {requestId : String}
    (h : IsReversed s.refunds requestId) : IsReversed t.state.refunds requestId := by
  cases hc with
  | settled _ onFile requested => exact h.put onFile (by rw [requested]; nofun) rfl
  | reversed _ onFile settled => exact h.put onFile (by rw [settled]; nofun) rfl
  | refundRequested =>
    obtain ⟨refund, hg, hreversed⟩ := h
    exact ⟨refund, get?_put_fresh (get?_allocate _ _) hg, hreversed⟩
  | _ => exact h

/-- A reversal inside the cooldown is accepted, and the settlement is taken back. -/
theorem reduceSettlementReversed_closing {event : Event} {refund : Refund} (hs : Closing s)
    (hcoherent : Coherent op s) (hcancels : Reverses op event refund)
    (hm : refund ∈ s.refunds.values) (hsettled : refund.status = .settled)
    (hclosed : s.provisional.isSome)
    (h : op.reduceSettlementReversed s event context = .ok r) :
    IsReversed r.state.refunds refund.refundRequestId := by
  obtain ⟨p, hp⟩ := Option.isSome_iff_exists.mp hclosed
  obtain ⟨hcurrent, closed, hg, hcycle⟩ := hs p hp
  have hnow : some refund.cycleId = s.currentCycleId := by
    by_contra hpast
    rw [hcoherent.past refund hm hpast] at hsettled
    cases hsettled
  have hsame : closed = refund := hcoherent.distinct closed (Registry.mem_of_get? hg) refund hm
    (hcycle.trans (Option.some.inj (hcurrent.symm.trans hnow.symm)))
  subst hsame
  have hrequest : p.refundRequestId = closed.refundRequestId := (Registry.ident_of_get? hg).symm
  unfold ReturnRefundOperation.reduceSettlementReversed at h
  simp only [text_of_text? hcancels.request, Registry.mem_values_iff.mp hm, hp, hsettled, hrequest,
    hcancels.cycle, ne_eq, not_true_eq_false, or_self, if_false] at h
  obtain ⟨t, ht, h⟩ := bind_ok h
  obtain rfl := Except.ok.inj h
  have hd := Transaction.openObligation_ok ht
  rw [Transaction.state_record, hd.state]
  exact ⟨_, Registry.get?_put_self _ _, rfl⟩

end Records

section Runs

variable {op : ReturnRefundOperation} {sha256 : Value → String} {agent : OperationAgent}
  {operationId instanceId : String} {s s₁ s₂ s' : EngineState ReturnRefundState}

/-- The record is coherent, and what is pending passes the checks. -/
structure Orderly (op : ReturnRefundOperation) (s : EngineState ReturnRefundState) : Prop where
  coherent : Coherent op s.state
  identified : Identified s.state
  inbox : Inbox op s
  closing : Closing s.state
  finalised : Finalised s.state

theorem Orderly.step (hs : (op.engine sha256 agent operationId instanceId).step s = .ok s')
    (h : Orderly op s) : Orderly op s' := by
  have hinbox := h.inbox.step hs h.coherent h.identified
  have hsame : s'.state = s.state → Orderly op s' := fun state =>
    ⟨state ▸ h.coherent, state ▸ h.identified, hinbox, state ▸ h.closing, state ▸ h.finalised⟩
  cases step_change hs with
  | still state => exact hsame state
  | late _ _ _ state => exact hsame state
  | refused _ _ _ _ _ _ _ state => exact hsame state
  | commit cause effects committed =>
    have hc := committed.commit
    exact ⟨hc.coherent h.coherent, hc.identified h.identified, hinbox,
      hc.closing h.coherent h.closing, hc.finalised committed.live h.finalised⟩

theorem start_orderly (h₀ : (op.engine sha256 agent operationId instanceId).start = .ok s) :
    Orderly op s := by
  have hs := start_state h₀
  exact ⟨hs ▸ .initial, hs ▸ .initial, start_inbox h₀, by rw [hs]; nofun, by rw [hs]; nofun⟩

theorem orderly_of_runs {P : EngineState ReturnRefundState → Prop}
    (h₀ : (op.engine sha256 agent operationId instanceId).start = .ok s)
    (h : (op.engine sha256 agent operationId instanceId).RunsVia P s s') : Orderly op s' :=
  Run.invariant h (start_orderly h₀) fun _ _ _ hs _ hst => hs.step hst

/-- A live operation is put the event that is due. -/
theorem Due.responds {event : Event}
    (hd : (op.engine sha256 agent operationId instanceId).Due s event)
    (hs : (op.engine sha256 agent operationId instanceId).step s = .ok s')
    (hlive : s.state.replayFinal = false) : ∃ context reduction,
      op.respond ⟨context, .event event⟩ s.state = .ok reduction ∧ s'.state = reduction.state ∧
        context.now = s'.clock.now := by
  obtain ⟨queue, clock, _, _, arrived⟩ := hd.arrived hs
  cases arrived.delivered with
  | late final =>
    rw [show s.state.replayFinal = true from final] at hlive
    cases hlive
  | @live reduction _ answered =>
    exact ⟨_, reduction, op.respond_of_engine answered.reduced, answered.state,
      by rw [answered.clock]; rfl⟩

/-- What the record keeps of reversals, and of the terminal, it keeps for good. -/
structure Settles (s s' : EngineState ReturnRefundState) : Prop where
  reversed : ∀ requestId, IsReversed s.state.refunds requestId →
    IsReversed s'.state.refunds requestId
  final : s.state.replayFinal = true → s'.state = s.state

theorem Settles.refl (s : EngineState ReturnRefundState) : Settles s s :=
  ⟨fun _ => id, fun _ => rfl⟩

theorem Settles.trans (s t s' : EngineState ReturnRefundState) (h : Settles s t)
    (h' : Settles t s') : Settles s s' := by
  refine ⟨fun requestId hr => h'.reversed requestId (h.reversed requestId hr), fun hf => ?_⟩
  have ht := h.final hf
  rw [h'.final (ht ▸ hf), ht]

theorem step_settles (hs : (op.engine sha256 agent operationId instanceId).step s = .ok s') :
    Settles s s' := by
  have hsame : s'.state = s.state → Settles s s' := fun state =>
    ⟨fun _ => state ▸ id, fun _ => state⟩
  cases step_change hs with
  | still state => exact hsame state
  | late _ _ _ state => exact hsame state
  | refused _ _ _ _ _ _ _ state => exact hsame state
  | commit cause effects committed =>
    refine ⟨fun _ => committed.commit.isReversed, fun hf => ?_⟩
    rw [committed.live] at hf
    cases hf

theorem runs_settle {P : EngineState ReturnRefundState → Prop}
    (h : (op.engine sha256 agent operationId instanceId).RunsVia P s s') : Settles s s' :=
  Run.related (I := fun _ => True) h trivial (fun _ _ _ _ _ _ => trivial) Settles.refl
    Settles.trans fun _ _ _ _ _ hst => step_settles hst

/-- A reversal of a settled refund does not come before the refund is provisionally closed. -/
def Heeds (op : ReturnRefundOperation) (E : Engine ReturnRefundState)
    (s : EngineState ReturnRefundState) : Prop :=
  ∀ event refund, E.Due s event → Reverses op event refund → refund ∈ s.state.refunds.values →
    refund.status = .settled → s.state.replayFinal = false → s.state.provisional.isSome = true

/-- Behind a reversal that comes after the settlement the refund is reversed. -/
theorem step_reversed {event : Event} {refund : Refund} (h : Orderly op s)
    (hheeds : Heeds op (op.engine sha256 agent operationId instanceId) s)
    (hs : (op.engine sha256 agent operationId instanceId).step s = .ok s')
    (hd : (op.engine sha256 agent operationId instanceId).Due s event)
    (hr : Reverses op event refund) (hm : refund ∈ s.state.refunds.values)
    (hsettled : refund.status ≠ .requested) (hlive : s.state.replayFinal = false) :
    IsReversed s'.state.refunds refund.refundRequestId := by
  cases hstatus : refund.status with
  | requested => exact absurd hstatus hsettled
  | reversed =>
    exact (step_settles hs).reversed _ ⟨refund, Registry.mem_values_iff.mp hm, hstatus⟩
  | settled =>
    obtain ⟨eventType, hadmits⟩ := h.inbox.pending event hd.mem
    obtain rfl : eventType = .refundSettlementReversed :=
      Option.some.inj (hadmits.named.symm.trans hr.named)
    obtain ⟨context, reduction, hresponds, hstate, _⟩ := Due.responds hd hs hlive
    change op.reduceEvent s.state event context = .ok reduction at hresponds
    rw [ReturnRefundOperation.reduceEvent_admitted hadmits] at hresponds
    rw [hstate]
    exact reduceSettlementReversed_closing h.closing h.coherent hr hm hstatus
      (hheeds event refund hd hr hm hstatus hlive) hresponds

/-- What sets the terminal of a success was the cooldown of the provisional close. -/
theorem step_finalised (hs : (op.engine sha256 agent operationId instanceId).step s = .ok s')
    (htimely : (op.engine sha256 agent operationId instanceId).Timely s)
    (hnone : s.state.terminal = none) {terminal : Terminal}
    (ht : s'.state.terminal = some terminal) (hc : terminal.outcome = .completedRefundSettled) :
    ∃ p, s.state.provisional = some p ∧ terminal.refundRequestId = some p.refundRequestId ∧
      terminal.cycleId = some p.cycleId ∧ NoLater p.expiresAt terminal.instant := by
  have hnow : strptime s'.clock.now = .ok s'.clock.seconds := (htimely.step hs).onTime.legible
  have hsame : s'.state ≠ s.state := by
    intro heq
    rw [heq, hnone] at ht
    cases ht
  cases step_change hs with
  | still state => exact absurd state hsame
  | late _ _ _ state => exact absurd state hsame
  | refused _ _ _ _ _ _ _ state => exact absurd state hsame
  | commit cause effects committed due =>
    obtain ⟨p, event, fired, bound, hp, hrequest, hcycle, hinstant, hcause, hfired, hbound, hle⟩ :=
      committed.commit.success hnone ht hc
    have hmoment := (due event hcause).2
    obtain rfl := Except.ok.inj (hfired.symm.trans hmoment)
    exact ⟨p, hp, hrequest, hcycle, bound, _, hbound, hinstant ▸ hnow, hle⟩

/-- In a run in which no reversal comes between a settlement and its provisional close, a success
is never finalised over a reversed settlement, nor before the cooldown is over. -/
theorem success_not_over_reversal
    (h₀ : (op.engine sha256 agent operationId instanceId).start = .ok s)
    (h₁ : (op.engine sha256 agent operationId instanceId).RunsVia
      (Heeds op (op.engine sha256 agent operationId instanceId)) s s₁)
    (hheeds : Heeds op (op.engine sha256 agent operationId instanceId) s₁)
    (hs : (op.engine sha256 agent operationId instanceId).step s₁ = .ok s₂)
    (h₂ : (op.engine sha256 agent operationId instanceId).RunsVia
      (Heeds op (op.engine sha256 agent operationId instanceId)) s₂ s')
    {terminal : Terminal} (ht : s'.state.terminal = some terminal)
    (hc : terminal.outcome = .completedRefundSettled) :
    (∀ event refund, (op.engine sha256 agent operationId instanceId).Due s₁ event →
      Reverses op event refund → refund ∈ s₁.state.refunds.values → refund.status ≠ .requested →
      s₁.state.replayFinal = false →
      terminal.refundRequestId ≠ some refund.refundRequestId) ∧
    (s₁.state.terminal = none → s₂.state.terminal ≠ none → ∃ p,
      s₁.state.provisional = some p ∧ terminal.refundRequestId = some p.refundRequestId ∧
      terminal.cycleId = some p.cycleId ∧ NoLater p.expiresAt terminal.instant) := by
  have horderly := orderly_of_runs h₀ h₁
  have hlater := (horderly.step hs)
  constructor
  · intro event refund hd hr hm hsettled hlive hnamed
    obtain ⟨reversed, hg, hreversed⟩ := (runs_settle h₂).reversed _
      (step_reversed horderly hheeds hs hd hr hm hsettled hlive)
    obtain ⟨requestId, settled, hrequest, hg', hstands⟩ :=
      ((orderly_of_runs h₀ ((h₁.tail (a := ()) hheeds hs).trans h₂)).finalised terminal ht).2 hc
    obtain rfl := Option.some.inj (hnamed.symm.trans hrequest)
    obtain rfl := Option.some.inj (hg.symm.trans hg')
    rw [hreversed] at hstands
    cases hstands
  · intro hnone hsome
    obtain ⟨terminal', ht'⟩ := Option.ne_none_iff_exists'.mp hsome
    have hsame := (runs_settle h₂).final (hlater.finalised terminal' ht').1
    rw [hsame] at ht
    exact step_finalised hs (Engine.timely_of_runs plan_forward h₀ h₁) hnone ht hc

/-- The next event takes no settlement back. -/
def nextReversesNothing (E : Engine ReturnRefundState) (s : EngineState ReturnRefundState) : Bool :=
  match s.queue.peekNext with
  | .ok (some event, _) => event.eventType ≠ EventType.refundSettlementReversed.text
  | _ => true

theorem heeds_of_next {E : Engine ReturnRefundState} (h : nextReversesNothing E s = true) :
    Heeds op E s := by
  intro event refund hd hr _ _ _
  obtain ⟨queue, hq⟩ := hd.next
  rw [nextReversesNothing, hq] at h
  exact absurd (EventType.text_of_ofText? hr.named).symm (of_decide_eq_true h)

/-- A refund is finalised when its cooldown is over. -/
theorem success_behind_cooldown : ∃ s s₁ s₂ terminal p,
    (Fixture.engine Fixture.settledReturn Fixture.refundsAndCloses).start = .ok s ∧
      (Fixture.engine Fixture.settledReturn Fixture.refundsAndCloses).RunsVia
        (Heeds Fixture.settledReturn
          (Fixture.engine Fixture.settledReturn Fixture.refundsAndCloses)) s s₁ ∧
      (Fixture.engine Fixture.settledReturn Fixture.refundsAndCloses).step s₁ = .ok s₂ ∧
      s₂.state.terminal = some terminal ∧ terminal.outcome = .completedRefundSettled ∧
      s₁.state.provisional = some p ∧ NoLater p.expiresAt terminal.instant := by
  obtain ⟨s, hs, hc⟩ := ok_of_any
    (x := (Fixture.engine Fixture.settledReturn Fixture.refundsAndCloses).start)
    (p := fun s => (Fixture.engine Fixture.settledReturn Fixture.refundsAndCloses).checkRun
      (nextReversesNothing (Fixture.engine Fixture.settledReturn Fixture.refundsAndCloses))
      (fun s₁ => nextReversesNothing
          (Fixture.engine Fixture.settledReturn Fixture.refundsAndCloses) s₁ &&
        s₁.state.terminal.isNone &&
        ((Fixture.engine Fixture.settledReturn Fixture.refundsAndCloses).step s₁).toOption.any
          fun s₂ => s₂.state.terminal.any fun terminal =>
            terminal.outcome = .completedRefundSettled) 19 s) (by decide +kernel)
  obtain ⟨s₁, h₁, hl⟩ := Engine.runs_of_checkRun (fun _ => heeds_of_next) hc
  simp only [Bool.and_eq_true, Option.isNone_iff_eq_none] at hl
  obtain ⟨⟨hheeds, hnone⟩, hl⟩ := hl
  obtain ⟨s₂, h₂, hl⟩ := ok_of_any hl
  obtain ⟨terminal, ht, ho⟩ := (Option.any_eq_true _ _).mp hl
  obtain ⟨p, hp, _, _, hlate⟩ := (success_not_over_reversal hs h₁ (heeds_of_next hheeds) h₂
    (.refl s₂) ht (of_decide_eq_true ho)).2 hnone (by rw [ht]; nofun)
  exact ⟨s, s₁, s₂, terminal, p, hs, h₁, h₂, ht, of_decide_eq_true ho, hp, hlate⟩

/-- The settlement is taken back at once, while the agent rests. -/
def reversedAtOnce : ReturnRefundOperation := Fixture.operation
  [Fixture.requested 0 Fixture.startsAt, Fixture.handedOver 1 "2034-04-08T12:00:00Z",
    Fixture.inspected 2 "2034-04-09T12:00:00Z", Fixture.approved 3 "2034-04-09T16:00:00Z",
    Fixture.settled 4 "2034-04-09T20:00:00Z" "refund_request_1" firstRefundCycle,
    Fixture.reversed 5 "2034-04-09T20:00:00Z" "refund_request_1" firstRefundCycle]
  (by decide +kernel) (by decide) (by decide)

def restsAndCloses : List Answer :=
  Fixture.refunds ++ [Fixture.rests] ++ Fixture.refundsAndCloses.drop Fixture.refunds.length

/-- The event is a reversal by who may bring it, and names the refund. -/
def reverses (op : ReturnRefundOperation) (event : Event) (refund : Refund) : Bool :=
  EventType.ofText? event.eventType = some .refundSettlementReversed &&
    (op.spec.actors.get? event.actorId).any (fun actor => actor.holds "reverse_refund") &&
    event.payload.text? "refund_request_id" = some refund.refundRequestId &&
    event.payload.text? "cycle_id" = some refund.cycleId

theorem reverses_of_check {event : Event} {refund : Refund} (h : reverses op event refund = true) :
    Reverses op event refund := by
  simp only [reverses, Bool.and_eq_true, decide_eq_true_eq, Option.any_eq_true] at h
  obtain ⟨⟨⟨hnamed, hactor⟩, hrequest⟩, hcycle⟩ := h
  exact ⟨hnamed, hactor, hrequest, hcycle⟩

/-- A reversal that comes before the provisional close is refused, and the success is finalised
over it. -/
theorem success_over_early_reversal : ¬∀ s s₁ s₂ s' terminal event refund,
    (Fixture.engine reversedAtOnce restsAndCloses).start = .ok s →
      (Fixture.engine reversedAtOnce restsAndCloses).RunsVia (fun _ => True) s s₁ →
      (Fixture.engine reversedAtOnce restsAndCloses).step s₁ = .ok s₂ →
      (Fixture.engine reversedAtOnce restsAndCloses).RunsVia (fun _ => True) s₂ s' →
      s'.state.terminal = some terminal → terminal.outcome = .completedRefundSettled →
      (Fixture.engine reversedAtOnce restsAndCloses).Due s₁ event →
      Reverses reversedAtOnce event refund → refund ∈ s₁.state.refunds.values →
      refund.status ≠ .requested → s₁.state.replayFinal = false →
      terminal.refundRequestId ≠ some refund.refundRequestId := by
  intro h
  obtain ⟨s, hs, hc⟩ := ok_of_any (x := (Fixture.engine reversedAtOnce restsAndCloses).start)
    (p := fun s => (Fixture.engine reversedAtOnce restsAndCloses).checkRun (fun _ => true)
      (fun s₁ => ((Fixture.engine reversedAtOnce restsAndCloses).dueEvent? s₁).any fun event =>
        s₁.state.refunds.values.any fun refund => reverses reversedAtOnce event refund &&
          refund.status ≠ .requested && !s₁.state.replayFinal &&
          ((Fixture.engine reversedAtOnce restsAndCloses).step s₁).toOption.any fun s₂ =>
            (Fixture.engine reversedAtOnce restsAndCloses).checkRun (fun _ => true)
              (fun s' => s'.state.terminal.any fun terminal =>
                terminal.outcome = .completedRefundSettled &&
                  terminal.refundRequestId = some refund.refundRequestId) 6 s₂) 16 s)
    (by decide +kernel)
  obtain ⟨s₁, h₁, hl⟩ := Engine.runs_of_checkRun (fun _ _ => trivial) hc
  obtain ⟨event, hd, hl⟩ := (Option.any_eq_true _ _).mp hl
  obtain ⟨refund, hm, hl⟩ := List.any_eq_true.mp hl
  simp only [Bool.and_eq_true, decide_eq_true_eq, Bool.not_eq_true'] at hl
  obtain ⟨⟨⟨hr, hsettled⟩, hlive⟩, hl⟩ := hl
  obtain ⟨s₂, h₂, hl⟩ := ok_of_any hl
  obtain ⟨s', h', hl⟩ := Engine.runs_of_checkRun (fun _ _ => trivial) hl
  obtain ⟨terminal, ht, hl⟩ := (Option.any_eq_true _ _).mp hl
  simp only [Bool.and_eq_true, decide_eq_true_eq] at hl
  exact h s s₁ s₂ s' terminal event refund hs h₁ h₂ h' ht hl.1 (Engine.due_of_dueEvent? hd)
    (reverses_of_check hr) hm hsettled hlive hl.2

end Runs

end OperateBench.ReturnRefund
