import OperateBench.Maintenance.Fixture
import OperateBench.Maintenance.Lifecycle

/-! # The provisional close

A record is provisionally closed because the terminal was just accepted, or because
it already was and neither the close nor the work it rests on was touched. The close
asks whether the payment of the operation is settled, and not whose payment it is.
-/

namespace OperateBench.Maintenance

open Foundation

variable {op : MaintenanceOperation} {s : MaintenanceState} {call : Call} {t : Transaction}

section Entering

/-- The record after its current cycle was provisionally closed at the instant. -/
def closedOn (s : MaintenanceState) (cycle : Cycle) (now reopenUntil : String) :
    MaintenanceState :=
  { s with
    phase := .provisionallyClosed
    provisionalClose := {
      cycleId := some cycle.cycleId
      acceptedAt := some now
      reopenUntil := some reopenUntil
      timerEventId := some (provisionalCloseTimerId cycle.cycleId) } }

/-- The terminal closes the current cycle and arms the timer of its window. -/
structure Closes (op : MaintenanceOperation) (s : MaintenanceState) (call : Call)
    (t : Transaction) (cycle : Cycle) (reopenUntil : String) : Prop where
  proposed : ∃ evidenceRefs, call.cause = .terminal evidenceRefs
  closable : Closable s cycle
  window : shiftMinutes call.context.now op.policy.provisionalCloseMinutes "reopen window" =
    .ok reopenUntil
  state : t.state = closedOn s cycle call.context.now reopenUntil
  armed : ∃ payload, Effect.scheduleTimer (provisionalCloseTimerId cycle.cycleId)
    EventType.provisionalCloseExpired.text "scheduler" op.policy.provisionalCloseMinutes payload
    true ∈ t.effects

theorem Closable.onFile {cycle : Cycle} (h : Closable s cycle) :
    s.cycles.get? cycle.cycleId = some cycle := by
  obtain ⟨cycleId, _, hg⟩ := Option.bind_eq_some_iff.mp h.current
  exact Registry.get?_ident hg

theorem Commit.closing_cases (hc : Commit op call.context.now s call.cause t)
    (hp : t.state.phase = .provisionallyClosed) :
    (s.phase = .provisionallyClosed ∧ t.state.provisionalClose = s.provisionalClose ∧
        Registry.Grows Cycle.Follows s.cycles t.state.cycles) ∨
      ∃ cycle reopenUntil, Closes op s call t cycle reopenUntil := by
  have hg : Registry.Grows Cycle.Follows s.cycles t.state.cycles := by
    rcases hc.cycles_cases with h | ⟨ha, _⟩
    · exact h.1
    · rw [ha] at hp
      cases hp
  obtain ⟨context, cause⟩ := call
  cases hc with
  | provisionallyClosed closable window =>
    exact Or.inr ⟨_, _, ⟨_, rfl⟩, closable, window, rfl, _,
      List.mem_cons_of_mem _ List.mem_cons_self⟩
  | issueReported | decided | exceptionResolved | reopened | finalized | visitRequested
  | workAuthorised | approvalRequested | exceptionRequested | transferred => cases hp
  | _ => exact Or.inl ⟨hp, rfl, hg⟩

end Entering

section Payment

theorem settled_of_unpaidProblem {cycle : Cycle}
    (h : MaintenanceOperation.unpaidProblem s cycle = none) : s.payment.status = .settled := by
  unfold MaintenanceOperation.unpaidProblem at h
  dsimp only at h
  split at h
  · cases h
  split at h
  · cases h
  split at h
  · cases h
  · rename_i hs
    simpa using hs

/-- A settled payment is never touched again. -/
theorem Commit.payment_of_settled {now : String} {cause : Cause}
    (hs : s.payment.status = .settled) (hc : Commit op now s cause t) :
    t.state.payment = s.payment := by
  cases hc with
  | settled admitted requested => exact absurd (requested.symm.trans hs) nofun
  | paymentRequested onFile unrequested => exact absurd (unrequested.symm.trans hs) nofun
  | _ => rfl

/-- A payable cycle is not closed over the payment of another one. -/
def ClosesOwnPayment (s : MaintenanceState) (call : Call) : Prop :=
  ∀ evidenceRefs cycle, call.cause = .terminal evidenceRefs → Closable s cycle →
    cycle.requiresPayment = true → s.payment.cycleId = some cycle.cycleId

/-- The closed cycle is on file, and if it is payable the payment is settled and its own. -/
def ClosedPaid (s : MaintenanceState) : Prop :=
  s.phase = .provisionallyClosed → ∃ cycle,
    s.provisionalClose.cycleId = some cycle.cycleId ∧
      s.cycles.get? cycle.cycleId = some cycle ∧
      (cycle.requiresPayment = true →
        s.payment.status = .settled ∧ s.payment.cycleId = some cycle.cycleId)

theorem Commit.closedPaid (h : ClosedPaid s) (hown : ClosesOwnPayment s call)
    (hc : Commit op call.context.now s call.cause t) : ClosedPaid t.state := by
  intro hp
  rcases hc.closing_cases hp with ⟨hp, hclose, hg⟩ | ⟨cycle, reopenUntil, hcl⟩
  · obtain ⟨cycle, hid, onFile, paid⟩ := h hp
    obtain ⟨cycle', onFile', follows⟩ := hg _ _ onFile
    have hid' : cycle'.cycleId = cycle.cycleId := Registry.ident_of_get? onFile'
    refine ⟨cycle', by rw [hclose, hid, hid'], Registry.get?_ident onFile', fun hr => ?_⟩
    obtain ⟨settled, own⟩ := paid (follows.requiresPayment ▸ hr)
    rw [hc.payment_of_settled settled, hid']
    exact ⟨settled, own⟩
  · obtain ⟨evidenceRefs, hcause⟩ := hcl.proposed
    rw [hcl.state]
    exact ⟨cycle, rfl, hcl.closable.onFile, fun hr =>
      ⟨settled_of_unpaidProblem (hcl.closable.paid hr), hown _ _ hcause hcl.closable hr⟩⟩

/-- In a run that never closes a payable cycle over the payment of another one, a closed payable
cycle was paid for itself. -/
theorem closed_cycle_paid (h : Run op.Step ClosesOwnPayment op.initialState s) {cycleId : String}
    {cycle : Cycle} (hp : s.phase = .provisionallyClosed)
    (closed : s.provisionalClose.cycleId = some cycleId)
    (onFile : s.cycles.get? cycleId = some cycle) (payable : cycle.requiresPayment = true) :
    s.payment.status = .settled ∧ s.payment.cycleId = some cycleId := by
  have hpaid : ClosedPaid s :=
    MaintenanceOperation.run_invariant h nofun fun _ _ _ hs hown hc => hc.closedPaid hs hown
  obtain ⟨cycle', hid, onFile', paid⟩ := hpaid hp
  obtain rfl : cycle'.cycleId = cycleId := Option.some.inj (hid.symm.trans closed)
  obtain rfl : cycle' = cycle := Option.some.inj (onFile'.symm.trans onFile)
  exact paid payable

/-- Two payable jobs, the first of them paid for. The customer is told about both. -/
def paidForOther : List Call :=
  Fixture.brings (Fixture.reported "cycle_1") :: Fixture.firstJob.paid "2031-03-03T10:00:00Z" ++
    Fixture.secondJob.billed "2031-03-03T11:00:00Z" ++
    [(Fixture.notifies "cycle_2").call "2031-03-03T11:00:00Z",
      (Fixture.notifies "cycle_3").call "2031-03-03T11:00:00Z",
      Fixture.terminates "2031-03-03T11:00:00Z"]

/-- The second job is closed over the payment of the first. -/
theorem closed_over_other_payment : ¬∀ s cycleId cycle,
    Reaches (Fixture.operation []).Step (Fixture.operation []).initialState s →
      s.phase = .provisionallyClosed → s.provisionalClose.cycleId = some cycleId →
      s.cycles.get? cycleId = some cycle → cycle.requiresPayment = true →
      s.payment.status = .settled ∧ s.payment.cycleId = some cycleId := by
  intro h
  obtain ⟨s, hs, hc⟩ := ok_of_any (x := (Fixture.operation []).respondAll paidForOther
    (Fixture.operation []).initialState) (p := fun s =>
      s.phase = .provisionallyClosed && s.provisionalClose.cycleId = some "cycle_3" &&
        s.payment.cycleId = some "cycle_2" &&
        (s.cycles.get? "cycle_3").any Cycle.requiresPayment) (by decide +kernel)
  simp only [Bool.and_eq_true, decide_eq_true_eq] at hc
  obtain ⟨⟨⟨hp, hclosed⟩, hpaid⟩, hcycle⟩ := hc
  obtain ⟨cycle, onFile, payable⟩ := (Option.any_eq_true _ _).mp hcycle
  have hown := (h s _ cycle (MaintenanceOperation.run_of_respondAll (fun _ _ _ => trivial) hs)
    hp hclosed onFile payable).2
  rw [hpaid] at hown
  exact absurd hown (by decide)

theorem run_of_open_calls {calls : List Call} {s' : MaintenanceState}
    (ho : (calls.all fun call => !call.cause.isTerminal) = true)
    (h : op.respondAll calls s = .ok s') : Run op.Step ClosesOwnPayment s s' := by
  refine MaintenanceOperation.run_of_respondAll (fun call hm s evidenceRefs cycle hcause => ?_) h
  have hcall := List.all_eq_true.mp ho call hm
  rw [hcause] at hcall
  cases hcall

/-- A job that is paid for and closed. -/
def closesPaid : List Call :=
  Fixture.brings (Fixture.reported "cycle_1") :: Fixture.firstJob.paid "2031-03-03T10:00:00Z" ++
    [(Fixture.notifies "cycle_2").call "2031-03-03T10:00:00Z"]

theorem closed_job_paid : ∃ s : MaintenanceState,
    Run (Fixture.operation []).Step ClosesOwnPayment (Fixture.operation []).initialState s ∧
      s.phase = .provisionallyClosed ∧ s.payment.status = .settled ∧
      s.payment.cycleId = some "cycle_2" := by
  obtain ⟨t, ht, hc⟩ := ok_of_any (x := (Fixture.operation []).respondAll closesPaid
    (Fixture.operation []).initialState) (p := fun t =>
      t.payment.cycleId = some "cycle_2" && t.currentCycleId = some "cycle_2" &&
        ((Fixture.operation []).respond (Fixture.terminates "2031-03-03T10:00:00Z")
          t).toOption.any fun r => r.state.phase = .provisionallyClosed &&
            r.state.provisionalClose.cycleId = some "cycle_2" &&
            (r.state.cycles.get? "cycle_2").any Cycle.requiresPayment) (by decide +kernel)
  simp only [Bool.and_eq_true, decide_eq_true_eq] at hc
  obtain ⟨⟨hpaid, hcurrent⟩, hr⟩ := hc
  obtain ⟨r, hr, hc⟩ := ok_of_any hr
  simp only [Bool.and_eq_true, decide_eq_true_eq] at hc
  obtain ⟨⟨hp, hclosed⟩, hcycle⟩ := hc
  obtain ⟨cycle, onFile, payable⟩ := (Option.any_eq_true _ _).mp hcycle
  have hown : ClosesOwnPayment t (Fixture.terminates "2031-03-03T10:00:00Z") := by
    intro _ cycle _ closable _
    have hget := closable.current
    rw [MaintenanceState.currentCycle, hcurrent] at hget
    rw [hpaid, Registry.ident_of_get? (show t.cycles.get? "cycle_2" = some cycle from hget)]
  have hrun := (run_of_open_calls rfl ht).tail hown ⟨r, hr, rfl⟩
  exact ⟨r.state, hrun, hp, closed_cycle_paid hrun hp hclosed onFile payable⟩

end Payment

end OperateBench.Maintenance
