import OperateBench.ReturnRefund.Proposals

/-! # The phase and the registries

The phase is a summary that every handler writes beside the registries it changes, and
that most guards read alone. A table says what the registries hold in each phase; it is
kept by every accepted change, so the summary and what it summarises never part.
-/

namespace OperateBench.ReturnRefund

open Foundation

variable {op : ReturnRefundOperation} {s s' : ReturnRefundState} {now : String} {cause : Cause}
  {t : Transaction}

section Table

def Inspection.eligible (inspection : Inspection) : Bool :=
  inspection.disposition = eligibleDisposition

/-- For a phase: the statuses of the authorisations, the findings of the inspections, the
statuses of the checkpoints, whether a refund was ever requested, the status of the one of the
current cycle, and whether a provisional close stands. -/
inductive Table : Phase → List AuthorisationStatus → List Bool → List CheckpointStatus → Bool →
    Option RefundStatus → Bool → Prop
  | new : Table .new [] [] [] false none false
  | returnRequested : Table .returnRequested [] [] [] false none false
  | awaitingHandover : Table .awaitingHandover [.issued] [] [] false none false
  | returnExpired {phase : Phase} (h : phase = .returnExpired ∨ phase = .finalReturnExpired) :
      Table phase [.expired] [] [] false none false
  | awaitingInspection : Table .awaitingInspection [.verified] [] [] false none false
  | unreviewed : Table .awaitingApproval [.verified] [true] [] false none false
  | underReview : Table .awaitingApproval [.verified] [true] [.opened] false none false
  | ineligible {phase : Phase} (h : phase = .refundDenied ∨ phase = .finalRefundDenied) :
      Table phase [.verified] [false] [] false none false
  | declined {phase : Phase} {status : CheckpointStatus}
      (h : phase = .refundDenied ∨ phase = .finalRefundDenied)
      (hs : status = .rejected ∨ status = .expired) :
      Table phase [.verified] [true] [status] false none false
  | readyToRefund : Table .readyToRefund [.verified] [true] [.approved] false none false
  | refundPending : Table .refundPending [.verified] [true] [.approved] true (some .requested) false
  | refundSettled : Table .refundSettled [.verified] [true] [.approved] true (some .settled) false
  | provisional : Table .provisional [.verified] [true] [.approved] true (some .settled) true
  | finalSuccess : Table .finalSuccess [.verified] [true] [.approved] true (some .settled) false
  | reopened {status : Option RefundStatus} (h : status = none ∨ status = some .reversed) :
      Table .refundReopened [.verified] [true] [.approved] true status false

namespace Table

variable {phase phase' : Phase} {A : List AuthorisationStatus} {I : List Bool}
  {C : List CheckpointStatus} {k p : Bool} {R : Option RefundStatus}

theorem of_new (h : Table .new A I C k R p) :
    A = [] ∧ I = [] ∧ C = [] ∧ k = false ∧ p = false := by
  cases h with
  | new => simp
  | returnExpired h => simp at h
  | ineligible h => simp at h
  | declined h _ => simp at h

theorem of_issued (h : Table phase A I C k R p) (hm : .issued ∈ A) :
    phase = .awaitingHandover ∧ A = [.issued] ∧ I = [] ∧ C = [] ∧ k = false ∧ R = none ∧
      p = false := by
  cases h <;> simp at hm ⊢

theorem of_opened (h : Table phase A I C k R p) (hm : .opened ∈ C) :
    A = [.verified] ∧ I = [true] ∧ C = [.opened] ∧ k = false ∧ R = none ∧ p = false := by
  cases h with
  | declined _ hs => rcases hs with rfl | rfl <;> simp at hm
  | _ => simp at hm ⊢

theorem opened_phase (h : Table phase A I C k R p) (hm : .opened ∈ C) :
    phase = .awaitingApproval := by
  cases h with
  | underReview => rfl
  | declined _ hs => rcases hs with rfl | rfl <;> simp at hm
  | _ => simp at hm

theorem of_requested (h : Table phase A I C k (some .requested) p) :
    A = [.verified] ∧ I = [true] ∧ C = [.approved] ∧ k = true ∧ p = false := by
  cases h with
  | reopened h => rcases h with h | h <;> cases h
  | _ => simp

theorem of_provisional (h : Table phase A I C k R true) :
    phase = .provisional ∧ A = [.verified] ∧ I = [true] ∧ C = [.approved] ∧ k = true ∧
      R = some .settled := by
  cases h
  simp

theorem of_ready (h : Table phase A I C k R p)
    (hp : phase = .readyToRefund ∨ phase = .refundReopened) :
    A = [.verified] ∧ I = [true] ∧ C = [.approved] ∧ p = false := by
  rcases hp with rfl | rfl <;> cases h <;> simp_all

theorem of_returnRequested (h : Table .returnRequested A I C k R p) :
    A = [] ∧ I = [] ∧ C = [] ∧ k = false ∧ R = none ∧ p = false := by
  cases h with
  | returnRequested => simp
  | returnExpired h => simp at h
  | ineligible h => simp at h
  | declined h _ => simp at h

theorem of_awaitingInspection (h : Table .awaitingInspection A I C k R p) :
    A = [.verified] ∧ I = [] ∧ C = [] ∧ k = false ∧ R = none ∧ p = false := by
  cases h with
  | awaitingInspection => simp
  | returnExpired h => simp at h
  | ineligible h => simp at h
  | declined h _ => simp at h

theorem of_awaitingApproval (h : Table .awaitingApproval A I C k R p) :
    A = [.verified] ∧ I = [true] ∧ (C = [] ∨ C = [.opened]) ∧ k = false ∧ R = none ∧
      p = false := by
  cases h with
  | unreviewed => simp
  | underReview => simp
  | returnExpired h => simp at h
  | ineligible h => simp at h
  | declined h _ => simp at h

theorem of_refundSettled (h : Table .refundSettled A I C k R p) :
    A = [.verified] ∧ I = [true] ∧ C = [.approved] ∧ k = true ∧ R = some .settled ∧
      p = false := by
  cases h with
  | refundSettled => simp
  | returnExpired h => simp at h
  | ineligible h => simp at h
  | declined h _ => simp at h

theorem closes {outcome : TerminalOutcome} (h : Table phase A I C k R p)
    (hc : ClosesAs phase phase' outcome) : Table phase' A I C k R p := by
  cases hc with
  | denied =>
    cases h with
    | returnExpired h => simp at h
    | ineligible _ => exact .ineligible (Or.inr rfl)
    | declined _ hs => exact .declined (Or.inr rfl) hs
  | expired =>
    cases h with
    | returnExpired _ => exact .returnExpired (Or.inr rfl)
    | ineligible h => simp at h
    | declined h _ => simp at h

end Table

theorem eq_singleton_of_map {α β : Type} {f : α → β} {l : List α} {a : α} {x : β}
    (h : l.map f = [x]) (hm : a ∈ l) : l = [a] := by
  obtain ⟨b, rfl, -⟩ := List.map_eq_singleton_iff.mp h
  rw [List.mem_singleton.mp hm]

end Table

section Allocation

theorem allocate_notMem (stem : String) (used : List String) : allocate stem used ∉ used := by
  refine freshFrom_notMem ?_ le_rfl
  intro j k hjk
  exact natText_injective (String.append_right_inj _ |>.mp hjk)

theorem get?_allocate {α : Type} {ident : α → String} (registry : Registry ident) (stem : String) :
    registry.get? (allocate stem registry.keys) = none := by
  by_contra hn
  obtain ⟨a, ha⟩ := Option.ne_none_iff_exists'.mp hn
  exact allocate_notMem stem registry.keys (Dict.mem_keys_iff.mpr ⟨a, ha⟩)

end Allocation

section Refunds

/-- No two refunds share a cycle. -/
def Distinct (refunds : Registry Refund.refundRequestId) : Prop :=
  ∀ r ∈ refunds.values, ∀ r' ∈ refunds.values, r.cycleId = r'.cycleId → r = r'

theorem currentRefund_mem {refund : Refund} (h : s.currentRefund = some refund) :
    refund ∈ s.refunds.values ∧ some refund.cycleId = s.currentCycleId := by
  obtain ⟨hm, hc⟩ := List.mem_filter.mp (List.mem_of_getLast? h)
  exact ⟨hm, of_decide_eq_true hc⟩

theorem currentRefund_of_mem (hd : Distinct s.refunds) {refund : Refund}
    (hm : refund ∈ s.refunds.values) (hc : some refund.cycleId = s.currentCycleId) :
    s.currentRefund = some refund := by
  cases hr : s.currentRefund with
  | none =>
    have hnil := List.getLast?_eq_none_iff.mp hr
    have hmem : refund ∈ s.refunds.values.filter fun r => some r.cycleId = s.currentCycleId :=
      List.mem_filter.mpr ⟨hm, decide_eq_true hc⟩
    rw [hnil] at hmem
    cases hmem
  | some r =>
    obtain ⟨hrm, hrc⟩ := currentRefund_mem hr
    rw [hd r hrm refund hm (Option.some.inj (hrc.trans hc.symm))]

theorem currentRefund_none (h : ∀ r ∈ s.refunds.values, some r.cycleId ≠ s.currentCycleId) :
    s.currentRefund = none := by
  cases hr : s.currentRefund with
  | none => rfl
  | some r =>
    obtain ⟨hrm, hrc⟩ := currentRefund_mem hr
    exact absurd hrc (h r hrm)

theorem Distinct.update {refunds : Registry Refund.refundRequestId} {refund refund' : Refund}
    (h : Distinct refunds) (hm : refund ∈ refunds.values)
    (hi : refund'.refundRequestId = refund.refundRequestId)
    (hc : refund'.cycleId = refund.cycleId) : Distinct (refunds.put refund') := by
  have hother : ∀ r ∈ refunds.values, r.refundRequestId ≠ refund'.refundRequestId →
      r.cycleId ≠ refund'.cycleId := by
    intro r hr hne he
    exact hne (by rw [h r hr refund hm (he.trans hc), hi])
  intro r hr r' hr' he
  rcases Registry.mem_put_iff.mp hr with rfl | ⟨hne, hold⟩
  · rcases Registry.mem_put_iff.mp hr' with rfl | ⟨hne', hold'⟩
    · rfl
    · exact absurd he.symm (hother r' hold' hne')
  · rcases Registry.mem_put_iff.mp hr' with rfl | ⟨_, hold'⟩
    · exact absurd he (hother r hold hne)
    · exact h r hold r' hold' he

theorem Distinct.add {refunds : Registry Refund.refundRequestId} {refund : Refund}
    (h : Distinct refunds) (hn : ∀ r ∈ refunds.values, r.cycleId ≠ refund.cycleId) :
    Distinct (refunds.put refund) := by
  intro r hr r' hr' he
  rcases Registry.mem_put hr with rfl | hold
  · rcases Registry.mem_put hr' with rfl | hold'
    · rfl
    · exact absurd he.symm (hn r' hold')
  · rcases Registry.mem_put hr' with rfl | hold'
    · exact absurd he (hn r hold)
    · exact h r hold r' hold' he

end Refunds

section Coherence

/-- The registries hold what the phase says, the review is of the one inspection, and every
refund but the one of the current cycle has been reversed. -/
structure Coherent (op : ReturnRefundOperation) (s : ReturnRefundState) : Prop where
  table : Table s.phase (s.authorisations.values.map Authorisation.status)
    (s.inspections.values.map Inspection.eligible) (s.checkpoints.values.map Checkpoint.status)
    (!s.refunds.values.isEmpty) (s.currentRefund.map Refund.status) s.provisional.isSome
  reviewed : ∀ c ∈ s.checkpoints.values, ∀ i ∈ s.inspections.values,
    c.inspectionId = i.inspectionId
  owed : s.phase ≠ .new → s.amountMinor = some op.policy.refundAmountMinor.1
  cycle : s.phase ≠ .new → s.currentCycleId = some firstRefundCycle ∨
    s.currentCycleId = some recoveryRefundCycle
  first : s.currentCycleId = some firstRefundCycle →
    ∀ r ∈ s.refunds.values, r.cycleId = firstRefundCycle
  distinct : Distinct s.refunds
  past : ∀ r ∈ s.refunds.values, some r.cycleId ≠ s.currentCycleId → r.status = .reversed

theorem Coherent.initial : Coherent op op.initialState where
  table := .new
  reviewed _ hc := absurd hc List.not_mem_nil
  owed h := absurd rfl h
  cycle h := absurd rfl h
  first _ _ hr := absurd hr List.not_mem_nil
  distinct _ hr := absurd hr List.not_mem_nil
  past _ hr := absurd hr List.not_mem_nil

/-- A refund that was not reversed is the one of the current cycle. -/
theorem Coherent.current (h : Coherent op s) {refund : Refund} (hm : refund ∈ s.refunds.values)
    (hs : refund.status ≠ .reversed) :
    some refund.cycleId = s.currentCycleId ∧ s.currentRefund = some refund := by
  have hc : some refund.cycleId = s.currentCycleId := by
    by_contra hne
    exact hs (h.past refund hm hne)
  exact ⟨hc, currentRefund_of_mem h.distinct hm hc⟩

theorem isEmpty_put {refunds : Registry Refund.refundRequestId} {refund : Refund} :
    (!(refunds.put refund).values.isEmpty) = true := by
  simpa using Registry.put_ne_nil (r := refunds) (a := refund)

/-- The refund of the current cycle moves on. -/
theorem Coherent.update (h : Coherent op s) {refund refund' : Refund} {obligations : Duties}
    {phase : Phase} (hm : refund ∈ s.refunds.values)
    (hcurrent : some refund.cycleId = s.currentCycleId)
    (hi : refund'.refundRequestId = refund.refundRequestId)
    (hc : refund'.cycleId = refund.cycleId) (hp : s.phase ≠ .new)
    (htable : Table phase (s.authorisations.values.map Authorisation.status)
      (s.inspections.values.map Inspection.eligible) (s.checkpoints.values.map Checkpoint.status)
      true (some refund'.status) s.provisional.isSome) :
    Coherent op { s with refunds := s.refunds.put refund', obligations, phase } := by
  have hd := h.distinct.update hm hi hc
  have hput : refund' ∈ (s.refunds.put refund').values :=
    Registry.mem_of_get? (Registry.get?_put_self _ _)
  refine ⟨?_, h.reviewed, fun _ => h.owed hp, fun _ => h.cycle hp, ?_, hd, ?_⟩
  · have hr : ReturnRefundState.currentRefund
        { s with refunds := s.refunds.put refund', obligations, phase } = some refund' :=
      currentRefund_of_mem hd hput (by rw [hc]; exact hcurrent)
    rw [hr, isEmpty_put]
    exact htable
  · intro hfirst
    refine Registry.forall_put (h.first hfirst) ?_
    rw [hc]
    exact h.first hfirst refund hm
  · refine Registry.forall_put h.past fun hne => absurd ?_ hne
    rw [hc]
    exact hcurrent

/-- A change that leaves the refunds and the case alone. -/
theorem Coherent.move (h : Coherent op s) (hp : s'.phase ≠ .new → s.phase ≠ .new)
    (hr : s'.refunds = s.refunds) (hc : s'.currentCycleId = s.currentCycleId)
    (ha : s'.amountMinor = s.amountMinor)
    (htable : Table s'.phase (s'.authorisations.values.map Authorisation.status)
      (s'.inspections.values.map Inspection.eligible)
      (s'.checkpoints.values.map Checkpoint.status)
      (!s.refunds.values.isEmpty) (s.currentRefund.map Refund.status) s'.provisional.isSome)
    (hreviewed : ∀ c ∈ s'.checkpoints.values, ∀ i ∈ s'.inspections.values,
      c.inspectionId = i.inspectionId) : Coherent op s' := by
  have hcurrent : s'.currentRefund = s.currentRefund := by
    unfold ReturnRefundState.currentRefund
    rw [hr, hc]
  refine ⟨?_, hreviewed, ?_, ?_, ?_, ?_, ?_⟩
  · rw [hr, hcurrent]
    exact htable
  · intro hn
    rw [ha]
    exact h.owed (hp hn)
  · intro hn
    rw [hc]
    exact h.cycle (hp hn)
  · rw [hr, hc]
    exact h.first
  · rw [hr]
    exact h.distinct
  · rw [hr, hc]
    exact h.past

/-- The case is opened, before anything else is on file. -/
theorem Coherent.opened (h : Coherent op s) (hp : s.phase = .new) {returnId orderId : String} :
    Coherent op { s with
      returnId := some returnId
      orderId := some orderId
      amountMinor := some op.policy.refundAmountMinor.1
      currency := some op.policy.currency
      currentCycleId := some firstRefundCycle
      phase := .returnRequested } := by
  have htable := h.table
  rw [hp] at htable
  obtain ⟨hA, hI, hC, hk, hP⟩ := htable.of_new
  have hnil : s.refunds.values = [] := by simpa using hk
  have hnone : ∀ r ∈ s.refunds.values, False := fun r hr => by simp [hnil] at hr
  refine ⟨?_, h.reviewed, fun _ => rfl, fun _ => Or.inl rfl, fun _ r hr => (hnone r hr).elim,
    h.distinct, fun r hr => (hnone r hr).elim⟩
  have hcurrent : ReturnRefundState.currentRefund { s with
      returnId := some returnId
      orderId := some orderId
      amountMinor := some op.policy.refundAmountMinor.1
      currency := some op.policy.currency
      currentCycleId := some firstRefundCycle
      phase := .returnRequested } = none := currentRefund_none fun r hr => (hnone r hr).elim
  rw [hcurrent]
  dsimp only
  rw [hA, hI, hC, hk, hP]
  exact .returnRequested

/-- A settled refund in its cooldown is reversed: the case goes on in the recovery cycle. -/
theorem Coherent.reverse (h : Coherent op s) {refund refund' : Refund} {provisional : Provisional}
    {obligations : Duties} (hm : refund ∈ s.refunds.values) (hs : refund.status = .settled)
    (hi : refund'.refundRequestId = refund.refundRequestId)
    (hc : refund'.cycleId = refund.cycleId) (hs' : refund'.status = .reversed)
    (hp : s.provisional = some provisional) :
    Coherent op { s with
      refunds := s.refunds.put refund'
      provisional := none
      currentCycleId := some recoveryRefundCycle
      obligations
      phase := .refundReopened } := by
  obtain ⟨hcurrent, _⟩ := h.current hm (by rw [hs]; nofun)
  have hd := h.distinct.update hm hi hc
  have hput : refund' ∈ (s.refunds.put refund').values :=
    Registry.mem_of_get? (Registry.get?_put_self _ _)
  have htable := h.table
  rw [hp] at htable
  obtain ⟨hphase, hA, hI, hC, _, _⟩ := htable.of_provisional
  have hnew : s.phase ≠ .new := by rw [hphase]; nofun
  have hpast : ∀ r ∈ (s.refunds.put refund').values, r.status = .reversed := by
    intro r hr
    rcases Registry.mem_put_iff.mp hr with rfl | ⟨hne, hold⟩
    · exact hs'
    · refine h.past r hold fun he => hne ?_
      rw [h.distinct r hold refund hm (Option.some.inj (he.trans hcurrent.symm)), hi]
  refine ⟨?_, h.reviewed, fun _ => h.owed hnew, fun _ => Or.inr rfl, ?_, hd,
    fun r hr _ => hpast r hr⟩
  · dsimp only
    rw [hA, hI, hC, isEmpty_put]
    refine .reopened ?_
    cases hr : ReturnRefundState.currentRefund { s with
        refunds := s.refunds.put refund'
        provisional := none
        currentCycleId := some recoveryRefundCycle
        obligations
        phase := .refundReopened } with
    | none => exact Or.inl rfl
    | some r => exact Or.inr (congrArg some (hpast r (currentRefund_mem hr).1))
  · exact fun hfirst => absurd (Option.some.inj hfirst) (by decide)

/-- The refund of the current cycle is asked for. -/
theorem Coherent.ask (h : Coherent op s) {refund : Refund} {obligations : Duties}
    (ready : s.phase = .readyToRefund ∨ s.phase = .refundReopened)
    (cycle : s.currentCycleId = some refund.cycleId) (hs : refund.status = .requested)
    (unasked : ∀ r ∈ s.refunds.values, r.cycleId ≠ refund.cycleId) :
    Coherent op { s with
      refunds := s.refunds.put refund
      obligations
      phase := .refundPending } := by
  have hd := h.distinct.add unasked
  have hput : refund ∈ (s.refunds.put refund).values :=
    Registry.mem_of_get? (Registry.get?_put_self _ _)
  have hnew : s.phase ≠ .new := by rcases ready with h | h <;> rw [h] <;> nofun
  obtain ⟨hA, hI, hC, hP⟩ := h.table.of_ready ready
  refine ⟨?_, h.reviewed, fun _ => h.owed hnew, fun _ => h.cycle hnew, ?_, hd, ?_⟩
  · have hr : ReturnRefundState.currentRefund { s with
        refunds := s.refunds.put refund, obligations, phase := .refundPending } = some refund :=
      currentRefund_of_mem hd hput cycle.symm
    rw [hr, isEmpty_put, Option.map_some, hs]
    dsimp only
    rw [hA, hI, hC, hP]
    exact .refundPending
  · intro hfirst
    exact Registry.forall_put (h.first hfirst) (Option.some.inj (cycle.symm.trans hfirst))
  · exact Registry.forall_put h.past fun hne => absurd cycle.symm hne

theorem Coherent.of_requested (h : Coherent op s) {refund : Refund}
    (hm : refund ∈ s.refunds.values) (hs : refund.status = .requested) :
    s.authorisations.values.map Authorisation.status = [.verified] ∧
      s.inspections.values.map Inspection.eligible = [true] ∧
      s.checkpoints.values.map Checkpoint.status = [.approved] ∧ s.provisional.isSome = false := by
  obtain ⟨_, hcurrent⟩ := h.current hm (by rw [hs]; nofun)
  have htable := h.table
  rw [hcurrent, Option.map_some, hs] at htable
  obtain ⟨hA, hI, hC, _, hP⟩ := htable.of_requested
  exact ⟨hA, hI, hC, hP⟩

theorem Coherent.begun (h : Coherent op s)
    (hA : s.authorisations.values.map Authorisation.status ≠ []) : s.phase ≠ .new := by
  intro hp
  have htable := h.table
  rw [hp] at htable
  exact hA htable.of_new.1

end Coherence

section Steps

theorem mem_status {α β : Type} {f : α → β} {l : List α} {a : α} {x : β} (hm : a ∈ l)
    (h : f a = x) : x ∈ l.map f := List.mem_map.mpr ⟨a, hm, h⟩

/-- Every accepted change keeps the phase and the registries together. -/
theorem Commit.coherent (hc : Commit op now s cause t) (h : Coherent op s) :
    Coherent op t.state := by
  cases hc with
  | returnRequested _ first => exact h.opened first
  | handoverClaimed => exact h.move id rfl rfl rfl h.table h.reviewed
  | handoverVerified _ onFile issued =>
    have hm := Registry.mem_of_get? onFile
    obtain ⟨hp, hA, hI, hC, hk, hR, hP⟩ := h.table.of_issued (mem_status hm issued)
    refine h.move (fun _ => by rw [hp]; nofun) rfl rfl rfl ?_ h.reviewed
    dsimp only
    rw [Registry.values_put_of_singleton (eq_singleton_of_map hA hm), hI, hC, hk, hR, hP]
    · exact .awaitingInspection
    · rfl
  | @inspected _ _ phase _ _ _ awaited _ _ _ _ _ outcome =>
    have htable := h.table
    rw [awaited] at htable
    obtain ⟨hA, hI, hC, hk, hR, hP⟩ := htable.of_awaitingInspection
    have hnew : s.phase ≠ .new := by rw [awaited]; nofun
    have hreviewed : s.checkpoints.values = [] := List.map_eq_nil_iff.mp hC
    refine h.move (fun _ => hnew) rfl rfl rfl ?_ (by simp [hreviewed])
    dsimp only
    rw [Registry.values_put_of_nil (List.map_eq_nil_iff.mp hI), hA, hC, hk, hR, hP]
    rcases outcome with ⟨hd, rfl, _⟩ | ⟨hd, _, rfl⟩
    · rw [List.map_singleton, Inspection.eligible, decide_eq_false hd]
      exact .ineligible (Or.inl rfl)
    · rw [List.map_singleton, Inspection.eligible, decide_eq_true hd, h.owed hnew,
        Option.getD_some, if_pos op.policy.exceedsThreshold]
      exact .unreviewed
  | @decided _ checkpoint decision phase _ _ _ onFile opened _ _ _ outcome =>
    have hm := Registry.mem_of_get? onFile
    obtain ⟨hA, hI, hC, hk, hR, hP⟩ := h.table.of_opened (mem_status hm opened)
    refine h.move (fun _ => h.begun (by simp [hA])) rfl rfl rfl ?_ ?_
    · dsimp only
      rw [Registry.values_put_of_singleton (eq_singleton_of_map hC hm), hA, hI, hk, hR, hP]
      · rcases outcome with ⟨rfl, rfl, _⟩ | ⟨rfl, rfl, _⟩
        · exact .readyToRefund
        · exact .declined (Or.inl rfl) (Or.inl rfl)
      · rfl
    · exact Registry.forall_put h.reviewed (h.reviewed checkpoint hm)
  | settled _ onFile requested =>
    have hm := Registry.mem_of_get? onFile
    obtain ⟨hA, hI, hC, hP⟩ := h.of_requested hm requested
    refine h.update hm (h.current hm (by rw [requested]; nofun)).1 rfl rfl
      (h.begun (by simp [hA])) ?_
    rw [hA, hI, hC, hP]
    exact .refundSettled
  | reversed _ onFile settled _ closed =>
    exact h.reverse (Registry.mem_of_get? onFile) settled rfl rfl rfl closed
  | reminderFired _ _ onFile issued =>
    have hm := Registry.mem_of_get? onFile
    obtain ⟨hp, hA, hI, hC, hk, hR, hP⟩ := h.table.of_issued (mem_status hm issued)
    refine h.move (fun _ => by rw [hp]; nofun) rfl rfl rfl ?_ h.reviewed
    dsimp only
    rw [Registry.values_put_of_singleton (eq_singleton_of_map hA hm), hI, hC, hk, hR, hP, hp,
      List.map_singleton, issued]
    · exact .awaitingHandover
    · rfl
  | returnExpired _ _ onFile issued =>
    have hm := Registry.mem_of_get? onFile
    obtain ⟨hp, hA, hI, hC, hk, hR, hP⟩ := h.table.of_issued (mem_status hm issued)
    refine h.move (fun _ => by rw [hp]; nofun) rfl rfl rfl ?_ h.reviewed
    dsimp only
    rw [Registry.values_put_of_singleton (eq_singleton_of_map hA hm), hI, hC, hk, hR, hP]
    · exact .returnExpired (Or.inl rfl)
    · rfl
  | @approvalExpired _ checkpoint _ _ _ _ onFile opened =>
    have hm := Registry.mem_of_get? onFile
    obtain ⟨hA, hI, hC, hk, hR, hP⟩ := h.table.of_opened (mem_status hm opened)
    refine h.move (fun _ => h.begun (by simp [hA])) rfl rfl rfl ?_ ?_
    · dsimp only
      rw [Registry.values_put_of_singleton (eq_singleton_of_map hC hm), hA, hI, hk, hR, hP]
      · exact .declined (Or.inl rfl) (Or.inr rfl)
      · rfl
    · exact Registry.forall_put h.reviewed (h.reviewed checkpoint hm)
  | finalized _ cooling closed =>
    have htable := h.table
    rw [closed] at htable
    obtain ⟨_, hA, hI, hC, hk, hR⟩ := htable.of_provisional
    refine h.move (fun _ => by rw [cooling]; nofun) rfl rfl rfl ?_ h.reviewed
    dsimp only
    rw [hA, hI, hC, hk, hR]
    exact .finalSuccess
  | authorised _ awaited =>
    have htable := h.table
    rw [awaited] at htable
    obtain ⟨hA, hI, hC, hk, hR, hP⟩ := htable.of_returnRequested
    refine h.move (fun _ => by rw [awaited]; nofun) rfl rfl rfl ?_ h.reviewed
    dsimp only
    rw [Registry.values_put_of_nil (List.map_eq_nil_iff.mp hA), hI, hC, hk, hR, hP]
    exact .awaitingHandover
  | @reviewRequested _ _ _ inspection _ _ _ _ awaited onFile _ _ unreviewed =>
    have hm := Registry.mem_of_get? onFile
    have htable := h.table
    rw [awaited] at htable
    obtain ⟨hA, hI, hC, hk, hR, hP⟩ := htable.of_awaitingApproval
    have hnil : s.checkpoints.values = [] := by
      rcases hC with hC | hC
      · exact List.map_eq_nil_iff.mp hC
      · obtain ⟨c, hv, _⟩ := List.map_eq_singleton_iff.mp hC
        have hcm : c ∈ s.checkpoints.values := by simp [hv]
        exact absurd (h.reviewed c hcm inspection hm) (unreviewed c hcm)
    refine h.move id rfl rfl rfl ?_ ?_
    · dsimp only
      rw [Registry.values_put_of_nil hnil, hA, hI, hk, hR, hP, awaited]
      exact .underReview
    · dsimp only
      rw [eq_singleton_of_map hI hm]
      refine Registry.forall_put (by simp [hnil]) ?_
      simp
  | refundRequested _ ready cycle unasked =>
    exact h.ask ready cycle rfl unasked
  | messageSent => exact h.move id rfl rfl rfl h.table h.reviewed
  | closed _ closes =>
    refine h.move (fun _ hp => ?_) rfl rfl rfl (h.table.closes closes) h.reviewed
    rw [hp] at closes
    cases closes
  | provisionallyClosed _ awaited =>
    have htable := h.table
    rw [awaited] at htable
    obtain ⟨hA, hI, hC, hk, hR, _⟩ := htable.of_refundSettled
    refine h.move (fun _ => by rw [awaited]; nofun) rfl rfl rfl ?_ h.reviewed
    dsimp only
    rw [hA, hI, hC, hk, hR]
    exact .provisional

end Steps

end OperateBench.ReturnRefund
