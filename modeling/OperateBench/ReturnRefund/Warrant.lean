import OperateBench.Core.Timeliness
import OperateBench.ReturnRefund.Summary

/-! # What a refund rests on

A refund rests on the chain of a handover, the inspection of what was handed over and
the approval of that inspection. Each link is checked once, when the next one is made;
that all of them are there behind every refund, and in the order of their instants, is
an invariant of the accepted changes.
-/

namespace OperateBench.ReturnRefund

open Foundation

variable {op : ReturnRefundOperation} {s s' : ReturnRefundState} {now : String} {cause : Cause}
  {t : Transaction} {a b c : String} {m n : Int}

section Instants

/-- Both instants are of the calendar, and the first is no later than the second. -/
def NoLater (a b : String) : Prop := ∃ m n, strptime a = .ok m ∧ strptime b = .ok n ∧ m ≤ n

/-- The instant is of the calendar and over by the moment. -/
def Past (moment : Int) (a : String) : Prop := ∃ m, strptime a = .ok m ∧ m ≤ moment

theorem Past.mono (h : Past m a) (hmn : m ≤ n) : Past n a := by
  obtain ⟨k, hk, hle⟩ := h
  exact ⟨k, hk, hle.trans hmn⟩

theorem Past.noLater (h : Past m a) (hb : strptime b = .ok m) : NoLater a b := by
  obtain ⟨k, hk, hle⟩ := h
  exact ⟨k, m, hk, hb, hle⟩

end Instants

section Records

/-- Nothing that was stamped lies after the moment. -/
structure Dated (moment : Int) (s : ReturnRefundState) : Prop where
  handed : ∀ c ∈ s.carrierRecords.values, Past moment c.verifiedAt
  resolved : ∀ c ∈ s.checkpoints.values, ∀ at', c.resolvedAt = some at' → Past moment at'

theorem Dated.mono (h : Dated m s) (hmn : m ≤ n) : Dated n s :=
  ⟨fun c hc => (h.handed c hc).mono hmn, fun c hc a ha => (h.resolved c hc a ha).mono hmn⟩

theorem Commit.dated (hc : Commit op now s cause t) (hn : strptime now = .ok n)
    (h : Dated n s) : Dated n t.state := by
  have hnow : Past n now := ⟨n, hn, le_rfl⟩
  cases hc with
  | handoverVerified => exact ⟨Registry.forall_put h.handed hnow, h.resolved⟩
  | decided =>
    refine ⟨h.handed, Registry.forall_put h.resolved ?_⟩
    rintro _ ⟨⟩
    exact hnow
  | approvalExpired =>
    refine ⟨h.handed, Registry.forall_put h.resolved ?_⟩
    rintro _ ⟨⟩
    exact hnow
  | reviewRequested => exact ⟨h.handed, Registry.forall_put h.resolved nofun⟩
  | _ => exact ⟨h.handed, h.resolved⟩

/-- The approval of the inspection, given before its deadline. -/
structure Approves (op : ReturnRefundOperation) (checkpoint : Checkpoint) (inspectionId : String)
    (resolvedAt : String) : Prop where
  approved : checkpoint.status = .approved
  reviews : checkpoint.inspectionId = inspectionId
  amount : checkpoint.amountMinor = some op.policy.refundAmountMinor.1
  currency : checkpoint.currency = some op.policy.currency
  resolved : checkpoint.resolvedAt = some resolvedAt
  inTime : NoLater resolvedAt checkpoint.deadlineAt

/-- The inspection found the goods eligible for the amount, after the carrier had them. -/
structure Finds (op : ReturnRefundOperation) (s : ReturnRefundState) (inspection : Inspection)
    (carrier : CarrierRecord) : Prop where
  eligible : inspection.disposition = eligibleDisposition
  amount : inspection.amountMinor = some op.policy.refundAmountMinor.1
  currency : inspection.currency = some op.policy.currency
  handed : carrier ∈ s.carrierRecords.values
  case : carrier.returnId = s.returnId
  order : NoLater carrier.verifiedAt inspection.inspectedAt

/-- The whole authority behind a refund. -/
structure Rests (op : ReturnRefundOperation) (s : ReturnRefundState) (refund : Refund)
    (inspection : Inspection) (carrier : CarrierRecord) (checkpoint : Checkpoint)
    (resolvedAt : String) : Prop where
  inspected : s.inspections.get? refund.inspectionId = some inspection
  finds : Finds op s inspection carrier
  amount : refund.amountMinor = some op.policy.refundAmountMinor.1
  currency : refund.currency = some op.policy.currency
  named : refund.approvalCheckpointId = some checkpoint.checkpointId
  reviewed : s.checkpoints.get? checkpoint.checkpointId = some checkpoint
  approves : Approves op checkpoint refund.inspectionId resolvedAt
  before : NoLater resolvedAt refund.requestedAt

/-- An approval that would be accepted now is given before its deadline. -/
def InTime (now : String) (s : ReturnRefundState) : Prop :=
  ∀ c ∈ s.checkpoints.values, c.status = .opened → NoLater now c.deadlineAt

/-- The links that are there are made of the case, and each rests on the one before. -/
structure Grounded (op : ReturnRefundOperation) (s : ReturnRefundState) : Prop where
  unclaimed : s.phase = .new → s.carrierRecords.values = []
  currency : s.phase ≠ .new → s.currency = some op.policy.currency
  carrier : ∀ c ∈ s.carrierRecords.values, c.returnId = s.returnId
  inspection : ∀ i ∈ s.inspections.values, i.amountMinor = some op.policy.refundAmountMinor.1 ∧
    i.currency = some op.policy.currency ∧
      ∃ c ∈ s.carrierRecords.values, NoLater c.verifiedAt i.inspectedAt
  checkpoint : ∀ c ∈ s.checkpoints.values, c.amountMinor = some op.policy.refundAmountMinor.1 ∧
    c.currency = some op.policy.currency ∧ (c.status = .approved →
      ∃ resolvedAt, c.resolvedAt = some resolvedAt ∧ NoLater resolvedAt c.deadlineAt)
  refund : ∀ r ∈ s.refunds.values, ∃ inspection carrier checkpoint resolvedAt,
    Rests op s r inspection carrier checkpoint resolvedAt

theorem Grounded.initial : Grounded op op.initialState where
  unclaimed _ := rfl
  currency h := absurd rfl h
  carrier _ hc := absurd hc List.not_mem_nil
  inspection _ hi := absurd hi List.not_mem_nil
  checkpoint _ hc := absurd hc List.not_mem_nil
  refund _ hr := absurd hr List.not_mem_nil

/-- The links that a change may add to, but not alter. -/
structure Retains (s s' : ReturnRefundState) : Prop where
  case : s'.returnId = s.returnId
  carriers : ∀ c ∈ s.carrierRecords.values, c ∈ s'.carrierRecords.values
  inspections : ∀ i inspection, s.inspections.get? i = some inspection →
    s'.inspections.get? i = some inspection
  checkpoints : ∀ k checkpoint, s.checkpoints.get? k = some checkpoint →
    checkpoint.status = .approved → s'.checkpoints.get? k = some checkpoint

theorem Rests.retained {refund refund' : Refund} {inspection : Inspection}
    {carrier : CarrierRecord} {checkpoint : Checkpoint} {resolvedAt : String}
    (h : Rests op s refund inspection carrier checkpoint resolvedAt) (hs : Retains s s')
    (hi : refund'.inspectionId = refund.inspectionId)
    (ha : refund'.amountMinor = refund.amountMinor) (hc : refund'.currency = refund.currency)
    (hn : refund'.approvalCheckpointId = refund.approvalCheckpointId)
    (ht : refund'.requestedAt = refund.requestedAt) :
    Rests op s' refund' inspection carrier checkpoint resolvedAt where
  inspected := hi ▸ hs.inspections _ _ h.inspected
  finds := ⟨h.finds.eligible, h.finds.amount, h.finds.currency, hs.carriers _ h.finds.handed,
    h.finds.case.trans hs.case.symm, h.finds.order⟩
  amount := ha.trans h.amount
  currency := hc.trans h.currency
  named := hn.trans h.named
  reviewed := hs.checkpoints _ _ h.reviewed h.approves.approved
  approves := hi ▸ h.approves
  before := ht ▸ h.before

/-- Refunds that were there before rest on what they rested on. -/
theorem Grounded.retained (h : Grounded op s) (hs : Retains s s') :
    ∀ r ∈ s.refunds.values, ∃ inspection carrier checkpoint resolvedAt,
      Rests op s' r inspection carrier checkpoint resolvedAt := by
  intro r hm
  obtain ⟨inspection, carrier, checkpoint, resolvedAt, hrests⟩ := h.refund r hm
  exact ⟨inspection, carrier, checkpoint, resolvedAt, hrests.retained hs rfl rfl rfl rfl rfl⟩

/-- A change of the phase, and perhaps of the refunds that are there. -/
theorem Grounded.move (h : Grounded op s) (hp : s'.phase = .new ↔ s.phase = .new)
    (hcase : s'.returnId = s.returnId) (hcurrency : s'.currency = s.currency)
    (hcarriers : s'.carrierRecords = s.carrierRecords)
    (hinspections : s'.inspections = s.inspections) (hcheckpoints : s'.checkpoints = s.checkpoints)
    (hrefunds : ∀ r ∈ s'.refunds.values, ∃ r₀ ∈ s.refunds.values,
      r.inspectionId = r₀.inspectionId ∧ r.amountMinor = r₀.amountMinor ∧
        r.currency = r₀.currency ∧ r.approvalCheckpointId = r₀.approvalCheckpointId ∧
        r.requestedAt = r₀.requestedAt) : Grounded op s' := by
  have hs : Retains s s' := by
    refine ⟨hcase, ?_, ?_, ?_⟩
    · rw [hcarriers]
      exact fun _ => id
    · rw [hinspections]
      exact fun _ _ => id
    · rw [hcheckpoints]
      exact fun _ _ h _ => h
  refine ⟨?_, ?_, ?_, ?_, ?_, ?_⟩
  · rw [hp, hcarriers]
    exact h.unclaimed
  · rw [ne_eq, hp, hcurrency]
    exact h.currency
  · rw [hcarriers, hcase]
    exact h.carrier
  · rw [hinspections, hcarriers]
    exact h.inspection
  · rw [hcheckpoints]
    exact h.checkpoint
  · intro r hr
    obtain ⟨r₀, hm, hi, ha, hc, hn, ht⟩ := hrefunds r hr
    obtain ⟨inspection, carrier, checkpoint, resolvedAt, hrests⟩ := h.refund r₀ hm
    exact ⟨inspection, carrier, checkpoint, resolvedAt, hrests.retained hs hi ha hc hn ht⟩

/-- The refunds that are there, one of them moved on. -/
theorem moved_refunds {refund refund' : Refund} (hm : refund ∈ s.refunds.values)
    (hi : refund'.inspectionId = refund.inspectionId)
    (ha : refund'.amountMinor = refund.amountMinor) (hc : refund'.currency = refund.currency)
    (hn : refund'.approvalCheckpointId = refund.approvalCheckpointId)
    (ht : refund'.requestedAt = refund.requestedAt) :
    ∀ r ∈ (s.refunds.put refund').values, ∃ r₀ ∈ s.refunds.values,
      r.inspectionId = r₀.inspectionId ∧ r.amountMinor = r₀.amountMinor ∧
        r.currency = r₀.currency ∧ r.approvalCheckpointId = r₀.approvalCheckpointId ∧
        r.requestedAt = r₀.requestedAt :=
  Registry.forall_put (fun r hr => ⟨r, hr, rfl, rfl, rfl, rfl, rfl⟩)
    ⟨refund, hm, hi, ha, hc, hn, ht⟩

theorem same_refunds : ∀ r ∈ s.refunds.values, ∃ r₀ ∈ s.refunds.values,
    r.inspectionId = r₀.inspectionId ∧ r.amountMinor = r₀.amountMinor ∧
      r.currency = r₀.currency ∧ r.approvalCheckpointId = r₀.approvalCheckpointId ∧
      r.requestedAt = r₀.requestedAt :=
  fun r hr => ⟨r, hr, rfl, rfl, rfl, rfl, rfl⟩

theorem mem_put_fresh {α : Type} {ident : α → String} {registry : Registry ident} {a b : α}
    (h : registry.get? (ident a) = none) (hb : b ∈ registry.values) :
    b ∈ (registry.put a).values :=
  Registry.mem_put_of_fresh h hb

theorem get?_put_fresh {α : Type} {ident : α → String} {registry : Registry ident} {a b : α}
    {k : String} (h : registry.get? (ident a) = none) (hb : registry.get? k = some b) :
    (registry.put a).get? k = some b := by
  rw [Registry.get?_put_of_ne, hb]
  rintro rfl
  rw [h] at hb
  cases hb

/-- A review that is over was not open before. -/
theorem retains_review {checkpoint checkpoint' : Checkpoint} {k : String}
    {obligations : Duties} {phase : Phase} (onFile : s.checkpoints.get? k = some checkpoint)
    (opened : checkpoint.status = .opened)
    (hi : checkpoint'.checkpointId = checkpoint.checkpointId) :
    Retains s { s with checkpoints := s.checkpoints.put checkpoint', obligations, phase } := by
  refine ⟨rfl, fun _ => id, fun _ _ => id, fun k' approved hk hs => ?_⟩
  rw [Registry.get?_put_of_ne]
  · exact hk
  · rintro rfl
    rw [hi, Registry.get?_ident onFile] at hk
    obtain rfl := Option.some.inj hk
    rw [opened] at hs
    cases hs

/-- The approval a refund was asked for with. -/
theorem approvalProblem_none {payload : Fields} {inspection : Inspection}
    (howed : s.amountMinor = some op.policy.refundAmountMinor.1)
    (h : op.approvalProblem s payload inspection = none) : ∃ checkpoint : Checkpoint,
      payload.text? "approval_checkpoint_id" = some checkpoint.checkpointId ∧
        s.checkpoints.get? checkpoint.checkpointId = some checkpoint ∧
        checkpoint.status = .approved ∧ checkpoint.inspectionId = inspection.inspectionId := by
  unfold ReturnRefundOperation.approvalProblem at h
  rw [howed, Option.getD_some, if_pos op.policy.exceedsThreshold] at h
  split at h
  · cases h
  · rename_i checkpoint hbind
    obtain ⟨checkpointId, hnamed, hfile⟩ := Option.bind_eq_some_iff.mp hbind
    obtain rfl : checkpoint.checkpointId = checkpointId := Registry.ident_of_get? hfile
    split at h
    · rename_i happroves
      simp only [ReturnRefundOperation.approves, Bool.and_eq_true, decide_eq_true_eq] at happroves
      exact ⟨checkpoint, hnamed, hfile, happroves.1.1.1, happroves.1.1.2⟩
    · cases h

end Records

section Steps

/-- Every accepted change keeps the chain, if what it approves is approved in time. -/
theorem Commit.grounded (hc : Commit op now s cause t) (hcoherent : Coherent op s)
    (hdated : Dated n s) (hn : strptime now = .ok n) (htime : InTime now s)
    (h : Grounded op s) : Grounded op t.state := by
  cases hc with
  | returnRequested _ first =>
    have htable := hcoherent.table
    rw [first] at htable
    obtain ⟨_, hI, hC, hk, _⟩ := htable.of_new
    have hcarriers := h.unclaimed first
    have hinspections := List.map_eq_nil_iff.mp hI
    have hcheckpoints := List.map_eq_nil_iff.mp hC
    have hrefunds : s.refunds.values = [] := by simpa using hk
    exact ⟨nofun, fun _ => rfl, by simp [hcarriers], by simp [hinspections],
      by simp [hcheckpoints], by simp [hrefunds]⟩
  | handoverClaimed => exact h.move Iff.rfl rfl rfl rfl rfl rfl same_refunds
  | handoverVerified _ onFile issued _ _ _ fresh =>
    have hm := Registry.mem_of_get? onFile
    obtain ⟨hp, _⟩ := hcoherent.table.of_issued (mem_status hm issued)
    refine ⟨nofun, fun _ => h.currency (by rw [hp]; nofun), Registry.forall_put h.carrier rfl, ?_,
      h.checkpoint, h.retained ⟨rfl, fun _ => mem_put_fresh fresh, fun _ _ => id,
        fun _ _ h _ => h⟩⟩
    intro i hi
    obtain ⟨hamount, hcurrency, c, hc, horder⟩ := h.inspection i hi
    exact ⟨hamount, hcurrency, c, mem_put_fresh fresh hc, horder⟩
  | @inspected _ _ phase _ _ _ awaited verified _ _ _ fresh outcome =>
    have hnew : s.phase ≠ .new := by rw [awaited]; nofun
    have hphase : phase ≠ .new := by
      rcases outcome with ⟨_, rfl, _⟩ | ⟨_, _, rfl⟩
      · nofun
      · split <;> nofun
    refine ⟨fun hp => absurd hp hphase, fun _ => h.currency hnew, h.carrier,
      Registry.forall_put h.inspection ⟨hcoherent.owed hnew, h.currency hnew, ?_⟩, h.checkpoint,
      h.retained ⟨rfl, fun _ => id, fun _ _ => get?_put_fresh fresh, fun _ _ h _ => h⟩⟩
    obtain ⟨c, hc⟩ := List.exists_mem_of_ne_nil s.carrierRecords.values
      (by simpa [hasVerifiedHandover] using verified)
    exact ⟨c, hc, (hdated.handed c hc).noLater hn⟩
  | @decided _ checkpoint decision phase _ _ _ onFile opened _ _ _ outcome =>
    have hm := Registry.mem_of_get? onFile
    have hphase : phase ≠ .new := by
      rcases outcome with ⟨_, rfl, _⟩ | ⟨_, rfl, _⟩ <;> nofun
    obtain ⟨hA, _⟩ := hcoherent.table.of_opened (mem_status hm opened)
    refine ⟨fun hp => absurd hp hphase, fun _ => h.currency (hcoherent.begun (by simp [hA])),
      h.carrier, h.inspection, Registry.forall_put h.checkpoint ?_,
      h.retained (retains_review onFile opened rfl)⟩
    obtain ⟨hamount, hcurrency, _⟩ := h.checkpoint checkpoint hm
    exact ⟨hamount, hcurrency, fun _ => ⟨now, rfl, htime checkpoint hm opened⟩⟩
  | settled _ onFile requested =>
    have hm := Registry.mem_of_get? onFile
    obtain ⟨hA, _⟩ := hcoherent.of_requested hm requested
    refine h.move ?_ rfl rfl rfl rfl rfl (moved_refunds hm rfl rfl rfl rfl rfl)
    exact iff_of_false nofun (hcoherent.begun (by simp [hA]))
  | reversed _ onFile _ _ closed =>
    have htable := hcoherent.table
    rw [closed] at htable
    refine h.move ?_ rfl rfl rfl rfl rfl
      (moved_refunds (Registry.mem_of_get? onFile) rfl rfl rfl rfl rfl)
    exact iff_of_false nofun (by rw [htable.of_provisional.1]; nofun)
  | reminderFired => exact h.move Iff.rfl rfl rfl rfl rfl rfl same_refunds
  | returnExpired _ _ onFile issued =>
    obtain ⟨hp, _⟩ := hcoherent.table.of_issued (mem_status (Registry.mem_of_get? onFile) issued)
    exact h.move (iff_of_false nofun (by rw [hp]; nofun)) rfl rfl rfl rfl rfl same_refunds
  | @approvalExpired _ checkpoint _ _ _ _ onFile opened =>
    have hm := Registry.mem_of_get? onFile
    obtain ⟨hA, _⟩ := hcoherent.table.of_opened (mem_status hm opened)
    obtain ⟨hamount, hcurrency, _⟩ := h.checkpoint checkpoint hm
    exact ⟨nofun, fun _ => h.currency (hcoherent.begun (by simp [hA])), h.carrier, h.inspection,
      Registry.forall_put h.checkpoint ⟨hamount, hcurrency, nofun⟩,
      h.retained (retains_review onFile opened rfl)⟩
  | finalized _ cooling =>
    exact h.move (iff_of_false nofun (by rw [cooling]; nofun)) rfl rfl rfl rfl rfl same_refunds
  | authorised _ awaited =>
    exact h.move (iff_of_false nofun (by rw [awaited]; nofun)) rfl rfl rfl rfl rfl same_refunds
  | reviewRequested _ awaited =>
    have hnew : s.phase ≠ .new := by rw [awaited]; nofun
    have hfresh := get?_allocate s.checkpoints "refund_checkpoint"
    exact ⟨h.unclaimed, h.currency, h.carrier, h.inspection, Registry.forall_put h.checkpoint
      ⟨hcoherent.owed hnew, h.currency hnew, nofun⟩, h.retained ⟨rfl, fun _ => id, fun _ _ => id,
        fun _ _ hk _ => get?_put_fresh hfresh hk⟩⟩
  | @refundRequested _ payload _ inspection _ _ _ ready _ _ onFile eligible _ approval =>
    have hnew : s.phase ≠ .new := by rcases ready with h | h <;> rw [h] <;> nofun
    have howed := hcoherent.owed hnew
    obtain ⟨checkpoint, hnamed, hfile, happroved, hreviews⟩ := approvalProblem_none howed approval
    have hm := Registry.mem_of_get? onFile
    obtain ⟨hamount, hcurrency, c, hc, horder⟩ := h.inspection inspection hm
    obtain ⟨hamount', hcurrency', hresolved⟩ :=
      h.checkpoint checkpoint (Registry.mem_of_get? hfile)
    obtain ⟨resolvedAt, hat, hintime⟩ := hresolved happroved
    refine ⟨nofun, fun _ => h.currency hnew, h.carrier, h.inspection, h.checkpoint,
      Registry.forall_put (h.retained ⟨rfl, fun _ => id, fun _ _ => id, fun _ _ h _ => h⟩)
        ⟨inspection, c, checkpoint, resolvedAt, Registry.get?_ident onFile,
          ⟨eligible, hamount, hcurrency, hc, h.carrier c hc, horder⟩, howed, h.currency hnew,
          hnamed, hfile, ⟨happroved, hreviews, hamount', hcurrency', hat, hintime⟩, ?_⟩⟩
    exact (hdated.resolved checkpoint (Registry.mem_of_get? hfile) resolvedAt hat).noLater hn
  | messageSent => exact h.move Iff.rfl rfl rfl rfl rfl rfl same_refunds
  | closed _ closes =>
    have hp : ∀ {phase outcome}, ClosesAs s.phase phase outcome →
        (phase = .new ↔ s.phase = .new) := by
      intro phase outcome hc
      generalize s.phase = before at hc
      cases hc <;> simp
    exact h.move (hp closes) rfl rfl rfl rfl rfl same_refunds
  | provisionallyClosed _ awaited =>
    exact h.move (iff_of_false nofun (by rw [awaited]; nofun)) rfl rfl rfl rfl rfl same_refunds

end Steps

end OperateBench.ReturnRefund
