import OperateBench.ReturnRefund.Reversals

/-! # Recovery from a reversal

A reversal opens the recovery cycle and the duty to refund again in it. There is one
recovery cycle: a second reversal names it once more, where a refund is already on
file and the duty is already discharged. And a customer's claim that took the name of
the inspection or of its checkpoint makes the citation of either a citation of a claim.
-/

namespace OperateBench.ReturnRefund

open Foundation EngineState

section Duties

variable {duties duties' : Duties} {now id id' : String} {kind : ObligationKind}
  {cycleId : Option String} {minutes : Int} {closure : Closure}

theorem openDuty_ok (h : openDuty now id kind cycleId minutes duties = .ok duties') :
    duties' = duties ∧ duties.contains id = true ∨ ∃ dueAt,
      shiftMinutes now minutes s!"obligation {id}" = .ok dueAt ∧
        duties' = duties.put { obligationId := id, kind, cycleId, openedAt := now, dueAt } ∧
        duties.contains id = false := by
  unfold openDuty at h
  split at h
  · rename_i hc
    exact Or.inl ⟨(Except.ok.inj h).symm, hc⟩
  · rename_i hc
    obtain ⟨dueAt, hd, h⟩ := bind_ok h
    exact Or.inr ⟨dueAt, hd, (pure_ok h).symm, by simpa using hc⟩

theorem openDuty_frame (h : openDuty now id kind cycleId minutes duties = .ok duties')
    (hne : id ≠ id') : duties'.get? id' = duties.get? id' := by
  rcases openDuty_ok h with ⟨rfl, _⟩ | ⟨dueAt, _, rfl, _⟩
  · rfl
  · exact Registry.get?_put_of_ne _ hne

theorem closeDuty_frame (h : closeDuty now id closure duties = .ok duties') (hne : id ≠ id') :
    duties'.get? id' = duties.get? id' := by
  unfold closeDuty at h
  split at h
  · rw [Except.ok.inj h]
  · rename_i obligation hg
    split at h
    · rw [Except.ok.inj h]
    · obtain ⟨closure, _, h⟩ := bind_ok h
      obtain rfl := pure_ok h
      refine Registry.get?_put_of_ne _ ?_
      rwa [show _ = id from Registry.ident_of_get? hg]

theorem closeDuty_none (h : closeDuty now id closure duties = .ok duties')
    (hn : duties.get? id' = none) : duties'.get? id' = none := by
  by_cases hne : id = id'
  · subst hne
    unfold closeDuty at h
    rw [hn] at h
    rwa [← Except.ok.inj h]
  · rw [closeDuty_frame h hne, hn]

end Duties

section Names

theorem append_ne {a b : String} (hab : ¬a.toList <+: b.toList) (hba : ¬b.toList <+: a.toList)
    (x y : String) : a ++ x ≠ b ++ y := by
  intro h
  have h := congrArg String.toList h
  rw [String.toList_append, String.toList_append] at h
  rcases List.prefix_or_prefix_of_prefix ⟨_, rfl⟩ ⟨_, h.symm⟩ with hp | hp
  · exact hab hp
  · exact hba hp

/-- The duty is not the one to recover. -/
theorem ne_recovery (cycle x : String) :
    handoverObligation x ≠ recoveryObligation cycle ∧
      handoverReminderObligation x ≠ recoveryObligation cycle ∧
      approvalObligation x ≠ recoveryObligation cycle ∧
      settlementObligation x ≠ recoveryObligation cycle ∧
      completionNoticeObligation x ≠ recoveryObligation cycle ∧
      denialNoticeObligation x ≠ recoveryObligation cycle ∧
      expiryNoticeObligation x ≠ recoveryObligation cycle :=
  ⟨append_ne (by decide) (by decide) _ _, append_ne (by decide) (by decide) _ _,
    append_ne (by decide) (by decide) _ _, append_ne (by decide) (by decide) _ _,
    append_ne (by decide) (by decide) _ _, append_ne (by decide) (by decide) _ _,
    append_ne (by decide) (by decide) _ _⟩

end Names

section Records

variable {op : ReturnRefundOperation} {s : ReturnRefundState} {now : String} {cause : Cause}
  {t : Transaction}

/-- The duty to refund again. -/
abbrev recoveryDuty (s : ReturnRefundState) : Option Obligation :=
  s.obligations.get? (recoveryObligation recoveryRefundCycle)

theorem noticeObligation_ne {fixtureId cycleId id : String}
    (h : ReturnRefundOperation.noticeObligation s fixtureId cycleId = .ok id) :
    id ≠ recoveryObligation recoveryRefundCycle := by
  have hne := ne_recovery recoveryRefundCycle
  unfold ReturnRefundOperation.noticeObligation at h
  split at h
  · split at h
    · cases h
    · rename_i authorisation _
      rw [← Except.ok.inj h]
      exact (hne authorisation.authorisationId).2.1
  split at h
  · split at h
    · cases h
    · rw [← Except.ok.inj h]
      exact (hne cycleId).2.2.2.2.2.2
  split at h
  · split at h
    · cases h
    · rw [← Except.ok.inj h]
      exact (hne cycleId).2.2.2.2.1
  split at h
  · split at h
    · cases h
    · rw [← Except.ok.inj h]
      exact (hne cycleId).2.2.2.2.2.1
  · cases h

/-- What a change makes of the duty to refund again. -/
inductive Recovers (op : ReturnRefundOperation) (now : String) (s t : ReturnRefundState) : Prop
  | same (duty : recoveryDuty t = recoveryDuty s)
  | opened (duty : openDuty now (recoveryObligation recoveryRefundCycle) .refundRecovery
      (some recoveryRefundCycle) op.policy.horizonMinutes s.obligations = .ok t.obligations)
      (closed : s.provisional.isSome) (phase : t.phase = .refundReopened)
      (current : t.currentCycleId = some recoveryRefundCycle)
  | asked (duty : recoveryDuty s = none → recoveryDuty t = none) (phase : t.phase = .refundPending)

theorem Commit.recovers (hc : Commit op now s cause t) : Recovers op now s t.state := by
  have hne := ne_recovery recoveryRefundCycle
  cases hc with
  | returnRequested => exact .same rfl
  | handoverClaimed => exact .same rfl
  | handoverVerified _ _ _ _ _ _ _ duties =>
    obtain ⟨_, h₁, h₂⟩ := bind_ok duties
    exact .same ((closeDuty_frame h₂ (hne _).2.1).trans (closeDuty_frame h₁ (hne _).1))
  | inspected _ _ _ _ _ _ _ outcome =>
    rcases outcome with ⟨_, _, h⟩ | ⟨_, h, _⟩
    · exact .same (openDuty_frame h (hne _).2.2.2.2.2.1)
    · exact .same (congrArg (fun duties : Duties => duties.get? _) h)
  | decided _ _ _ _ _ _ outcome =>
    rcases outcome with ⟨_, _, h⟩ | ⟨_, _, h⟩
    · exact .same (closeDuty_frame h (hne _).2.2.1)
    · obtain ⟨_, h₁, h₂⟩ := bind_ok h
      exact .same ((openDuty_frame h₂ (hne _).2.2.2.2.2.1).trans
        (closeDuty_frame h₁ (hne _).2.2.1))
  | settled _ _ _ _ _ duties =>
    obtain ⟨_, h₁, h₂⟩ := bind_ok duties
    exact .same ((openDuty_frame h₂ (hne _).2.2.2.2.1).trans
      (closeDuty_frame h₁ (hne _).2.2.2.1))
  | reversed _ _ _ _ closed _ duties =>
    exact .opened duties (by rw [closed]; rfl) rfl rfl
  | reminderFired _ _ _ _ duties => exact .same (openDuty_frame duties (hne _).2.1)
  | returnExpired _ _ _ _ duties =>
    obtain ⟨_, h₁, h⟩ := bind_ok duties
    obtain ⟨_, h₂, h₃⟩ := bind_ok h
    exact .same ((openDuty_frame h₃ (hne _).2.2.2.2.2.2).trans
      ((closeDuty_frame h₂ (hne _).2.1).trans (closeDuty_frame h₁ (hne _).1)))
  | approvalExpired _ _ _ _ duties =>
    obtain ⟨_, h₁, h₂⟩ := bind_ok duties
    exact .same ((openDuty_frame h₂ (hne _).2.2.2.2.2.1).trans
      (closeDuty_frame h₁ (hne _).2.2.1))
  | finalized => exact .same rfl
  | authorised _ _ _ _ duties => exact .same (openDuty_frame duties (hne _).1)
  | reviewRequested _ _ _ _ _ _ _ duties => exact .same (openDuty_frame duties (hne _).2.2.1)
  | refundRequested _ _ _ _ _ _ _ _ _ duties =>
    obtain ⟨_, h₁, h₂⟩ := bind_ok duties
    refine .asked (fun hn => ?_) rfl
    exact (openDuty_frame h₂ (hne _).2.2.2.1).trans (closeDuty_none h₁ hn)
  | messageSent _ _ _ notice duties =>
    exact .same (closeDuty_frame duties (noticeObligation_ne notice))
  | closed => exact .same rfl
  | provisionallyClosed => exact .same rfl

/-- The current cycle changes with the first request, and with a reversal. -/
theorem Commit.currentCycle (hc : Commit op now s cause t) (hp : s.phase ≠ .new) :
    t.state.phase ≠ .new ∧ (t.state.currentCycleId = some recoveryRefundCycle ∨
      t.state.currentCycleId = s.currentCycleId) := by
  cases hc with
  | returnRequested _ first => exact absurd first hp
  | reversed => exact ⟨nofun, Or.inl rfl⟩
  | inspected _ _ _ _ _ _ _ outcome =>
    refine ⟨?_, Or.inr rfl⟩
    rcases outcome with ⟨_, rfl, _⟩ | ⟨_, _, rfl⟩
    · nofun
    · dsimp only
      split <;> nofun
  | decided _ _ _ _ _ _ outcome =>
    rcases outcome with ⟨_, rfl, _⟩ | ⟨_, rfl, _⟩ <;> exact ⟨nofun, Or.inr rfl⟩
  | closed _ closes =>
    revert closes
    generalize s.phase = before
    rintro ⟨⟩ <;> exact ⟨nofun, Or.inr rfl⟩
  | handoverClaimed => exact ⟨hp, Or.inr rfl⟩
  | reminderFired => exact ⟨hp, Or.inr rfl⟩
  | reviewRequested => exact ⟨hp, Or.inr rfl⟩
  | messageSent => exact ⟨hp, Or.inr rfl⟩
  | _ => exact ⟨nofun, Or.inr rfl⟩

/-- Outside the recovery cycle nobody owes a recovery. -/
def Unopened (s : ReturnRefundState) : Prop :=
  s.phase = .new ∨ s.currentCycleId ≠ some recoveryRefundCycle → recoveryDuty s = none

theorem Commit.unopened (hc : Commit op now s cause t) (h : Unopened s) : Unopened t.state := by
  intro ht
  have hs : s.phase = .new ∨ s.currentCycleId ≠ some recoveryRefundCycle := by
    by_cases hp : s.phase = .new
    · exact Or.inl hp
    obtain ⟨hlater, hcurrent⟩ := hc.currentCycle hp
    have ht := ht.resolve_left hlater
    exact Or.inr (hcurrent.resolve_left ht ▸ ht)
  cases hc.recovers with
  | same duty => rw [duty, h hs]
  | opened _ _ phase current =>
    rcases ht with ht | ht
    · rw [phase] at ht
      cases ht
    · exact absurd current ht
  | asked duty => exact duty (h hs)

end Records

section Requests

variable {op : ReturnRefundOperation} {s : ReturnRefundState} {now : String} {refund : Refund}
  {context : EnvironmentContext}

/-- No customer's claim goes by the name of the inspection or of its checkpoint. -/
def Unclaimed (s : ReturnRefundState) (refund : Refund) : Prop :=
  ∀ ref ∈ refund.inspectionId :: refund.approvalCheckpointId.toList,
    s.customerClaims.contains ref = false

/-- The request to refund again, on the same inspection and the same approval. -/
def asksAgain (refund : Refund) (cycleId : String) : Cause :=
  .action ActionType.requestRefund.text
    (.ofList [("inspection_id", .str refund.inspectionId), ("cycle_id", .str cycleId),
      ("approval_checkpoint_id", .ofText? refund.approvalCheckpointId)])
    (refund.inspectionId :: refund.approvalCheckpointId.toList)

/-- Somebody owes the refund of the current cycle, nobody asked for it, and who asks gets it. -/
structure Recoverable (op : ReturnRefundOperation) (s : ReturnRefundState) (now : String)
    (refund : Refund) : Prop where
  owed : ∃ o ∈ s.obligations.values, o.kind = .refundRecovery ∧ o.status = .opened ∧
    o.cycleId = s.currentCycleId
  unasked : ∀ r ∈ s.refunds.values, some r.cycleId ≠ s.currentCycleId
  granted : ∃ cycleId, s.currentCycleId = some cycleId ∧ ∀ context : EnvironmentContext,
    context.now = now → ∃ r, op.respond ⟨context, asksAgain refund cycleId⟩ s = .ok r ∧
      r.verdict.accepted = true

theorem accepted_bind {x : Except PyError Transaction}
    {f : Transaction → Except PyError (Reduction ReturnRefundState)} (hx : ∃ t, x = .ok t)
    (hf : ∀ t, ∃ r, f t = .ok r ∧ r.verdict.accepted = true) :
    ∃ r, x >>= f = .ok r ∧ r.verdict.accepted = true := by
  obtain ⟨t, rfl⟩ := hx
  exact hf t

theorem closeObligation_total {t : Transaction} {id : String} {closure : Closure}
    (hnow : ∃ n, strptime now = .ok n)
    (h : ∀ o, t.state.obligations.get? id = some o → ∃ n, strptime o.dueAt = .ok n) :
    ∃ t', t.closeObligation now id closure = .ok t' := by
  unfold Transaction.closeObligation
  split
  · exact ⟨t, rfl⟩
  · rename_i o hg
    split
    · exact ⟨t, rfl⟩
    · obtain ⟨n, hn⟩ := hnow
      obtain ⟨m, hm⟩ := h o hg
      have hclosure : ∃ c, Transaction.lateClosure o now closure = .ok c := by
        unfold Transaction.lateClosure
        split
        · rw [parseTimestamp_ok.mpr hn, ok_bind, parseTimestamp_ok.mpr hm, ok_bind]
          exact ⟨_, rfl⟩
        · exact ⟨_, rfl⟩
      obtain ⟨c, hc⟩ := hclosure
      rw [hc, ok_bind]
      exact ⟨_, rfl⟩

theorem openObligation_total {t : Transaction} {id : String} {kind : ObligationKind}
    {cycleId : Option String} {minutes : Int} {place dueAt : String}
    (h : shiftMinutes now minutes place = .ok dueAt) :
    ∃ t', t.openObligation now id kind cycleId minutes = .ok t' := by
  unfold Transaction.openObligation
  split
  · exact ⟨t, rfl⟩
  · rw [shiftMinutes_context h, ok_bind]
    exact ⟨_, rfl⟩

theorem Commit.evidence {actionType : String} {payload : Fields} {evidenceRefs : List String}
    {t : Transaction} (hc : Commit op now s (.action actionType payload evidenceRefs) t) :
    unresolvedEvidence s evidenceRefs = none := by
  cases hc with
  | authorised admitted => exact admitted.evidence
  | reviewRequested admitted => exact admitted.evidence
  | refundRequested admitted => exact admitted.evidence
  | messageSent admitted => exact admitted.evidence

/-- A claim by the name of what is cited turns the citation down. -/
theorem unclaimed_of_accepted {cycleId : String} {r : Reduction ReturnRefundState}
    (h : op.respond ⟨context, asksAgain refund cycleId⟩ s = .ok r)
    (ha : r.verdict.accepted = true) : Unclaimed s refund := by
  rcases ReturnRefundOperation.respond_answered h with ⟨code, detail, rfl⟩ | ⟨_, hc, _⟩
  · cases ha
  · intro ref hm
    have hadmitted := hc.evidence
    unfold unresolvedEvidence at hadmitted
    split at hadmitted
    · cases hadmitted
    · rename_i hnone
      exact Bool.eq_false_iff.mpr fun hclaimed => hnone (List.any_eq_true.mpr ⟨ref, hm, hclaimed⟩)

/-- What the request to refund again is made of, and what it meets. -/
structure Owing (op : ReturnRefundOperation) (s : ReturnRefundState) (refund : Refund)
    (cycleId : String) : Prop where
  live : s.replayFinal = false
  phase : s.phase = .refundReopened
  current : s.currentCycleId = some cycleId
  cycle : isBlank cycleId = false
  unasked : ∀ r ∈ s.refunds.values, r.cycleId ≠ cycleId
  amount : s.amountMinor = some op.policy.refundAmountMinor.1
  currency : s.currency = some op.policy.currency
  rests : ∃ inspection carrier checkpoint resolvedAt,
    Rests op s refund inspection carrier checkpoint resolvedAt
  inspection : isBlank refund.inspectionId = false
  checkpoint : ∀ k, refund.approvalCheckpointId = some k → isBlank k = false

theorem asksAgain_valid {cycleId : String} (h : Owing op s refund cycleId) :
    Valid (actionPayloadSchema .requestRefund)
      (.ofList [("inspection_id", .str refund.inspectionId), ("cycle_id", .str cycleId),
        ("approval_checkpoint_id", .ofText? refund.approvalCheckpointId)]) := by
  obtain ⟨_, _, checkpoint, _, hrests⟩ := h.rests
  have hblank := h.checkpoint _ hrests.named
  rw [hrests.named]
  refine ⟨?_, ?_, ?_⟩
  · intro name hn
    have hkeys := Dict.mem_keys_iff.mpr (Dict.contains_iff.mp hn)
    change name ∈ ["inspection_id", "cycle_id", "approval_checkpoint_id"] at hkeys
    exact hkeys
  · simp only [actionPayloadSchema, List.mem_cons, List.not_mem_nil, or_false]
    rintro e (rfl | rfl) <;> rfl
  · simp only [actionPayloadSchema, PayloadSchema.fields, List.cons_append, List.nil_append,
      List.mem_cons, List.not_mem_nil, or_false]
    rintro e (rfl | rfl | rfl) value hv
    · obtain rfl := Option.some.inj hv
      simp [PayloadKind.holds, h.inspection]
    · obtain rfl := Option.some.inj hv
      simp [PayloadKind.holds, h.cycle]
    · obtain rfl := Option.some.inj hv
      simp [PayloadKind.holds, Value.ofText?, hblank]

theorem unresolvedEvidence_again {cycleId : String} (h : Owing op s refund cycleId)
    (hu : Unclaimed s refund) : unresolvedEvidence s
      (refund.inspectionId :: refund.approvalCheckpointId.toList) = none := by
  obtain ⟨inspection, _, checkpoint, _, hrests⟩ := h.rests
  have hnone : ((refund.inspectionId :: refund.approvalCheckpointId.toList).any fun ref =>
      s.customerClaims.contains ref) = false := by
    rw [List.any_eq_false]
    intro ref hm
    simp [hu ref hm]
  have hresolves : ∀ ref ∈ refund.inspectionId :: refund.approvalCheckpointId.toList,
      resolvesToRecord s ref = true := by
    rw [hrests.named]
    simp only [Option.toList_some, List.mem_cons, List.not_mem_nil, or_false]
    have hi : s.inspections.contains refund.inspectionId = true :=
      Registry.contains_iff.mpr ⟨_, hrests.inspected⟩
    have hk : s.checkpoints.contains checkpoint.checkpointId = true :=
      Registry.contains_iff.mpr ⟨_, hrests.reviewed⟩
    rintro ref (rfl | rfl)
    · simp [resolvesToRecord, hi]
    · simp [resolvesToRecord, hk]
  unfold unresolvedEvidence
  rw [if_neg (by simp [hnone])]
  have hfilter : (refund.inspectionId :: refund.approvalCheckpointId.toList).filter
      (fun ref => !resolvesToRecord s ref) = [] := by
    rw [List.filter_eq_nil_iff]
    intro ref hm
    simp [hresolves ref hm]
  rw [hfilter]
  rfl

theorem approvalProblem_again {cycleId : String} {inspection : Inspection} {payload : Fields}
    (h : Owing op s refund cycleId)
    (hp : payload.text? "approval_checkpoint_id" = refund.approvalCheckpointId)
    (hi : inspection.inspectionId = refund.inspectionId) :
    op.approvalProblem s payload inspection = none := by
  obtain ⟨_, _, checkpoint, _, hrests⟩ := h.rests
  unfold ReturnRefundOperation.approvalProblem
  split
  · rw [hp, hrests.named, Option.bind_some, hrests.reviewed]
    have happroves : ReturnRefundOperation.approves s checkpoint inspection = true := by
      simp [ReturnRefundOperation.approves, hrests.approves.approved, hrests.approves.reviews, hi,
        hrests.approves.amount, h.amount, hrests.approves.currency, h.currency]
    simp [happroves]
  · rfl

theorem inspectionProblem_again {payload : Fields} {evidenceRefs : List String}
    (hi : payload.text? "inspection_id" = some refund.inspectionId)
    (hf : s.inspections.contains refund.inspectionId = true)
    (hcited : refund.inspectionId ∈ evidenceRefs) :
    inspectionProblem s payload evidenceRefs = none := by
  unfold inspectionProblem
  simp [hi, hf, hcited]

theorem actRequestRefund_again {payload : Fields} {evidenceRefs : List String}
    {cycleId place dueAt : String} (h : Owing op s refund cycleId)
    (hcycle : payload.text "cycle_id" = cycleId)
    (hi : payload.text? "inspection_id" = some refund.inspectionId)
    (hk : payload.text? "approval_checkpoint_id" = refund.approvalCheckpointId)
    (hcited : refund.inspectionId ∈ evidenceRefs) (hnow : ∃ n, strptime context.now = .ok n)
    (hd : ∀ o, s.obligations.get? (recoveryObligation cycleId) = some o →
      ∃ n, strptime o.dueAt = .ok n)
    (hshift : shiftMinutes context.now op.policy.horizonMinutes place = .ok dueAt) :
    ∃ r, op.actRequestRefund s payload evidenceRefs context = .ok r ∧
      r.verdict.accepted = true := by
  obtain ⟨inspection, carrier, checkpoint, resolvedAt, hrests⟩ := h.rests
  have hinspected := hrests.inspected
  have hasked : (s.refunds.values.any fun r => r.cycleId = cycleId) = false := by
    rw [List.any_eq_false]
    intro r hm
    simpa using h.unasked r hm
  have hhanded : hasVerifiedHandover s = true := by
    have hm := hrests.finds.handed
    unfold hasVerifiedHandover
    cases hv : s.carrierRecords.values with
    | nil => rw [hv] at hm; cases hm
    | cons => rfl
  have happroval := approvalProblem_again h hk (Registry.ident_of_get? hinspected)
  have hevidence : requiredEvidenceProblem s .requestRefund payload evidenceRefs = .ok none := by
    rw [requiredEvidenceProblem_eq payload evidenceRefs rfl,
      inspectionProblem_again hi (Registry.contains_iff.mpr ⟨_, hinspected⟩) hcited]
  unfold ReturnRefundOperation.actRequestRefund
  simp only [hcycle, h.current, ne_eq, not_true_eq_false, if_false, hasked, Bool.false_eq_true,
    text_of_text? hi, hinspected, hrests.finds.eligible, hhanded, Bool.not_true, happroval,
    h.phase, and_false, hevidence, ok_bind]
  refine accepted_bind (closeObligation_total hnow hd) fun t => ?_
  refine accepted_bind (openObligation_total hshift) fun u => ?_
  exact ⟨_, rfl, rfl⟩

/-- The request to refund again is granted, while its settlement is due inside the calendar. -/
theorem granted_again {cycleId place dueAt : String} (h : Owing op s refund cycleId)
    (hu : Unclaimed s refund) (hnow : ∃ n, strptime context.now = .ok n)
    (hd : ∀ o, s.obligations.get? (recoveryObligation cycleId) = some o →
      ∃ n, strptime o.dueAt = .ok n)
    (hshift : shiftMinutes context.now op.policy.horizonMinutes place = .ok dueAt) :
    ∃ r, op.respond ⟨context, asksAgain refund cycleId⟩ s = .ok r ∧
      r.verdict.accepted = true := by
  obtain ⟨inspection, carrier, checkpoint, resolvedAt, hrests⟩ := h.rests
  obtain ⟨agent, hagent, _, hholds⟩ := op.spec.actorsThere
    ("agent", "agent", ActionType.all.map ActionType.text ++ [completeOutcomeKey])
    (by simp [requiredActors])
  have hauthority : agent.holds ActionType.requestRefund.text = true :=
    hholds _ (by simp [ActionType.all])
  have htyped : ActionType.ofText? ActionType.requestRefund.text = some .requestRefund :=
    ActionType.ofText?_text _
  change ∃ r, op.applyAction s _ _ context ActionType.requestRefund.text = .ok r ∧ _
  unfold ReturnRefundOperation.applyAction
  simp only [h.live, Bool.false_eq_true, if_false, hagent, hauthority, Bool.not_true, htyped,
    validatePayload_iff.mpr (asksAgain_valid h), unresolvedEvidence_again h hu]
  exact actRequestRefund_again h rfl rfl (by rw [hrests.named]; rfl) List.mem_cons_self hnow hd
    hshift

end Requests

section Reopenings

variable {op : ReturnRefundOperation} {s : ReturnRefundState} {now : String} {event : Event}
  {t : Transaction} {cause : Cause}

/-- What an accepted reversal makes of the record. -/
structure Reopened (op : ReturnRefundOperation) (now : String) (s s' : ReturnRefundState)
    (requestId : String) : Prop where
  phase : s'.phase = .refundReopened
  current : s'.currentCycleId = some recoveryRefundCycle
  provisional : s.provisional.isSome = true ∧ s'.provisional = none
  claims : s'.customerClaims = s.customerClaims
  live : s'.replayFinal = s.replayFinal
  duty : openDuty now (recoveryObligation recoveryRefundCycle) .refundRecovery
    (some recoveryRefundCycle) op.policy.horizonMinutes s.obligations = .ok s'.obligations
  settled : ∃ refund, s.refunds.get? requestId = some refund ∧ refund.status = .settled
  refunds : ∀ r ∈ s'.refunds.values, ∃ r₀ ∈ s.refunds.values,
    r.refundRequestId = r₀.refundRequestId ∧ r.cycleId = r₀.cycleId

theorem Commit.reopened (hc : Commit op now s (.event event) t)
    (named : EventType.ofText? event.eventType = some .refundSettlementReversed) :
    Reopened op now s t.state (event.payload.text "refund_request_id") := by
  cases hc with
  | reversed _ onFile settled _ closed _ duties =>
    refine ⟨rfl, rfl, ⟨by rw [closed]; rfl, rfl⟩, rfl, rfl, duties, ⟨_, onFile, settled⟩, ?_⟩
    exact Registry.forall_put (fun r hr => ⟨r, hr, rfl, rfl⟩)
      ⟨_, Registry.mem_of_get? onFile, rfl, rfl⟩
  | returnRequested admitted => cases admitted.named.symm.trans named
  | handoverClaimed admitted => cases admitted.named.symm.trans named
  | handoverVerified admitted => cases admitted.named.symm.trans named
  | inspected admitted => cases admitted.named.symm.trans named
  | decided admitted => cases admitted.named.symm.trans named
  | settled admitted => cases admitted.named.symm.trans named
  | reminderFired admitted => cases admitted.named.symm.trans named
  | returnExpired admitted => cases admitted.named.symm.trans named
  | approvalExpired admitted => cases admitted.named.symm.trans named
  | finalized admitted => cases admitted.named.symm.trans named

/-- A reopened operation was reopened before, or is reopened by the change. -/
theorem Commit.into_reopened (hc : Commit op now s cause t)
    (hp : t.state.phase = .refundReopened) :
    (s.phase = .refundReopened ∧ t.state.currentCycleId = s.currentCycleId ∧
      t.state.refunds = s.refunds ∧ recoveryDuty t.state = recoveryDuty s) ∨
    ∃ event, cause = .event event ∧
      EventType.ofText? event.eventType = some .refundSettlementReversed := by
  have hne := ne_recovery recoveryRefundCycle
  cases hc with
  | reversed admitted => exact Or.inr ⟨_, rfl, admitted.named⟩
  | handoverClaimed => exact Or.inl ⟨hp, rfl, rfl, rfl⟩
  | reminderFired _ _ _ _ duties =>
    exact Or.inl ⟨hp, rfl, rfl, openDuty_frame duties (hne _).2.1⟩
  | reviewRequested _ _ _ _ _ _ _ duties =>
    exact Or.inl ⟨hp, rfl, rfl, openDuty_frame duties (hne _).2.2.1⟩
  | messageSent _ _ _ notice duties =>
    exact Or.inl ⟨hp, rfl, rfl, closeDuty_frame duties (noticeObligation_ne notice)⟩
  | inspected _ _ _ _ _ _ _ outcome =>
    rcases outcome with ⟨_, rfl, _⟩ | ⟨_, _, rfl⟩
    · cases hp
    · dsimp only at hp
      split at hp <;> cases hp
  | decided _ _ _ _ _ _ outcome =>
    rcases outcome with ⟨_, rfl, _⟩ | ⟨_, rfl, _⟩ <;> cases hp
  | closed _ closes =>
    cases (show _ = _ from hp)
    revert closes
    generalize s.phase = before
    rintro ⟨⟩
  | _ => cases hp

/-- The recovery is owed, and nobody asked for it yet. -/
structure Standing (s : ReturnRefundState) : Prop where
  current : s.currentCycleId = some recoveryRefundCycle
  duty : ∃ o, recoveryDuty s = some o ∧ o.kind = .refundRecovery ∧ o.status = .opened ∧
    o.cycleId = some recoveryRefundCycle ∧ ∃ n, strptime o.dueAt = .ok n
  unasked : ∀ r ∈ s.refunds.values, r.cycleId ≠ recoveryRefundCycle

/-- The first reversal leaves the recovery owed. -/
theorem Reopened.standing {s' : ReturnRefundState} {requestId : String}
    (h : Reopened op now s s' requestId) (hs : Coherent op s) (hu : Unopened s)
    (hfirst : s.currentCycleId ≠ some recoveryRefundCycle) : Standing s' ∧
      ∃ dueAt, shiftMinutes now op.policy.horizonMinutes
        s!"obligation {recoveryObligation recoveryRefundCycle}" = .ok dueAt := by
  have hnew : s.phase ≠ .new := by
    intro hp
    have htable := hs.table
    rw [hp, h.provisional.1] at htable
    cases htable.of_new.2.2.2.2
  have hcurrent := (hs.cycle hnew).resolve_right hfirst
  have hnone : s.obligations.contains (recoveryObligation recoveryRefundCycle) = false :=
    Registry.get?_eq_none_iff.mp (hu (Or.inr hfirst))
  rcases openDuty_ok h.duty with ⟨_, hc⟩ | ⟨dueAt, hshift, hduties, _⟩
  · rw [hnone] at hc
    cases hc
  obtain ⟨_, n, _, _, hlegible⟩ := shiftMinutes_ok hshift
  have hduty := Registry.get?_put_self s.obligations
    ⟨recoveryObligation recoveryRefundCycle, .refundRecovery, some recoveryRefundCycle, now, dueAt,
      .opened, none⟩
  rw [← hduties] at hduty
  refine ⟨⟨h.current, ⟨_, hduty, rfl, rfl, rfl, _, hlegible⟩, ?_⟩, dueAt, hshift⟩
  intro r hr hcycle
  obtain ⟨r₀, hr₀, _, hsame⟩ := h.refunds r hr
  have hfirst := hs.first hcurrent r₀ hr₀
  rw [← hsame, hcycle] at hfirst
  exact absurd hfirst (by decide)

/-- A reversal in the recovery cycle leaves the refund of that cycle on file. -/
theorem Reopened.second {s' : ReturnRefundState} {requestId : String} {refund : Refund}
    (h : Reopened op now s s' requestId) (hs : Coherent op s)
    (hsecond : s.currentCycleId = some recoveryRefundCycle)
    (hg : s'.refunds.get? requestId = some refund) : refund.cycleId = recoveryRefundCycle := by
  obtain ⟨old, hold, hsettled⟩ := h.settled
  have hnow : some old.cycleId = s.currentCycleId := by
    by_contra hpast
    rw [hs.past old (Registry.mem_of_get? hold) hpast] at hsettled
    cases hsettled
  obtain ⟨r₀, hr₀, hid, hcycle⟩ := h.refunds refund (Registry.mem_of_get? hg)
  have hsame := Registry.mem_values_iff.mp hr₀
  rw [← hid, Registry.ident_of_get? hg, hold] at hsame
  rw [hcycle, ← Option.some.inj hsame]
  exact Option.some.inj (hnow.trans hsecond)

end Reopenings

section Runs

variable {op : ReturnRefundOperation} {sha256 : Value → String} {agent : OperationAgent}
  {operationId instanceId : String} {s s₀ s' : EngineState ReturnRefundState} {event : Event}
  {refund : Refund}

/-- The step delivers a reversal, and the operation accepts it. -/
structure Reopens (op : ReturnRefundOperation) (E : Engine ReturnRefundState)
    (s s' : EngineState ReturnRefundState) (event : Event) : Prop where
  due : E.Due s event
  named : EventType.ofText? event.eventType = some .refundSettlementReversed
  live : s.state.replayFinal = false
  step : E.step s = .ok s'
  accepted : ∃ context r, context.now = s'.clock.now ∧
    op.respond ⟨context, .event event⟩ s.state = .ok r ∧ r.verdict.accepted = true

/-- No reversal is accepted in the recovery cycle. -/
def Spares (op : ReturnRefundOperation) (E : Engine ReturnRefundState)
    (s : EngineState ReturnRefundState) : Prop :=
  ∀ s' event, Reopens op E s s' event → s.state.currentCycleId ≠ some recoveryRefundCycle

/-- The reducer of reversals asks its context for nothing but the time. -/
theorem respond_context {context context' : EnvironmentContext} {state : ReturnRefundState}
    (named : EventType.ofText? event.eventType = some .refundSettlementReversed)
    (hnow : context.now = context'.now) :
    op.respond ⟨context, .event event⟩ state = op.respond ⟨context', .event event⟩ state := by
  change op.reduceEvent state event context = op.reduceEvent state event context'
  simp only [ReturnRefundOperation.reduceEvent, named, ReturnRefundOperation.reducer,
    ReturnRefundOperation.reduceSettlementReversed, hnow]

theorem Reopens.reopened
    (h : Reopens op (op.engine sha256 agent operationId instanceId) s s' event) :
    Reopened op s'.clock.now s.state s'.state (event.payload.text "refund_request_id") := by
  obtain ⟨context, r, hnow, hr, ha⟩ := h.accepted
  obtain ⟨context', r', hr', hstate, hnow'⟩ := Due.responds h.due h.step h.live
  rw [respond_context h.named (hnow.trans hnow'.symm), hr'] at hr
  obtain rfl := Except.ok.inj hr
  rcases ReturnRefundOperation.respond_answered hr' with ⟨code, detail, rfl⟩ | ⟨_, hc, _⟩
  · cases ha
  · rw [hstate, ← hnow']
    exact hc.reopened h.named

theorem owing_of_standing (hw : Warranted op s) (ho : Orderly op s) (hst : Standing s.state)
    (hp : s.state.phase = .refundReopened) (hlive : s.state.replayFinal = false)
    (hm : refund ∈ s.state.refunds.values) :
    Owing op s.state refund recoveryRefundCycle := by
  have hnew : s.state.phase ≠ .new := by
    rw [hp]
    nofun
  obtain ⟨inspection, carrier, checkpoint, resolvedAt, hrests⟩ := hw.grounded.refund refund hm
  refine ⟨hlive, hp, hst.current, by decide, hst.unasked, ho.coherent.owed hnew,
    hw.grounded.currency hnew, ⟨inspection, carrier, checkpoint, resolvedAt, hrests⟩, ?_, ?_⟩
  · rw [← Registry.ident_of_get? hrests.inspected]
    exact ho.identified.inspections inspection (Registry.mem_of_get? hrests.inspected)
  · intro k hk
    obtain rfl := Option.some.inj (hrests.named.symm.trans hk)
    exact ho.identified.checkpoints checkpoint (Registry.mem_of_get? hrests.reviewed)

theorem recoverable_of_standing {place dueAt : String} (hw : Warranted op s)
    (ho : Orderly op s) (hst : Standing s.state) (hp : s.state.phase = .refundReopened)
    (hlive : s.state.replayFinal = false) (hm : refund ∈ s.state.refunds.values)
    (hu : Unclaimed s.state refund) (hnow : ∃ n, strptime s.clock.now = .ok n)
    (hshift : shiftMinutes s.clock.now op.policy.horizonMinutes place = .ok dueAt) :
    Recoverable op s.state s.clock.now refund := by
  obtain ⟨o, hduty, hkind, hopened, hcycle, hlegible⟩ := hst.duty
  refine ⟨⟨o, Registry.mem_of_get? hduty, hkind, hopened, hcycle.trans hst.current.symm⟩, ?_,
    recoveryRefundCycle, hst.current, ?_⟩
  · rw [hst.current]
    exact fun r hr he => hst.unasked r hr (Option.some.inj he)
  · intro context hcontext
    refine granted_again (owing_of_standing hw ho hst hp hlive hm) hu (hcontext ▸ hnow) ?_
      (hcontext ▸ hshift)
    intro o' ho'
    obtain rfl := Option.some.inj (hduty.symm.trans ho')
    exact hlegible

theorem start_unopened (h₀ : (op.engine sha256 agent operationId instanceId).start = .ok s) :
    Unopened s.state := by
  rw [start_state h₀]
  exact fun _ => rfl

theorem unopened_step (hs : (op.engine sha256 agent operationId instanceId).step s = .ok s')
    (h : Unopened s.state) : Unopened s'.state := by
  cases step_change hs with
  | still state => exact state ▸ h
  | late _ _ _ state => exact state ▸ h
  | refused _ _ _ _ _ _ _ state => exact state ▸ h
  | commit cause effects committed => exact committed.commit.unopened h

theorem unopened_of_runs {P : EngineState ReturnRefundState → Prop}
    (h₀ : (op.engine sha256 agent operationId instanceId).start = .ok s₀)
    (h : (op.engine sha256 agent operationId instanceId).RunsVia P s₀ s) : Unopened s.state :=
  Run.invariant (I := fun s => Unopened s.state) h (start_unopened h₀)
    fun _ _ _ hu _ hst => unopened_step hst hu

/-- The recovery stays owed as long as the operation is reopened. -/
theorem standing_step (hs : (op.engine sha256 agent operationId instanceId).step s = .ok s')
    (hspares : Spares op (op.engine sha256 agent operationId instanceId) s)
    (hcoherent : Coherent op s.state) (hu : Unopened s.state)
    (h : s.state.phase = .refundReopened → Standing s.state) :
    s'.state.phase = .refundReopened → Standing s'.state := by
  cases step_change hs with
  | still state => exact state ▸ h
  | late _ _ _ state => exact state ▸ h
  | refused _ _ _ _ _ _ _ state => exact state ▸ h
  | commit cause effects committed due =>
    intro hp
    rcases committed.commit.into_reopened hp with ⟨hold, hcurrent, hrefunds, hduty⟩ |
      ⟨event, rfl, named⟩
    · obtain ⟨current, duty, unasked⟩ := h hold
      exact ⟨hcurrent.trans current, hduty ▸ duty, hrefunds ▸ unasked⟩
    · have hreopened := committed.commit.reopened named
      refine (hreopened.standing hcoherent hu (hspares s' event ?_)).1
      refine ⟨(due event rfl).1, named, committed.live, hs, ?_⟩
      obtain ⟨context, r, hr, hstate, hnow⟩ := Due.responds (due event rfl).1 hs committed.live
      refine ⟨context, r, hnow, hr, ?_⟩
      rcases ReturnRefundOperation.respond_answered hr with ⟨code, detail, rfl⟩ | ⟨ha, _⟩
      · have hnone := hreopened.provisional.2
        rw [show s'.state = s.state from hstate] at hnone
        have hsome := hreopened.provisional.1
        rw [hnone] at hsome
        cases hsome
      · exact ha

/-- A reversal leaves the refund recoverable if and only if it is the first, and no customer's claim
goes by the name of the inspection or of its checkpoint. In a run without a second reversal no
operation that is reopened is at a dead end. -/
theorem reversal_recoverable
    (h₀ : (op.engine sha256 agent operationId instanceId).start = .ok s₀) :
    (∀ s s' event refund,
      (op.engine sha256 agent operationId instanceId).RunsVia (fun _ => True) s₀ s →
      Reopens op (op.engine sha256 agent operationId instanceId) s s' event →
      s'.state.refunds.get? (event.payload.text "refund_request_id") = some refund →
      (Recoverable op s'.state s'.clock.now refund ↔
        s.state.currentCycleId ≠ some recoveryRefundCycle ∧ Unclaimed s.state refund)) ∧
    ∀ s refund place dueAt, (op.engine sha256 agent operationId instanceId).RunsVia
        (Spares op (op.engine sha256 agent operationId instanceId)) s₀ s →
      s.state.phase = .refundReopened → s.state.replayFinal = false →
      refund ∈ s.state.refunds.values → Unclaimed s.state refund →
      shiftMinutes s.clock.now op.policy.horizonMinutes place = .ok dueAt →
      Recoverable op s.state s.clock.now refund := by
  constructor
  · intro s s' event refund h hr hg
    have hcoherent := (orderly_of_runs h₀ h).coherent
    have hlater := h.tail (a := ()) trivial hr.step
    have htimely := Engine.timely_of_runs plan_forward h₀ hlater
    have hreopened := hr.reopened
    constructor
    · intro hrecoverable
      refine ⟨fun hsecond => ?_, ?_⟩
      · exact hrecoverable.unasked refund (Registry.mem_of_get? hg)
          (hreopened.current.symm ▸ congrArg some (hreopened.second hcoherent hsecond hg))
      · obtain ⟨cycleId, _, hgranted⟩ := hrecoverable.granted
        obtain ⟨r, hresponds, ha⟩ :=
          hgranted ⟨s'.clock.now, fun _ => false, fun _ => false⟩ rfl
        unfold Unclaimed
        rw [← hreopened.claims]
        exact unclaimed_of_accepted hresponds ha
    · rintro ⟨hfirst, hu⟩
      obtain ⟨hst, dueAt, hshift⟩ := hreopened.standing hcoherent (unopened_of_runs h₀ h) hfirst
      refine recoverable_of_standing (warranted_of_runs h₀ hlater) (orderly_of_runs h₀ hlater) hst
        hreopened.phase (hreopened.live.trans hr.live) (Registry.mem_of_get? hg) ?_
        ⟨_, htimely.onTime.legible⟩ hshift
      unfold Unclaimed
      rw [hreopened.claims]
      exact hu
  · intro s refund place dueAt h hp hlive hm hu hshift
    have hst : Standing s.state := by
      refine (Run.invariant (I := fun s => (Orderly op s ∧ Unopened s.state) ∧
        (s.state.phase = .refundReopened → Standing s.state)) h ?_ ?_).2 hp
      · refine ⟨⟨start_orderly h₀, start_unopened h₀⟩, fun hp => ?_⟩
        rw [start_state h₀] at hp
        cases hp
      · rintro s _ s' ⟨⟨ho, hu⟩, hst⟩ hspares hs
        exact ⟨⟨ho.step hs, unopened_step hs hu⟩, standing_step hs hspares ho.coherent hu hst⟩
    exact recoverable_of_standing (warranted_of_runs h₀ h) (orderly_of_runs h₀ h) hst hp hlive hm
      hu ⟨_, (Engine.timely_of_runs plan_forward h₀ h).onTime.legible⟩ hshift

/-- The refund is settled and reversed, and so is the one of the recovery. -/
def reversedTwice : ReturnRefundOperation := Fixture.operation
  [Fixture.requested 0 Fixture.startsAt, Fixture.handedOver 1 "2034-04-08T12:00:00Z",
    Fixture.inspected 2 "2034-04-09T12:00:00Z", Fixture.approved 3 "2034-04-09T16:00:00Z",
    Fixture.settled 4 "2034-04-09T20:00:00Z" "refund_request_1" firstRefundCycle,
    Fixture.reversed 5 "2034-04-10T20:00:00Z" "refund_request_1" firstRefundCycle,
    Fixture.settled 6 "2034-04-11T20:00:00Z" "refund_request_2" recoveryRefundCycle,
    Fixture.reversed 7 "2034-04-12T20:00:00Z" "refund_request_2" recoveryRefundCycle]
  (by decide +kernel) (by decide) (by decide)

def refundsTwice : List Answer :=
  Fixture.refundsAndCloses.dropLast ++ [Fixture.reads ["get_return_case", "list_carrier_records",
      "list_inspections", "list_checkpoints", "list_refunds"],
    (Fixture.asksRefund recoveryRefundCycle).answer, Fixture.rests,
    Fixture.reads ["get_return_case", "list_communications", "list_obligations"],
    (Fixture.notifies recoveryRefundCycle).answer,
    Fixture.reads ["get_return_case", "list_checkpoints", "list_refunds", "list_communications",
      "list_obligations"], Fixture.completes]

/-- The next step delivers a reversal that is accepted, to the effect that is checked for. -/
def reopensNext (op : ReturnRefundOperation) (E : Engine ReturnRefundState)
    (check : EngineState ReturnRefundState → Refund → Bool)
    (s : EngineState ReturnRefundState) : Bool :=
  !s.state.replayFinal && (E.dueEvent? s).any fun event =>
    EventType.ofText? event.eventType = some .refundSettlementReversed &&
      (E.step s).toOption.any fun s' =>
        (op.respond ⟨Fixture.environment s'.clock.now, .event event⟩ s.state).toOption.any
            (fun r => r.verdict.accepted) &&
          (s'.state.refunds.get? (event.payload.text "refund_request_id")).any (check s')

theorem reopens_of_next {E : Engine ReturnRefundState}
    {check : EngineState ReturnRefundState → Refund → Bool}
    (h : reopensNext op E check s = true) : ∃ s' event refund, Reopens op E s s' event ∧
      s'.state.refunds.get? (event.payload.text "refund_request_id") = some refund ∧
      check s' refund = true := by
  simp only [reopensNext, Bool.and_eq_true, Bool.not_eq_true', Option.any_eq_true,
    decide_eq_true_eq] at h
  obtain ⟨hlive, event, hd, named, s', hs, ⟨r, hr, ha⟩, refund, hg, hc⟩ := h
  have hok : ∀ {α : Type} {x : Except PyError α} {a : α}, x.toOption = some a → x = .ok a := by
    intro α x a hx
    cases x with
    | ok b => rw [Option.some.inj hx]
    | error e => cases hx
  exact ⟨s', event, refund, ⟨Engine.due_of_dueEvent? hd, named, hlive, hok hs,
    Fixture.environment s'.clock.now, r, rfl, hok hr, ha⟩, hg, hc⟩

/-- The first reversal leaves the refund recoverable. -/
theorem first_reversal_recoverable : ∃ (s s' : EngineState ReturnRefundState) (refund : Refund),
    (Fixture.engine reversedTwice refundsTwice).start = .ok s ∧
      Recoverable reversedTwice s'.state s'.clock.now refund := by
  obtain ⟨s₀, h₀, hc⟩ := ok_of_any (x := (Fixture.engine reversedTwice refundsTwice).start)
    (p := fun s₀ => (Fixture.engine reversedTwice refundsTwice).checkRun (fun _ => true)
      (fun s => s.state.currentCycleId = some firstRefundCycle &&
        s.state.customerClaims.keys.isEmpty && reopensNext reversedTwice
          (Fixture.engine reversedTwice refundsTwice) (fun _ _ => true) s) 19 s₀)
    (by decide +kernel)
  obtain ⟨s, h, hl⟩ := Engine.runs_of_checkRun (P := fun _ => True) (fun _ _ => trivial) hc
  simp only [Bool.and_eq_true, decide_eq_true_eq, List.isEmpty_iff] at hl
  obtain ⟨⟨hfirst, hnone⟩, hl⟩ := hl
  obtain ⟨s', event, refund, hr, hg, _⟩ := reopens_of_next hl
  refine ⟨s₀, s', refund, h₀, ((reversal_recoverable h₀).1 s s' event refund h hr hg).mpr
    ⟨by rw [hfirst]; decide, fun ref _ => ?_⟩⟩
  rw [← Registry.get?_eq_none_iff]
  by_contra hsome
  obtain ⟨claim, hclaim⟩ := Option.ne_none_iff_exists'.mp hsome
  have hkey := Dict.mem_keys_iff.mpr ⟨claim, hclaim⟩
  rw [show s.state.customerClaims.dict.keys = [] from hnone] at hkey
  cases hkey

/-- The second reversal leaves the refund of the recovery cycle on file, and nobody can ask for
another. -/
theorem second_reversal_stuck : ¬∀ s₀ s s' event refund,
    (Fixture.engine reversedTwice refundsTwice).start = .ok s₀ →
      (Fixture.engine reversedTwice refundsTwice).RunsVia (fun _ => True) s₀ s →
      Reopens reversedTwice (Fixture.engine reversedTwice refundsTwice) s s' event →
      s'.state.refunds.get? (event.payload.text "refund_request_id") = some refund →
      Recoverable reversedTwice s'.state s'.clock.now refund := by
  intro hall
  obtain ⟨s₀, h₀, hc⟩ := ok_of_any (x := (Fixture.engine reversedTwice refundsTwice).start)
    (p := fun s₀ => (Fixture.engine reversedTwice refundsTwice).checkRun (fun _ => true)
      (reopensNext reversedTwice (Fixture.engine reversedTwice refundsTwice) fun s' refund =>
        some refund.cycleId = s'.state.currentCycleId) 28 s₀) (by decide +kernel)
  obtain ⟨s, h, hl⟩ := Engine.runs_of_checkRun (P := fun _ => True) (fun _ _ => trivial) hc
  obtain ⟨s', event, refund, hr, hg, hcycle⟩ := reopens_of_next hl
  exact (hall s₀ s s' event refund h₀ h hr hg).unasked refund (Registry.mem_of_get? hg)
    (of_decide_eq_true hcycle)

end Runs

end OperateBench.ReturnRefund
