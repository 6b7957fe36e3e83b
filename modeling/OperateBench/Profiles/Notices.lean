import OperateBench.Profiles.Money

/-! # The notice to the customer

The customer is told the result once. It stays the verified result of the case, unless a
review that was asked for before the settlement is acknowledged after the customer was told
of the refund.
-/

namespace OperateBench.Profiles

open Foundation

namespace CommerceProfilesDomain

variable {op : CommerceProfilesDomain} {s t : ProfileState} {cause : Cause}
  {effects : List Effect} {now : String} {result : Outcome}

section Results

/-- What every flag of the case says of its decision, and that the notice is the result. -/
structure Steady (s : ProfileState) : Prop where
  reviewed : s.case.reviewRequested = true →
    s.case.decision = some .review ∨ s.case.decision = some .refund
  acknowledged : s.case.reviewAck = true → s.case.reviewRequested = true
  repairing : s.case.repairRequested = true → s.case.decision = some .repair
  repaired : s.case.repaired = true → s.case.repairRequested = true
  returning : s.case.returnAuthorized = true → s.case.decision = some .refund
  asking : s.case.authorityRequested = true → s.case.decision = some .refund
  submitted : s.payment.intentId.isSome → s.case.decision = some .refund
  paying : s.payment.status ≠ .none → s.payment.intentId.isSome
  notice : ∀ result, s.case.notified = some result → readyResult s = some result

/-- A verified result, by the flag it rests on. -/
inductive Ready (s : ProfileState) : Outcome → Prop
  | reviewed (acknowledged : s.case.reviewAck = true) : Ready s .reviewed
  | denied (decided : s.case.decision = some .denyVoluntary) : Ready s .deniedVoluntary
  | repaired (decided : s.case.decision ≠ some .denyVoluntary) (repaired : s.case.repaired = true) :
    Ready s .repaired
  | refunded (unrepaired : s.case.repaired = false) (settled : s.payment.status = .settled) :
    Ready s .refunded

theorem ready_of_readyResult (h : readyResult s = some result) : Ready s result := by
  unfold readyResult at h
  split at h
  · rename_i hack
    obtain rfl := Option.some.inj h
    exact .reviewed hack
  split at h
  · rename_i hdenied
    obtain rfl := Option.some.inj h
    exact .denied hdenied
  rename_i hdecided
  split at h
  · rename_i hrepaired
    obtain rfl := Option.some.inj h
    exact .repaired hdecided hrepaired
  rename_i hunrepaired
  split at h
  · rename_i hsettled
    obtain rfl := Option.some.inj h
    exact .refunded (Bool.not_eq_true _ ▸ hunrepaired) hsettled.1
  · cases h

theorem Steady.decided (h : Steady s) (hr : readyResult s = some result) :
    s.case.decision ≠ none := by
  cases ready_of_readyResult hr with
  | reviewed hack =>
    rcases h.reviewed (h.acknowledged hack) with hd | hd
    · simp [hd]
    · simp [hd]
  | denied hd => simp [hd]
  | repaired _ hrepaired => simp [h.repairing (h.repaired hrepaired)]
  | refunded _ hsettled => simp [h.submitted (h.paying (by simp [hsettled]))]

/-- Without a settlement the result does not rest on the payment. -/
theorem readyResult_unsettled (hs : s.payment.status ≠ .settled)
    (hr : readyResult s = some result) (payment : Payment) :
    readyResult { s with payment } = some result := by
  unfold readyResult at hr ⊢
  simp only [hs, false_and, if_false] at hr
  split
  · rename_i hack
    rwa [if_pos hack] at hr
  rename_i hack
  rw [if_neg hack] at hr
  split
  · rename_i hdenied
    rwa [if_pos hdenied] at hr
  rename_i hdenied
  rw [if_neg hdenied] at hr
  split
  · rename_i hrepaired
    rwa [if_pos hrepaired] at hr
  · rename_i hrepaired
    rw [if_neg hrepaired] at hr
    cases hr

/-- What a review may be asked for takes a case that was to be reviewed or refunded. -/
theorem Steady.allowed {reason : String} (h : Steady s)
    (ha : reviewAllowed s reason now = .ok true) :
    s.case.decision = some .review ∨ s.case.decision = some .refund := by
  unfold reviewAllowed at ha
  split at ha
  · rename_i hreturn
    exact Or.inr (h.returning hreturn.2.1)
  split at ha
  · rename_i hauthority
    exact Or.inr (h.asking hauthority.2.1)
  split at ha
  · rename_i hpayment
    refine Or.inr (h.submitted (h.paying ?_))
    rcases hpayment.2.1 with hp | hp <;> simp [hp]
  · have hor := Except.ok.inj ha
    simp only [Bool.or_eq_true, Bool.and_eq_true, decide_eq_true_eq] at hor
    rcases hor with ⟨_, hd⟩ | ⟨_, hp⟩
    · exact Or.inl hd
    · exact Or.inr (h.submitted (h.paying (by simp [hp])))

end Results

section Changes

/-- A review is acknowledged that nobody waits for any more: the customer was told of a refund. -/
def Overtaken (s : ProfileState) (cause : Cause) : Prop :=
  s.case.notified = some .refunded ∧
    ∃ event, cause = .event event ∧ event.eventType = EventType.reviewAcknowledged.text

theorem Steady.acknowledge (h : Steady s) (hrequested : s.case.reviewRequested = true)
    (hn : s.case.notified ≠ some .refunded) : Steady { s with case.reviewAck := true } := by
  refine { h with acknowledged := fun _ => hrequested, notice := ?_ }
  intro result hnotified
  have hr := h.notice result hnotified
  have hd := h.reviewed hrequested
  cases ready_of_readyResult hr with
  | reviewed => rfl
  | denied hdenied => simp [hdenied] at hd
  | repaired _ hrepaired =>
    have hrepairing := h.repairing (h.repaired hrepaired)
    simp [hrepairing] at hd
  | refunded => exact absurd hnotified hn

theorem Steady.mend (h : Steady s) (hrequested : s.case.repairRequested = true) :
    Steady { s with case.repaired := true } := by
  refine { h with repaired := fun _ => hrequested, notice := ?_ }
  intro result hnotified
  have hr := h.notice result hnotified
  have hrepair := h.repairing hrequested
  cases ready_of_readyResult hr with
  | reviewed hack => simp [readyResult, hack]
  | denied hdenied => cases hrepair.symm.trans hdenied
  | repaired _ hrepaired =>
    rw [← hr]
    simp [readyResult, hrepaired]
  | refunded _ hsettled =>
    cases hrepair.symm.trans (h.submitted (h.paying (by simp [hsettled])))

theorem Change.steady (hc : op.Change now s cause t effects) (h : Steady s)
    (hn : ¬Overtaken s cause) : Steady t := by
  cases hc with
  | intake => exact h
  | claimed => exact { h with }
  | proven => exact { h with }
  | granted => exact { h with }
  | @paid _ _ status webhookId result authored submitted fresh live =>
    have hintent := h.submitted (by rw [submitted]; rfl)
    unfold CommerceProfilesDomain.paid
    split
    · refine { h with paying := fun _ => ?_, notice := ?_ }
      · simp [settle, submitted]
      · intro result hnotified
        exact readyResult_unsettled live.1 (h.notice result hnotified) _
    · refine { h with paying := fun _ => ?_, notice := ?_ }
      · simp [submitted]
      · intro result hnotified
        exact readyResult_unsettled live.1 (h.notice result hnotified) _
  | acknowledged type requested =>
    exact h.acknowledge requested fun hr => hn ⟨hr, _, rfl, type⟩
  | mended type requested => exact h.mend requested
  | finalised type identity settled =>
    refine { h with notice := ?_ }
    intro result hnotified
    have hr := h.notice result hnotified
    rw [← hr]
    unfold readyResult at hr ⊢
    by_cases hf : s.case.finalityReady = true
    · simp [hf]
    · simp only [settled, hf, Bool.false_eq_true, and_false, if_false] at hr ⊢
      split
      · rfl
      rename_i hack
      rw [if_neg hack] at hr
      split
      · rfl
      rename_i hdenied
      rw [if_neg hdenied] at hr
      split
      · rfl
      · rename_i hrepaired
        rw [if_neg hrepaired] at hr
        cases hr
  | decided first =>
    have hnone : ∀ {p : Prop}, s.case.decision = some .refund → p := fun hd => by
      cases first.symm.trans hd
    refine ⟨?_, h.acknowledged, ?_, h.repaired, ?_, ?_, ?_, h.paying, ?_⟩
    · intro hrequested
      rcases h.reviewed hrequested with hd | hd <;> cases first.symm.trans hd
    · intro hrequested
      cases first.symm.trans (h.repairing hrequested)
    · exact fun hreturn => hnone (h.returning hreturn)
    · exact fun hasked => hnone (h.asking hasked)
    · exact fun hintent => hnone (h.submitted hintent)
    · intro result hnotified
      exact absurd first (h.decided (h.notice result hnotified))
  | authorized decided => exact { h with returning := fun _ => decided }
  | requested decided => exact { h with asking := fun _ => decided }
  | submitted first decided =>
    refine { h with submitted := fun _ => decided, paying := fun _ => rfl, notice := ?_ }
    intro result hnotified
    refine readyResult_unsettled ?_ (h.notice result hnotified) _
    intro hsettled
    have hsome := h.paying (by simp [hsettled])
    rw [first] at hsome
    cases hsome
  | queried => exact { h with }
  | repairRequested decided =>
    exact { h with repairing := fun _ => decided, repaired := fun _ => rfl }
  | reviewRequested first allowed =>
    exact { h with reviewed := fun _ => h.allowed allowed, acknowledged := fun _ => rfl }
  | notified first ready =>
    refine { h with notice := ?_ }
    intro result hnotified
    obtain rfl := Option.some.inj hnotified
    exact ready
  | completed => exact { h with }

/-- What the customer was told is not taken back. -/
theorem Change.notified_eq (hc : op.Change now s cause t effects)
    (hn : s.case.notified = some result) : t.case.notified = some result := by
  cases hc with
  | paid =>
    unfold CommerceProfilesDomain.paid
    split <;> exact hn
  | notified first => cases first.symm.trans hn
  | _ => exact hn

theorem Steady.bump (h : Steady t) : Steady (ProfileState.bump t) := { h with }

end Changes

section Runs

variable {workflow : Fields} {agent : OperationAgent} {operationId instanceId : String}
  {u u' v u₀ : EngineState ProfileState}

/-- While the customer has been told of a refund and the case is open, no acknowledgement of a
review is about to be delivered. -/
def Undisturbed (E : Engine ProfileState) (u : EngineState ProfileState) : Prop :=
  u.state.case.notified = some .refunded → u.state.case.terminal = none →
    ∀ event, E.Due u event → event.eventType ≠ EventType.reviewAcknowledged.text

theorem Steady.step (h : Steady u.state)
    (hn : Undisturbed (op.engine workflow agent operationId instanceId) u)
    (hs : (op.engine workflow agent operationId instanceId).step u = .ok u') :
    Steady u'.state ∧ ∀ result, u.state.case.notified = some result →
      u'.state.case.notified = some result := by
  cases step_takes hs with
  | still state =>
    rw [state]
    exact ⟨h, fun _ => id⟩
  | @change cause t effects admitted change state gone =>
    rw [state]
    refine ⟨(change.steady h ?_).bump, fun result hnotified => change.notified_eq hnotified⟩
    rintro ⟨hrefunded, event, rfl, htype⟩
    exact hn hrefunded admitted.2.2.2.2 event (gone event rfl).1 htype

/-- A completion that cites the case is accepted, whenever it may be proposed on what was read. -/
def Completes (E : Engine ProfileState) (u : EngineState ProfileState) : Prop :=
  ∀ outcome : Complete, caseId ∈ outcome.evidenceRefs →
    E.readGuardProblem u completeOutcomeKey outcome.evidenceRefs = .ok none →
      ∀ accepted u', E.proposeTerminal u outcome = .ok (accepted, u') → accepted = true

/-- Nothing that is pending acknowledges a review. -/
def quiet (u : EngineState ProfileState) : Bool :=
  u.queue.pending.all fun event => event.eventType ≠ EventType.reviewAcknowledged.text

end Runs

end CommerceProfilesDomain

end OperateBench.Profiles
