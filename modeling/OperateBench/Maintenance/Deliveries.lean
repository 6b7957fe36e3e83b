import OperateBench.Maintenance.Customers

/-! # Duties that messages discharge

A notice or a reminder is discharged by a message that the trajectory carries, after the
duty was created and, for a reminder, while its approval was open and due.
-/

namespace OperateBench.Maintenance

open Foundation Engine EngineState MaintenanceOperation

variable {op : MaintenanceOperation} {P : MaintenanceState → Call → Prop} {V : Cause → Prop}
  {s s' : EngineState MaintenanceState} {call : Call} {reduction : Reduction MaintenanceState}
  {ahead l behind : List Entry} {R R' : List Record} {now : String}

section Carriage

variable {context : EnvironmentContext} {payload : Fields} {evidenceRefs : List String}
  {recoveryOf : Option ℕ} {rows : List Entry} {cycle : String}

theorem messageRecovery_get? {state : MaintenanceState} {fixtureId : String}
    {correlationId : Option String}
    (h : op.messageRecovery state payload fixtureId correlationId = .ok recoveryOf) :
    payload.get? "recovery_of" = recoveryOf.map fun index => .int index := by
  unfold messageRecovery at h
  split at h
  · rename_i hc
    obtain rfl := Except.ok.inj h
    simpa [Dict.contains] using hc
  rename_i hc
  obtain ⟨value, hv⟩ := Dict.contains_iff.mp (by simpa using hc)
  have hget : payload.get "recovery_of" = value := by rw [Fields.get, hv, Option.getD_some]
  split at h
  · cases h
  split at h
  · rename_i index hindex
    split at h
    · cases h
    split at h
    · cases h
    split at h
    · cases h
    · obtain rfl := Except.ok.inj h
      rw [hv, ← hget, hindex]
      rfl
  · cases h

/-- A delivered message is carried by the page that accepted it. -/
theorem Called.carried
    (hc : Called op P s s' ⟨context, .action "send_message" payload evidenceRefs⟩ reduction
      ahead l behind)
    (hm : Message op s.state context payload recoveryOf reduction rows l)
    (hd : (message context payload recoveryOf).delivered = true)
    (hcycle : payload.text? "correlation_id" = some cycle) :
    Carried s'.ledger.records s'.state.communications s.ledger.records.length
      (s.proposalCounter + 1) payload evidenceRefs cycle rows (message context payload recoveryOf) := by
  have htext : ∀ name, (name, .string) ∈ (actionPayloadSchema op.spec.recoveryEnabled
      .sendMessage).required → payload.get name = .str (payload.text name) := by
    intro name hname
    obtain ⟨text, hget, _⟩ := validated_text hm.valid hname
    rw [Fields.text, hget]
    rfl
  obtain ⟨hget, hne⟩ : payload.get "correlation_id" = .str cycle ∧ cycle ≠ "" := by
    have hoptional : ("correlation_id", .optionalString) ∈ (actionPayloadSchema
        op.spec.recoveryEnabled .sendMessage).optional := List.mem_cons_self
    rcases validated_text? hm.valid hoptional with hnone | ⟨text, hget, hne⟩
    · rw [Fields.text?, hnone] at hcycle
      cases hcycle
    · rw [Fields.text?, hget] at hcycle
      obtain rfl := Option.some.inj hcycle
      exact ⟨hget, hne⟩
  have hverdict : reduction.verdict = .ok "ACCEPTED" (some cycle) Dict.empty := by
    rw [hm.verdict, orElse, hcycle, if_pos (by simpa using hne)]
  have hgrown := hc.grown
  have hnow : (message context payload recoveryOf).instant = s.clock.now := hc.accepts.now
  cases hc.frame with
  | action aside =>
    rw [hverdict] at hgrown
    refine ⟨?_, hm.discharges, hd, htext _ List.mem_cons_self,
      htext _ (List.mem_cons_of_mem _ List.mem_cons_self), hget, hcycle,
      messageRecovery_get? hm.sent.recovery, ?_⟩
    · rw [hnow, ← hm.left]
      exact dispatched_of_grown hgrown
    · rw [hc.accepts.state, hm.communications]
      exact List.mem_append_right _ List.mem_cons_self

end Carriage

section Given

/-- The row about a new duty. -/
structure CreatedRow (obligationId : String) (row : Record) : Prop where
  recordType : row.recordType = "obligation_created"
  obligation : row.get "obligation_id" = .str obligationId

/-- The row about the timer of an approval that reminded of it. -/
structure FiredRow (checkpointId : String) (row : Record) : Prop where
  recordType : row.recordType = "event_observed"
  event : row.get "event_id" = .str (reminderTimerId checkpointId)
  code : row.get "code" = .str "ACCEPTED"

def Created (R : List Record) (bound : ℕ) (obligationId : String) : Prop :=
  ∃ (i : ℕ) (row : Record), i < bound ∧ R[i]? = some row ∧ CreatedRow obligationId row

/-- The message that gave the notice is on record, after the duty. -/
structure Notified (R : List Record) (communications : List Communication) (reporter : String)
    (duty : Obligation) (p proposal : ℕ) (payload : Fields) (evidenceRefs : List String)
    (cycle : String) (rows : List Entry) (row : Communication) : Prop where
  carried : Carried R communications p proposal payload evidenceRefs cycle rows row
  fixture : row.messageFixtureId = completionNotice
  recipient : row.recipientActorId = reporter
  cycle : duty.cycleId = some cycle
  created : Created R p duty.obligationId
  discharged : ∃ e ∈ rows, Fields.get e.2 "obligation_id" = .str duty.obligationId

/-- The message that reminded of the approval is on record, while it was open and due. -/
structure Reminded (R : List Record) (communications : List Communication) (checkpointId : String)
    (p proposal : ℕ) (payload : Fields) (evidenceRefs : List String) (cycle : String)
    (rows : List Entry) (row : Communication) : Prop where
  carried : Carried R communications p proposal payload evidenceRefs cycle rows row
  fixture : row.messageFixtureId = approvalReminder
  recipient : row.recipientActorId = "approver_1"
  opened : ∃ (i j k : ℕ) (opened effect fired : Record), i < j ∧ i < p ∧ k < p ∧
    R[i]? = some opened ∧ R[j]? = some effect ∧ R[k]? = some fired ∧
    OpenedRow checkpointId opened ∧ AcceptedRow "request_approval" checkpointId cycle effect ∧
    FiredRow checkpointId fired
  pending : ∀ (m : ℕ) (row : Record), R[m]? = some row → row.recordType = "checkpoint_resolved" →
    row.get "checkpoint_id" = .str checkpointId → p < m

theorem Created.grown {bound : ℕ} {id : String} (h : Created R bound id) (hg : Grown R R' now l) :
    Created R' bound id := by
  obtain ⟨i, row, hi, hr, hc⟩ := h
  exact ⟨i, row, hi, hg.keeps hr, hc⟩

variable {communications communications' : List Communication} {reporter checkpointId : String}
  {duty : Obligation} {p proposal : ℕ} {payload : Fields} {evidenceRefs : List String}
  {cycle : String} {rows : List Entry} {row : Communication}

theorem Notified.grown
    (h : Notified R communications reporter duty p proposal payload evidenceRefs cycle rows row)
    (hg : Grown R R' now l) (hc : communications ⊆ communications') :
    Notified R' communications' reporter duty p proposal payload evidenceRefs cycle rows row :=
  { h with carried := h.carried.grown hg hc, created := h.created.grown hg }

theorem Reminded.grown
    (h : Reminded R communications checkpointId p proposal payload evidenceRefs cycle rows row)
    (hg : Grown R R' now l) (hc : communications ⊆ communications') :
    Reminded R' communications' checkpointId p proposal payload evidenceRefs cycle rows row where
  carried := h.carried.grown hg hc
  fixture := h.fixture
  recipient := h.recipient
  opened := by
    obtain ⟨i, j, k, opened, effect, fired, hij, hip, hkp, hi, hj, hk, hrest⟩ := h.opened
    exact ⟨i, j, k, opened, effect, fired, hij, hip, hkp, hg.keeps hi, hg.keeps hj, hg.keeps hk, hrest⟩
  pending := by
    intro m row hm ht hid
    rcases hg.source hm with hm | ⟨j, e, rfl, _, _⟩
    · exact h.pending m row hm ht hid
    · exact (lt_of_getElem? h.carried.block.proposed).trans_le (Nat.le_add_right _ _)

end Given

end OperateBench.Maintenance
