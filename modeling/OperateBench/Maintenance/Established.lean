import OperateBench.Maintenance.Deliveries

/-! # Discharges that the grader establishes

In a run in which every reminder is fired by the timer of its own approval, each notice
and each reminder that was discharged is backed by what is on record.
-/

namespace OperateBench.Maintenance

open Foundation Engine EngineState MaintenanceOperation

variable {op : MaintenanceOperation} {P : MaintenanceState → Call → Prop} {V : Cause → Prop}
  {s s' : EngineState MaintenanceState} {call : Call} {reduction : Reduction MaintenanceState}
  {ahead l behind : List Entry} {R R' : List Record} {now : String}

/-- A reminder is fired by the timer of its own approval, and the agent is told. -/
def OwnTimer (op : MaintenanceOperation) (state : MaintenanceState) (call : Call) : Prop :=
  ∀ approval ∈ state.openApprovals, approval.reminderFired = false →
    Fires op call approval.checkpointId → ∃ context event, call = ⟨context, .event event⟩ ∧
      event.eventId = reminderTimerId approval.checkpointId ∧ event.triggersAgent = true

/-- What is on record about duties and about approvals that were reminded of. -/
structure Backed (R : List Record) (state : MaintenanceState) : Prop where
  named : ∀ duty ∈ state.obligations.values, duty.Named
  created : ∀ duty ∈ state.obligations.values, Created R R.length duty.obligationId
  fired : ∀ approval ∈ state.approvals.values, approval.reminderFired = true →
    ∃ (k : ℕ) (row : Record), R[k]? = some row ∧ FiredRow approval.checkpointId row
  notices : ∀ duty ∈ state.obligations.values, duty.kind = .customerCompletionNotice →
    duty.status = .discharged → ∃ reporter p proposal payload evidenceRefs cycle rows row,
      state.issueReportingActorId = some reporter ∧
        Notified R state.communications reporter duty p proposal payload evidenceRefs cycle rows row
  reminders : ∀ duty ∈ state.obligations.values, duty.kind = .approvalReminder →
    duty.status = .discharged →
      ∃ checkpointId p proposal payload evidenceRefs cycle rows row,
        duty.obligationId = reminderObligationId checkpointId ∧
          Reminded R state.communications checkpointId p proposal payload evidenceRefs cycle rows row

theorem Created.later {bound bound' : ℕ} {id : String} (h : Created R bound id)
    (hb : bound ≤ bound') : Created R bound' id := by
  obtain ⟨i, row, hi, hr⟩ := h
  exact ⟨i, row, hi.trans_le hb, hr⟩

theorem Backed.vacant (h : Backed s.ledger.records s.state) (hv : Vacant s s' now l) :
    Backed s'.ledger.records s'.state := by
  rw [hv.state]
  refine ⟨h.named, fun duty hd => ?_, fun approval ha hf => ?_, fun duty hd hk hs => ?_,
    fun duty hd hk hs => ?_⟩
  · exact ((h.created duty hd).grown hv.grown).later (by rw [hv.grown.length]; omega)
  · obtain ⟨k, row, hr, hrow⟩ := h.fired approval ha hf
    exact ⟨k, row, hv.grown.keeps hr, hrow⟩
  · obtain ⟨reporter, p, proposal, payload, refs, cycle, rows, row, hrep, hn⟩ :=
      h.notices duty hd hk hs
    exact ⟨reporter, p, proposal, payload, refs, cycle, rows, row, hrep,
      hn.grown hv.grown (List.Subset.refl _)⟩
  · obtain ⟨checkpointId, p, proposal, payload, refs, cycle, rows, row, hid, hn⟩ :=
      h.reminders duty hd hk hs
    exact ⟨checkpointId, p, proposal, payload, refs, cycle, rows, row, hid,
      hn.grown hv.grown (List.Subset.refl _)⟩

/-- An accepted reminder says so. -/
theorem reduceEvent_fired {state : MaintenanceState} {context : EnvironmentContext} {event : Event}
    (admitted : op.Admits event .approvalReminderDue)
    (h : op.reduceEvent state event context = .ok reduction)
    (ha : reduction.verdict.accepted = true) : reduction.verdict.code = "ACCEPTED" := by
  have hrefused : ∀ {code detail : String} {P : Prop}, refuse state code detail = .ok reduction → P := by
    intro code detail P hr
    obtain rfl := Except.ok.inj hr
    cases ha
  rw [reduceEvent_admitted admitted] at h
  unfold reducer reduceReminderDue at h
  dsimp only at h
  split at h
  · exact hrefused h
  split at h
  · exact hrefused h
  split at h
  · exact hrefused h
  · exact Except.ok.inj h ▸ rfl

section Called

variable (h : Backed s.ledger.records s.state)
  (hc : Called op P s s' call reduction ahead l behind)

include hc

/-- The rows that the call left behind are on record. -/
theorem Called.left {e : Entry} (he : e ∈ l) : ∃ i : ℕ, s.ledger.records.length ≤ i ∧
    s'.ledger.records[i]? = some (Entry.row e i s.clock.now) := by
  obtain ⟨i, hi⟩ := List.mem_iff_getElem?.mp he
  have hlt : i < l.length := (List.getElem?_eq_some_iff.mp hi).1
  refine ⟨s.ledger.records.length + (ahead.length + i), Nat.le_add_right _ _, hc.grown.adds ?_⟩
  rw [List.append_assoc, List.getElem?_append_right (Nat.le_add_right _ _),
    Nat.add_sub_cancel_left, List.getElem?_append_left hlt, hi]

theorem Called.fate {duty : Obligation} (hd : duty ∈ s'.state.obligations.values) :
    Fate call.context.now (Discharges op s.state call) s.state.obligations reduction.effects duty :=
  Ops.fate hc.ops duty hd

include h

omit hc in
theorem Fate.named {duty : Obligation} (hf : Fate call.context.now (Discharges op s.state call)
    s.state.obligations reduction.effects duty) : duty.Named := by
  induction hf with
  | unchanged onFile => exact h.named _ (Registry.mem_values_iff.mpr onFile)
  | opened _ _ named => exact named
  | closed _ _ _ _ ih => exact ih

theorem Fate.created {duty : Obligation} (hf : Fate call.context.now (Discharges op s.state call)
    s.state.obligations reduction.effects duty) :
    Created s'.ledger.records s'.ledger.records.length duty.obligationId := by
  induction hf with
  | unchanged onFile =>
    refine ((h.created _ (Registry.mem_values_iff.mpr onFile)).grown hc.grown).later ?_
    rw [hc.grown.length]
    omega
  | opened _ _ _ created =>
    obtain ⟨i, _, hi⟩ := hc.left (hc.accepts.effects.mem created)
    exact ⟨i, _, lt_of_getElem? hi, hi, rfl, rfl⟩
  | closed _ _ _ _ ih => exact ih

theorem Backed.called_fired (howns : OwnTimer op s.state call) {approval : Approval}
    (ha : approval ∈ s'.state.approvals.values) (hf : approval.reminderFired = true) :
    ∃ (k : ℕ) (row : Record), s'.ledger.records[k]? = some row ∧
      FiredRow approval.checkpointId row := by
  cases Ops.approvals hc.ops approval ha with
  | kept onFile cycle opened fired =>
    rename_i before
    have hid : before.checkpointId = approval.checkpointId := Registry.ident_of_get? onFile
    have hmem : before ∈ s.state.approvals.values :=
      Registry.mem_values_iff.mpr (Registry.get?_ident onFile)
    cases hb : before.reminderFired with
    | true =>
      obtain ⟨k, row, hr, hrow⟩ := h.fired before hmem hb
      exact ⟨k, row, hc.grown.keeps hr, hid ▸ hrow⟩
    | false =>
      obtain ⟨ho, hfires⟩ := (fired hf).resolve_left (by simp [hb])
      have hopen : before ∈ s.state.openApprovals := List.mem_filter.mpr ⟨hmem, by simpa using ho⟩
      obtain ⟨context, event, rfl, hown, hwakes⟩ := howns before hopen hb (hid ▸ hfires)
      obtain ⟨k, f, htells, hk⟩ := hc.tellsAt nofun
      cases htells
      refine ⟨k, _, hk, ?_⟩
      generalize approval.checkpointId = id at hfires hid
      subst hid
      generalize hname : before.checkpointId = id at hfires
      cases hfires with
      | due admitted =>
        have hcode := reduceEvent_fired admitted hc.accepts.responded hc.accepts.accepted
        refine ⟨?_, ?_, ?_⟩
        · simp [Entry.row, observedEntry, acceptedType, entry, hwakes]
        · rw [observed_get (v := .str event.eventId) (by simp), hown, hname]
        · rw [observed_get (v := .str reduction.verdict.code) (by simp), hcode]
  | asked asks allocated =>
    cases asks
    obtain ⟨filed, deadlineAt, hid, ⟨hunfired, _⟩, hput, _⟩ :=
      applyAction_asked hc.accepts.responded hc.accepts.accepted
    have hfile := Registry.mem_values_iff.mp ha
    rw [hc.accepts.state, hput, allocated, ← hid, Registry.get?_put_self] at hfile
    rw [← Option.some.inj hfile, hunfired] at hf
    cases hf

end Called

end OperateBench.Maintenance
