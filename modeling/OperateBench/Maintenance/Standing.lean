import OperateBench.Maintenance.Checkpoints
import OperateBench.Maintenance.Dispatch

/-! # Checkpoints on record

An approval on file was opened by a row of the trajectory and an accepted request, an
exception by an accepted escalation. A row about a resolved checkpoint is about an
approval that is no longer open, or about an exception.
-/

namespace OperateBench.Maintenance

open Foundation Engine EngineState

variable {op : MaintenanceOperation} {P : MaintenanceState → Call → Prop} {V : Cause → Prop}
  {s s' : EngineState MaintenanceState} {call : Call} {reduction : Reduction MaintenanceState}
  {ahead l behind : List Entry} {R R' : List Record} {now : String} {row : Record} {e : Entry}

namespace Called

theorem mem (h : Called op P s s' call reduction ahead l behind) (hr : row ∈ s'.ledger.records) :
    row ∈ s.ledger.records ∨ row.recordType ∈ idleRows ∨
      ∃ e index, row = Entry.row e index s.clock.now ∧ (e ∈ l ∨ Tells reduction.verdict call e) := by
  rcases h.grown.mem hr with hr | ⟨e, index, he, rfl⟩
  · exact Or.inl hr
  · right
    rcases List.mem_append.mp he with he | he
    · rcases List.mem_append.mp he with he | he
      · exact Or.inl (h.frame.still e he)
      · exact Or.inr ⟨e, index, rfl, Or.inl he⟩
    · exact (h.frame.tells e he).imp_right fun ht => ⟨e, index, rfl, Or.inr ht⟩

/-- What the call left behind stands before the row that tells of it. -/
theorem told_after (h : Called op P s s' call reduction ahead l behind) (he : e ∈ l)
    (hno : ∀ evidenceRefs, call.cause ≠ .terminal evidenceRefs) :
    ∃ i j f, i < j ∧ s.ledger.records.length ≤ i ∧ Tells reduction.verdict call f ∧
      s'.ledger.records[i]? = some (Entry.row e i s.clock.now) ∧
      s'.ledger.records[j]? = some (Entry.row f j s.clock.now) := by
  obtain ⟨evidenceRefs, hterminal⟩ | ⟨f, hf, ht⟩ := h.frame.told
  · exact absurd hterminal (hno evidenceRefs)
  obtain ⟨i, hi⟩ := List.mem_iff_getElem?.mp he
  obtain ⟨j, hj⟩ := List.mem_iff_getElem?.mp hf
  have hlt : i < l.length := (List.getElem?_eq_some_iff.mp hi).1
  refine ⟨s.ledger.records.length + (ahead.length + i),
    s.ledger.records.length + ((ahead ++ l).length + j), f, ?_, by omega, ht, ?_, ?_⟩
  · rw [List.length_append]
    omega
  · refine h.grown.adds ?_
    rw [List.append_assoc, List.getElem?_append_right (Nat.le_add_right _ _),
      Nat.add_sub_cancel_left, List.getElem?_append_left hlt, hi]
  · refine h.grown.adds ?_
    rw [List.getElem?_append_right (Nat.le_add_right _ _), Nat.add_sub_cancel_left, hj]

/-- The row that tells of the call. -/
theorem tellsAt (h : Called op P s s' call reduction ahead l behind)
    (hno : ∀ evidenceRefs, call.cause ≠ .terminal evidenceRefs) :
    ∃ j f, Tells reduction.verdict call f ∧
      s'.ledger.records[j]? = some (Entry.row f j s.clock.now) := by
  obtain ⟨evidenceRefs, hterminal⟩ | ⟨f, hf, ht⟩ := h.frame.told
  · exact absurd hterminal (hno evidenceRefs)
  obtain ⟨j, hj⟩ := List.mem_iff_getElem?.mp (List.mem_append_right (ahead ++ l) hf)
  exact ⟨_, f, ht, h.grown.adds hj⟩

theorem ops (h : Called op P s s' call reduction ahead l behind) :
    Transaction.Ops call.context.now (terms op s.state call) (Transaction.begin s.state)
      ⟨s'.state, reduction.effects⟩ := by
  rw [h.accepts.state]
  exact h.accepts.ops

end Called

section Standing

/-- The row about a new approval checkpoint. -/
structure OpenedRow (checkpointId : String) (row : Record) : Prop where
  recordType : row.recordType = "checkpoint_opened"
  checkpointType : row.get "checkpoint_type" = .str "repair_quote_approval"
  checkpoint : row.get "checkpoint_id" = .str checkpointId
  assignee : row.get "assignee_actor_id" = .str "approver_1"

/-- The row accepts the action that opened the checkpoint for the cycle. -/
structure AcceptedRow (actionType checkpointId cycleId : String) (row : Record) : Prop where
  accepts : Evaluator.acceptsCheckpoint actionType (.str checkpointId) row = true
  cycle : row.get "cycle_id" = .str cycleId

/-- The row about an exception that was resolved. -/
structure ResolutionRow (checkpointId : String) (resolution : ExceptionResolution) (row : Record) :
    Prop where
  recordType : row.recordType = "checkpoint_resolved"
  checkpointType : row.get "checkpoint_type" = .str "maintenance_exception_resolution"
  checkpoint : row.get "checkpoint_id" = .str checkpointId
  resolution : row.get "resolution" = .str resolution.text

/-- The opening of the approval is on record, and after it the accepted request. -/
def Approval.Asked (approval : Approval) (R : List Record) : Prop :=
  ∃ (i j : ℕ) (opened effect : Record), i < j ∧ R[i]? = some opened ∧ R[j]? = some effect ∧
    OpenedRow approval.checkpointId opened ∧
    AcceptedRow "request_approval" approval.checkpointId approval.cycleId effect

/-- The accepted escalation is on record, and after it how the exception was resolved. -/
def ExceptionCheckpoint.Escalated (checkpoint : ExceptionCheckpoint) (R : List Record) : Prop :=
  ∃ (j : ℕ) (effect : Record) (cycleId : String), R[j]? = some effect ∧ checkpoint.cycleId = some cycleId ∧
    AcceptedRow "request_exception_resolution" checkpoint.checkpointId cycleId effect ∧
    ∀ resolution, checkpoint.resolution = some resolution →
      ∃ (k : ℕ) (row : Record), j < k ∧ R[k]? = some row ∧ ResolutionRow checkpoint.checkpointId
        resolution row

theorem Approval.Asked.grown {approval : Approval} (h : approval.Asked R)
    (hg : Grown R R' now l) : approval.Asked R' := by
  obtain ⟨i, j, opened, effect, hij, hi, hj, ho, he⟩ := h
  exact ⟨i, j, opened, effect, hij, hg.keeps hi, hg.keeps hj, ho, he⟩

theorem ExceptionCheckpoint.Escalated.grown {checkpoint : ExceptionCheckpoint}
    (h : checkpoint.Escalated R) (hg : Grown R R' now l) : checkpoint.Escalated R' := by
  obtain ⟨j, effect, cycleId, hj, hc, he, hr⟩ := h
  refine ⟨j, effect, cycleId, hg.keeps hj, hc, he, fun resolution hres => ?_⟩
  obtain ⟨k, row, hjk, hk, hrow⟩ := hr resolution hres
  exact ⟨k, row, hjk, hg.keeps hk, hrow⟩

theorem openedRow (checkpointId deadlineAt : String) (index : ℕ) (now : String) :
    OpenedRow checkpointId (Entry.row ("checkpoint_opened",
      .ofList (approvalOpened checkpointId deadlineAt)) index now) :=
  ⟨rfl, rfl, rfl, rfl⟩

theorem resolutionRow (checkpointId : String) (resolution : ExceptionResolution) (index : ℕ)
    (now : String) : ResolutionRow checkpointId resolution (Entry.row ("checkpoint_resolved",
      .ofList (exceptionResolved checkpointId resolution)) index now) :=
  ⟨rfl, rfl, rfl, rfl⟩

theorem acceptedRow (proposal : ℕ) (actionType checkpointId cycleId : String) (index : ℕ)
    (now : String) : AcceptedRow actionType checkpointId cycleId (Entry.row (effectEntry proposal
      actionType (.ok "ACCEPTED" (some cycleId) (bindings [("checkpoint_id", some checkpointId)])))
        index now) where
  accepts := by
    have haction : (Entry.row (effectEntry proposal actionType (.ok "ACCEPTED" (some cycleId)
        (bindings [("checkpoint_id", some checkpointId)]))) index now).gives "action_type" actionType =
          true := gives_of_get (effect_get (by simp))
    have hcode : (Entry.row (effectEntry proposal actionType (.ok "ACCEPTED" (some cycleId)
        (bindings [("checkpoint_id", some checkpointId)]))) index now).gives "code" "ACCEPTED" = true :=
      gives_of_get (effect_get (by simp [Verdict.ok]))
    have hbound : (Entry.row (effectEntry proposal actionType (.ok "ACCEPTED" (some cycleId)
        (bindings [("checkpoint_id", some checkpointId)]))) index now).get "bindings" =
          .ofFields [("checkpoint_id", .str checkpointId)] := rfl
    rw [Evaluator.acceptsCheckpoint, haction, hcode, hbound]
    simp [Record.isType, Entry.row, effectEntry, entry, Value.field, Value.lookup?_ofFields]
  cycle := rfl

/-- What stands on record about checkpoints. -/
structure Standing (R : List Record) (s : MaintenanceState) : Prop where
  disjoint : ∀ id, s.approvals.contains id = true → s.exceptions.contains id = true → False
  resolved : ∀ row ∈ R, row.recordType = "checkpoint_resolved" → ∃ id,
    row.get "checkpoint_id" = .str id ∧ (s.Decided id ∨ s.exceptions.contains id = true)
  asked : ∀ approval ∈ s.approvals.values, approval.Asked R
  escalated : ∀ checkpoint ∈ s.exceptions.values, checkpoint.Escalated R

/-- A row about the checkpoint of an open approval does not say that it is resolved. -/
theorem Standing.unresolved {state : MaintenanceState} (h : Standing R state) {approval : Approval}
    (ha : approval ∈ state.approvals.values) (ho : approval.status = .opened) (hr : row ∈ R)
    (ht : row.recordType = "checkpoint_resolved") :
    row.get "checkpoint_id" ≠ .str approval.checkpointId := by
  intro hid
  obtain ⟨id, hget, hd⟩ := h.resolved row hr ht
  obtain rfl : id = approval.checkpointId := Value.str.inj (hget.symm.trans hid)
  have hf := Registry.mem_values_iff.mp ha
  rcases hd with ⟨other, hother, hs⟩ | hc
  · obtain rfl := Option.some.inj (hf.symm.trans hother)
    exact hs ho
  · exact h.disjoint _ (Registry.contains_iff.mpr ⟨_, hf⟩) hc

theorem Standing.vacant (h : Standing s.ledger.records s.state) (hv : Vacant s s' now l) :
    Standing s'.ledger.records s'.state := by
  rw [hv.state]
  refine ⟨h.disjoint, fun row hr ht => ?_, fun approval ha => (h.asked approval ha).grown hv.grown,
    fun checkpoint hc => (h.escalated checkpoint hc).grown hv.grown⟩
  rcases hv.grown.mem hr with hr | ⟨e, index, he, rfl⟩
  · exact h.resolved row hr ht
  · exact absurd (hv.idle e he) (by rw [show e.1 = _ from ht]; decide)

theorem Tells.ne_resolved {verdict : Verdict} (h : Tells verdict call e) :
    e.1 ≠ "checkpoint_resolved" := by
  cases h with
  | effect => exact (by decide : "effect_accepted" ≠ "checkpoint_resolved")
  | observed =>
    rename_i context event
    cases ht : event.triggersAgent <;> simp [observedEntry, acceptedType, entry, ht]

variable (h : Standing s.ledger.records s.state)
  (hc : Called op P s s' call reduction ahead l behind)

include h hc

theorem Standing.called_disjoint (id : String) (ha : s'.state.approvals.contains id = true)
    (he : s'.state.exceptions.contains id = true) : False := by
  obtain ⟨approval, ha⟩ := Registry.contains_iff.mp ha
  obtain ⟨checkpoint, he⟩ := Registry.contains_iff.mp he
  obtain rfl : approval.checkpointId = id := Registry.ident_of_get? ha
  have hid : checkpoint.checkpointId = approval.checkpointId := Registry.ident_of_get? he
  have happroval := Ops.approvals hc.ops approval (Registry.mem_values_iff.mpr ha)
  have hcheckpoint := Ops.exceptions hc.ops checkpoint
    (Registry.mem_values_iff.mpr (Registry.get?_ident he))
  cases happroval with
  | kept hkept =>
    cases hcheckpoint with
    | kept hother =>
      rw [hid] at hother
      exact h.disjoint _ (Registry.contains_iff.mpr ⟨_, hkept⟩) (Registry.contains_iff.mpr ⟨_, hother⟩)
    | asked _ allocated =>
      rw [← hid, allocated, get?_allocateCheckpointId_approvals] at hkept
      cases hkept
  | asked asks allocated =>
    cases hcheckpoint with
    | kept hother =>
      rw [hid, allocated, get?_allocateCheckpointId_exceptions] at hother
      cases hother
    | asked other =>
      cases asks
      generalize ht : "request_approval" = actionType at other
      cases other
      exact absurd ht (by decide)

theorem Standing.called_resolved (hr : row ∈ s'.ledger.records)
    (ht : row.recordType = "checkpoint_resolved") : ∃ id, row.get "checkpoint_id" = .str id ∧
      (s'.state.Decided id ∨ s'.state.exceptions.contains id = true) := by
  rcases hc.mem hr with hr | hidle | ⟨e, index, rfl, he⟩
  · obtain ⟨id, hget, hd⟩ := h.resolved row hr ht
    exact ⟨id, hget, hd.imp (Ops.decided hc.ops) (Ops.contains hc.ops).2⟩
  · exact absurd hidle (by rw [ht]; decide)
  · rcases he with he | he
    · have he' : Effect.record "checkpoint_resolved" e.2 ∈ reduction.effects := by
        rcases hc.accepts.effects.source he with hm | htimer | htimer
        · rwa [show e.1 = _ from ht] at hm
        · exact absurd (htimer.symm.trans ht) (by decide)
        · exact absurd (htimer.symm.trans ht) (by decide)
      obtain ⟨id, hget, hd⟩ := Ops.resolved hc.ops he'
      exact ⟨id, hget, hd.imp_right (Ops.contains hc.ops).2⟩
    · exact absurd ht he.ne_resolved

theorem Standing.called_asked {approval : Approval} (ha : approval ∈ s'.state.approvals.values) :
    approval.Asked s'.ledger.records := by
  cases Ops.approvals hc.ops approval ha with
  | kept onFile cycle =>
    obtain ⟨i, j, opened, effect, hij, hi, hj, ho, he⟩ :=
      (h.asked _ (Registry.mem_values_iff.mpr (Registry.get?_ident onFile))).grown hc.grown
    have hid := Registry.ident_of_get? onFile
    exact ⟨i, j, opened, effect, hij, hi, hj, hid ▸ ho, hid ▸ cycle ▸ he⟩
  | asked asks allocated =>
    cases asks
    obtain ⟨filed, deadlineAt, hid, _, hput, hverdict, hopened⟩ :=
      applyAction_asked hc.accepts.responded hc.accepts.accepted
    obtain rfl : approval = filed := by
      have hf := Registry.mem_values_iff.mp ha
      rw [hc.accepts.state, hput, allocated, ← hid, Registry.get?_put_self] at hf
      exact (Option.some.inj hf).symm
    obtain ⟨i, j, f, hij, _, htells, hi, hj⟩ :=
      hc.told_after (hc.accepts.effects.mem hopened) nofun
    cases htells
    refine ⟨i, j, _, _, hij, hi, hj, openedRow _ _ _ _, ?_⟩
    rw [hverdict]
    exact acceptedRow _ _ _ _ _ _

theorem Standing.called_escalated {checkpoint : ExceptionCheckpoint}
    (hm : checkpoint ∈ s'.state.exceptions.values) : checkpoint.Escalated s'.ledger.records := by
  cases Ops.exceptions hc.ops checkpoint hm with
  | kept onFile cycle resolution =>
    rename_i before
    have hid : before.checkpointId = checkpoint.checkpointId := Registry.ident_of_get? onFile
    obtain ⟨j, effect, cycleId, hj, hcycle, he, hr⟩ :=
      h.escalated _ (Registry.mem_values_iff.mpr (Registry.get?_ident onFile))
    refine ⟨j, effect, cycleId, hc.grown.keeps hj, cycle.trans hcycle, hid ▸ he, ?_⟩
    intro res hres
    rcases resolution with hsame | hresolves
    · obtain ⟨k, row, hjk, hk, hrow⟩ := hr res (hsame ▸ hres)
      exact ⟨k, row, hjk, hc.grown.keeps hk, hid ▸ hrow⟩
    · generalize hname : checkpoint.checkpointId = id at hresolves
      cases hresolves with
      | reported admitted =>
        obtain ⟨filed, resolution, _, hfiled, hput, heffects⟩ :=
          reduceEvent_resolved admitted hc.accepts.responded hc.accepts.accepted
        have hf := Registry.mem_values_iff.mp hm
        have hsame : filed.checkpointId = checkpoint.checkpointId := hfiled.trans hname.symm
        rw [hc.accepts.state, hput, Registry.get?_put, if_pos hsame] at hf
        obtain rfl := Option.some.inj hf
        obtain rfl : resolution = res := Option.some.inj hres
        obtain ⟨i, k, f, _, hle, _, hk, _⟩ :=
          hc.told_after (hc.accepts.effects.mem (heffects ▸ List.mem_cons_self)) nofun
        refine ⟨i, _, (lt_of_getElem? hj).trans_le hle, hk, ?_⟩
        rw [← hfiled]
        exact resolutionRow _ _ _ _
  | asked asks allocated =>
    cases asks
    obtain ⟨filed, cycleId, hid, hcycle, hnone, hput, hverdict⟩ :=
      applyAction_escalated hc.accepts.responded hc.accepts.accepted
    obtain rfl : checkpoint = filed := by
      have hf := Registry.mem_values_iff.mp hm
      rw [hc.accepts.state, hput, allocated, ← hid, Registry.get?_put_self] at hf
      exact (Option.some.inj hf).symm
    obtain ⟨j, f, htells, hj⟩ := hc.tellsAt nofun
    cases htells
    refine ⟨j, _, cycleId, hj, hcycle, ?_, fun resolution hres => ?_⟩
    · rw [hverdict]
      exact acceptedRow _ _ _ _ _ _
    · rw [hnone] at hres
      cases hres

theorem Standing.called : Standing s'.ledger.records s'.state where
  disjoint := h.called_disjoint hc
  resolved _ := h.called_resolved hc
  asked _ := h.called_asked hc
  escalated _ := h.called_escalated hc

omit h hc

theorem Standing.page (h : Standing s.ledger.records s.state) (hp : Page op P V s s') :
    Standing s'.ledger.records s'.state := by
  rcases hp.vacant_or_called with ⟨now, l, hv⟩ | ⟨call, reduction, ahead, l, behind, hc⟩
  · exact h.vacant hv
  · exact h.called hc

end Standing

end OperateBench.Maintenance
