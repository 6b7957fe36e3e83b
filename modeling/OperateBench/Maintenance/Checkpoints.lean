import OperateBench.Maintenance.Agreement
import OperateBench.Maintenance.Duties

/-! # What handlers do to checkpoints

A checkpoint keeps its identity and its cycle. It is opened under a fresh identity, and
the row about its resolution is written when it is no longer open.
-/

namespace OperateBench.Maintenance

open Foundation Transaction Relation

variable {op : MaintenanceOperation} {s : MaintenanceState} {call : Call} {now : String}
  {t t' : Transaction} {checkpointId : String}

/-- The call reports that the reminder of the checkpoint is due. -/
inductive Fires (op : MaintenanceOperation) : Call → String → Prop
  | due {context : EnvironmentContext} {event : Event}
      (admitted : op.Admits event .approvalReminderDue) :
      Fires op ⟨context, .event event⟩ (event.payload.text "checkpoint_id")

/-- The call reports how the operator resolved the checkpoint. -/
inductive Resolves (op : MaintenanceOperation) : Call → String → Prop
  | reported {context : EnvironmentContext} {event : Event}
      (admitted : op.Admits event .operatorExceptionResolved) :
      Resolves op ⟨context, .event event⟩ (event.payload.text "checkpoint_id")

/-- Where an approval on file comes from. -/
inductive Approval.Source (op : MaintenanceOperation) (s : MaintenanceState) (call : Call)
    (approval : Approval) : Prop
  | kept {before : Approval} (onFile : s.approvals.get? approval.checkpointId = some before)
      (cycle : approval.cycleId = before.cycleId)
      (opened : approval.status = .opened → before.status = .opened)
      (fired : approval.reminderFired = true → before.reminderFired = true ∨
        before.status = .opened ∧ Fires op call approval.checkpointId)
  | asked (asks : Asks "request_approval" call)
      (allocated : approval.checkpointId = allocateCheckpointId s)

/-- Where an exception checkpoint on file comes from. -/
inductive ExceptionCheckpoint.Source (op : MaintenanceOperation) (s : MaintenanceState)
    (call : Call) (checkpoint : ExceptionCheckpoint) : Prop
  | kept {before : ExceptionCheckpoint}
      (onFile : s.exceptions.get? checkpoint.checkpointId = some before)
      (cycle : checkpoint.cycleId = before.cycleId)
      (resolution : checkpoint.resolution = before.resolution ∨
        Resolves op call checkpoint.checkpointId)
  | asked (asks : Asks "request_exception_resolution" call)
      (allocated : checkpoint.checkpointId = allocateCheckpointId s)

section Operations

/-- An approval that an operation files. -/
inductive Approval.Filed (op : MaintenanceOperation) (s : MaintenanceState) (call : Call)
    (before : Approvals) : Approval → Prop
  | asked {approval : Approval} (asks : Asks "request_approval" call)
      (allocated : approval.checkpointId = allocateCheckpointId s) : Filed op s call before approval
  | closed {approval : Approval} {status : ApprovalStatus} {resolvedAt : Option String}
      (onFile : before.get? approval.checkpointId = some approval) (closed : status ≠ .opened) :
      Filed op s call before { approval with status, resolvedAt }
  | fired {approval : Approval} (onFile : before.get? approval.checkpointId = some approval)
      (opened : approval.status = .opened) (fires : Fires op call approval.checkpointId) :
      Filed op s call before { approval with reminderFired := true }

/-- An exception checkpoint that an operation files. -/
inductive ExceptionCheckpoint.Filed (op : MaintenanceOperation) (s : MaintenanceState) (call : Call)
    (before : Registry ExceptionCheckpoint.checkpointId) : ExceptionCheckpoint → Prop
  | asked {checkpoint : ExceptionCheckpoint} (asks : Asks "request_exception_resolution" call)
      (allocated : checkpoint.checkpointId = allocateCheckpointId s) :
      Filed op s call before checkpoint
  | resolved {checkpoint : ExceptionCheckpoint} {resolution : Option ExceptionResolution}
      {resolvedAt : Option String}
      (onFile : before.get? checkpoint.checkpointId = some checkpoint)
      (resolves : Resolves op call checkpoint.checkpointId) :
      Filed op s call before { checkpoint with status := .resolved, resolution, resolvedAt }

/-- An operation files at most one checkpoint. -/
theorem Op.checkpoints (h : Op now (terms op s call) t t') :
    (t'.state.approvals = t.state.approvals ∨ ∃ approval, approval.Filed op s call t.state.approvals ∧
        t'.state.approvals = t.state.approvals.put approval) ∧
      (t'.state.exceptions = t.state.exceptions ∨ ∃ checkpoint,
        checkpoint.Filed op s call t.state.exceptions ∧
          t'.state.exceptions = t.state.exceptions.put checkpoint) := by
  cases h with
  | framed _ approvals exceptions => exact ⟨Or.inl approvals, Or.inl exceptions⟩
  | moved _ moves =>
    cases moves with
    | asked allocated _ _ approvals exceptions =>
      exact ⟨Or.inr ⟨_, .asked .action allocated, approvals⟩, Or.inl exceptions⟩
    | closed onFile closed approvals exceptions =>
      exact ⟨Or.inr ⟨_, .closed onFile closed, approvals⟩, Or.inl exceptions⟩
    | fired admitted found opened approvals exceptions =>
      refine ⟨Or.inr ⟨_, .fired (Registry.get?_ident found) opened ?_, approvals⟩, Or.inl exceptions⟩
      rw [show Approval.checkpointId _ = _ from Registry.ident_of_get? found]
      exact .due admitted
    | escalated allocated _ _ approvals exceptions =>
      exact ⟨Or.inl approvals, Or.inr ⟨_, .asked .action allocated, exceptions⟩⟩
    | resolved admitted found _ approvals exceptions =>
      refine ⟨Or.inl approvals, Or.inr ⟨_, .resolved (Registry.get?_ident found) ?_, exceptions⟩⟩
      rw [show ExceptionCheckpoint.checkpointId _ = _ from Registry.ident_of_get? found]
      exact .reported admitted
  | sent => exact ⟨Or.inl rfl, Or.inl rfl⟩
  | recorded => exact ⟨Or.inl rfl, Or.inl rfl⟩
  | scheduled => exact ⟨Or.inl rfl, Or.inl rfl⟩
  | cancelled => exact ⟨Or.inl rfl, Or.inl rfl⟩
  | opened => exact ⟨Or.inl rfl, Or.inl rfl⟩
  | closed => exact ⟨Or.inl rfl, Or.inl rfl⟩

theorem Ops.approvals (h : Ops now (terms op s call) (Transaction.begin s) t) :
    ∀ approval ∈ t.state.approvals.values, approval.Source op s call := by
  induction h with
  | refl =>
    intro approval ha
    exact .kept (Registry.mem_values_iff.mp ha) rfl id Or.inl
  | tail _ step ih =>
    rcases (Op.checkpoints step).1 with hsame | ⟨filed, hfiled, hput⟩
    · rwa [hsame]
    rw [hput]
    refine Registry.forall_put ih ?_
    cases hfiled with
    | asked asks allocated => exact .asked asks allocated
    | closed onFile closed =>
      cases ih _ (Registry.mem_values_iff.mpr onFile) with
      | kept onFile cycle _ fired => exact .kept onFile cycle (fun ho => absurd ho closed) fired
      | asked asks allocated => exact .asked asks allocated
    | fired onFile ho fires =>
      cases ih _ (Registry.mem_values_iff.mpr onFile) with
      | kept onFile cycle opened _ =>
        exact .kept onFile cycle opened fun _ => Or.inr ⟨opened ho, fires⟩
      | asked asks allocated => exact .asked asks allocated

theorem Ops.exceptions (h : Ops now (terms op s call) (Transaction.begin s) t) :
    ∀ checkpoint ∈ t.state.exceptions.values, checkpoint.Source op s call := by
  induction h with
  | refl =>
    intro checkpoint hc
    exact .kept (Registry.mem_values_iff.mp hc) rfl (Or.inl rfl)
  | tail _ step ih =>
    rcases (Op.checkpoints step).2 with hsame | ⟨filed, hfiled, hput⟩
    · rwa [hsame]
    rw [hput]
    refine Registry.forall_put ih ?_
    cases hfiled with
    | asked asks allocated => exact .asked asks allocated
    | resolved onFile resolves =>
      cases ih _ (Registry.mem_values_iff.mpr onFile) with
      | kept onFile cycle _ => exact .kept onFile cycle (Or.inr resolves)
      | asked asks allocated => exact .asked asks allocated

/-- An approval that was decided stays so, unless its identity is given to another. -/
theorem Op.decided (h : Op now (terms op s call) t t')
    (hid : Asks "request_approval" call → checkpointId ≠ allocateCheckpointId s)
    (hd : t.state.Decided checkpointId) : t'.state.Decided checkpointId := by
  rcases (Op.checkpoints h).1 with hsame | ⟨filed, hfiled, hput⟩
  · rwa [MaintenanceState.Decided, hsame]
  obtain ⟨before, hf, hs⟩ := hd
  rw [MaintenanceState.Decided, hput, Registry.get?_put]
  split
  · rename_i he
    cases hfiled with
    | asked asks allocated => exact absurd (he ▸ allocated) (hid asks)
    | closed _ closed => exact ⟨_, rfl, closed⟩
    | fired onFile opened =>
      rw [show Approval.checkpointId _ = _ from he, hf] at onFile
      exact absurd (Option.some.inj onFile ▸ opened) hs
  · exact ⟨before, hf, hs⟩

theorem MaintenanceState.Decided.ne_allocate (h : s.Decided checkpointId) :
    checkpointId ≠ allocateCheckpointId s := by
  rintro rfl
  obtain ⟨approval, hf, _⟩ := h
  rw [get?_allocateCheckpointId_approvals] at hf
  cases hf

theorem Ops.decided (h : Ops now (terms op s call) (Transaction.begin s) t)
    (hd : s.Decided checkpointId) : t.state.Decided checkpointId := by
  induction h with
  | refl => exact hd
  | tail _ step ih => exact Op.decided step (fun _ => hd.ne_allocate) ih

/-- Checkpoints stay on file. -/
theorem Ops.contains (h : Ops now (terms op s call) (Transaction.begin s) t) :
    (s.approvals.contains checkpointId = true → t.state.approvals.contains checkpointId = true) ∧
      (s.exceptions.contains checkpointId = true →
        t.state.exceptions.contains checkpointId = true) := by
  induction h with
  | refl => exact ⟨id, id⟩
  | tail _ step ih =>
    constructor
    · intro hc
      rcases (Op.checkpoints step).1 with hsame | ⟨filed, _, hput⟩
      · rw [hsame]
        exact ih.1 hc
      · rw [hput, Registry.contains_put, ih.1 hc, Bool.or_true]
    · intro hc
      rcases (Op.checkpoints step).2 with hsame | ⟨filed, _, hput⟩
      · rw [hsame]
        exact ih.2 hc
      · rw [hput, Registry.contains_put, ih.2 hc, Bool.or_true]

/-- The checkpoint is an approval that is no longer open, or an exception. -/
def Disposed (s state : MaintenanceState) (checkpointId : String) : Prop :=
  state.Decided checkpointId ∨ s.exceptions.contains checkpointId = true

theorem approvalResolved_get (checkpointId : String) (status : ApprovalStatus) :
    Fields.get (.ofList (approvalResolved checkpointId status)) "checkpoint_id" =
      .str checkpointId := rfl

theorem exceptionResolved_get (checkpointId : String) (resolution : ExceptionResolution) :
    Fields.get (.ofList (exceptionResolved checkpointId resolution)) "checkpoint_id" =
      .str checkpointId := rfl

/-- Only an event leads to a row about a resolved checkpoint. -/
theorem Ops.not_asks (h : Ops now (terms op s call) (Transaction.begin s) t) {payload : Fields}
    (hm : Effect.record "checkpoint_resolved" payload ∈ t.effects) {actionType : String} :
    ¬Asks actionType call := by
  rintro ⟨⟩
  generalize ht : "checkpoint_resolved" = recordType at hm
  cases Ops.rows h hm with
  | own own =>
    rename_i state rows
    cases (own : Writes op s state _ recordType rows) <;> exact absurd ht (by decide)
  | created => exact absurd ht (by decide)
  | closed => rename_i duty closure; cases closure <;> exact absurd ht (by decide)

/-- A row about a resolved checkpoint is about one that is settled. -/
theorem Ops.resolved (h : Ops now (terms op s call) (Transaction.begin s) t) {payload : Fields}
    (hm : Effect.record "checkpoint_resolved" payload ∈ t.effects) :
    ∃ checkpointId, payload.get "checkpoint_id" = .str checkpointId ∧
      Disposed s t.state checkpointId := by
  have hno : ¬Asks "request_approval" call := Ops.not_asks h hm
  induction h with
  | refl => cases hm
  | tail _ step ih =>
    rename_i u v _
    -- What was settled before the last operation still is.
    have hold : Effect.record "checkpoint_resolved" payload ∈ u.effects →
        ∃ checkpointId, payload.get "checkpoint_id" = .str checkpointId ∧
          Disposed s v.state checkpointId := by
      intro hu
      obtain ⟨checkpointId, hget, hdisposed⟩ := ih hu
      exact ⟨checkpointId, hget, hdisposed.imp_left (Op.decided step fun asks => absurd asks hno)⟩
    cases step with
    | framed => exact hold hm
    | sent => exact hold hm
    | moved => exact hold hm
    | recorded own =>
      rcases List.mem_append.mp hm with hm | hm
      · exact hold hm
      · obtain ⟨ht, rfl⟩ := Effect.record.inj (List.mem_singleton.mp hm)
        rename_i recordType rows _
        cases (own : Writes op s u.state call recordType rows) with
        | decided _ _ _ closed => exact ⟨_, approvalResolved_get _ _, Or.inl closed⟩
        | expired _ _ _ closed => exact ⟨_, approvalResolved_get _ _, Or.inl closed⟩
        | resolved _ found =>
          refine ⟨_, exceptionResolved_get _ _, Or.inr ?_⟩
          exact Registry.contains_iff.mpr ⟨_, Registry.get?_ident found⟩
        | _ => exact absurd ht (by decide)
    | scheduled =>
      rcases List.mem_append.mp hm with hm | hm
      · exact hold hm
      · cases List.mem_singleton.mp hm
    | cancelled =>
      rcases List.mem_append.mp hm with hm | hm
      · exact hold hm
      · cases List.mem_singleton.mp hm
    | opened =>
      rcases List.mem_append.mp hm with hm | hm
      · exact hold hm
      · obtain ⟨ht, _⟩ := Effect.record.inj (List.mem_singleton.mp hm)
        exact absurd ht (by decide)
    | closed =>
      rename_i duty closure _ _ _
      rcases List.mem_append.mp hm with hm | hm
      · exact hold hm
      · obtain ⟨ht, _⟩ := Effect.record.inj (List.mem_singleton.mp hm)
        cases closure <;> exact absurd ht (by decide)

end Operations

section Openings

open MaintenanceOperation

variable {context : EnvironmentContext} {payload : Fields} {evidenceRefs : List String}
  {r : Reduction MaintenanceState}

theorem Ops.effects_subset {T : Terms} (h : Ops now T t t') : t.effects ⊆ t'.effects := by
  induction h with
  | refl => exact fun _ he => he
  | tail _ step ih =>
    refine List.Subset.trans ih ?_
    cases step with
    | framed => exact List.Subset.refl _
    | sent => exact List.Subset.refl _
    | moved => exact List.Subset.refl _
    | recorded => exact List.subset_append_left _ _
    | scheduled => exact List.subset_append_left _ _
    | cancelled => exact List.subset_append_left _ _
    | opened => exact List.subset_append_left _ _
    | closed => exact List.subset_append_left _ _

/-- The approval is for the quote that the request names. -/
structure Approval.AskedFor (s : MaintenanceState) (payload : Fields) (approval : Approval)
    (quote : Quote) : Prop where
  onFile : s.quote (payload.text "quote_id") (payload.number "quote_version") = some quote
  cycleId : approval.cycleId = quote.cycleId
  scopeDigest : approval.scopeDigest = quote.scopeDigest

/-- An accepted request files the approval and says so. -/
theorem applyAction_asked
    (h : op.applyAction s payload evidenceRefs context "request_approval" = .ok r)
    (ha : r.verdict.accepted = true) :
    ∃ approval deadlineAt, approval.checkpointId = allocateCheckpointId s ∧
      (approval.reminderFired = false ∧ ∃ quote, approval.AskedFor s payload quote) ∧
      r.state.approvals = s.approvals.put approval ∧
      r.verdict = .ok "ACCEPTED" (some approval.cycleId)
        (bindings [("checkpoint_id", some approval.checkpointId)]) ∧
      .record "checkpoint_opened" (.ofList (approvalOpened approval.checkpointId deadlineAt)) ∈
        r.effects := by
  obtain ⟨action, hnamed, _, h⟩ := applyAction_handled h ha
  obtain rfl : action = .requestApproval := by
    have hask : ActionType.ofText? "request_approval" = some .requestApproval := by decide
    exact Option.some.inj (hnamed.symm.trans hask)
  have hrefused : ∀ {code detail : String} {P : Prop}, refuse s code detail = .ok r → P := by
    intro code detail P hr
    obtain rfl := Except.ok.inj hr
    cases ha
  unfold handler actRequestApproval at h
  dsimp only at h
  split at h
  · exact hrefused h
  rename_i quote hquote
  iterate 5
    split at h
    · exact hrefused h
  obtain ⟨deadlineAt, _, h⟩ := bind_ok h
  obtain ⟨t, ht, h⟩ := bind_ok h
  obtain ⟨u, hu, h⟩ := bind_ok h
  obtain rfl := Except.ok.inj h
  obtain ⟨_, hts⟩ := Transaction.openObligation_ok ht
  obtain ⟨_, hus⟩ := Transaction.openObligation_ok hu
  have hops := Ops.effects_subset (T := terms op s ⟨context, .terminal []⟩)
    ((Ops.openObligation ht fun _ => ⟨_, rfl⟩).trans (Ops.openObligation hu fun _ => ⟨_, rfl⟩))
  refine ⟨{
      checkpointId := allocateCheckpointId s
      quoteId := quote.quoteId
      quoteVersion := quote.version
      cycleId := quote.cycleId
      amountMinor := quote.amountMinor
      currency := quote.currency
      scopeDigest := quote.scopeDigest
      openedAt := context.now
      deadlineAt }, deadlineAt, rfl, ⟨rfl, quote, hquote, rfl, rfl⟩, ?_, rfl, hops ?_⟩
  · simp only [hus, hts]
    rfl
  · exact List.mem_append_left _ (List.mem_append_left _ List.mem_cons_self)

/-- An accepted escalation files the checkpoint and says so. -/
theorem applyAction_escalated
    (h : op.applyAction s payload evidenceRefs context "request_exception_resolution" = .ok r)
    (ha : r.verdict.accepted = true) :
    ∃ checkpoint cycleId, checkpoint.checkpointId = allocateCheckpointId s ∧
      checkpoint.cycleId = some cycleId ∧ checkpoint.resolution = none ∧
      r.state.exceptions = s.exceptions.put checkpoint ∧
      r.verdict = .ok "ACCEPTED" (some cycleId)
        (bindings [("checkpoint_id", some checkpoint.checkpointId)]) := by
  obtain ⟨action, hnamed, _, h⟩ := applyAction_handled h ha
  obtain rfl : action = .requestExceptionResolution := by
    have hask : ActionType.ofText? "request_exception_resolution" =
        some .requestExceptionResolution := by decide
    exact Option.some.inj (hnamed.symm.trans hask)
  have hrefused : ∀ {code detail : String} {P : Prop}, refuse s code detail = .ok r → P := by
    intro code detail P hr
    obtain rfl := Except.ok.inj hr
    cases ha
  unfold handler actRequestExceptionResolution at h
  dsimp only at h
  split at h
  · exact hrefused h
  split at h
  · exact hrefused h
  rename_i exceptionType _
  split at h
  · exact hrefused h
  rename_i eligible _
  obtain ⟨citation, _, h⟩ := bind_ok h
  split at h
  · exact hrefused h
  obtain ⟨deadlineAt, _, h⟩ := bind_ok h
  obtain rfl := Except.ok.inj h
  exact ⟨{
    checkpointId := allocateCheckpointId s
    exceptionType
    cycleId := some eligible.cycleId
    openedAt := context.now
    deadlineAt
    evidenceRefs }, eligible.cycleId, rfl, rfl, rfl, rfl, rfl⟩

/-- An accepted report files how the exception was resolved and says so. -/
theorem reduceEvent_resolved {event : Event} (admitted : op.Admits event .operatorExceptionResolved)
    (h : op.reduceEvent s event context = .ok r) (ha : r.verdict.accepted = true) :
    ∃ checkpoint resolution, s.exceptions.get? checkpoint.checkpointId = some checkpoint ∧
      checkpoint.checkpointId = event.payload.text "checkpoint_id" ∧
      r.state.exceptions = s.exceptions.put { checkpoint with
        status := .resolved, resolution := some resolution, resolvedAt := some context.now } ∧
      r.effects = [.record "checkpoint_resolved"
        (.ofList (exceptionResolved checkpoint.checkpointId resolution))] := by
  have hrefused : ∀ {code detail : String} {P : Prop}, refuse s code detail = .ok r → P := by
    intro code detail P hr
    obtain rfl := Except.ok.inj hr
    cases ha
  rw [reduceEvent_admitted admitted] at h
  unfold reducer reduceOperatorResolution at h
  dsimp only at h
  split at h
  · exact hrefused h
  rename_i checkpoint hf
  split at h
  · exact hrefused h
  split at h
  · exact hrefused h
  · rename_i resolution _
    obtain rfl := Except.ok.inj h
    have hid : checkpoint.checkpointId = event.payload.text "checkpoint_id" :=
      Registry.ident_of_get? hf
    refine ⟨checkpoint, resolution, Registry.get?_ident hf, hid, rfl, ?_⟩
    rw [hid]
    rfl

end Openings

end OperateBench.Maintenance
