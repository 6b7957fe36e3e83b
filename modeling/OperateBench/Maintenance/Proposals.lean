import OperateBench.Maintenance.Inversion

/-! # Every proposal refuses or commits

The action handlers and the two doors of the terminal, taken apart like the
reducers, and all calls of the operation put together.
-/

namespace OperateBench.Maintenance

open Foundation

variable {op : MaintenanceOperation} {s : MaintenanceState} {context : EnvironmentContext}
  {now : String} {r : Reduction MaintenanceState}

namespace MaintenanceOperation

section Actions

variable {payload : Fields} {evidenceRefs : List String} {actionType : String}

theorem armVisitFollowup_ok {t t' : Transaction} {cycleId : String}
    (h : op.armVisitFollowup t now cycleId = .ok t') :
    ∃ obligations, t'.state = { t.state with obligations } ∧
      DutiesFollow t.state.obligations obligations := by
  obtain ⟨dueAt, hd⟩ := Transaction.openObligation_ok h
  exact ⟨_, hd, dutiesFollow_putNew _ _⟩

theorem actRequestVisit_answered (h : op.actRequestVisit s payload context = .ok r) :
    Answered op now s (.action actionType payload evidenceRefs) r := by
  unfold actRequestVisit at h
  dsimp only at h
  split at h
  · exact .refused h
  rename_i cycle hf
  split at h
  · exact .refused h
  split at h
  · exact .refused h
  rename_i hn
  split at h
  · exact .refused h
  split at h
  · exact .refused h
  · obtain ⟨t, ht, h⟩ := bind_ok h
    obtain ⟨obligations, hs, hd⟩ := armVisitFollowup_ok ht
    exact .accepted h rfl hs (.visitRequested (Registry.get?_ident hf) (by simpa using hn) hd)

theorem actAuthoriseSupplierWork_answered
    (h : op.actAuthoriseSupplierWork s payload evidenceRefs context = .ok r) :
    Answered op now s (.action actionType payload evidenceRefs) r := by
  unfold actAuthoriseSupplierWork at h
  dsimp only at h
  split at h
  · exact .refused h
  split at h
  · exact .refused h
  obtain ⟨citation, _, h⟩ := bind_ok h
  split at h
  · exact .refused h
  split at h
  · exact .refused h
  split at h
  · exact .refused h
  split at h
  · exact .refused h
  obtain ⟨lapsed, _, h⟩ := bind_ok h
  split at h
  · exact .refused h
  split at h
  · cases h
  rename_i cycle hf
  split at h
  · exact .refused h
  · rename_i hn
    obtain ⟨t, ht, h⟩ := bind_ok h
    obtain ⟨obligations, hs, hd⟩ := armVisitFollowup_ok ht
    exact .accepted h rfl hs (.workAuthorised (Registry.get?_ident hf) (by simpa using hn) hd)

theorem actRequestApproval_answered (h : op.actRequestApproval s payload context = .ok r) :
    Answered op context.now s (.action actionType payload evidenceRefs) r := by
  unfold actRequestApproval at h
  dsimp only at h
  split at h
  · exact .refused h
  rename_i quote hf
  split at h
  · exact .refused h
  rename_i hr
  split at h
  · exact .refused h
  split at h
  · exact .refused h
  rename_i ha
  split at h
  · exact .refused h
  split at h
  · exact .refused h
  rename_i hu
  have hu : ∀ a ∈ s.approvals.values, a.quoteId = quote.quoteId →
      a.quoteVersion = quote.version → a.cycleId ≠ quote.cycleId := by
    intro a hm hq hv hc
    exact hu (List.any_eq_true.mpr ⟨a, hm, by simp [hq, hv, hc]⟩)
  obtain ⟨deadlineAt, _, h⟩ := bind_ok h
  obtain ⟨t, ht, h⟩ := bind_ok h
  obtain ⟨t', ht', h⟩ := bind_ok h
  obtain ⟨dueAt, hd⟩ := Transaction.openObligation_ok ht
  obtain ⟨dueAt', hd'⟩ := Transaction.openObligation_ok ht'
  rw [hd] at hd'
  exact .accepted h rfl hd' (.approvalRequested (Registry.get?_ident hf) (by simpa using hr)
    (Int.not_le.mp ha) hu ((dutiesFollow_putNew _ _).trans (dutiesFollow_putNew _ _)))

theorem actRequestExceptionResolution_answered
    (h : actRequestExceptionResolution s payload evidenceRefs context = .ok r) :
    Answered op now s (.action actionType payload evidenceRefs) r := by
  unfold actRequestExceptionResolution at h
  dsimp only at h
  split at h
  · exact .refused h
  split at h
  · exact .refused h
  split at h
  · exact .refused h
  obtain ⟨citation, _, h⟩ := bind_ok h
  split at h
  · exact .refused h
  · obtain ⟨deadlineAt, _, h⟩ := bind_ok h
    exact .accepted h rfl rfl (.exceptionRequested rfl rfl)

theorem actRequestInvoiceValidation_answered
    (h : actRequestInvoiceValidation s payload evidenceRefs = .ok r) :
    Answered op now s (.action actionType payload evidenceRefs) r := by
  unfold actRequestInvoiceValidation at h
  dsimp only at h
  split at h
  · exact .refused h
  rename_i invoice hf
  split at h
  · exact .refused h
  rename_i hs
  split at h
  · exact .refused h
  split at h
  · exact .refused h
  rename_i quote hq
  split at h
  · exact .refused h
  rename_i ha
  split at h
  · exact .refused h
  rename_i hm
  simp only [not_or, not_not] at hm ha
  obtain ⟨citation, _, h⟩ := bind_ok h
  split at h
  · exact .refused h
  · exact .accepted h rfl rfl (.validationRequested (Registry.get?_ident hf) (by simpa using hs)
      hq ha hm.1 hm.2.1 hm.2.2)

theorem actRequestPayment_answered (h : actRequestPayment s payload evidenceRefs = .ok r) :
    Answered op now s (.action actionType payload evidenceRefs) r := by
  unfold actRequestPayment at h
  dsimp only at h
  split at h
  · exact .refused h
  rename_i invoice hf
  split at h
  · exact .refused h
  rename_i hn
  split at h
  · exact .refused h
  rename_i cycle hc
  split at h
  · exact .refused h
  rename_i hp
  split at h
  · exact .refused h
  rename_i hw
  split at h
  · exact .refused h
  rename_i hv
  split at h
  · exact .refused h
  obtain ⟨citation, _, h⟩ := bind_ok h
  split at h
  · exact .refused h
  · exact .accepted h rfl rfl (.paymentRequested (Registry.get?_ident hf) (by simpa using hn) hc
      (by simpa using hp) (by simpa using hw) (by simpa using hv))

theorem dutiesFollow_foldl_closeObligation (now : String) (approvals : List Approval) (t : Transaction) :
    ∃ obligations, (approvals.foldl (fun t approval =>
        t.closeObligation now (reminderObligationId approval.checkpointId) .discharged) t).state =
      { t.state with obligations } ∧ DutiesFollow t.state.obligations obligations := by
  induction approvals generalizing t with
  | nil => exact ⟨_, rfl, .refl _⟩
  | cons approval approvals ih =>
    obtain ⟨obligations, hs, hd⟩ := ih
      (t.closeObligation now (reminderObligationId approval.checkpointId) .discharged)
    rw [List.foldl_cons, hs]
    rw [Transaction.state_closeObligation] at hd ⊢
    exact ⟨obligations, rfl, (dutiesFollow_closeDuty _ _ _ _).trans hd⟩

theorem dischargeNotice_state (now : String) (t : Transaction) (fixtureId : String) (cycleId : Option String) :
    ∃ cycles obligations transferNoticeSent, (dischargeNotice t now fixtureId cycleId).state =
        { t.state with cycles, obligations, transferNoticeSent } ∧
      Noticed t.state cycles ∧ DutiesFollow t.state.obligations obligations := by
  unfold dischargeNotice
  split
  · split
    · exact ⟨_, _, _, rfl, Or.inl rfl, .refl _⟩
    · rename_i cycle hf
      obtain ⟨id, rfl, hg⟩ := Option.bind_eq_some_iff.mp hf
      exact ⟨_, _, _, Transaction.state_closeObligation _ _ _ _,
        Or.inr ⟨cycle, Registry.get?_ident hg, rfl⟩, dutiesFollow_closeDuty _ _ _ _⟩
  split
  · exact ⟨_, _, _, rfl, Or.inl rfl, .refl _⟩
  split
  · obtain ⟨obligations, hs, hd⟩ := dutiesFollow_foldl_closeObligation now
      (t.state.openApprovals.filter fun approval =>
        approval.reminderFired && some approval.cycleId = cycleId) t
    exact ⟨_, obligations, _, hs, Or.inl rfl, hd⟩
  · exact ⟨_, _, _, rfl, Or.inl rfl, .refl _⟩

theorem actSendMessage_answered (h : op.actSendMessage s payload context = .ok r) :
    Answered op now s (.action actionType payload evidenceRefs) r := by
  unfold actSendMessage at h
  dsimp only at h
  iterate 6
    split at h
    · exact .refused h
  split at h
  · exact .refused h
  rename_i recoveryOf _
  generalize (!context.dispatchFails (if recoveryOf.isSome then _ else _)) = delivered at h
  cases delivered with
  | false => exact .accepted h rfl rfl (.messageSent (Or.inl rfl) (.refl _))
  | true =>
    obtain ⟨cycles, obligations, transferNoticeSent, hs, hn, hd⟩ := dischargeNotice_state
      context.now (Transaction.begin _) (payload.text "message_fixture_id")
      (payload.text? "correlation_id")
    exact .accepted h rfl hs (.messageSent hn hd)

theorem handler_answered {action : ActionType}
    (h : op.handler s payload evidenceRefs context action = .ok r) :
    Answered op context.now s (.action actionType payload evidenceRefs) r := by
  cases action with
  | requestSupplierVisit => exact actRequestVisit_answered h
  | requestApproval => exact actRequestApproval_answered h
  | sendMessage => exact actSendMessage_answered h
  | authoriseSupplierWork => exact actAuthoriseSupplierWork_answered h
  | requestInvoiceValidation => exact actRequestInvoiceValidation_answered h
  | requestPayment => exact actRequestPayment_answered h
  | requestExceptionResolution => exact actRequestExceptionResolution_answered h

theorem applyAction_answered (h : op.applyAction s payload evidenceRefs context actionType = .ok r) :
    Answered op context.now s (.action actionType payload evidenceRefs) r := by
  unfold applyAction at h
  split at h
  · exact .refused h
  split at h
  · cases h
  split at h
  · exact .refused h
  split at h
  · exact .refused h
  split at h
  · exact .refused h
  split at h
  · exact .refused h
  · exact handler_answered h

/-- A final operation takes no action. -/
theorem applyAction_final (hf : s.replayFinal = true)
    (h : op.applyAction s payload evidenceRefs context actionType = .ok r) : r.state = s := by
  simp only [applyAction, hf, if_true] at h
  obtain rfl := Except.ok.inj h
  rfl

end Actions

section Terminal

variable {evidenceRefs : List String}

theorem terminalTransfer_answered (hu : Unblocked s) (ho : s.ownershipTransferredTo.isSome = true)
    (h : terminalTransfer s context = .ok r) :
    Answered op context.now s (.terminal evidenceRefs) r := by
  unfold terminalTransfer at h
  split at h
  · exact .refused h
  split at h
  · exact .refused h
  · rename_i hp
    exact .accepted h rfl rfl (.transferred hu ho (by simpa using hp))

theorem terminalProvisionalClose_answered (hu : Unblocked s) (ho : s.ownershipTransferredTo = none)
    (h : op.terminalProvisionalClose s context = .ok r) :
    Answered op context.now s (.terminal evidenceRefs) r := by
  unfold terminalProvisionalClose at h
  split at h
  · exact .refused h
  rename_i cycle hc
  split at h
  · exact .refused h
  rename_i hv
  split at h
  · exact .refused h
  rename_i hp
  split at h
  · exact .refused h
  rename_i hr
  split at h
  · exact .refused h
  rename_i hn
  obtain ⟨reopenUntil, hw, h⟩ := bind_ok h
  have hp : cycle.requiresPayment = true → unpaidProblem s cycle = none := by
    intro hr
    simpa [hr] using hp
  exact .accepted h rfl rfl (.provisionallyClosed
    ⟨hu, ho, hc, by simpa using hv, hp, hr, by simpa using hn⟩ hw)

theorem applyTerminal_answered (h : op.applyTerminal s context = .ok r) :
    Answered op context.now s (.terminal evidenceRefs) r := by
  unfold applyTerminal at h
  split at h
  · exact .refused h
  rename_i hf
  split at h
  · exact .refused h
  rename_i hp
  split at h
  · exact .refused h
  rename_i hb
  split at h
  · exact .refused h
  rename_i ho
  have hu : Unblocked s := ⟨by simpa using hf, hp, by simpa using hb, by simpa using ho⟩
  split at h
  · exact terminalTransfer_answered hu ‹_› h
  · rename_i hn
    exact terminalProvisionalClose_answered hu (by simpa using hn) h

theorem applyTerminal_final (hf : s.replayFinal = true) (h : op.applyTerminal s context = .ok r) :
    r.state = s := by
  simp only [applyTerminal, hf, if_true] at h
  obtain rfl := Except.ok.inj h
  rfl

end Terminal

/-- Every call refuses, with the record as it was, or commits. -/
theorem respond_answered {call : Call} (h : op.respond call s = .ok r) :
    Answered op call.context.now s call.cause r := by
  obtain ⟨context, cause⟩ := call
  cases cause with
  | event event => exact reduceEvent_answered h
  | action actionType payload evidenceRefs => exact applyAction_answered h
  | terminal evidenceRefs => exact applyTerminal_answered h

end MaintenanceOperation

end OperateBench.Maintenance
