import OperateBench.Foundation.Transition
import OperateBench.ReturnRefund.Inversion

/-! # Every proposal refuses or commits

The action handlers and the terminal, taken apart like the reducers, and all calls of
the operation put together: a step leaves the record as it was or is one of the
accepted changes.
-/

namespace OperateBench.ReturnRefund

open Foundation

variable {op : ReturnRefundOperation} {s s' : ReturnRefundState} {context : EnvironmentContext}
  {now : String} {call : Call} {r : Reduction ReturnRefundState}
  {P : ReturnRefundState → Call → Prop}

namespace ReturnRefundOperation

section Actions

variable {payload : Fields} {evidenceRefs : List String} {actionType : String}

theorem actIssueReturnAuthorisation_answered
    (ha : Admitted s actionType payload evidenceRefs .issueReturnAuthorisation)
    (h : op.actIssueReturnAuthorisation s payload context = .ok r) :
    Answered op context.now s (.action actionType payload evidenceRefs) r := by
  unfold actIssueReturnAuthorisation at h
  dsimp only at h
  split at h
  · exact .refused h
  rename_i hp
  split at h
  · exact .refused h
  rename_i hb
  push Not at hb
  obtain ⟨t, ht, h⟩ := bind_ok h
  have hd := Transaction.openObligation_ok ht
  refine .accepted h rfl ?_ (.authorised ha (not_not.mp hp) hb.1 hb.2 hd.duties ?_) (.single ?_)
  · rw [hd.state]
    rfl
  · rw [hd.timers]
    simp
  · exact .authorisation (Registry.contains_put_self rfl)

theorem needsReview_true {inspection : Inspection} (h : op.needsReview s inspection = .ok true) :
    inspection.disposition = eligibleDisposition ∧ s.phase = .awaitingApproval := by
  unfold needsReview at h
  split at h
  · cases h
  · rename_i he
    obtain ⟨amount, _, h⟩ := bind_ok h
    have h := pure_ok h
    simp only [Bool.and_eq_true, decide_eq_true_eq] at h
    exact ⟨not_not.mp he, h.2⟩

theorem actRequestRefundApproval_answered
    (ha : Admitted s actionType payload evidenceRefs .requestRefundApproval)
    (h : op.actRequestRefundApproval s payload evidenceRefs context = .ok r) :
    Answered op context.now s (.action actionType payload evidenceRefs) r := by
  unfold actRequestRefundApproval at h
  dsimp only at h
  split at h
  · exact .refused h
  rename_i inspection hf
  obtain ⟨review, hr, h⟩ := bind_ok h
  split at h
  · exact .refused h
  rename_i hreview
  obtain rfl : review = true := by simpa using hreview
  obtain ⟨heligible, hphase⟩ := needsReview_true hr
  split at h
  · exact .refused h
  rename_i hcycle
  split at h
  · exact .refused h
  rename_i hn
  have hn : ∀ row ∈ s.checkpoints.values, row.inspectionId ≠ inspection.inspectionId := by
    intro row hm he
    exact hn (List.any_eq_true.mpr ⟨row, hm, by simpa using he⟩)
  obtain ⟨citation, _, h⟩ := bind_ok h
  split at h
  · exact .refused h
  obtain ⟨deadlineAt, hdeadline, h⟩ := bind_ok h
  obtain ⟨t, ht, h⟩ := bind_ok h
  have hd := Transaction.openObligation_ok ht
  refine .accepted h rfl ?_ (.reviewRequested ha hphase hf heligible (not_not.mp hcycle) hn
    hdeadline hd.duties ?_) (.single ?_)
  · rw [Transaction.state_record, hd.state]
    rfl
  · rw [Transaction.timers_record, hd.timers]
    simp
  · exact .checkpoint (Registry.contains_put_self rfl)

theorem actRequestRefund_answered (ha : Admitted s actionType payload evidenceRefs .requestRefund)
    (h : op.actRequestRefund s payload evidenceRefs context = .ok r) :
    Answered op context.now s (.action actionType payload evidenceRefs) r := by
  unfold actRequestRefund at h
  dsimp only at h
  split at h
  · exact .refused h
  rename_i hcycle
  split at h
  · exact .refused h
  rename_i hn
  have hn : ∀ refund ∈ s.refunds.values, refund.cycleId ≠ payload.text "cycle_id" := by
    intro refund hm he
    exact hn (List.any_eq_true.mpr ⟨refund, hm, by simpa using he⟩)
  split at h
  · exact .refused h
  rename_i inspection hf
  split at h
  · exact .refused h
  rename_i heligible
  split at h
  · exact .refused h
  rename_i hv
  split at h
  · exact .refused h
  rename_i happroval
  split at h
  · exact .refused h
  rename_i hphase
  have hphase : s.phase = .readyToRefund ∨ s.phase = .refundReopened := by
    by_contra hneither
    push Not at hneither
    exact hphase hneither
  obtain ⟨citation, hcitation, h⟩ := bind_ok h
  split at h
  · exact .refused h
  rw [requiredEvidenceProblem_eq payload evidenceRefs rfl] at hcitation
  have hcited := cited_of_inspectionProblem (Except.ok.inj hcitation)
  obtain ⟨t, ht, h⟩ := bind_ok h
  obtain ⟨u, hu, h⟩ := bind_ok h
  have hd := (Transaction.closeObligation_ok ht).trans (Transaction.openObligation_ok hu)
  refine .accepted h rfl ?_ (.refundRequested ha hphase (not_not.mp hcycle).symm hn hf
    (not_not.mp heligible) (by simpa using hv) happroval hcited hd.duties ?_) (.single ?_)
  · rw [hd.state]
    rfl
  · rw [hd.timers]
    simp
  · exact .refund (Registry.contains_put_self rfl)

theorem actSendMessage_answered (ha : Admitted s actionType payload evidenceRefs .sendMessage)
    (h : op.actSendMessage s payload context = .ok r) :
    Answered op context.now s (.action actionType payload evidenceRefs) r := by
  unfold actSendMessage at h
  dsimp only at h
  split at h
  · exact .refused h
  split at h
  · exact .refused h
  rename_i hrecipient
  split at h
  · exact .refused h
  split at h
  · exact .refused h
  rename_i hn
  have hn : ∀ row ∈ s.communications.values,
      ¬(row.messageFixtureId = payload.text "message_fixture_id" ∧
        row.cycleId = messageCycle s payload) := by
    intro row hm he
    exact hn (List.any_eq_true.mpr ⟨row, hm, by simpa using he⟩)
  split at h
  · exact .refused h
  rename_i obligationId hnotice
  split at h
  · exact .refused h
  obtain ⟨t, ht, h⟩ := bind_ok h
  have hd := Transaction.closeObligation_ok ht
  have hstate : t.state = { s with
      communications := s.communications.put {
        communicationId := allocate "communication" s.communications.keys
        recipientActorId := payload.text "recipient_actor_id"
        messageFixtureId := payload.text "message_fixture_id"
        cycleId := messageCycle s payload
        committedAt := context.now
        dispatched := !context.dispatchFails (payload.text "message_fixture_id") }
      obligations := t.state.obligations } := hd.state
  refine .accepted h rfl hstate
    (.messageSent ha (not_not.mp hrecipient) hn hnotice hd.duties ?_) (.single ?_)
  · rw [Transaction.timers_record, hd.timers]
    simp
  · exact .communication (Registry.contains_put_self rfl)

/-- Every action is refused or changes the record in one of the accepted ways. -/
theorem applyAction_answered (h : op.applyAction s payload evidenceRefs context actionType = .ok r) :
    Answered op context.now s (.action actionType payload evidenceRefs) r := by
  unfold applyAction at h
  split at h
  · exact .refused h
  rename_i hlive
  split at h
  · cases h
  split at h
  · exact .refused h
  split at h
  · exact .refused h
  rename_i action hnamed
  split at h
  · exact .refused h
  rename_i hvalid
  split at h
  · exact .refused h
  rename_i hevidence
  have ha : Admitted s actionType payload evidenceRefs action :=
    ⟨Bool.eq_false_iff.mpr hlive, hnamed, hvalid, hevidence⟩
  cases action with
  | issueReturnAuthorisation => exact actIssueReturnAuthorisation_answered ha h
  | requestRefundApproval => exact actRequestRefundApproval_answered ha h
  | requestRefund => exact actRequestRefund_answered ha h
  | sendMessage => exact actSendMessage_answered ha h

end Actions

section Terminal

variable {evidenceRefs : List String}

theorem finalizeImmediately_answered {phase : Phase} {outcome : TerminalOutcome} {code : String}
    (hu : Unblocked s evidenceRefs) (hc : ClosesAs s.phase phase outcome)
    (h : finalizeImmediately s context phase outcome code = .ok r) :
    Answered op context.now s (.terminal evidenceRefs) r :=
  .accepted h rfl rfl (.closed hu hc (by simp)) (.empty _)

theorem settlementProblem_none {refund : Refund} (h : op.settlementProblem s refund = .ok none) :
    messageCommitted s msgRefundComplete refund.cycleId = true := by
  unfold settlementProblem at h
  split at h
  · cases h
  split at h
  · cases h
  obtain ⟨amount, _, h⟩ := bind_ok h
  split at h
  · cases pure_ok h
  split at h
  · cases pure_ok h
  · rename_i htold
    simpa using htold

theorem enterCooldown_answered {refund : Refund} (hu : Unblocked s evidenceRefs)
    (hp : s.phase = .refundSettled) (hc : s.currentRefund = some refund)
    (hs : refund.status = .settled)
    (ht : messageCommitted s msgRefundComplete refund.cycleId = true)
    (h : op.enterCooldown s context refund = .ok r) :
    Answered op context.now s (.terminal evidenceRefs) r := by
  unfold enterCooldown at h
  obtain ⟨expiresAt, hexpiry, h⟩ := bind_ok h
  refine .accepted h rfl rfl (.provisionallyClosed hu hp hc hs ht hexpiry ?_) (.single ?_)
  · simp
  · exact .refund (Registry.contains_iff.mpr
      ⟨_, Registry.mem_values_iff.mp (List.mem_filter.mp (List.mem_of_getLast? hc)).1⟩)

/-- The terminal is refused or changes the record in one of the accepted ways. -/
theorem applyTerminal_answered (h : op.applyTerminal s evidenceRefs context = .ok r) :
    Answered op context.now s (.terminal evidenceRefs) r := by
  unfold applyTerminal at h
  split at h
  · exact .refused h
  rename_i hlive
  split at h
  · exact .refused h
  rename_i hevidence
  dsimp only at h
  split at h
  · exact .refused h
  split at h
  · exact .refused h
  rename_i hcheckpoints
  split at h
  · exact .refused h
  rename_i hobligations
  have hnil : ∀ {l : List String}, ¬sortTexts l ≠ [] → l = [] := by
    intro l hl
    have hperm := List.perm_insertionSort (fun a b : String => a ≤ b) l
    rw [show l.insertionSort (fun a b => a ≤ b) = [] from not_not.mp hl] at hperm
    exact List.nil_perm.mp hperm
  have hu : Unblocked s evidenceRefs := ⟨Bool.eq_false_iff.mpr hlive, hevidence,
    List.map_eq_nil_iff.mp (hnil hcheckpoints), List.map_eq_nil_iff.mp (hnil hobligations)⟩
  split at h
  · rename_i hp
    exact finalizeImmediately_answered hu (hp ▸ .denied) h
  split at h
  · rename_i hp
    exact finalizeImmediately_answered hu (hp ▸ .expired) h
  split at h
  · exact .refused h
  rename_i hp
  split at h
  · exact .refused h
  rename_i refund hf
  obtain ⟨hcurrent, hs⟩ := Option.filter_eq_some_iff.mp hf
  obtain ⟨problem, hproblem, h⟩ := bind_ok h
  split at h
  · exact .refused h
  · exact enterCooldown_answered hu (not_not.mp hp) hcurrent (of_decide_eq_true hs)
      (settlementProblem_none hproblem) h

end Terminal

/-- Every call is refused or changes the record in one of the accepted ways. -/
theorem respond_answered (h : op.respond call s = .ok r) :
    Answered op call.context.now s call.cause r := by
  obtain ⟨context, cause⟩ := call
  cases cause with
  | event event => exact reduceEvent_answered h
  | action actionType payload evidenceRefs => exact applyAction_answered h
  | terminal evidenceRefs => exact applyTerminal_answered h

theorem step_cases (h : op.Step s call s') :
    s' = s ∨ ∃ effects, Commit op call.context.now s call.cause ⟨s', effects⟩ := by
  obtain ⟨r, hr, rfl⟩ := h
  rcases respond_answered hr with ⟨code, detail, rfl⟩ | ⟨_, hc, _⟩
  · exact Or.inl rfl
  · exact Or.inr ⟨r.effects, hc⟩

/-- A call that is not accepted leaves the whole record as it was. -/
theorem refused_unchanged (h : op.respond call s = .ok r) (hr : r.verdict.accepted = false) :
    r.state = s := by
  rcases respond_answered h with ⟨code, detail, rfl⟩ | ⟨ha, _⟩
  · rfl
  · rw [hr] at ha
    cases ha

/-- An invariant of every accepted change holds along the run. -/
theorem run_invariant {I : ReturnRefundState → Prop} (h : Run op.Step P s s') (h₀ : I s)
    (hI : ∀ s call t, I s → P s call → Commit op call.context.now s call.cause t → I t.state) :
    I s' := by
  refine Run.invariant h h₀ fun s call t hs hp hst => ?_
  rcases step_cases hst with rfl | ⟨effects, hc⟩
  · exact hs
  · exact hI s call _ hs hp hc

end ReturnRefundOperation

end OperateBench.ReturnRefund
