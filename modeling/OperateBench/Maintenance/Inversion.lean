import OperateBench.Maintenance.Commit

/-! # Every event refuses or commits

Each reducer is taken apart once: what it returned is a refusal that left the record
as it was, or one of the accepted changes.
-/

namespace OperateBench.Maintenance

open Foundation

/-- A refusal that left the record as it was, or an accepted change of it. -/
def Answered (op : MaintenanceOperation) (now : String) (s : MaintenanceState) (cause : Cause)
    (r : Reduction MaintenanceState) : Prop :=
  (∃ code detail, r = .refused s code detail) ∨
    r.verdict.accepted = true ∧ Commit op now s cause ⟨r.state, r.effects⟩

variable {op : MaintenanceOperation} {s : MaintenanceState} {context : EnvironmentContext}
  {now : String} {cause : Cause} {event : Event} {r : Reduction MaintenanceState}

theorem Answered.refused {code detail : String} (h : refuse s code detail = .ok r) :
    Answered op now s cause r :=
  Or.inl ⟨code, detail, (Except.ok.inj h).symm⟩

theorem Answered.accepted {t : Transaction} {verdict : Verdict} {state : MaintenanceState}
    (h : t.accept verdict = .ok r) (hv : verdict.accepted = true) (hs : t.state = state)
    (hc : Commit op now s cause ⟨state, t.effects⟩) : Answered op now s cause r := by
  obtain rfl := Except.ok.inj h
  exact Or.inr ⟨hv, by rw [hs]; exact hc⟩

theorem strptime_of_parseTimestamp {text context : String} {seconds : Int}
    (h : parseTimestamp text context = .ok seconds) : strptime text = .ok seconds := by
  unfold parseTimestamp at h
  split at h
  · rename_i hs
    rw [hs, Except.ok.inj h]
  · cases h

namespace MaintenanceOperation

theorem reduceIssueReported_answered (ha : op.Admits event .customerIssueReported)
    (h : op.reduceIssueReported s event = .ok r) : Answered op now s (.event event) r := by
  unfold reduceIssueReported at h
  dsimp only at h
  split at h
  · exact .refused h
  split at h
  · exact .refused h
  · rename_i hi hc
    exact .accepted h rfl rfl (.issueReported ha (by simpa using hi) (by simpa using hc))

theorem reduceVisitResponse_answered (h : reduceVisitResponse s event = .ok r) :
    Answered op now s (.event event) r := by
  unfold reduceVisitResponse at h
  split at h
  · exact .refused h
  rename_i cycle hf
  split at h
  · exact .refused h
  rename_i hr
  have hr : cycle.visitStatus = .requested := by simpa using hr
  have hg := (cycleForVisit_some hf).1
  dsimp only at h
  split at h
  · exact .accepted h rfl rfl (.visitAnswered hg hr (Or.inl rfl))
  split at h
  · exact .accepted h rfl rfl (.visitAnswered hg hr (Or.inr rfl))
  · exact .refused h

theorem reduceAttendanceVerified_answered (ha : op.Admits event .visitAttendanceVerified)
    (h : reduceAttendanceVerified s event context = .ok r) :
    Answered op context.now s (.event event) r := by
  unfold reduceAttendanceVerified at h
  dsimp only at h
  split at h
  · exact .refused h
  rename_i cycle hf
  split at h
  · exact .refused h
  rename_i hs
  split at h
  · exact .refused h
  · rename_i hc
    refine .accepted h rfl ?_ (.attended ha hf (by simpa using hs) (by simpa using hc))
    simp

theorem reduceWorkReported_answered (h : reduceWorkReported s event = .ok r) :
    Answered op now s (.event event) r := by
  unfold reduceWorkReported at h
  dsimp only at h
  split at h
  · exact .refused h
  rename_i cycle hf
  split at h
  · exact .refused h
  · rename_i hs
    exact .accepted h rfl rfl (.workReported (cycleForVisit_some hf).1 (by simpa using hs))

theorem reduceVisitFollowupDue_answered (h : reduceVisitFollowupDue s event context = .ok r) :
    Answered op context.now s (.event event) r := by
  unfold reduceVisitFollowupDue at h
  dsimp only at h
  split at h
  · exact .refused h
  · exact .accepted h rfl (Transaction.state_closeObligation _ _ _ _) .followupDue

theorem reduceQuoteReceived_answered (h : op.reduceQuoteReceived s event context = .ok r) :
    Answered op now s (.event event) r := by
  unfold reduceQuoteReceived at h
  dsimp only at h
  split at h
  · exact .refused h
  rename_i hfresh
  split at h
  · exact .refused h
  split at h
  · exact .refused h
  · obtain ⟨validUntil, _, h⟩ := bind_ok h
    have hn := Registry.get?_eq_none_iff.mpr (by simpa using hfresh)
    exact .accepted h rfl rfl (.quoteReceived hn)

theorem reduceInvoiceReceived_answered (h : reduceInvoiceReceived s event = .ok r) :
    Answered op now s (.event event) r := by
  unfold reduceInvoiceReceived at h
  dsimp only at h
  split at h
  · exact .refused h
  · rename_i hfresh
    refine .accepted h rfl rfl (.invoiceReceived ?_ rfl)
    exact Registry.get?_eq_none_iff.mpr (by simpa using hfresh)

theorem reduceInvoiceValidation_answered (ha : op.Admits event .invoiceValidationCompleted)
    (h : reduceInvoiceValidation s event context = .ok r) :
    Answered op context.now s (.event event) r := by
  unfold reduceInvoiceValidation at h
  dsimp only at h
  split at h
  · exact .refused h
  rename_i invoice hf
  split at h
  · exact .refused h
  · rename_i hs
    exact .accepted h rfl rfl (.invoiceValidated ha hf (by simpa using hs))

theorem reduceAssertion_answered (h : reduceAssertion s event context = .ok r) :
    Answered op now s (.event event) r :=
  .accepted h rfl rfl .asserted

theorem reduceOperatorResolution_answered (h : reduceOperatorResolution s event context = .ok r) :
    Answered op context.now s (.event event) r := by
  unfold reduceOperatorResolution at h
  dsimp only at h
  split at h
  · exact .refused h
  rename_i checkpoint hf
  split at h
  · exact .refused h
  rename_i ho
  split at h
  · exact .refused h
  · refine .accepted h rfl rfl (.exceptionResolved ?_ (by simpa using ho))
    exact Registry.get?_ident hf

theorem reduceReminderDue_answered (h : reduceReminderDue s event = .ok r) :
    Answered op now s (.event event) r := by
  unfold reduceReminderDue at h
  dsimp only at h
  split at h
  · exact .refused h
  rename_i approval hf
  split at h
  · exact .refused h
  rename_i ho
  split at h
  · exact .refused h
  · exact .accepted h rfl rfl (.reminderFired (Registry.get?_ident hf) (by simpa using ho))

theorem reduceWorkEvidence_answered (ha : op.Admits event .workEvidenceVerified)
    (h : op.reduceWorkEvidence s event context = .ok r) :
    Answered op context.now s (.event event) r := by
  unfold reduceWorkEvidence at h
  dsimp only at h
  split at h
  · exact .refused h
  rename_i cycle hf
  split at h
  · exact .refused h
  rename_i hv
  split at h
  · exact .refused h
  rename_i hs
  split at h
  · exact .refused h
  rename_i hw
  have hstatus : cycle.visitStatus = .attended ∨ cycle.visitStatus = .workReported := by
    by_contra hn
    exact hs (not_or.mp hn)
  have hscope : cycle.kind = .warrantyRevisit →
      warrantyScopeHolds s cycle (event.payload.text "scope_digest") = true := by
    intro hk
    simpa [hk] using hw
  have hvisit : cycle.visitId = event.payload.text? "visit_id" := by simpa using hv
  split at h
  · obtain ⟨t, ht, h⟩ := bind_ok h
    obtain rfl := Except.ok.inj ht
    exact .accepted h rfl rfl (.workVerified ha hf hvisit hstatus hscope (.refl _))
  · obtain ⟨t, ht, h⟩ := bind_ok h
    obtain ⟨dueAt, hd⟩ := Transaction.openObligation_ok ht
    exact .accepted h rfl hd (.workVerified ha hf hvisit hstatus hscope (dutiesFollow_putNew _ _))

theorem reduceSettlement_answered (ha : op.Admits event .paymentSettlementConfirmed)
    (h : op.reduceSettlement s event context = .ok r) :
    Answered op context.now s (.event event) r := by
  unfold reduceSettlement at h
  dsimp only at h
  split at h
  · exact .refused h
  rename_i hs
  split at h
  · exact .refused h
  rename_i hr
  split at h
  · exact .refused h
  · rename_i hb
    obtain ⟨t, ht, h⟩ := bind_ok h
    obtain ⟨dueAt, hd⟩ := Transaction.openObligation_ok ht
    exact .accepted h rfl hd (.settled ha (by simpa using hs) (by simpa using hr) hb
      (dutiesFollow_putNew _ _))

theorem reduceApproverDecision_answered (h : reduceApproverDecision s event context = .ok r) :
    Answered op context.now s (.event event) r := by
  unfold reduceApproverDecision at h
  dsimp only at h
  split at h
  · exact .refused h
  rename_i approval hf
  split at h
  · exact .refused h
  rename_i ho
  split at h
  · exact .refused h
  obtain ⟨instant, hi, h⟩ := bind_ok h
  obtain ⟨deadline, hd, h⟩ := bind_ok h
  split at h
  · exact .refused h
  rename_i hlt
  have hg := Registry.get?_ident hf
  have hid : approval.checkpointId = event.payload.text "checkpoint_id" :=
    Registry.ident_of_get? hf
  have ho : approval.status = .opened := by simpa using ho
  have hi := strptime_of_parseTimestamp hi
  have hd := strptime_of_parseTimestamp hd
  split at h
  · refine .accepted h rfl ?_ (.decided hg ho (Or.inl ⟨rfl, rfl⟩) hi hd (Int.not_lt.mp hlt))
    simp [hid]
  split at h
  · refine .accepted h rfl ?_ (.decided hg ho (Or.inr ⟨rfl, rfl⟩) hi hd (Int.not_lt.mp hlt))
    simp [hid]
  · exact .refused h

theorem reduceDeadlineDue_answered (h : reduceDeadlineDue s event context = .ok r) :
    Answered op context.now s (.event event) r := by
  unfold reduceDeadlineDue at h
  dsimp only at h
  split at h
  · exact .refused h
  rename_i approval hf
  split at h
  · exact .refused h
  · rename_i ho
    have hid : approval.checkpointId = event.payload.text "checkpoint_id" :=
      Registry.ident_of_get? hf
    refine .accepted h rfl ?_ (.expired (Registry.get?_ident hf) (by simpa using ho))
    simp [hid]

theorem reopen_answered {instant limit : Int} (ha : op.Admits event .customerResolutionReported)
    (hs : event.payload.text "status" = "PERSISTS") (hp : s.phase = .provisionallyClosed)
    (hi : strptime now = .ok instant)
    (hl : strptime (s.provisionalClose.reopenUntil.getD "None") = .ok limit)
    (hle : instant ≤ limit) (h : reopen s = .ok r) : Answered op now s (.event event) r := by
  unfold reopen at h
  dsimp only at h
  split at h
  · cases h
  · rename_i closedCycle hf
    refine .accepted h rfl ?_ (.reopened ha hs hp hi hl hle rfl hf)
    cases s.provisionalClose.timerEventId <;> rfl

theorem reduceCustomerResolution_answered (ha : op.Admits event .customerResolutionReported)
    (h : reduceCustomerResolution s event context = .ok r) :
    Answered op context.now s (.event event) r := by
  unfold reduceCustomerResolution at h
  dsimp only at h
  split at h
  · exact .refused h
  rename_i hstatus
  split at h
  · rename_i hc
    obtain ⟨instant, hi, h⟩ := bind_ok h
    obtain ⟨limit, hl, h⟩ := bind_ok h
    split at h
    · exact .refused h
    · exact reopen_answered ha hc.1 hc.2 (strptime_of_parseTimestamp hi)
        (strptime_of_parseTimestamp hl) (Int.not_lt.mp ‹_›) h
  rename_i hpersists
  split at h
  · exact .accepted h rfl rfl (.customerReported fun _ => rfl)
  rename_i hresolved
  split at h
  · exact .refused h
  · refine .accepted h rfl rfl (.customerReported fun hp => ?_)
    exact absurd ⟨fun hs => hresolved ⟨hp, hs⟩, fun hs => hpersists ⟨hs, hp⟩⟩ hstatus

theorem reduceProvisionalExpired_answered (ha : op.Admits event .provisionalCloseExpired)
    (h : reduceProvisionalExpired s context = .ok r) :
    Answered op context.now s (.event event) r := by
  unfold reduceProvisionalExpired at h
  dsimp only at h
  split at h
  · exact .refused h
  rename_i hp
  split at h
  · exact .refused h
  rename_i hc
  split at h
  · exact .refused h
  · rename_i hb
    exact .accepted h rfl rfl (.finalized ha ⟨by simpa using hp, hc, by simpa using hb⟩)

theorem reducer_answered {eventType : EventType} (ha : op.Admits event eventType)
    (h : op.reducer s event context eventType = .ok r) :
    Answered op context.now s (.event event) r := by
  cases eventType with
  | customerIssueReported => exact reduceIssueReported_answered ha h
  | customerResolutionReported => exact reduceCustomerResolution_answered ha h
  | supplierVisitResponse => exact reduceVisitResponse_answered h
  | supplierWorkReported => exact reduceWorkReported_answered h
  | supplierQuoteReceived => exact reduceQuoteReceived_answered h
  | supplierInvoiceReceived => exact reduceInvoiceReceived_answered h
  | supplierAssertionReceived => exact reduceAssertion_answered h
  | approverDecisionReceived => exact reduceApproverDecision_answered h
  | operatorExceptionResolved => exact reduceOperatorResolution_answered h
  | visitAttendanceVerified => exact reduceAttendanceVerified_answered ha h
  | workEvidenceVerified => exact reduceWorkEvidence_answered ha h
  | invoiceValidationCompleted => exact reduceInvoiceValidation_answered ha h
  | paymentSettlementConfirmed => exact reduceSettlement_answered ha h
  | approvalReminderDue => exact reduceReminderDue_answered h
  | approvalDeadlineDue => exact reduceDeadlineDue_answered h
  | visitFollowupDue => exact reduceVisitFollowupDue_answered h
  | provisionalCloseExpired => exact reduceProvisionalExpired_answered ha h

/-- An admitted event is its reducer's. -/
theorem reduceEvent_admitted {eventType : EventType} (ha : op.Admits event eventType) :
    op.reduceEvent s event context = op.reducer s event context eventType := by
  obtain ⟨actor, hactor, hholds⟩ := ha.authorised
  simp [reduceEvent, hactor, ha.named, hholds, ha.valid]

theorem reduceEvent_cases (h : op.reduceEvent s event context = .ok r) :
    (∃ code detail, r = .refused s code detail) ∨
      ∃ eventType, op.Admits event eventType ∧ op.reducer s event context eventType = .ok r := by
  unfold reduceEvent at h
  split at h
  · exact Or.inl ⟨_, _, (Except.ok.inj h).symm⟩
  rename_i actor hactor
  split at h
  · exact Or.inl ⟨_, _, (Except.ok.inj h).symm⟩
  rename_i eventType hnamed
  split at h
  · exact Or.inl ⟨_, _, (Except.ok.inj h).symm⟩
  rename_i hholds
  split at h
  · exact Or.inl ⟨_, _, (Except.ok.inj h).symm⟩
  · rename_i hvalid
    exact Or.inr ⟨eventType, ⟨hnamed, ⟨actor, hactor, by simpa using hholds⟩, hvalid⟩, h⟩

theorem reduceEvent_answered (h : op.reduceEvent s event context = .ok r) :
    Answered op context.now s (.event event) r := by
  rcases reduceEvent_cases h with hr | ⟨eventType, ha, hr⟩
  · exact Or.inl hr
  · exact reducer_answered ha hr

end MaintenanceOperation

end OperateBench.Maintenance
