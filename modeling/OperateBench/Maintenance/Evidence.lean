import OperateBench.Maintenance.Billing

/-! # Authoritative evidence

Four reducers file an authoritative record, under a key that an authored event
carries or that is made of the visit. None of them looks whether the key is taken, so
the evidence is append-only exactly where no step files over what another filed.
-/

namespace OperateBench.Maintenance

open Foundation

variable {op : MaintenanceOperation} {now : String} {s s' : MaintenanceState} {call : Call}
  {cause : Cause} {t : Transaction}

section Writes

/-- The call files the authoritative record under the key. -/
inductive Files (op : MaintenanceOperation) (s : MaintenanceState) :
    Call → String → AuthoritativeRecord → Prop
  | attendance {context : EnvironmentContext} {event : Event} {cycle : Cycle}
      (admitted : op.Admits event .visitAttendanceVerified)
      (found : cycleForVisit s (event.payload.text "visit_id") = some cycle)
      (scheduled : cycle.visitStatus = .scheduled)
      (confirmed : (event.payload.get "attended").truthy = true) :
      Files op s ⟨context, .event event⟩ (attendanceRecordId cycle.visitId)
        (.visitAttendance cycle.cycleId cycle.visitId context.now)
  | work {context : EnvironmentContext} {event : Event} {cycle : Cycle}
      (admitted : op.Admits event .workEvidenceVerified)
      (onFile : s.cycles.get? (event.payload.text "cycle_id") = some cycle)
      (visit : cycle.visitId = event.payload.text? "visit_id")
      (attended : cycle.visitStatus = .attended ∨ cycle.visitStatus = .workReported)
      (scope : cycle.kind = .warrantyRevisit → MaintenanceOperation.warrantyScopeHolds s cycle
        (event.payload.text "scope_digest") = true) :
      Files op s ⟨context, .event event⟩ (event.payload.text "evidence_id")
        (.workEvidence cycle.cycleId cycle.visitId (event.payload.text "scope_digest")
          (event.payload.text "outcome") context.now)
  | validation {context : EnvironmentContext} {event : Event} {invoice : Invoice}
      (admitted : op.Admits event .invoiceValidationCompleted)
      (onFile : s.invoices.get? (event.payload.text "invoice_id") = some invoice)
      (awaited : invoice.status = .validationRequested) :
      Files op s ⟨context, .event event⟩ (event.payload.text "validation_id")
        (.invoiceValidation invoice.invoiceId invoice.cycleId (event.payload.get "valid").truthy
          ((event.payload.text? "reason_code").getD "") context.now)
  | settlement {context : EnvironmentContext} {event : Event}
      (admitted : op.Admits event .paymentSettlementConfirmed)
      (requested : s.payment.status = .requested)
      (request : s.payment.requestId = event.payload.text? "payment_request_id")
      (bound : settlementMismatch s event.payload = none) :
      Files op s ⟨context, .event event⟩ (event.payload.text "settlement_id")
        (.paymentSettlement (event.payload.text "payment_request_id")
          (event.payload.text "invoice_id") (event.payload.text "cycle_id")
          (event.payload.number "amount_minor") (event.payload.text "currency") context.now)

/-- The call files a record over a different one. -/
def Overwrites (op : MaintenanceOperation) (s : MaintenanceState) (call : Call) : Prop :=
  ∃ key record held, Files op s call key record ∧
    s.authoritativeRecords.get? key = some held ∧ held ≠ record

/-- Every authoritative record stays under its key as it is. -/
abbrev Appends (s s' : MaintenanceState) : Prop :=
  Dict.Grows Eq s.authoritativeRecords s'.authoritativeRecords

/-- An accepted change leaves the evidence alone or files one record. -/
theorem Commit.evidence_cases (hc : Commit op call.context.now s call.cause t) :
    t.state.authoritativeRecords = s.authoritativeRecords ∨ ∃ key record,
      Files op s call key record ∧
        t.state.authoritativeRecords = s.authoritativeRecords.set key record := by
  obtain ⟨context, cause⟩ := call
  cases hc with
  | attended admitted found scheduled confirmed =>
    exact Or.inr ⟨_, _, .attendance admitted found scheduled confirmed, rfl⟩
  | workVerified admitted onFile visit attended scope =>
    exact Or.inr ⟨_, _, .work admitted onFile visit attended scope, rfl⟩
  | invoiceValidated admitted onFile awaited =>
    exact Or.inr ⟨_, _, .validation admitted onFile awaited, rfl⟩
  | settled admitted requested request bound =>
    exact Or.inr ⟨_, _, .settlement admitted requested request bound, rfl⟩
  | _ => exact Or.inl rfl

/-- A step that files a record has it on file afterwards. -/
theorem Files.step {key : String} {record : AuthoritativeRecord} (h : Files op s call key record)
    (hs : op.Step s call s') : s'.authoritativeRecords = s.authoritativeRecords.set key record := by
  obtain ⟨r, hr, rfl⟩ := hs
  cases h with
  | attendance admitted found scheduled confirmed =>
    change op.reduceEvent s _ _ = .ok r at hr
    rw [MaintenanceOperation.reduceEvent_admitted admitted] at hr
    simp [MaintenanceOperation.reducer, MaintenanceOperation.reduceAttendanceVerified, found,
      scheduled, confirmed] at hr
    obtain rfl := Except.ok.inj hr
    simp
  | work admitted onFile visit attended scope =>
    change op.reduceEvent s _ _ = .ok r at hr
    rw [MaintenanceOperation.reduceEvent_admitted admitted] at hr
    have hstatus : ¬(¬_ ∧ ¬_) := not_and_or.mpr (attended.imp not_not_intro not_not_intro)
    simp only [MaintenanceOperation.reducer, MaintenanceOperation.reduceWorkEvidence, onFile,
      ne_eq, visit, not_true_eq_false, if_false, hstatus] at hr
    rw [if_neg (by simpa using scope)] at hr
    rw [visit]
    split at hr
    · obtain rfl := Except.ok.inj hr
      rfl
    · obtain ⟨t, ht, hr⟩ := bind_ok hr
      obtain rfl := Except.ok.inj hr
      obtain ⟨dueAt, hd⟩ := Transaction.openObligation_ok ht
      exact congrArg MaintenanceState.authoritativeRecords hd
  | validation admitted onFile awaited =>
    change op.reduceEvent s _ _ = .ok r at hr
    rw [MaintenanceOperation.reduceEvent_admitted admitted] at hr
    simp [MaintenanceOperation.reducer, MaintenanceOperation.reduceInvoiceValidation, onFile,
      awaited] at hr
    obtain rfl := Except.ok.inj hr
    rfl
  | settlement admitted requested request bound =>
    change op.reduceEvent s _ _ = .ok r at hr
    rw [MaintenanceOperation.reduceEvent_admitted admitted] at hr
    simp only [MaintenanceOperation.reducer, MaintenanceOperation.reduceSettlement, requested,
      request, bound, ne_eq, not_true_eq_false, if_false] at hr
    obtain ⟨t, ht, hr⟩ := bind_ok hr
    obtain rfl := Except.ok.inj hr
    obtain ⟨dueAt, hd⟩ := Transaction.openObligation_ok ht
    exact congrArg MaintenanceState.authoritativeRecords hd

theorem Commit.appends (hn : ¬Overwrites op s call)
    (hc : Commit op call.context.now s call.cause t) : Appends s t.state := by
  rcases hc.evidence_cases with hsame | ⟨key, record, files, hset⟩
  · rw [Appends, hsame]
    exact Dict.Grows.refl (fun _ => rfl) _
  · rw [Appends, hset, Dict.grows_set_iff fun _ => rfl]
    exact fun held onFile => by_contra fun hne => hn ⟨key, record, held, files, onFile, hne⟩

/-- A step keeps the evidence exactly when it does not file over it. -/
theorem step_appends_iff (hs : op.Step s call s') : Appends s s' ↔ ¬Overwrites op s call := by
  constructor
  · rintro happ ⟨key, record, held, files, onFile, hne⟩
    obtain ⟨record', onFile', rfl⟩ := happ key held onFile
    rw [files.step hs, Dict.get?_set_self] at onFile'
    exact hne (Option.some.inj onFile').symm
  · intro hn
    rcases MaintenanceOperation.step_cases hs with rfl | ⟨effects, hc⟩
    · exact Dict.Grows.refl (fun _ => rfl) _
    · exact hc.appends hn

end Writes

section Holds

/-- The cycle names the record of the work done on its visit. -/
def Attested (s : MaintenanceState) (cycle : Cycle) : Prop :=
  ∃ evidenceId scopeDigest outcome instant, cycle.workEvidenceId = some evidenceId ∧
    s.authoritativeRecords.get? evidenceId =
      some (.workEvidence cycle.cycleId cycle.visitId scopeDigest outcome instant)

/-- The payment names the record of its settlement, to the amount of the invoice it is for. -/
def Settled (s : MaintenanceState) : Prop :=
  ∃ settlementId requestId invoice instant, s.payment.settlementId = some settlementId ∧
    s.payment.requestId = some requestId ∧ s.payment.Names invoice ∧
    s.invoices.get? invoice.invoiceId = some invoice ∧
    s.authoritativeRecords.get? settlementId = some (.paymentSettlement requestId
      invoice.invoiceId invoice.cycleId invoice.amountMinor invoice.currency instant)

/-- What the record says was verified and settled is on the evidence. -/
structure Evidenced (s : MaintenanceState) : Prop where
  work : ∀ cycle ∈ s.cycles.values, cycle.workVerified = true → Attested s cycle
  settlement : s.payment.status = .settled → Settled s

theorem Attested.appends {cycle : Cycle} (h : Attested s cycle) (ha : Appends s s') :
    Attested s' cycle := by
  obtain ⟨evidenceId, scopeDigest, outcome, instant, named, onFile⟩ := h
  obtain ⟨_, onFile', rfl⟩ := ha _ _ onFile
  exact ⟨evidenceId, scopeDigest, outcome, instant, named, onFile'⟩

theorem Commit.attested (h : ∀ cycle ∈ s.cycles.values, cycle.workVerified = true → Attested s cycle)
    (hn : ¬Overwrites op s call) (hc : Commit op call.context.now s call.cause t) :
    ∀ cycle ∈ t.state.cycles.values, cycle.workVerified = true → Attested t.state cycle := by
  have old : ∀ cycle ∈ s.cycles.values, cycle.workVerified = true → Attested t.state cycle :=
    fun cycle hm hv => (h cycle hm hv).appends (hc.appends hn)
  obtain ⟨context, cause⟩ := call
  cases hc with
  | issueReported | reopened | visitRequested | workAuthorised | attended | workReported =>
    exact Registry.forall_put old (by rintro ⟨⟩)
  | visitAnswered onFile awaited answer =>
    refine Registry.forall_put old fun hv => ?_
    rcases answer with rfl | rfl <;> cases hv
  | workVerified => exact Registry.forall_put old fun _ => ⟨_, _, _, _, rfl, Dict.get?_set_self _ _ _⟩
  | quoteReceived =>
    dsimp only [Registry.putNew]
    split
    · exact old
    · exact Registry.forall_put old (by rintro ⟨⟩)
  | messageSent noticed =>
    rcases noticed with rfl | ⟨cycle, onFile, rfl⟩
    · exact old
    · exact Registry.forall_put old (old cycle (Registry.mem_values_iff.mpr onFile))
  | _ => exact old

theorem Settled.later (h : Settled s) (hp : s'.payment = s.payment) (ha : Appends s s')
    (hi : Registry.Grows Invoice.Follows s.invoices s'.invoices) : Settled s' := by
  obtain ⟨settlementId, requestId, invoice, instant, settled, request, named, onFile, record⟩ := h
  obtain ⟨invoice', onFile', follows⟩ := hi _ _ onFile
  obtain ⟨_, record', rfl⟩ := ha _ _ record
  have hid : invoice'.invoiceId = invoice.invoiceId := Registry.ident_of_get? onFile'
  refine ⟨settlementId, requestId, invoice', instant, hp ▸ settled, hp ▸ request, hp ▸ ?_,
    Registry.get?_ident onFile', ?_⟩
  · exact ⟨named.requested, hid ▸ named.invoiceId, follows.cycleId ▸ named.cycleId⟩
  · rw [hid, follows.cycleId, follows.amountMinor, follows.currency, record']

theorem text_of_isStr {v : Value} {text : String} (h : v.isStr text = true) : v.text = text := by
  cases v with
  | str s => exact eq_of_beq h
  | _ => cases h

theorem number_of_isInt {v : Value} {n : Int} (h : v.isInt n = true) : v.number = n := by
  cases v with
  | int i => exact eq_of_beq h
  | bool b => cases b <;> exact eq_of_beq h
  | _ => cases h

/-- A settlement that is not refused repeats what the payment was requested for. -/
theorem settlement_carries {payload : Fields} {invoice : Invoice} {requestId : String}
    (named : s.payment.Names invoice) (onFile : s.invoices.get? invoice.invoiceId = some invoice)
    (request : s.payment.requestId = some requestId) (bound : settlementMismatch s payload = none) :
    payload.text "payment_request_id" = requestId ∧ payload.text "invoice_id" = invoice.invoiceId ∧
      payload.text "cycle_id" = invoice.cycleId ∧
      payload.number "amount_minor" = invoice.amountMinor ∧
      payload.text "currency" = invoice.currency := by
  have hnone : payloadMismatch payload
      [("payment_request_id", .str requestId), ("invoice_id", .str invoice.invoiceId),
        ("cycle_id", .str invoice.cycleId), ("amount_minor", .int invoice.amountMinor),
        ("currency", .str invoice.currency)] = none := by
    cases hm : payloadMismatch payload _ with
    | none => rfl
    | some mismatch =>
      simp [settlementMismatch, named.invoiceId, named.cycleId, onFile, request, Value.ofText?,
        hm] at bound
  simp only [payloadMismatch, ite_eq_iff, and_false, or_false, reduceCtorEq, and_true] at hnone
  obtain ⟨h₁, h₂, h₃, h₄, h₅⟩ := hnone
  exact ⟨text_of_isStr h₁, text_of_isStr h₂, text_of_isStr h₃, number_of_isInt h₄, text_of_isStr h₅⟩

theorem Commit.settledOn (ha : s.Agrees op) (hp : s.PaysValidated)
    (h : s.payment.status = .settled → Settled s) (hn : ¬Overwrites op s call)
    (hc : Commit op call.context.now s call.cause t) :
    t.state.payment.status = .settled → Settled t.state := by
  have old : t.state.payment = s.payment → t.state.payment.status = .settled → Settled t.state :=
    fun hsame hs => (h (hsame ▸ hs)).later hsame (hc.appends hn) (hc.advances ha).invoices
  obtain ⟨context, cause⟩ := call
  cases hc with
  | settled admitted requested request bound =>
    intro _
    obtain ⟨invoice, named, onFile, _⟩ := hp (by rw [requested]; nofun)
    obtain ⟨requestId, hid⟩ := Option.isSome_iff_exists.mp named.requested
    obtain ⟨h₁, h₂, h₃, h₄, h₅⟩ := settlement_carries named onFile hid bound
    refine ⟨_, requestId, invoice, context.now, rfl, hid,
      ⟨named.requested, named.invoiceId, named.cycleId⟩, onFile, ?_⟩
    rw [Dict.get?_set_self, h₁, h₂, h₃, h₄, h₅]
  | paymentRequested => nofun
  | _ => exact old rfl

theorem run_evidenced
    (h : Run op.Step (fun s call => ¬Overwrites op s call) op.initialState s) : Evidenced s := by
  have h₀ : op.initialState.Billed op ∧ Evidenced op.initialState :=
    ⟨initial_billed, fun cycle hm => absurd hm List.not_mem_nil, nofun⟩
  have hs : s.Billed op ∧ Evidenced s := by
    refine MaintenanceOperation.run_invariant (I := fun s => s.Billed op ∧ Evidenced s) h h₀ ?_
    rintro s call t ⟨hb, he⟩ hn hc
    exact ⟨hc.billed hb, hc.attested he.work hn,
      hc.settledOn hb.agrees hb.pays he.settlement hn⟩
  exact hs.2

/-- A step appends exactly when it does not overwrite, and where no step overwrites, what was
verified and settled stays on the evidence. -/
theorem evidence_append_only :
    (∀ s call s', Reaches op.Step op.initialState s → op.Step s call s' →
        (Appends s s' ↔ ¬Overwrites op s call)) ∧
      ∀ s, Run op.Step (fun s call => ¬Overwrites op s call) op.initialState s → Evidenced s :=
  ⟨fun _ _ _ _ hs => step_appends_iff hs, fun _ h => run_evidenced h⟩

/-- A job whose work is known by the identity that the validation of its invoice will have. -/
def sharedIdentity : Fixture.Job :=
  { Fixture.firstJob with evidenceId := "validation_of_invoice_1" }

def isWork : AuthoritativeRecord → Bool
  | .workEvidence .. => true
  | _ => false

/-- The validation is filed over the evidence of the work it rests on. -/
theorem validation_overwrites_work :
    (¬∀ s call s', Reaches (Fixture.operation []).Step (Fixture.operation []).initialState s →
        (Fixture.operation []).Step s call s' → Appends s s') ∧
      ¬∀ s, Reaches (Fixture.operation []).Step (Fixture.operation []).initialState s →
        Evidenced s := by
  obtain ⟨s, hs, hc⟩ := ok_of_any (x := (Fixture.operation []).respondAll
    (Fixture.brings (Fixture.reported "cycle_1") ::
      (sharedIdentity.billed "2031-03-03T10:00:00Z").dropLast)
    (Fixture.operation []).initialState) (p := fun s =>
      (s.authoritativeRecords.get? "validation_of_invoice_1").any isWork &&
        ((Fixture.operation []).respond (Fixture.brings (sharedIdentity.validated 0
          "2031-03-03T10:00:00Z")) s).toOption.any fun r =>
            (r.state.authoritativeRecords.get? "validation_of_invoice_1").any (!isWork ·) &&
              (r.state.cycles.get? "cycle_2").any fun cycle => cycle.workVerified &&
                cycle.workEvidenceId = some "validation_of_invoice_1") (by decide +kernel)
  obtain ⟨hwork, hc⟩ := Bool.and_eq_true_iff.mp hc
  obtain ⟨r, hr, hc⟩ := ok_of_any hc
  simp only [Bool.and_eq_true, Option.any_eq_true, decide_eq_true_eq] at hwork hc
  obtain ⟨held, onFile, hheld⟩ := hwork
  obtain ⟨⟨record, onFile', hrecord⟩, cycle, hcycle, verified, named⟩ := hc
  have hs := MaintenanceOperation.run_of_respondAll (P := fun _ _ => True) (fun _ _ _ => trivial) hs
  have hstep : (Fixture.operation []).Step s _ r.state := ⟨r, hr, rfl⟩
  constructor
  · intro h
    obtain ⟨record', hkept, rfl⟩ := h s _ r.state hs hstep _ held onFile
    obtain rfl := Option.some.inj (onFile'.symm.trans hkept)
    rw [hheld] at hrecord
    cases hrecord
  · intro h
    obtain ⟨evidenceId, _, _, _, named', hkept⟩ := (h r.state (hs.tail trivial hstep)).work cycle
      (Registry.mem_values_iff.mpr (Registry.get?_ident hcycle)) verified
    obtain rfl := Option.some.inj (named.symm.trans named')
    obtain rfl := Option.some.inj (onFile'.symm.trans hkept)
    cases hrecord

/-- The call, where it leaves every authoritative record as it is. -/
def respondAppending (op : MaintenanceOperation) (s : MaintenanceState) (call : Call) :
    Except PyError MaintenanceState :=
  match op.respond call s with
  | .error e => .error e
  | .ok r =>
    if ∀ e ∈ s.authoritativeRecords.entries, r.state.authoritativeRecords.get? e.1 = some e.2
    then .ok r.state else .error .assertion

theorem respondAppending_ok (h : respondAppending op s call = .ok s') :
    op.Step s call s' ∧ ¬Overwrites op s call := by
  unfold respondAppending at h
  split at h
  · cases h
  rename_i r hr
  split at h
  · rename_i hkept
    obtain rfl := Except.ok.inj h
    have hs : op.Step s call r.state := ⟨r, hr, rfl⟩
    refine ⟨hs, (step_appends_iff hs).mp fun key held onFile => ?_⟩
    exact ⟨held, hkept (key, held) (Dict.get?_eq_some_iff.mp onFile), rfl⟩
  · cases h

theorem run_of_respondAppending {calls : List Call}
    (h : calls.foldlM (respondAppending op) s = .ok s') :
    Run op.Step (fun s call => ¬Overwrites op s call) s s' := by
  refine foldlM_related (R := Run op.Step _) Run.refl (fun _ _ _ => Run.trans) ?_ h
  intro s call t _ hst
  obtain ⟨hs, hn⟩ := respondAppending_ok hst
  exact (Run.refl s).tail hn hs

theorem paid_job_evidenced : ∃ s : MaintenanceState,
    Run (Fixture.operation []).Step (fun s call => ¬Overwrites (Fixture.operation []) s call)
        (Fixture.operation []).initialState s ∧
      s.payment.status = .settled ∧ Settled s := by
  obtain ⟨s, hs, hc⟩ := ok_of_any (x := (Fixture.brings (Fixture.reported "cycle_1") ::
    Fixture.firstJob.paid "2031-03-03T10:00:00Z").foldlM (respondAppending (Fixture.operation []))
    (Fixture.operation []).initialState) (p := fun s => s.payment.status = .settled)
    (by decide +kernel)
  have hr := run_of_respondAppending hs
  have hsettled : s.payment.status = .settled := of_decide_eq_true hc
  exact ⟨s, hr, hsettled, (evidence_append_only.2 s hr).settlement hsettled⟩

end Holds

end OperateBench.Maintenance
