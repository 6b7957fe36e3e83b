import OperateBench.Maintenance.Lifecycle

/-! # What a payment rests on

A requested payment names a validated invoice, the invoice an approved quote, and the
quote its one checkpoint, which was granted in time. Each link is checked when it is
made; that it stays is an invariant of every other change.
-/

namespace OperateBench.Maintenance

open Foundation

variable {op : MaintenanceOperation} {now : String} {s : MaintenanceState} {cause : Cause}
  {t : Transaction}

section Links

/-- The quote the invoice names was approved for what the invoice asks. -/
structure ApprovedFor (s : MaintenanceState) (invoice : Invoice) (quote : Quote) : Prop where
  onFile : s.quote invoice.quoteId invoice.quoteVersion = some quote
  approved : quote.status = .approved
  amountMinor : quote.amountMinor = invoice.amountMinor
  currency : quote.currency = invoice.currency
  cycleId : quote.cycleId = invoice.cycleId

/-- An invoice that got as far as its validation bills an approved quote. -/
def MaintenanceState.BillsApproved (s : MaintenanceState) : Prop :=
  ∀ invoice ∈ s.invoices.values, invoice.status ≠ .unvalidated → ∃ quote, ApprovedFor s invoice quote

/-- The payment was requested for the invoice, under an identity of its own. -/
structure Payment.Names (payment : Payment) (invoice : Invoice) : Prop where
  requested : payment.requestId.isSome = true
  invoiceId : payment.invoiceId = some invoice.invoiceId
  cycleId : payment.cycleId = some invoice.cycleId

/-- A requested payment names a validated invoice. -/
def MaintenanceState.PaysValidated (s : MaintenanceState) : Prop :=
  s.payment.status ≠ .notRequested → ∃ invoice, s.payment.Names invoice ∧
    s.invoices.get? invoice.invoiceId = some invoice ∧ invoice.status = .validated

theorem ApprovedFor.advances {invoice : Invoice} {quote : Quote} {s' : MaintenanceState}
    (h : ApprovedFor s invoice quote) (ha : Advances s s') :
    ∃ quote', ApprovedFor s' invoice quote' := by
  obtain ⟨quote', hq, follows⟩ := ha.quotes _ _ h.onFile
  refine ⟨quote', hq, ?_, follows.amountMinor.trans h.amountMinor,
    follows.currency.trans h.currency, follows.cycleId.trans h.cycleId⟩
  rcases follows.status with hs | ⟨hs, _⟩
  · exact hs.trans h.approved
  · exact absurd (hs.symm.trans h.approved) nofun

theorem Commit.billsApproved (ha : s.Agrees op) (hb : s.BillsApproved)
    (hc : Commit op now s cause t) : t.state.BillsApproved := by
  have keeps : ∀ {invoice : Invoice}, (∃ quote, ApprovedFor s invoice quote) →
      ∃ quote, ApprovedFor t.state invoice quote :=
    fun ⟨_, hq⟩ => hq.advances (hc.advances ha)
  have old : ∀ invoice ∈ s.invoices.values, invoice.status ≠ .unvalidated →
      ∃ quote, ApprovedFor t.state invoice quote := fun invoice hi hs => keeps (hb invoice hi hs)
  cases hc with
  | invoiceReceived fresh unvalidated =>
    exact Registry.forall_put old fun hs => absurd unvalidated hs
  | invoiceValidated admitted onFile awaited =>
    have hi := Registry.mem_values_iff.mpr (Registry.get?_ident onFile)
    obtain ⟨quote, hq⟩ := hb _ hi (by rw [awaited]; nofun)
    exact Registry.forall_put old fun _ =>
      keeps ⟨quote, hq.onFile, hq.approved, hq.amountMinor, hq.currency, hq.cycleId⟩
  | validationRequested onFile unvalidated quoted approved amount currency cycle =>
    exact Registry.forall_put old fun _ =>
      keeps ⟨_, quoted, approved, amount, currency, cycle⟩
  | _ => exact old

theorem Commit.paysValidated (ha : s.Agrees op) (hp : s.PaysValidated)
    (hc : Commit op now s cause t) : t.state.PaysValidated := by
  -- A validated invoice cannot be answered again, so it stays.
  have keeps : s.payment.status ≠ .notRequested → ∃ invoice, s.payment.Names invoice ∧
      t.state.invoices.get? invoice.invoiceId = some invoice ∧ invoice.status = .validated := by
    intro hs
    obtain ⟨invoice, named, onFile, validated⟩ := hp hs
    obtain ⟨invoice', onFile', follows⟩ := (hc.advances ha).invoices _ _ onFile
    have hid : invoice'.invoiceId = invoice.invoiceId := Registry.ident_of_get? onFile'
    refine ⟨invoice', ⟨named.requested, ?_, ?_⟩, Registry.get?_ident onFile', ?_⟩
    · rw [hid, named.invoiceId]
    · rw [follows.cycleId, named.cycleId]
    · have hstatus := follows.status
      rw [validated] at hstatus
      rcases hstatus with hs | hs
      · exact hs
      · cases hs
  cases hc with
  | paymentRequested onFile unrequested worked payable verified validated =>
    exact fun _ => ⟨_, ⟨rfl, rfl, rfl⟩, onFile, validated⟩
  | settled admitted requested =>
    intro _
    obtain ⟨invoice, named, hi⟩ := keeps (by rw [requested]; nofun)
    exact ⟨invoice, ⟨named.requested, named.invoiceId, named.cycleId⟩, hi⟩
  | _ => exact keeps

/-- The links of the chain, for records that agree on their quotes. -/
structure MaintenanceState.Billed (op : MaintenanceOperation) (s : MaintenanceState) : Prop where
  agrees : s.Agrees op
  bills : s.BillsApproved
  pays : s.PaysValidated

theorem initial_billed : op.initialState.Billed op where
  agrees := .empty
  bills _ h := absurd h List.not_mem_nil
  pays h := absurd rfl h

theorem Commit.billed (h : s.Billed op) (hc : Commit op now s cause t) : t.state.Billed op :=
  ⟨hc.agreement h.agrees, hc.billsApproved h.agrees h.bills, hc.paysValidated h.agrees h.pays⟩

theorem run_billed {P : MaintenanceState → Call → Prop} (h : Run op.Step P op.initialState s) :
    s.Billed op :=
  MaintenanceOperation.run_invariant h initial_billed fun _ _ _ hs _ hc => hc.billed hs

end Links

section Payments

/-- The checkpoint binds the quote version and the cycle that the invoice bills. -/
structure Approval.For (approval : Approval) (invoice : Invoice) : Prop where
  quoteId : approval.quoteId = invoice.quoteId
  quoteVersion : approval.quoteVersion = invoice.quoteVersion
  cycleId : approval.cycleId = invoice.cycleId

/-- The checkpoint was granted in time for exactly the quote, above the threshold. -/
structure Approval.Grants (op : MaintenanceOperation) (approval : Approval) (quote : Quote) :
    Prop where
  approved : approval.status = .approved
  amountMinor : approval.amountMinor = quote.amountMinor
  currency : approval.currency = quote.currency
  scopeDigest : approval.scopeDigest = quote.scopeDigest
  above : op.policy.approvalThresholdMinor < approval.amountMinor
  timely : approval.Timely

theorem exists_approval {invoice : Invoice} {quote : Quote} (ha : s.Agrees op)
    (h : ApprovedFor s invoice quote) :
    ∃ approval ∈ s.approvals.values, approval.For invoice ∧ approval.Grants op quote := by
  have hk : quote.key = quoteKey invoice.quoteId invoice.quoteVersion :=
    Registry.ident_of_get? h.onFile
  obtain ⟨hid, hversion⟩ := quoteKey_inj hk
  obtain ⟨a, hm, hb⟩ := ha.decided quote (Registry.mem_values_iff.mpr (Registry.get?_ident h.onFile))
    (by rw [h.approved]; nofun)
  have hstatus : a.status = .approved := by
    have hs := hb.status.symm.trans h.approved
    cases hst : a.status <;> rw [hst] at hs <;> first | rfl | cases hs
  exact ⟨a, hm, ⟨hb.quoteId.trans hid, hb.quoteVersion.trans hversion, hb.cycleId.trans h.cycleId⟩,
    hstatus, hb.amountMinor, hb.currency, hb.scopeDigest, ha.above a hm, ha.timely a hm hstatus⟩

theorem payment_rests_on_approval (h : Reaches op.Step op.initialState s)
    (hp : s.payment.status ≠ .notRequested) : ∃ invoice quote,
    s.payment.invoiceId = some invoice.invoiceId ∧
      s.invoices.get? invoice.invoiceId = some invoice ∧ invoice.status = .validated ∧
      ApprovedFor s invoice quote ∧
      (∃! approval, approval ∈ s.approvals.values ∧ approval.For invoice) ∧
      ∀ approval ∈ s.approvals.values, approval.For invoice → approval.Grants op quote := by
  have hb := run_billed h
  obtain ⟨invoice, named, onFile, validated⟩ := hb.pays hp
  obtain ⟨quote, hq⟩ := hb.bills invoice (Registry.mem_values_iff.mpr onFile)
    (by rw [validated]; nofun)
  obtain ⟨a, hm, hfor, hgrants⟩ := exists_approval hb.agrees hq
  have only : ∀ b ∈ s.approvals.values, b.For invoice → b = a := by
    intro b hmb hforb
    refine hb.agrees.unique b hmb a hm ?_
    rw [hforb.quoteId, hforb.quoteVersion, hfor.quoteId, hfor.quoteVersion]
  exact ⟨invoice, quote, named.invoiceId, onFile, validated, hq,
    ⟨a, ⟨hm, hfor⟩, fun b hb => only b hb.1 hb.2⟩, fun b hmb hforb => only b hmb hforb ▸ hgrants⟩

/-- A job that is quoted, approved, done and paid within the hour. -/
theorem settled_payment_rests_on_approval : ∃ s approval,
    Reaches (Fixture.operation []).Step (Fixture.operation []).initialState s ∧
      s.payment.status = .settled ∧ approval ∈ s.approvals.values ∧
      approval.status = .approved ∧ approval.Timely := by
  obtain ⟨s, hs, hc⟩ := ok_of_any (x := (Fixture.operation []).respondAll
    (Fixture.brings (Fixture.reported "cycle_1") :: Fixture.firstJob.paid "2031-03-03T10:00:00Z")
    (Fixture.operation []).initialState) (p := fun s => s.payment.status = .settled)
    (by decide +kernel)
  have hsettled : s.payment.status = .settled := of_decide_eq_true hc
  have hr : Reaches (Fixture.operation []).Step (Fixture.operation []).initialState s :=
    MaintenanceOperation.run_of_respondAll (fun _ _ _ => trivial) hs
  obtain ⟨invoice, quote, _, _, _, _, ⟨a, ⟨hm, hfor⟩, _⟩, hgrants⟩ :=
    payment_rests_on_approval hr (by rw [hsettled]; nofun)
  exact ⟨s, a, hr, hsettled, hm, (hgrants a hm hfor).approved, (hgrants a hm hfor).timely⟩

end Payments

end OperateBench.Maintenance
