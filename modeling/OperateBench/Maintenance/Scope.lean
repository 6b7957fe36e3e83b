import OperateBench.Maintenance.Checkpoints
import OperateBench.Maintenance.Evidence
import OperateBench.Maintenance.Identities

/-! # The scope of paid work

A payment rests on a quote and on the evidence of the work done. Nothing compares their scopes
when the evidence comes in, so they are the same where the evidence states the scope that was
approved, and nothing else is approved for the cycle afterwards.
-/

namespace OperateBench.Maintenance

open Foundation MaintenanceOperation

variable {op : MaintenanceOperation} {s s' : MaintenanceState} {call : Call} {t : Transaction}
  {now : String} {cycle before : Cycle} {approval : Approval} {scopeDigest : String}

section Conditions

/-- The evidence that the cycle names states the scope. -/
def AttestedFor (s : MaintenanceState) (cycle : Cycle) (scopeDigest : String) : Prop :=
  ∃ evidenceId outcome instant, cycle.workEvidenceId = some evidenceId ∧
    s.authoritativeRecords.get? evidenceId =
      some (.workEvidence cycle.cycleId cycle.visitId scopeDigest outcome instant)

/-- The approval was granted, or may still be. -/
def Approval.Live (approval : Approval) : Prop :=
  approval.status = .opened ∨ approval.status = .approved

/-- The call asks for an approval of the quote. -/
inductive Requests (s : MaintenanceState) : Call → Quote → Prop
  | named {context : EnvironmentContext} {payload : Fields} {evidenceRefs : List String}
      {quote : Quote}
      (onFile : s.quote (payload.text "quote_id") (payload.number "quote_version") = some quote) :
      Requests s ⟨context, .action "request_approval" payload evidenceRefs⟩ quote

/-- Evidence of another scope than is approved for the work, or a request to approve another
scope for work that is done. -/
inductive Strays (op : MaintenanceOperation) (s : MaintenanceState) (call : Call) : Prop
  | evidence {cycle : Cycle} {approval : Approval} {key scopeDigest outcome : String}
      (files : Files op s call key
        (.workEvidence cycle.cycleId cycle.visitId scopeDigest outcome call.context.now))
      (onFile : cycle ∈ s.cycles.values) (payable : cycle.requiresPayment = true)
      (asked : approval ∈ s.approvals.values) (cycleId : approval.cycleId = cycle.cycleId)
      (live : approval.Live) (other : approval.scopeDigest ≠ scopeDigest)
  | request {cycle : Cycle} {quote : Quote} {scopeDigest : String} (requests : Requests s call quote)
      (onFile : cycle ∈ s.cycles.values) (payable : cycle.requiresPayment = true)
      (verified : cycle.workVerified = true) (cycleId : quote.cycleId = cycle.cycleId)
      (attested : AttestedFor s cycle scopeDigest) (other : quote.scopeDigest ≠ scopeDigest)

/-- The step replaces no visit and no evidence, and keeps to the scope. -/
structure KeepsScope (op : MaintenanceOperation) (s : MaintenanceState) (call : Call) : Prop where
  visits : ¬Displaces op s call
  evidence : ¬Overwrites op s call
  scope : ¬Strays op s call

end Conditions

section Cycles

/-- The work of the cycle stands as it did. -/
structure Cycle.SameWork (a b : Cycle) : Prop where
  cycleId : a.cycleId = b.cycleId
  visitId : a.visitId = b.visitId
  workEvidenceId : a.workEvidenceId = b.workEvidenceId
  requiresPayment : a.requiresPayment = b.requiresPayment
  verified : a.workVerified = true

/-- The step verified the work of the cycle, on evidence that states the scope. -/
structure Verifies (op : MaintenanceOperation) (s : MaintenanceState) (call : Call)
    (state : MaintenanceState) (cycle : Cycle) (scopeDigest : String) : Prop where
  files : ∃ key outcome, Files op s call key
    (.workEvidence cycle.cycleId cycle.visitId scopeDigest outcome call.context.now)
  attested : AttestedFor state cycle scopeDigest
  onFile : ∃ before ∈ s.cycles.values, before.cycleId = cycle.cycleId ∧
    before.visitId = cycle.visitId ∧ before.requiresPayment = cycle.requiresPayment
  approvals : state.approvals = s.approvals

theorem Cycle.SameWork.refl (h : cycle.workVerified = true) : cycle.SameWork cycle :=
  ⟨rfl, rfl, rfl, rfl, h⟩

theorem Commit.verified_cases (hc : Commit op call.context.now s call.cause t) :
    ∀ cycle ∈ t.state.cycles.values, cycle.workVerified = true →
      (∃ before ∈ s.cycles.values, before.SameWork cycle) ∨
        ∃ scopeDigest, Verifies op s call t.state cycle scopeDigest := by
  have old : ∀ cycle ∈ s.cycles.values, cycle.workVerified = true →
      (∃ before ∈ s.cycles.values, before.SameWork cycle) ∨
        ∃ scopeDigest, Verifies op s call t.state cycle scopeDigest :=
    fun cycle hm hv => Or.inl ⟨cycle, hm, .refl hv⟩
  obtain ⟨context, cause⟩ := call
  cases hc with
  | issueReported | reopened | visitRequested | workAuthorised | attended | workReported =>
    exact Registry.forall_put old nofun
  | visitAnswered onFile awaited answer =>
    refine Registry.forall_put old fun hv => ?_
    rcases answer with rfl | rfl <;> cases hv
  | workVerified admitted onFile visit attended scope =>
    rename_i event _ _ _ _
    have hfiles : Files op s ⟨context, .event event⟩ _ _ :=
      .work admitted onFile visit attended scope
    refine Registry.forall_put old fun _ => Or.inr ⟨event.payload.text "scope_digest", ?_⟩
    exact ⟨⟨_, _, hfiles⟩, ⟨_, _, _, rfl, Dict.get?_set_self _ _ _⟩,
      ⟨_, Registry.mem_of_get? onFile, rfl, rfl, rfl⟩, rfl⟩
  | quoteReceived =>
    intro cycle hm hv
    dsimp only [Registry.putNew] at hm
    split at hm
    · exact old cycle hm hv
    · rcases Registry.mem_put hm with rfl | hm
      · cases hv
      · exact old cycle hm hv
  | messageSent noticed =>
    rcases noticed with rfl | ⟨cycle, onFile, rfl⟩
    · exact old
    · refine Registry.forall_put old fun hv => Or.inl ⟨cycle, Registry.mem_of_get? onFile, ?_⟩
      exact ⟨rfl, rfl, rfl, rfl, hv⟩
  | _ => exact old

/-- A cycle whose visit has begun has a visit. -/
def MaintenanceState.Begun (s : MaintenanceState) : Prop :=
  ∀ cycle ∈ s.cycles.values, cycle.visitStatus ≠ .none → cycle.visitId ≠ none

theorem Commit.begun (h : s.Begun) (hc : Commit op call.context.now s call.cause t) :
    t.state.Begun := by
  unfold MaintenanceState.Begun at h ⊢
  rcases hc.filed with heq | ⟨cycle, heq, hf⟩
  · exact heq ▸ h
  rw [heq]
  refine Registry.forall_put h fun hstatus => ?_
  cases hf with
  | opened unstarted => exact absurd unstarted hstatus
  | moved onFile _ visit begun =>
    rw [visit]
    exact h _ (Registry.mem_of_get? onFile) (mt begun.mpr hstatus)
  | visited _ _ _ visit =>
    rw [visit]
    exact nofun

/-- The cycle that is paid for is on file, payable and done. -/
def MaintenanceState.PaysWork (s : MaintenanceState) : Prop :=
  s.payment.status ≠ .notRequested → ∃ cycle ∈ s.cycles.values,
    s.payment.cycleId = some cycle.cycleId ∧ cycle.requiresPayment = true ∧
      cycle.workVerified = true

/-- The payment stays for the cycle it is for, or is requested for a cycle that is done. -/
theorem Commit.paid_cases (hc : Commit op now s call.cause t) :
    t.state.payment.cycleId = s.payment.cycleId ∧
        (t.state.payment.status ≠ .notRequested → s.payment.status ≠ .notRequested) ∨
      ∃ cycle ∈ t.state.cycles.values, t.state.payment.cycleId = some cycle.cycleId ∧
        cycle.requiresPayment = true ∧ cycle.workVerified = true := by
  obtain ⟨context, cause⟩ := call
  cases hc with
  | settled admitted requested =>
    refine Or.inl ⟨rfl, fun _ => ?_⟩
    rw [requested]
    exact nofun
  | paymentRequested onFile unrequested worked payable verified =>
    refine Or.inr ⟨_, Registry.mem_of_get? worked, ?_, payable, verified⟩
    rw [Registry.ident_of_get? worked]
  | _ => exact Or.inl ⟨rfl, id⟩

/-- A step that displaces no visit leaves finished work on file. -/
theorem Commit.worked (hb : s.Begun) (hn : ¬Displaces op s call)
    (hc : Commit op call.context.now s call.cause t) (hm : cycle ∈ s.cycles.values)
    (hv : cycle.workVerified = true) : ∃ after ∈ t.state.cycles.values,
      after.cycleId = cycle.cycleId ∧ after.requiresPayment = cycle.requiresPayment ∧
        after.workVerified = true := by
  have hverified : cycle.visitStatus = .workVerified := of_decide_eq_true hv
  rcases hc.filed with heq | ⟨filed, heq, hf⟩
  · exact ⟨cycle, heq ▸ hm, rfl, rfl, hv⟩
  by_cases hid : cycle.cycleId = filed.cycleId
  · have honFile := Registry.mem_values_iff.mp hm
    rw [hid] at honFile
    have hfollows : cycle.Follows filed := by
      cases hf with
      | opened _ _ displaces =>
        exact absurd (displaces cycle honFile (hb cycle hm (by rw [hverified]; nofun))) hn
      | moved onFile follows =>
        obtain rfl := Option.some.inj (honFile.symm.trans onFile)
        exact follows
      | visited onFile follows =>
        obtain rfl := Option.some.inj (honFile.symm.trans onFile)
        exact follows
    refine ⟨filed, heq ▸ Registry.mem_of_get? (Registry.get?_put_self _ _), hid.symm,
      hfollows.requiresPayment, ?_⟩
    rcases hfollows.visitStatus with hsame | hadvances
    · exact decide_eq_true (hsame.trans hverified)
    · rw [hverified] at hadvances
      cases hadvances
  · exact ⟨cycle, heq ▸ Registry.mem_put_iff.mpr (Or.inr ⟨hid, hm⟩), rfl, rfl, hv⟩

theorem Commit.paysWork (hb : s.Begun) (hn : ¬Displaces op s call) (h : s.PaysWork)
    (hc : Commit op call.context.now s call.cause t) : t.state.PaysWork := by
  intro hpaid
  rcases hc.paid_cases with ⟨hsame, hback⟩ | hnew
  · obtain ⟨cycle, hm, hfor, hpayable, hverified⟩ := h (hback hpaid)
    obtain ⟨after, hm', hid, hkept, hverified'⟩ := hc.worked hb hn hm hverified
    exact ⟨after, hm', hsame.trans (hid ▸ hfor), hkept.trans hpayable, hverified'⟩
  · exact hnew

end Cycles

section Approvals

/-- An approval on file follows one that was there, or was asked for by the step. -/
theorem step_approvals (ha : s.Agrees op) (hs : op.Step s call s')
    (hm : approval ∈ s'.approvals.values) :
    (∃ before ∈ s.approvals.values, before.Follows approval) ∨
      ∃ quote, Requests s call quote ∧ approval.cycleId = quote.cycleId ∧
        approval.scopeDigest = quote.scopeDigest := by
  have hkept := step_cases hs
  obtain ⟨r, hr, rfl⟩ := hs
  rcases respond_worked hr with ⟨code, detail, rfl⟩ | ⟨haccepted, hops⟩
  · exact Or.inl ⟨approval, hm, .refl _⟩
  have honFile := Registry.mem_values_iff.mp hm
  cases Ops.approvals hops approval hm with
  | kept onFile cycle opened fired =>
    rename_i before
    refine Or.inl ⟨before, Registry.mem_of_get? onFile, ?_⟩
    rcases hkept with hsame | ⟨effects, hc⟩
    · rw [hsame, onFile] at honFile
      obtain rfl := Option.some.inj honFile
      exact .refl _
    · obtain ⟨after, hafter, hfollows⟩ := (hc.advances ha).approvals _ _ onFile
      obtain rfl := Option.some.inj (honFile.symm.trans hafter)
      exact hfollows
  | asked asks allocated =>
    cases asks
    obtain ⟨filed, deadlineAt, hid, ⟨-, quote, hasked⟩, hput, -⟩ := applyAction_asked hr haccepted
    obtain rfl : approval = filed := by
      rw [hput, allocated, ← hid, Registry.get?_put_self] at honFile
      exact (Option.some.inj honFile).symm
    exact Or.inr ⟨quote, .named hasked.onFile, hasked.cycleId, hasked.scopeDigest⟩

theorem Approval.Follows.live {a b : Approval} (h : a.Follows b) (hl : b.Live) : a.Live := by
  rcases h.status with hsame | ⟨hopened, -⟩
  · exact hl.imp hsame.symm.trans hsame.symm.trans
  · exact Or.inl hopened

/-- What is approved or may be for payable work that is done has the scope of its evidence. -/
def MaintenanceState.InScope (s : MaintenanceState) : Prop :=
  ∀ cycle ∈ s.cycles.values, cycle.requiresPayment = true → cycle.workVerified = true →
    ∃ scopeDigest, AttestedFor s cycle scopeDigest ∧ ∀ approval ∈ s.approvals.values,
      approval.cycleId = cycle.cycleId → approval.Live → approval.scopeDigest = scopeDigest

theorem AttestedFor.later (h : AttestedFor s before scopeDigest) (hw : before.SameWork cycle)
    (ha : Appends s s') : AttestedFor s' cycle scopeDigest := by
  obtain ⟨evidenceId, outcome, instant, hnamed, hrecord⟩ := h
  obtain ⟨_, hrecord', rfl⟩ := ha _ _ hrecord
  exact ⟨evidenceId, outcome, instant, hw.workEvidenceId ▸ hnamed,
    hw.cycleId ▸ hw.visitId ▸ hrecord'⟩

theorem step_inScope (ha : s.Agrees op) (h : s.InScope) (hk : KeepsScope op s call)
    (hs : op.Step s call s') : s'.InScope := by
  rcases step_cases hs with rfl | ⟨effects, hc⟩
  · exact h
  intro cycle hm hpayable hverified
  rcases hc.verified_cases cycle hm hverified with ⟨before, hm', hwork⟩ | ⟨scopeDigest, hv⟩
  · obtain ⟨scopeDigest, hattested, hscope⟩ :=
      h before hm' (hwork.requiresPayment.trans hpayable) hwork.verified
    refine ⟨scopeDigest, hattested.later hwork (hc.appends hk.evidence), ?_⟩
    intro approval happroval hcycle hlive
    rcases step_approvals ha hs happroval with ⟨prior, hprior, hfollows⟩ | ⟨quote, hquote, hid, hsame⟩
    · rw [hfollows.scopeDigest]
      exact hscope prior hprior (hfollows.cycleId.symm.trans (hcycle.trans hwork.cycleId.symm))
        (hfollows.live hlive)
    · by_contra hother
      exact hk.scope (.request hquote hm' (hwork.requiresPayment.trans hpayable) hwork.verified
        (hid.symm.trans (hcycle.trans hwork.cycleId.symm)) hattested (hsame ▸ hother))
  · refine ⟨scopeDigest, hv.attested, fun approval happroval hcycle hlive => ?_⟩
    obtain ⟨key, outcome, hfiles⟩ := hv.files
    obtain ⟨before, hm', hid, hvisit, hpays⟩ := hv.onFile
    rw [← hid, ← hvisit] at hfiles
    by_contra hother
    exact hk.scope (.evidence hfiles hm' (hpays.trans hpayable) (hv.approvals ▸ happroval)
      (hcycle.trans hid.symm) hlive hother)

end Approvals

section Payments

/-- The evidence of the cycle that is paid for states the scope of the approved quote that the
invoice names. -/
def MaintenanceState.PaysApprovedWork (s : MaintenanceState) : Prop :=
  s.payment.status ≠ .notRequested → ∃ invoice quote cycle, s.payment.Names invoice ∧
    s.invoices.get? invoice.invoiceId = some invoice ∧ ApprovedFor s invoice quote ∧
      s.cycles.get? invoice.cycleId = some cycle ∧ AttestedFor s cycle quote.scopeDigest

/-- What the scope of a payment rests on. -/
structure MaintenanceState.Scoped (op : MaintenanceOperation) (s : MaintenanceState) : Prop where
  billed : s.Billed op
  begun : s.Begun
  pays : s.PaysWork
  inScope : s.InScope

theorem initial_scoped : op.initialState.Scoped op where
  billed := initial_billed
  begun _ hm := absurd hm List.not_mem_nil
  pays h := absurd rfl h
  inScope _ hm := absurd hm List.not_mem_nil

theorem step_scoped (h : s.Scoped op) (hk : KeepsScope op s call) (hs : op.Step s call s') :
    s'.Scoped op := by
  have hscope := step_inScope h.billed.agrees h.inScope hk hs
  rcases step_cases hs with rfl | ⟨effects, hc⟩
  · exact h
  · exact ⟨hc.billed h.billed, hc.begun h.begun, hc.paysWork h.begun hk.visits h.pays, hscope⟩

theorem MaintenanceState.Scoped.paysApprovedWork (h : s.Scoped op) : s.PaysApprovedWork := by
  intro hpaid
  obtain ⟨invoice, hnamed, honFile, hvalidated⟩ := h.billed.pays hpaid
  obtain ⟨quote, hquote⟩ := h.billed.bills invoice (Registry.mem_values_iff.mpr honFile)
    (by rw [hvalidated]; nofun)
  obtain ⟨approval, hm, hfor, hgrants⟩ := exists_approval h.billed.agrees hquote
  obtain ⟨cycle, hcycle, hpays, hpayable, hverified⟩ := h.pays hpaid
  have hid : cycle.cycleId = invoice.cycleId := Option.some.inj (hpays.symm.trans hnamed.cycleId)
  obtain ⟨scopeDigest, hattested, hscope⟩ := h.inScope cycle hcycle hpayable hverified
  have hsame := hscope approval hm (hfor.cycleId.trans hid.symm) (Or.inr hgrants.approved)
  refine ⟨invoice, quote, cycle, hnamed, honFile, hquote, ?_, ?_⟩
  · rw [← hid]
    exact Registry.mem_values_iff.mp hcycle
  · rw [← hgrants.scopeDigest, hsame]
    exact hattested

theorem paid_work_is_approved
    (h : Run op.Step (KeepsScope op) op.initialState s) : s.PaysApprovedWork := by
  have hscoped : s.Scoped op := Run.invariant h initial_scoped fun _ _ _ hs hk hst =>
    step_scoped hs hk hst
  exact hscoped.paysApprovedWork

/-- The first job, with the evidence stating another scope than was approved. -/
def otherScope : List Call :=
  Fixture.brings (Fixture.reported "cycle_1") ::
    (Fixture.firstJob.paid "2031-03-03T10:00:00Z").set 5 (Fixture.brings
      (Fixture.happens 0 "2031-03-03T10:00:00Z" "maintenance_system" .workEvidenceVerified false
        [("evidence_id", .str "evidence_1"), ("visit_id", .str "visit_1"),
          ("cycle_id", .str "cycle_2"), ("scope_digest", .str "scope_3"),
          ("outcome", .str "FIXED")]))

def statesScope (scopeDigest : String) : AuthoritativeRecord → Bool
  | .workEvidence _ _ stated _ _ => stated = scopeDigest
  | _ => true

/-- What was approved is one scope, and what was done and paid for is another. -/
theorem other_scope_paid : ¬∀ s,
    Reaches (Fixture.operation []).Step (Fixture.operation []).initialState s →
      s.PaysApprovedWork := by
  intro h
  obtain ⟨s, hs, hc⟩ := ok_of_any (x := (Fixture.operation []).respondAll otherScope
    (Fixture.operation []).initialState) (p := fun s => decide (s.payment.status = .settled) &&
      (s.quotes.values.all fun quote => quote.scopeDigest = "scope_2") &&
        s.authoritativeRecords.entries.all fun e => statesScope "scope_3" e.2) (by decide +kernel)
  simp only [Bool.and_eq_true, List.all_eq_true, decide_eq_true_eq] at hc
  obtain ⟨⟨hsettled, hquotes⟩, hrecords⟩ := hc
  obtain ⟨invoice, quote, cycle, -, -, hquote, -, evidenceId, outcome, instant, -, hrecord⟩ :=
    h s (run_of_respondAll (fun _ _ _ => trivial) hs) (by rw [hsettled]; nofun)
  have happroved := hquotes quote (Registry.mem_of_get? hquote.onFile)
  have hstated := hrecords _ (Dict.get?_eq_some_iff.mp hrecord)
  rw [statesScope, happroved] at hstated
  exact absurd (of_decide_eq_true hstated) (by decide)

/-- Signs that a call keeps to the scope: no first report over visits, no reopening, evidence of
the one scope of all approvals, and no request for approval once work is done. -/
def plain (scopeDigest : String) (s : MaintenanceState) (call : Call) : Bool :=
  decide (s.phase ≠ .provisionallyClosed) &&
    (s.issueId.isSome || s.cycles.values.all fun cycle => cycle.visitId.isNone) &&
    (s.approvals.values.all fun approval => approval.scopeDigest = scopeDigest) &&
    match call.cause with
    | .event event => EventType.ofText? event.eventType ≠ some .workEvidenceVerified ||
        event.payload.text "scope_digest" = scopeDigest
    | .action actionType _ _ =>
      actionType ≠ "request_approval" || s.cycles.values.all fun cycle => !cycle.workVerified
    | .terminal _ => true

theorem not_displaces_of_plain (h : plain scopeDigest s call = true) : ¬Displaces op s call := by
  simp only [plain, Bool.and_eq_true, decide_eq_true_eq, Bool.or_eq_true, List.all_eq_true] at h
  obtain ⟨⟨⟨hphase, hfirst⟩, -⟩, -⟩ := h
  intro hd
  cases hd with
  | issue admitted first handled held visited =>
    rw [first] at hfirst
    rcases hfirst with hfirst | hfirst
    · cases hfirst
    · exact visited (Option.isNone_iff_eq_none.mp (hfirst _ (Registry.mem_of_get? held)))
  | reopening admitted report phase => exact hphase phase

theorem not_strays_of_plain (h : plain scopeDigest s call = true) : ¬Strays op s call := by
  simp only [plain, Bool.and_eq_true, decide_eq_true_eq, List.all_eq_true] at h
  obtain ⟨⟨-, hscope⟩, hcause⟩ := h
  intro hs
  cases hs with
  | evidence files onFile payable asked cycleId live other =>
    generalize hrecord : AuthoritativeRecord.workEvidence _ _ _ _ _ = record at files
    cases files with
    | work admitted =>
      obtain ⟨-, -, hstated, -, -⟩ := AuthoritativeRecord.workEvidence.inj hrecord
      simp only [admitted.named, ne_eq, not_true_eq_false, decide_false, Bool.false_or,
        decide_eq_true_eq] at hcause
      exact other ((hscope _ asked).trans (hcause.symm.trans hstated.symm))
    | attendance => cases hrecord
    | validation => cases hrecord
    | settlement => cases hrecord
  | request requests onFile payable verified =>
    cases requests with
    | named =>
      simp only [ne_eq, not_true_eq_false, decide_false, Bool.false_or, List.all_eq_true] at hcause
      have hnot := hcause _ onFile
      rw [verified] at hnot
      cases hnot

/-- The call, where it is plain and leaves every authoritative record as it is. -/
def respondPlainly (op : MaintenanceOperation) (s : MaintenanceState) (call : Call) :
    Except PyError MaintenanceState :=
  if plain "scope_2" s call then respondAppending op s call else .error .assertion

theorem run_of_respondPlainly {calls : List Call} (h : calls.foldlM (respondPlainly op) s = .ok s') :
    Run op.Step (KeepsScope op) s s' := by
  refine foldlM_related (R := Run op.Step _) Run.refl (fun _ _ _ => Run.trans) ?_ h
  intro s call t _ hst
  unfold respondPlainly at hst
  split at hst
  · rename_i hplain
    obtain ⟨hs, hn⟩ := respondAppending_ok hst
    exact (Run.refl s).tail ⟨not_displaces_of_plain hplain, hn, not_strays_of_plain hplain⟩ hs
  · cases hst

theorem first_job_paid_in_scope : ∃ s : MaintenanceState,
    Run (Fixture.operation []).Step (KeepsScope (Fixture.operation []))
        (Fixture.operation []).initialState s ∧
      s.payment.status = .settled ∧ s.PaysApprovedWork := by
  obtain ⟨s, hs, hc⟩ := ok_of_any (x := (Fixture.brings (Fixture.reported "cycle_1") ::
    Fixture.firstJob.paid "2031-03-03T10:00:00Z").foldlM (respondPlainly (Fixture.operation []))
    (Fixture.operation []).initialState) (p := fun s => s.payment.status = .settled)
    (by decide +kernel)
  exact ⟨s, run_of_respondPlainly hs, of_decide_eq_true hc,
    paid_work_is_approved (run_of_respondPlainly hs)⟩

end Payments

end OperateBench.Maintenance
