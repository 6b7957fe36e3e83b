import OperateBench.Profiles.Inversion
import OperateBench.Profiles.Operation

/-! # The money of a profile case

The one quote is reserved by the one submission and moves on when it is settled. What has to be
on file for it, the proof, the request and the grant of it, was put there once and in that order.
The grader reads the branch, the amount and the date off the scenario, and every run agrees.
The concrete runs of this runtime are all runs on a return from the United Kingdom, whose local
time is UTC, which London keeps in January.
-/

namespace OperateBench.Profiles

open Foundation

namespace Fixture

def utcDate (seconds : Int) : CivilDate :=
  if h : 1 ≤ seconds / 86400 + Calendar.epochOrdinal ∧
      seconds / 86400 + Calendar.epochOrdinal ≤ 3652059 then ⟨_, h⟩
  else ⟨1, by decide⟩

def utc : ZoneInfo where
  localDate _ seconds := utcDate seconds
  endOfDay _ date := (date.ordinal - Calendar.epochOrdinal + 1) * 86400 * 1000000 - 1

def texts (_ : ProfileId) : Fields := Dict.empty

def facts : Facts where
  profileId := .uk
  channel := .distance
  reason := .changeOfMind
  merchantPolicy := .m30
  fault := .none
  consumerChoice := .refund
  transactionProof := .orderReference
  ordinaryGoods := true
  jurisdictionStipulated := true
  disclosed := true
  policyDisplayProven := true
  unused := true
  rejectionTimelyStipulated := true
  originalPackaging := true
  purchaseDate := ⟨739618, by decide⟩
  deliveryDate := ⟨739621, by decide⟩
  noticeSentDate := ⟨739626, by decide⟩
  noticeReceivedDate := ⟨739626, by decide⟩
  priceMinor := 4000
  standardDeliveryMinor := 500
  premiumDeliveryMinor := 900

/-- The notice of the tenth of January, and goods that are back an hour after the label. -/
def scenario (paymentMode : PaymentMode) : Scenario utc (profiles texts) where
  facts
  proofDelayMinutes := 60
  paymentMode
  claimLabelOnly := false
  start := 1768035600
  dispatchDate := ⟨739626, by decide⟩
  price := by decide
  delivery := by decide
  premium := by decide
  delay := by decide
  chronology := by decide
  pinned := by decide
  received := by decide
  dispatched := by decide
  timely := by decide
  consistent := by decide

def operation (paymentMode : PaymentMode) : CommerceProfilesDomain where
  sha256 _ := ""
  zone := utc
  texts
  contentDigest := ""
  scenario := scenario paymentMode

section Scripts

/-- A script reads everything before it does something. -/
def reads : Answer :=
  .retrieve (.sequence (tools.map fun tool => .request (.str tool.1) (.dict [])))

def acts (action : ActionType) (version : Int) (payload : List (String × Value)) : Answer :=
  .act (.str action.text) (.ofFields ([("case_id", .str caseId), ("profile_digest", .str ""),
    ("version", .int version)] ++ payload)) (.ofTexts [caseId, "proof_1", "approval_1"]) (.str "")

theorem week_pos : (0 : Int) < 10000 := by decide
def rests (minutes : Int) (h : 0 < minutes) : Answer :=
  .wait ⟨.str "waiting", .list [], .int minutes, fallback_declared minutes, fallback_positive h⟩

def completes : Answer := .complete (.str "done") (.ofTexts [caseId])

/-- The engine with an agent that gives the scripted answers in turn. -/
def engine (paymentMode : PaymentMode) (script : List Answer) : Engine ProfileState :=
  (operation paymentMode).engine Dict.empty
    (fun shown => .ok (script.getD (shown.length - 1) (.other "NoneType")))
    "commerce_return_refund_profiles_v1" "instance_1"

/-- An agent that brings the refund about and submits it once. -/
def submits : List Answer :=
  [reads, acts .decideEntitlement 1 [("decision", .str "refund")], reads,
    acts .authorizeReturn 2 [], rests 10000 week_pos, reads, acts .requestAuthority 4 [],
    rests 10000 week_pos, reads,
    acts .submitRefund 6 [("intent_id", .str intentId), ("amount_minor", .int 4500),
      ("currency", .str "GBP"), ("tender_ref", .str tenderRef)]]

/-- The refund is settled and final, the customer is told, and the case is closed. -/
def refunds : List Answer :=
  submits ++ [rests 10000 week_pos, rests 10000 week_pos, reads,
    acts .notifyCustomer 9 [("message", .str "refunded")], reads, completes]

end Scripts

end Fixture

section Accounts

/-- The processor may move a payment on, and never back. -/
inductive PaymentStatus.Moves : PaymentStatus → PaymentStatus → Prop
  | stays (status : PaymentStatus) : Moves status status
  | submitted : Moves none pending
  | answered (status : PaymentStatus) (h : status ≠ none ∧ status ≠ pending) : Moves pending status
  | reconciled : Moves unknown settled

/-- The processor has the last word on the payment. -/
def PaymentStatus.Final (status : PaymentStatus) : Prop := status = settled ∨ status = failed

theorem PaymentStatus.Moves.final {status status' : PaymentStatus} (h : Moves status status')
    (hf : status.Final) : status' = status := by
  cases h with
  | stays => rfl
  | submitted => rcases hf with h | h <;> cases h
  | answered => rcases hf with h | h <;> cases h
  | reconciled => rcases hf with h | h <;> cases h

/-- The account of a payment of the quote, by its status. -/
def Balanced (quote : Int) (payment : Payment) : Prop :=
  match payment.status with
  | .none => payment.intentId = none ∧ payment.reservedMinor = 0 ∧ payment.settledMinor = 0 ∧
      payment.submissionCount = 0
  | .settled => payment.intentId = some intentId ∧ payment.reservedMinor = 0 ∧
      payment.settledMinor = quote ∧ payment.submissionCount = 1
  | .pending | .unknown | .failed => payment.intentId = some intentId ∧
      payment.reservedMinor = quote ∧ payment.settledMinor = 0 ∧ payment.submissionCount = 1

variable {quote : Int} {payment : Payment}

theorem Balanced.unsubmitted (h : Balanced quote payment) (hn : payment.intentId = none) :
    payment.status = .none := by
  unfold Balanced at h
  cases hs : payment.status <;> simp_all

theorem Balanced.submitted (h : Balanced quote payment)
    (hi : payment.intentId = some intentId) : payment.status ≠ .none := by
  intro hs
  simp [Balanced, hs, hi] at h

/-- Money was submitted at most once, and all of it is either reserved or settled. -/
structure Conserved (quote : Int) (payment : Payment) : Prop where
  once : payment.submissionCount ≤ 1
  total : payment.reservedMinor + payment.settledMinor =
    if payment.intentId.isSome then quote else 0
  settled : 0 < payment.settledMinor ↔ payment.status = .settled

theorem Balanced.conserved (h : Balanced quote payment) (hq : 0 < quote) :
    Conserved quote payment := by
  unfold Balanced at h
  constructor <;> cases hs : payment.status <;> simp_all

end Accounts

namespace CommerceProfilesDomain

section Warrants

/-- The grant is for the case, the order, the quote, the tender and the proof. -/
structure ForQuote (op : CommerceProfilesDomain) (grant : Grant) : Prop where
  caseId : grant.caseId = caseId
  orderId : grant.orderId = orderId
  amountMinor : grant.amountMinor = op.quoteAmount
  currency : grant.currency = op.profile.currency
  tenderRef : grant.tenderRef = tenderRef
  profileDigest : grant.profileDigest = op.profileDigest
  proofId : grant.proofId = "proof_1"

/-- What stands behind a submission: the entitlement, the proof, and a grant for the quote that
followed its request by exactly the authored delay. -/
structure Warrant (op : CommerceProfilesDomain) (s : ProfileState) (proof : Proof) (grant : Grant)
    (requestedAt : String) : Prop where
  decided : s.case.decision = some .refund
  onFile : s.evidence.proof = some proof
  granted : s.evidence.approval = some grant
  requested : s.case.authorityRequestedAt = some requestedAt
  delay : shiftMinutes requestedAt op.approvalEvent.delayMinutes "timestamp" = .ok grant.grantedAt
  forQuote : op.ForQuote grant

/-- The record of a case, as every call leaves it. -/
structure Sound (op : CommerceProfilesDomain) (s : ProfileState) : Prop where
  facts : s.case.facts = op.facts
  amount : s.case.amountMinor = op.quoteAmount
  currency : s.case.currency = op.profile.currency
  decided : ∀ decision, s.case.decision = some decision → decision = entitlement op.facts
  balanced : Balanced op.quoteAmount s.payment
  mode : s.payment.status = .unknown → op.scenario.paymentMode = .unknown
  asked : s.case.authorityRequestedAt.isSome → s.case.authorityRequested = true
  proven : s.case.authorityRequested = true → s.evidence.proof.isSome
  warranted : s.payment.intentId.isSome → ∃ proof grant requestedAt,
    op.Warrant s proof grant requestedAt

end Warrants

variable {op : CommerceProfilesDomain} {s t : ProfileState} {cause : Cause}
  {effects : List Effect} {now : String}

theorem amount_eq (op : CommerceProfilesDomain) : op.amount = op.quoteAmount := by
  unfold amount quoteAmount profile
  cases op.facts.profileId <;> rfl

theorem quote_pos (op : CommerceProfilesDomain) : 0 < op.quoteAmount := by
  have hprice : 1 ≤ op.facts.priceMinor := op.scenario.price.1
  have hdelivery : 0 ≤ op.facts.standardDeliveryMinor := op.scenario.delivery.1
  unfold quoteAmount
  split <;> omega

theorem initialState_sound (op : CommerceProfilesDomain) : op.Sound op.initialState where
  facts := rfl
  amount := op.amount_eq
  currency := rfl
  decided := nofun
  balanced := ⟨rfl, rfl, rfl, rfl⟩
  mode := nofun
  asked := nofun
  proven := nofun
  warranted := nofun

section Payments

theorem Sound.paid {planned : PlannedEvent} {status : PaymentStatus} {webhookId : String}
    (h : op.Sound s) (result : op.ProcessorResult planned status webhookId)
    (submitted : s.payment.intentId = some intentId)
    (live : s.payment.status ≠ .settled ∧ s.payment.status ≠ .failed) :
    op.Sound (op.paid s status webhookId now).1 := by
  have hb := h.balanced
  unfold Balanced at hb
  have hreserved : s.payment.reservedMinor = op.quoteAmount ∧ s.payment.settledMinor = 0 ∧
      s.payment.submissionCount = 1 := by
    cases hs : s.payment.status <;> simp_all
  have hw := h.warranted (by rw [submitted]; rfl)
  unfold CommerceProfilesDomain.paid
  split
  · rename_i hsettled
    refine { h with balanced := ?_, mode := ?_, warranted := fun _ => ?_ }
    · simp [settle, Balanced, hsettled, submitted, hreserved]
    · intro hunknown
      cases hsettled.symm.trans hunknown
    · obtain ⟨proof, grant, requestedAt, hw⟩ := hw
      exact ⟨proof, grant, requestedAt, { hw with }⟩
  · rename_i hunsettled
    refine { h with balanced := ?_, mode := ?_, warranted := fun _ => ?_ }
    · cases result with
      | processor =>
        cases hm : op.scenario.paymentMode <;>
          simp_all [Balanced, processorStatus]
      | query => exact absurd rfl hunsettled
      | duplicate => exact absurd rfl hunsettled
    · intro hunknown
      cases result with
      | processor =>
        cases hm : op.scenario.paymentMode <;> simp_all [processorStatus]
      | query => exact absurd rfl hunsettled
      | duplicate => exact absurd rfl hunsettled
    · obtain ⟨proof, grant, requestedAt, hw⟩ := hw
      exact ⟨proof, grant, requestedAt, { hw with }⟩

theorem paid_status (status : PaymentStatus) (webhookId : String) :
    (op.paid s status webhookId now).1.payment.status = status := by
  unfold CommerceProfilesDomain.paid
  split <;> rfl

end Payments

/-- The grant that binds is for the quote. -/
theorem Binds.forQuote {grant : Grant} {proof : Proof} {requestedAt : String}
    (binds : op.Binds s grant proof requestedAt now) (h : op.Sound s) : op.ForQuote grant where
  caseId := binds.caseId
  orderId := binds.orderId
  amountMinor := binds.amountMinor.trans h.amount
  currency := binds.currency.trans h.currency
  tenderRef := binds.tenderRef
  profileDigest := binds.profileDigest
  proofId := binds.proofId

/-- A change keeps the record sound, if the grant it puts on file is the first. -/
theorem Change.sound (hc : op.Change now s cause t effects) (h : op.Sound s)
    (hnew : ∀ event, cause = .event event → Authored event op.approvalEvent →
      s.evidence.approval = none) : op.Sound t := by
  have hkeep : ∀ {t : ProfileState}, t.case.decision = s.case.decision →
      t.evidence = s.evidence → t.case.authorityRequestedAt = s.case.authorityRequestedAt →
      t.payment.intentId = s.payment.intentId → t.payment.intentId.isSome →
        ∃ proof grant requestedAt, op.Warrant t proof grant requestedAt := by
    intro t hd he ha hi hsome
    obtain ⟨proof, grant, requestedAt, hw⟩ := h.warranted (hi ▸ hsome)
    exact ⟨proof, grant, requestedAt, hd ▸ hw.decided, he ▸ hw.onFile, he ▸ hw.granted,
      ha ▸ hw.requested, hw.delay, hw.forQuote⟩
  have hunsubmitted : s.evidence.approval = none → s.payment.intentId.isSome → False := by
    intro hnone hsome
    obtain ⟨proof, grant, requestedAt, hw⟩ := h.warranted hsome
    cases hnone.symm.trans hw.granted
  cases hc with
  | intake => exact h
  | claimed => exact { h with warranted := hkeep rfl rfl rfl rfl }
  | proven authored authorized since delay fresh =>
    refine { h with proven := fun _ => rfl, warranted := fun hsome => ?_ }
    obtain ⟨proof, grant, requestedAt, hw⟩ := h.warranted hsome
    cases fresh.symm.trans hw.onFile
  | granted authored =>
    have hnone := hnew _ rfl authored
    exact { h with warranted := fun hsome => (hunsubmitted hnone hsome).elim }
  | paid result authored submitted fresh live => exact h.paid result submitted live
  | acknowledged => exact { h with warranted := hkeep rfl rfl rfl rfl }
  | mended => exact { h with warranted := hkeep rfl rfl rfl rfl }
  | finalised => exact { h with warranted := hkeep rfl rfl rfl rfl }
  | decided first =>
    refine { h with decided := ?_, warranted := fun hsome => ?_ }
    · rintro decision ⟨⟩
      rw [h.facts]
    · obtain ⟨proof, grant, requestedAt, hw⟩ := h.warranted hsome
      cases first.symm.trans hw.decided
  | authorized => exact { h with warranted := hkeep rfl rfl rfl rfl }
  | requested decided onFile cited first =>
    refine { h with asked := fun _ => rfl, proven := fun _ => ?_, warranted := fun hsome => ?_ }
    · simp only [onFile, Option.isSome_some]
    · obtain ⟨proof, grant, requestedAt, hw⟩ := h.warranted hsome
      have hasked := h.asked (by rw [hw.requested]; rfl)
      cases hasked.symm.trans first
  | @submitted _ _ grant proof requestedAt first decided granted cited binds =>
    have hb := h.balanced
    rw [Balanced, h.balanced.unsubmitted first] at hb
    refine { h with balanced := ?_, mode := nofun, warranted := fun _ => ?_ }
    · exact ⟨rfl, h.amount, hb.2.2.1, rfl⟩
    · exact ⟨proof, grant, requestedAt, decided, binds.onFile, granted, binds.since, binds.delay,
        binds.forQuote h⟩
  | queried => exact { h with warranted := hkeep rfl rfl rfl rfl }
  | repairRequested => exact { h with warranted := hkeep rfl rfl rfl rfl }
  | reviewRequested => exact { h with warranted := hkeep rfl rfl rfl rfl }
  | notified => exact { h with warranted := hkeep rfl rfl rfl rfl }
  | completed => exact { h with warranted := hkeep rfl rfl rfl rfl }

theorem Sound.bump (h : op.Sound t) : op.Sound (ProfileState.bump t) where
  facts := h.facts
  amount := h.amount
  currency := h.currency
  decided := h.decided
  balanced := h.balanced
  mode := h.mode
  asked := h.asked
  proven := h.proven
  warranted := by
    intro hsome
    obtain ⟨proof, grant, requestedAt, hw⟩ := h.warranted hsome
    exact ⟨proof, grant, requestedAt, { hw with }⟩

/-- What a step may do with the money: the payment moves on, and authority is only asked for
on a proof. -/
structure Progress (s s' : ProfileState) : Prop where
  moves : s.payment.status.Moves s'.payment.status
  proofFirst : s.case.authorityRequested = false → s'.case.authorityRequested = true →
    s.evidence.proof.isSome

theorem Progress.of_asked {s s' : ProfileState} (hp : s.payment.status.Moves s'.payment.status)
    (ha : s'.case.authorityRequested = s.case.authorityRequested) : Progress s s' where
  moves := hp
  proofFirst := by
    intro hf ht
    cases hf.symm.trans (ha.symm.trans ht)

theorem Change.progress (hc : op.Change now s cause t effects) (h : op.Sound s) :
    Progress s t := by
  cases hc with
  | @paid _ _ status webhookId result authored submitted fresh live =>
    have hauthority : (op.paid s status webhookId now).1.case.authorityRequested =
        s.case.authorityRequested := by
      unfold CommerceProfilesDomain.paid
      split <;> rfl
    refine .of_asked ?_ hauthority
    rw [paid_status]
    have hsubmitted := h.balanced.submitted submitted
    have hmode := h.mode
    have hanswer : status ≠ .none ∧ status ≠ .pending := by
      cases result with
      | processor => cases op.scenario.paymentMode <;> simp [processorStatus]
      | query => simp
      | duplicate => simp
    cases hs : s.payment.status with
    | none => exact absurd hs hsubmitted
    | pending => exact .answered status hanswer
    | unknown =>
      cases result with
      | processor =>
        rw [hmode hs]
        exact .stays _
      | query => exact .reconciled
      | duplicate => exact .reconciled
    | settled => exact absurd hs live.1
    | failed => exact absurd hs live.2
  | submitted first =>
    refine .of_asked ?_ rfl
    rw [h.balanced.unsubmitted first]
    exact .submitted
  | requested decided onFile =>
    refine ⟨.stays _, fun _ _ => ?_⟩
    rw [onFile]
    rfl
  | _ => exact .of_asked (.stays _) rfl

section Runs

variable {workflow : Fields} {agent : OperationAgent} {operationId instanceId : String}
  {u u' u₀ : EngineState ProfileState}

/-- The record is sound, the grant on file cannot be given again, and what is on file was put
there in order. -/
structure Secured (op : CommerceProfilesDomain) (u : EngineState ProfileState) : Prop where
  sound : op.Sound u.state
  spent : u.state.evidence.approval.isSome → u.queue.Gone "approval_1"
  supplied : ∀ proof, u.state.evidence.proof = some proof →
    ∃ n, strptime proof.suppliedAt = .ok n ∧ n ≤ u.clock.seconds
  ordered : ∀ proof requestedAt, u.state.evidence.proof = some proof →
    u.state.case.authorityRequestedAt = some requestedAt →
      ∃ m n, strptime proof.suppliedAt = .ok m ∧ strptime requestedAt = .ok n ∧ m ≤ n

theorem Secured.keep (h : op.Secured u) (hsound : op.Sound u'.state)
    (hevidence : u'.state.evidence = u.state.evidence)
    (hrequested : u'.state.case.authorityRequestedAt = u.state.case.authorityRequestedAt)
    (hqueue : u.queue.Evolves u'.queue) (hclock : u.clock.seconds ≤ u'.clock.seconds) :
    op.Secured u' := by
  refine ⟨hsound, ?_, ?_, ?_⟩
  · rw [hevidence]
    exact fun ha => (h.spent ha).evolves hqueue
  · intro proof hproof
    obtain ⟨n, hn, hle⟩ := h.supplied proof (hevidence ▸ hproof)
    exact ⟨n, hn, hle.trans hclock⟩
  · intro proof requestedAt hproof hsome
    exact h.ordered proof requestedAt (hevidence ▸ hproof) (hrequested ▸ hsome)

theorem start_secured (h : (op.engine workflow agent operationId instanceId).start = .ok u) :
    op.Secured u := by
  have hstate := start_state h
  refine ⟨hstate ▸ op.initialState_sound, ?_, ?_, ?_⟩
  · rw [hstate]
    exact nofun
  · rw [hstate]
    exact nofun
  · rw [hstate]
    exact nofun

theorem Secured.step (h : op.Secured u)
    (ht : (op.engine workflow agent operationId instanceId).Timely u)
    (hs : (op.engine workflow agent operationId instanceId).step u = .ok u') :
    op.Secured u' ∧ Progress u.state u'.state := by
  have hlater := (Engine.step_onward hs).later
  have hqueue := Engine.step_evolves hs
  have hlegible := (ht.step hs).onTime.legible
  cases step_takes hs with
  | still state =>
    refine ⟨h.keep (state ▸ h.sound) (by rw [state]) (by rw [state]) hqueue hlater, ?_⟩
    rw [state]
    exact .of_asked (.stays _) rfl
  | @change cause t effects admitted change state gone =>
    have hnew : ∀ event, cause = .event event → Authored event op.approvalEvent →
        u.state.evidence.approval = none := by
      intro event he authored
      by_contra hsome
      have hspent := h.spent (Option.isSome_iff_ne_none.mpr hsome)
      exact hspent.absent event (gone event he).1.mem authored.identity
    have hsound : op.Sound u'.state := by
      rw [state]
      exact (change.sound h.sound hnew).bump
    have hprogress : Progress u.state u'.state := by
      rw [state]
      have hprogress := change.progress h.sound
      exact { hprogress with }
    refine ⟨?_, hprogress⟩
    have hsame : t.evidence = u.state.evidence →
        t.case.authorityRequestedAt = u.state.case.authorityRequestedAt → op.Secured u' := by
      intro he ha
      exact h.keep hsound (by rw [state]; exact he) (by rw [state]; exact ha) hqueue hlater
    cases change with
    | paid =>
      apply hsame
      all_goals
        unfold CommerceProfilesDomain.paid
        split <;> rfl
    | proven authored authorized since delay fresh =>
      have hnone : u.state.case.authorityRequestedAt = none := by
        by_contra hsome
        have hproven := h.sound.proven (h.sound.asked (Option.isSome_iff_ne_none.mpr hsome))
        rw [fresh] at hproven
        cases hproven
      refine ⟨hsound, ?_, ?_, ?_⟩
      · rw [state]
        exact fun ha => (h.spent ha).evolves hqueue
      · rw [state]
        intro proof hproof
        obtain rfl := Option.some.inj hproof
        exact ⟨_, hlegible, le_rfl⟩
      · rw [state]
        intro proof requestedAt _ hsome
        cases hnone.symm.trans hsome
    | granted authored requested onFile =>
      refine ⟨hsound, fun _ => ?_, ?_, ?_⟩
      · rw [← show _ = "approval_1" from authored.identity]
        exact (gone _ rfl).2
      · rw [state]
        intro proof hproof
        obtain ⟨n, hn, hle⟩ := h.supplied proof hproof
        exact ⟨n, hn, hle.trans hlater⟩
      · rw [state]
        exact h.ordered
    | requested decided onFile =>
      refine ⟨hsound, ?_, ?_, ?_⟩
      · rw [state]
        exact fun ha => (h.spent ha).evolves hqueue
      · rw [state]
        intro proof hproof
        obtain ⟨n, hn, hle⟩ := h.supplied proof hproof
        exact ⟨n, hn, hle.trans hlater⟩
      · rw [state]
        intro proof requestedAt hproof hrequested
        obtain rfl := Option.some.inj hrequested
        obtain ⟨n, hn, hle⟩ := h.supplied proof hproof
        exact ⟨n, _, hn, hlegible, hle.trans hlater⟩
    | _ => exact hsame rfl rfl

theorem secured_of_runs (h₀ : (op.engine workflow agent operationId instanceId).start = .ok u₀)
    {P : EngineState ProfileState → Prop}
    (h : (op.engine workflow agent operationId instanceId).RunsVia P u₀ u) : op.Secured u := by
  have hboth := Run.invariant (I := fun u =>
      (op.engine workflow agent operationId instanceId).Timely u ∧ op.Secured u) h
    ⟨Engine.start_timely plan_forward h₀, start_secured h₀⟩ ?_
  · exact hboth.2
  · rintro u _ u' ⟨ht, hu⟩ _ hs
    exact ⟨ht.step hs, (hu.step ht hs).1⟩

/-- The money of a case: it was submitted at most once, and only behind a proof, a request that
came after it and a grant that came exactly when it was due. -/
structure Guarded (op : CommerceProfilesDomain) (s : ProfileState) : Prop where
  quoted : s.case.amountMinor = op.quoteAmount
  account : Conserved op.quoteAmount s.payment
  warranted : s.payment.intentId.isSome → ∃ proof grant requestedAt, ∃ supplied requested : Int,
    op.Warrant s proof grant requestedAt ∧ strptime proof.suppliedAt = .ok supplied ∧
      strptime requestedAt = .ok requested ∧ supplied ≤ requested ∧
      strptime grant.grantedAt = .ok (requested + op.approvalEvent.delayMinutes * 60)
  entitled : entitlement op.facts ≠ .refund →
    s.payment.intentId = none ∧ s.payment.submissionCount = 0

theorem Secured.guarded (h : op.Secured u) : op.Guarded u.state where
  quoted := h.sound.amount
  account := h.sound.balanced.conserved op.quote_pos
  warranted := by
    intro hsome
    obtain ⟨proof, grant, requestedAt, hw⟩ := h.sound.warranted hsome
    obtain ⟨supplied, requested, hs, hr, hle⟩ := h.ordered proof requestedAt hw.onFile hw.requested
    obtain ⟨_, n, hn, _, hgranted⟩ := shiftMinutes_ok hw.delay
    obtain rfl := Except.ok.inj (hr.symm.trans hn)
    exact ⟨proof, grant, requestedAt, supplied, requested, hw, hs, hr, hle, hgranted⟩
  entitled := by
    intro hne
    have hnone : u.state.payment.intentId = none := by
      by_contra hsome
      obtain ⟨_, _, _, hw⟩ := h.sound.warranted (Option.isSome_iff_ne_none.mpr hsome)
      exact hne (h.sound.decided _ hw.decided).symm
    have hb := h.sound.balanced
    rw [Balanced, h.sound.balanced.unsubmitted hnone] at hb
    exact ⟨hnone, hb.2.2.2⟩

/-- The quoted money moves at most once and only behind proof and grant, and the last word of the
processor stands. -/
theorem money_moves_once (h₀ : (op.engine workflow agent operationId instanceId).start = .ok u₀)
    (h : (op.engine workflow agent operationId instanceId).RunsVia (fun _ => True) u₀ u) :
    op.Guarded u.state ∧
    (∀ u', (op.engine workflow agent operationId instanceId).step u = .ok u' →
      Progress u.state u'.state) ∧
    ∀ u', (op.engine workflow agent operationId instanceId).RunsVia (fun _ => True) u u' →
      u.state.payment.status.Final → u'.state.payment.status = u.state.payment.status := by
  have hu := secured_of_runs h₀ h
  have ht := Engine.timely_of_runs plan_forward h₀ h
  refine ⟨hu.guarded, fun u' hs => (hu.step ht hs).2, ?_⟩
  intro u' h' hf
  have hlast := Run.invariant (I := fun u' =>
      (op.engine workflow agent operationId instanceId).Timely u' ∧ op.Secured u' ∧
        u'.state.payment.status = u.state.payment.status) h' ⟨ht, hu, rfl⟩ ?_
  · exact hlast.2.2
  · rintro v _ v' ⟨htv, hv, hstatus⟩ _ hs
    obtain ⟨hv', hprogress⟩ := hv.step htv hs
    refine ⟨htv.step hs, hv', ?_⟩
    rw [hprogress.moves.final (hstatus ▸ hf), hstatus]

/-- The shipped withdrawal is settled, and stays so to the end of the case. -/
theorem refund_settles_once : ∃ u₀ u u' : EngineState ProfileState,
    (Fixture.engine .normal Fixture.refunds).start = .ok u₀ ∧
    u.state.payment.status = .settled ∧ u.state.payment.settledMinor = 4500 ∧
    u'.state.case.terminal = some .refunded ∧ u'.state.payment.status = .settled ∧
    (Fixture.operation .normal).Guarded u.state := by
  obtain ⟨u₀, h₀, hc⟩ := ok_of_any (x := (Fixture.engine .normal Fixture.refunds).start)
    (p := fun u₀ => ((Fixture.engine .normal Fixture.refunds).runSteps 15 u₀).toOption.any fun u =>
      u.state.payment.status = .settled && u.state.payment.settledMinor = 4500 &&
        ((Fixture.engine .normal Fixture.refunds).runSteps 6 u).toOption.any fun u' =>
          u'.state.case.terminal = some .refunded) (by decide +kernel)
  obtain ⟨u, hu, hc⟩ := ok_of_any hc
  simp only [Bool.and_eq_true, decide_eq_true_eq] at hc
  obtain ⟨⟨hsettled, hminor⟩, hc⟩ := hc
  obtain ⟨u', hu', hterminal⟩ := ok_of_any hc
  obtain ⟨hguarded, -, hlast⟩ := money_moves_once h₀ (Engine.runSteps_runs hu)
  exact ⟨u₀, u, u', h₀, hsettled, hminor, of_decide_eq_true hterminal,
    (hlast u' (Engine.runSteps_runs hu') (Or.inl hsettled)).trans hsettled, hguarded⟩

end Runs

end CommerceProfilesDomain

namespace CommerceProfilesDomain

section Grading

variable (op : CommerceProfilesDomain)

/-- The branch that the grader reads off the scenario. -/
def branch : Except PyError Entitlement :=
  if !op.facts.ordinaryGoods || !op.facts.jurisdictionStipulated ||
      op.facts.transactionProof = .unknown then .ok .review
  else if op.facts.reason = .fault then
    .ok <| if op.facts.profileId = .auVic && op.facts.rejectionTimelyStipulated then
      match op.facts.fault, op.facts.consumerChoice with
      | .major, .refund => .refund
      | .minor, .refund | .minor, .repair | .minor, .replacement => .repair
      | _, _ => .review
    else .review
  else if op.facts.profileId.statutory then do
    let lastNotice ← op.facts.deliveryDate.addDays 14
    return (if op.facts.disclosed && op.facts.channel = .distance &&
      op.facts.noticeSentDate.ordinal ≤ lastNotice.ordinal then .refund else .review)
  else if !op.facts.policyDisplayProven then .ok .review
  else do
    let lastPolicy ← op.facts.purchaseDate.addDays 30
    return (if op.facts.merchantPolicy = .m30 && op.facts.unused &&
      op.facts.noticeSentDate.ordinal ≤ lastPolicy.ordinal then .refund else .denyVoluntary)

def gradedAmount : Int :=
  op.facts.priceMinor +
    if op.facts.profileId.statutory then op.facts.standardDeliveryMinor else 0

def gradedCurrency : String :=
  match op.facts.profileId with
  | .uk => "GBP"
  | .de => "EUR"
  | .usCa => "USD"
  | .auVic => "AUD"

/-- The date by which the grader wants the money back, on a proof of the instant. -/
def clockDue (proofAt : Int) : Except PyError (Option CivilDate) :=
  match op.facts.profileId with
  | .uk => ((op.zone.localDate op.profile.timezone proofAt).addDays 14).map some
  | .de => (op.facts.noticeReceivedDate.addDays 14).map some
  | .usCa | .auVic => .ok none

/-- The case is what the grader demands of it. -/
structure Graded (s : ProfileState) : Prop where
  decision : ∀ decision, s.case.decision = some decision → op.branch = .ok decision
  amount : s.case.amountMinor = op.gradedAmount
  currency : s.case.currency = op.gradedCurrency
  clock : ∀ proof, s.evidence.proof = some proof → ∃ proofAt,
    strptime proof.suppliedAt = .ok proofAt ∧ op.clockDue proofAt = .ok s.case.refundDueDate
  money : s.payment.settledMinor = 0 ∨ s.payment.settledMinor = op.gradedAmount
  unentitled : op.branch ≠ .ok .refund →
    s.payment.submissionCount = 0 ∧ s.payment.settledMinor = 0

/-- The date to refund by, as every call leaves it. -/
structure Clocked (s : ProfileState) : Prop where
  unproven : s.evidence.proof = none → s.case.refundDueDate = op.refundDueDate
  fixed : ∀ proof, s.evidence.proof = some proof → ∃ proofAt,
    strptime proof.suppliedAt = .ok proofAt ∧ op.clockDue proofAt = .ok s.case.refundDueDate
  authorized : s.case.returnAuthorized = true → s.case.decision = some .refund

variable {op} {s t : ProfileState} {cause : Cause} {effects : List Effect} {now : String}

/-- The notice comes in January 2026, and everything before it earlier. -/
theorem noticeReceivedDate_lt (op : CommerceProfilesDomain) :
    op.facts.noticeReceivedDate.ordinal < 739700 := by
  have hreceived := op.scenario.received
  have hpinned := op.scenario.pinned
  simp only [january, Calendar.epochOrdinal] at hreceived hpinned
  unfold facts
  omega

theorem addDays_ok {date : CivilDate} {days : Int}
    (h : 1 ≤ date.ordinal + days ∧ date.ordinal + days ≤ 3652059) :
    date.addDays days = .ok ⟨date.ordinal + days, h⟩ := dif_pos h

/-- The grader's branch is what the published rules grant. -/
theorem branch_eq (op : CommerceProfilesDomain) : op.branch = .ok (entitlement op.facts) := by
  have hbefore := noticeReceivedDate_lt op
  obtain ⟨hdelivered, hsent, hreceived, _⟩ := op.scenario.chronology
  have hpurchase := op.facts.purchaseDate.inCalendar
  have hdelivery := op.facts.deliveryDate.inCalendar
  change op.facts.purchaseDate.ordinal ≤ op.facts.deliveryDate.ordinal at hdelivered
  change op.facts.deliveryDate.ordinal ≤ op.facts.noticeSentDate.ordinal at hsent
  change op.facts.noticeSentDate.ordinal ≤ op.facts.noticeReceivedDate.ordinal at hreceived
  unfold branch entitlement
  split
  · rfl
  split
  · cases op.facts.profileId <;> cases op.facts.rejectionTimelyStipulated <;>
      cases op.facts.fault <;> cases op.facts.consumerChoice <;> rfl
  split
  · rw [addDays_ok (by omega)]
    have hnotice : op.facts.noticeSentDate.ordinal ≤ op.facts.deliveryDate.ordinal + 14 ↔
        op.facts.noticeSentDate.daysSince op.facts.deliveryDate ≤ 14 := by
      unfold CivilDate.daysSince
      omega
    rw [ok_bind]
    simp only [hnotice]
    cases op.facts.disclosed <;> cases op.facts.channel <;> simp <;> rfl
  split
  · rfl
  · rw [addDays_ok (by omega)]
    have hnotice : op.facts.noticeSentDate.ordinal ≤ op.facts.purchaseDate.ordinal + 30 ↔
        op.facts.noticeSentDate.daysSince op.facts.purchaseDate ≤ 30 := by
      unfold CivilDate.daysSince
      omega
    rw [ok_bind]
    simp only [hnotice]
    cases op.facts.merchantPolicy <;> cases op.facts.unused <;> simp <;> rfl

theorem gradedCurrency_eq (op : CommerceProfilesDomain) :
    op.profile.currency = op.gradedCurrency := by
  unfold profile gradedCurrency
  cases op.facts.profileId <;> rfl

theorem initialState_clocked (op : CommerceProfilesDomain) : op.Clocked op.initialState where
  unproven _ := rfl
  fixed := nofun
  authorized := nofun

/-- The date that the proof fixes is the one the grader computes. -/
theorem clockDue_of_dueDate {proofAt : Int} {due : Option CivilDate}
    (hfacts : s.case.facts = op.facts) (howed : op.DueDate s proofAt due)
    (hbefore : s.case.refundDueDate = op.refundDueDate)
    (hrefund : entitlement op.facts = .refund) : op.clockDue proofAt = .ok due := by
  have hbound := noticeReceivedDate_lt op
  have hnotice := op.facts.noticeReceivedDate.inCalendar
  unfold DueDate at howed
  unfold clockDue
  rw [hfacts] at howed
  cases hprofile : op.facts.profileId with
  | uk =>
    rw [if_pos hprofile] at howed
    obtain ⟨date, hdate, rfl⟩ := howed
    rw [hdate]
    rfl
  | de =>
    rw [if_neg (by rw [hprofile]; decide), hbefore, refundDueDate,
      if_pos ⟨hprofile, hrefund⟩, addDays_ok (by omega)] at howed
    dsimp only
    rw [howed, addDays_ok (by omega)]
    rfl
  | usCa | auVic =>
    rw [if_neg (by rw [hprofile]; decide), hbefore, refundDueDate,
      if_neg fun hde => by rw [hprofile] at hde; cases hde.1] at howed
    rw [howed]

theorem Change.clocked (hc : op.Change now s cause t effects) (hs : op.Sound s)
    (h : op.Clocked s) : op.Clocked t := by
  cases hc with
  | proven authored authorized since delay fresh moment owed =>
    have hrefund := (hs.decided _ (h.authorized authorized)).symm
    refine ⟨nofun, fun proof hproof => ?_, h.authorized⟩
    obtain rfl := Option.some.inj hproof
    exact ⟨_, moment, clockDue_of_dueDate hs.facts owed (h.unproven fresh) hrefund⟩
  | paid =>
    unfold CommerceProfilesDomain.paid
    split <;> exact ⟨h.unproven, h.fixed, h.authorized⟩
  | decided first =>
    refine ⟨h.unproven, h.fixed, fun hauthorized => ?_⟩
    cases first.symm.trans (h.authorized hauthorized)
  | authorized decided => exact ⟨h.unproven, h.fixed, fun _ => decided⟩
  | _ => exact ⟨h.unproven, h.fixed, h.authorized⟩

section Runs

variable {workflow : Fields} {agent : OperationAgent} {operationId instanceId : String}
  {u u' u₀ : EngineState ProfileState}

theorem clocked_of_runs (h₀ : (op.engine workflow agent operationId instanceId).start = .ok u₀)
    {P : EngineState ProfileState → Prop}
    (h : (op.engine workflow agent operationId instanceId).RunsVia P u₀ u) :
    op.Clocked u.state := by
  have hboth := Run.invariant (I := fun u =>
      (op.engine workflow agent operationId instanceId).RunsVia (fun _ => True) u₀ u ∧
        op.Clocked u.state) h ⟨.refl u₀, start_state h₀ ▸ initialState_clocked op⟩ ?_
  · exact hboth.2
  · rintro u a u' ⟨hrun, hu⟩ _ hs
    refine ⟨hrun.tail (a := a) trivial hs, ?_⟩
    cases step_takes hs with
    | still state => exact state ▸ hu
    | change _ change state =>
      rw [state]
      have ht := change.clocked (secured_of_runs h₀ hrun).sound hu
      exact ⟨ht.unproven, ht.fixed, ht.authorized⟩

/-- In every run the case is decided, quoted, paid and timed as the grader demands it. -/
theorem graded_of_runs (h₀ : (op.engine workflow agent operationId instanceId).start = .ok u₀)
    {P : EngineState ProfileState → Prop}
    (h : (op.engine workflow agent operationId instanceId).RunsVia P u₀ u) :
    op.Graded u.state := by
  have hsecured := secured_of_runs h₀ h
  have hsound := hsecured.sound
  constructor
  · intro decision hdecision
    rw [branch_eq, hsound.decided decision hdecision]
  · exact hsound.amount
  · rw [hsound.currency, gradedCurrency_eq]
  · exact (clocked_of_runs h₀ h).fixed
  · have hbalanced := hsound.balanced
    unfold Balanced at hbalanced
    split at hbalanced
    · exact .inl hbalanced.2.2.1
    · exact .inr hbalanced.2.2.1
    all_goals exact .inl hbalanced.2.2.1
  · intro hbranch
    rw [branch_eq] at hbranch
    have hentitled := hsecured.guarded.entitled fun hrefund => hbranch (congrArg Except.ok hrefund)
    have hbalanced := hsound.balanced
    rw [Balanced, hsound.balanced.unsubmitted hentitled.1] at hbalanced
    exact ⟨hentitled.2, hbalanced.2.2.1⟩

/-- The shipped withdrawal is proven, and to be refunded within two weeks. -/
theorem refund_graded : ∃ u₀ u : EngineState ProfileState,
    (Fixture.engine .normal Fixture.refunds).start = .ok u₀ ∧
    u.state.case.decision = some .refund ∧ u.state.evidence.proof.isSome = true ∧
    (Fixture.operation .normal).Graded u.state := by
  obtain ⟨u₀, h₀, hc⟩ := ok_of_any (x := (Fixture.engine .normal Fixture.refunds).start)
    (p := fun u₀ => ((Fixture.engine .normal Fixture.refunds).runSteps 15 u₀).toOption.any fun u =>
      u.state.case.decision = some .refund && u.state.evidence.proof.isSome) (by decide +kernel)
  obtain ⟨u, hu, hc⟩ := ok_of_any hc
  obtain ⟨hdecision, hproof⟩ := Bool.and_eq_true_iff.mp hc
  exact ⟨u₀, u, h₀, of_decide_eq_true hdecision, hproof,
    graded_of_runs h₀ (Engine.runSteps_runs hu)⟩

end Runs

end Grading

end CommerceProfilesDomain

end OperateBench.Profiles
