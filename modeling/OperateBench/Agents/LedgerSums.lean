import OperateBench.Agents.Tallies
import OperateBench.ExecutionLedger.Totals
import OperateBench.Foundation.Associations

/-! # The totals of the guard and of the ledger

The ledger adds up the texts of the amounts that the guard has accumulated call by call. Both come
to the same text, and neither rounds exactly when every price and every sum has digits enough.
-/

namespace OperateBench.Agents

open Foundation ExecutionLedger Providers.SignedAmount LifecyclePricingPolicy LifecycleCostGuard
  DecimalContext Association

section Texts

variable {amounts : List SignedDecimal} {total total' r : SignedDecimal}

theorem sumFrom_texts (hkey : key total = key total')
    (h : amounts.foldlM pricingContext.addSigned total = .ok r) :
    ∃ r', sumFrom total' (amounts.map usdText) = .ok r' ∧ key r' = key r := by
  induction amounts generalizing total total' with
  | nil =>
    obtain rfl := Except.ok.inj h
    exact ⟨total', rfl, hkey.symm⟩
  | cons a amounts ih =>
    rw [List.foldlM_cons] at h
    obtain ⟨next, hnext, h⟩ := bind_ok h
    have halike := addSigned_congr pricing_range hkey (key_stated a).symm
    rw [hnext] at halike
    obtain ⟨next', hnext', hkey'⟩ := map_ok halike.symm
    obtain ⟨r', hr', hlast⟩ := ih hkey'.symm h
    refine ⟨r', ?_, hlast⟩
    have hcontext : ledgerContext.addSigned total' (stated a) = .ok next' := hnext'
    rw [List.map_cons, sumFrom, ofText_usdText]
    simp only [hcontext]
    exact hr'

/-- The ledger's total of the texts is the text of the total. -/
theorem sumAmounts_texts (h : amounts.foldlM pricingContext.addSigned (.ofInt 0) = .ok total) :
    sumAmounts (amounts.map usdText) = .ok (usdText total) := by
  obtain ⟨r, hr, hkey⟩ := sumFrom_texts rfl h
  obtain ⟨hs, hv⟩ := key_eq.mp hkey
  rw [sumAmounts, hr]
  exact congrArg Except.ok (usdText_congr hs hv)

end Texts

section Accumulation

variable {g : LifecycleCostGuard} {calls : List Call}

/-- A total that every call accumulates is what the amounts of a run come to. -/
theorem run_accumulates {field : LifecycleCostGuard → SignedDecimal}
    {entry : GuardVisit → Option SignedDecimal} (hstart : field g = .ofInt 0)
    (hstep : ∀ v, Tallied v → accumulate (field v.before) (entry v) = .ok (field v.after)) :
    ((visits perform g calls).filterMap entry).foldlM pricingContext.addSigned (.ofInt 0) =
      .ok (field (afterAll perform g calls)) := by
  have hrun : ([] ++ (visits perform g calls).filterMap entry).foldlM pricingContext.addSigned
      (.ofInt 0) = .ok (field (afterAll perform g calls)) := by
    apply visits_invariant (P := fun _ => True) (I := fun s (log : List SignedDecimal) =>
      log.foldlM pricingContext.addSigned (.ofInt 0) = .ok (field s))
    · exact congrArg Except.ok hstart.symm
    · intro s log call hlog _
      have htally : accumulate (field s) (entry (visit perform s call)) =
          .ok (field (visit perform s call).after) := hstep _ visit_tallied
      rw [List.foldlM_append, hlog]
      cases hentry : entry (visit perform s call) with
      | none =>
        rw [hentry] at htally
        exact htally
      | some a =>
        rw [hentry] at htally
        simp only [Option.toList_some, List.foldlM_cons, List.foldlM_nil, bind_pure]
        exact htally
    · exact fun _ _ => trivial
  exact hrun

end Accumulation

section Rounding

variable {amounts : List SignedDecimal} {total r : SignedDecimal} {t : FreeMagma SignedDecimal}

/-- In any association the amounts come to the same text, and no sum is rounded. -/
def Associates (amounts : List SignedDecimal) (total : SignedDecimal) : Prop :=
  ∀ t, leaves t = .ofInt 0 :: amounts →
    Exactly pricingContext.addSigned SignedDecimal.value t ∧
      ∃ r, evaluate pricingContext.addSigned t = .ok r ∧ usdText r = usdText total

/-- The sum of every stretch of the amounts has digits enough. -/
def FitsSums (amounts : List ℚ) : Prop := ∀ m, m <:+: 0 :: amounts → 2 ≤ m.length → Fits m.sum

theorem addSigned_exact_iff (x y : SignedDecimal) : Fits (x.value + y.value) ↔
    ∃ c, pricingContext.addSigned x y = .ok c ∧ c.value = x.value + y.value := by
  constructor
  · exact add_exact
  · rintro ⟨c, hc, hv⟩
    rw [← hv]
    exact fixSigned_fits pricing_range hc

theorem value_of_sign (x : SignedDecimal) :
    (x.negative = true → x.value ≤ 0) ∧ (x.negative = false → 0 ≤ x.value) := by
  have hscale : 0 ≤ (x.coefficient : ℚ) * 10 ^ x.exponent :=
    mul_nonneg (Nat.cast_nonneg _) (Decimal.scale_pos _).le
  constructor
  · intro h
    simpa [SignedDecimal.value, SignedDecimal.toDecimal, Decimal.value, h] using hscale
  · intro h
    simpa [SignedDecimal.value, SignedDecimal.toDecimal, Decimal.value, h] using hscale

/-- A total is a negative zero only if each of its terms is. -/
theorem negative_zero (h : Exactly pricingContext.addSigned SignedDecimal.value t)
    (hr : evaluate pricingContext.addSigned t = .ok r) (hneg : r.negative = true)
    (hzero : r.value = 0) : ∀ a ∈ leaves t, a.negative = true := by
  induction t generalizing r with
  | ih1 a =>
    obtain rfl := Except.ok.inj hr
    intro b hb
    rwa [List.mem_singleton.mp hb]
  | ih2 s u ihs ihu =>
    obtain ⟨hs, hu, hnode⟩ := h
    obtain ⟨a, ha, hr⟩ := bind_ok hr
    obtain ⟨b, hb, hr⟩ := bind_ok hr
    obtain ⟨hsign, -⟩ := fixSigned_ok hr
    obtain ⟨c, hc, hcv⟩ := hnode a b ha hb
    obtain rfl := Except.ok.inj (hr.symm.trans hc)
    have hsum : a.value + b.value = 0 := hcv.symm.trans hzero
    have hkey := congrArg Prod.fst (key_exactSum (x := a) (y := b))
    rw [if_pos hsum] at hkey
    have hboth : (a.negative && b.negative) = true := hkey.symm.trans (hsign.symm.trans hneg)
    obtain ⟨han, hbn⟩ := Bool.and_eq_true_iff.mp hboth
    have hale := (value_of_sign a).1 han
    have hble := (value_of_sign b).1 hbn
    intro x hx
    rcases List.mem_append.mp hx with hx | hx
    · exact ihs hs ha han (by linarith) x hx
    · exact ihu hu hb hbn (by linarith) x hx

theorem key_of_association (h : Exactly pricingContext.addSigned SignedDecimal.value t)
    (ht : leaves t = .ofInt 0 :: amounts) (hr : evaluate pricingContext.addSigned t = .ok r) :
    key r = (decide (r.value < 0), r.value) := by
  rw [key, Prod.mk_inj]
  refine ⟨?_, rfl⟩
  cases hneg : r.negative with
  | false => exact (decide_eq_false ((value_of_sign r).2 hneg).not_gt).symm
  | true =>
    apply (decide_eq_true _).symm
    apply lt_of_le_of_ne ((value_of_sign r).1 hneg)
    intro hzero
    have hflag := negative_zero h hr hneg hzero (.ofInt 0) (by rw [ht]; exact List.mem_cons_self)
    cases hflag

theorem associates_iff
    (hfold : amounts.foldlM pricingContext.addSigned (.ofInt 0) = .ok total) :
    Associates amounts total ↔ FitsSums (amounts.map SignedDecimal.value) := by
  have hzero : (0 : ℚ) :: amounts.map SignedDecimal.value =
      (SignedDecimal.ofInt 0 :: amounts).map SignedDecimal.value := by
    simp [ofInt_value]
  have hiff := exactly_iff (l := SignedDecimal.ofInt 0 :: amounts) addSigned_exact_iff
  rw [FitsSums, hzero, ← hiff]
  constructor
  · intro h t ht
    exact (h t ht).1
  · intro h t ht
    refine ⟨h t ht, ?_⟩
    have hserial : leaves (attach [] amounts (.of (SignedDecimal.ofInt 0))) =
        .ofInt 0 :: amounts := leaves_attach [] amounts
    have htotal : evaluate pricingContext.addSigned
        (attach [] amounts (.of (SignedDecimal.ofInt 0))) = .ok total := by
      rw [evaluate_attach]
      exact hfold
    obtain ⟨r, hr, hv⟩ := exactly_evaluate (h t ht)
    obtain ⟨total', htotal', hv'⟩ := exactly_evaluate (h _ hserial)
    obtain rfl := Except.ok.inj (htotal.symm.trans htotal')
    have hvalue : r.value = total.value := by rw [hv, hv', ht, hserial]
    have hkey : key r = key total := by
      rw [key_of_association (h t ht) ht hr, key_of_association (h _ hserial) hserial htotal, hvalue]
    obtain ⟨hs, hv⟩ := key_eq.mp hkey
    exact ⟨r, hr, usdText_congr hs hv⟩

end Rounding

section Runs

/-- The exact price of a call that was authorised. -/
def authorizedCharge (v : GuardVisit) : Option ℚ :=
  match v.call with
  | .authorize bound =>
    (authorizedAt v).map fun _ => v.before.policy.charge bound v.before.maxOutputTokens
  | _ => none

/-- The exact price of the counts that a call was settled with. -/
def measuredCharge (v : GuardVisit) : Option ℚ :=
  match v.call with
  | .settle _ (some i) (some o) => (measuredAt v).map fun _ => v.before.policy.charge i o
  | _ => none

/-- What is recorded of a call is what the ledger derives again. -/
structure Rederived (controls : LedgerControls) (v : GuardVisit) : Prop where
  authorized : ∀ bound p, v.call = .authorize bound → authorizedAt v = some p →
    deriveReservationUsd bound controls = .ok (usdText p)
  events : v.after.pendingEvents = v.before.pendingEvents ++ (eventOf v).toList
  measured : ∀ m, measuredAt v = some m → ∃ reservation i o,
    v.call = .settle reservation (some i) (some o) ∧
      deriveMeasuredUsd i o controls = .ok (usdText m)
  forfeited : ∀ e amount, eventOf v = some e → e.forfeitedUsd = some amount →
    amount = e.reservationUsd

/-- The prices, the recorded amounts and the totals of a run are the same texts on both sides. -/
structure Agreed (controls : LedgerControls) (g : LifecycleCostGuard) (calls : List Call) :
    Prop where
  prices : ∀ i o, 0 ≤ i → 0 ≤ o → ∃ result : Except DecimalSignal SignedDecimal,
    g.policy.price i o = result.mapError .decimal ∧
      priced controls i o = ExecutionLedger.arithmetic (result.map usdText)
  rows : ∀ v ∈ visits perform g calls, Rederived controls v
  reserved : sumAmounts (((visits perform g calls).filterMap authorizedAt).map usdText) =
    .ok (usdText (afterAll perform g calls).reserved)
  measured : sumAmounts (((visits perform g calls).filterMap measuredAt).map usdText) =
    .ok (usdText (afterAll perform g calls).measured)
  forfeited : sumAmounts (((visits perform g calls).filterMap forfeitedAt).map usdText) =
    .ok (usdText (afterAll perform g calls).forfeited)

/-- No price of a run is rounded, and no total of it in any association. -/
structure RunUnrounded (g : LifecycleCostGuard) (calls : List Call) : Prop where
  prices : ∀ v ∈ visits perform g calls, ∀ i o, Priced v.before v.call i o → 0 ≤ i → 0 ≤ o →
    g.policy.Unrounded i o
  reserved : Associates ((visits perform g calls).filterMap authorizedAt)
    (afterAll perform g calls).reserved
  measured : Associates ((visits perform g calls).filterMap measuredAt)
    (afterAll perform g calls).measured
  forfeited : Associates ((visits perform g calls).filterMap forfeitedAt)
    (afterAll perform g calls).forfeited

/-- The exact prices of a run and the sums of their stretches have digits enough. -/
structure RunFits (g : LifecycleCostGuard) (calls : List Call) : Prop where
  prices : ∀ v ∈ visits perform g calls, ∀ i o, Priced v.before v.call i o → 0 ≤ i → 0 ≤ o →
    g.policy.Exact i o
  reserved : FitsSums ((visits perform g calls).filterMap authorizedCharge)
  measured : FitsSums ((visits perform g calls).filterMap measuredCharge)
  forfeited : FitsSums (((visits perform g calls).filterMap forfeitedAt).map SignedDecimal.value)

variable {policy : LifecyclePricingPolicy} {capUsd : RateArgument} {max : ℤ} {hard : Option ℤ}
  {g : LifecycleCostGuard} {calls : List Call} {controls : LedgerControls} {v : GuardVisit}

theorem visits_tallied (hv : v ∈ visits perform g calls) :
    Tallied v ∧ v.before.policy = g.policy ∧ v.before.maxOutputTokens = g.maxOutputTokens := by
  obtain ⟨hbefore, hvisit⟩ := visits_before (P := fun _ => True)
    (I := fun s => s.policy = g.policy ∧ s.maxOutputTokens = g.maxOutputTokens) ⟨rfl, rfl⟩
    (fun s call hs _ => by
      have htally : Tallied (visit perform s call) := visit_tallied
      exact ⟨htally.policy.trans hs.1, htally.maxOutputTokens.trans hs.2⟩)
    (fun _ _ => trivial) hv
  refine ⟨?_, hbefore⟩
  rw [hvisit]
  exact visit_tallied

theorem forfeited_event {e : GuardEvent} {amount : SignedDecimal} (he : eventOf v = some e)
    (hf : e.forfeitedUsd = some amount) : amount = e.reservationUsd := by
  unfold eventOf at he
  split at he
  · obtain rfl := Option.some.inj he
    cases hf
  · obtain rfl := Option.some.inj he
    exact (Option.some.inj hf).symm
  · obtain rfl := Option.some.inj he
    cases hf
  · obtain rfl := Option.some.inj he
    exact (Option.some.inj hf).symm
  · cases he

theorem visit_rederived (hbuilt : BuiltFrom g.policy g.maxOutputTokens controls)
    (hv : v ∈ visits perform g calls) : Rederived controls v := by
  obtain ⟨htally, hpolicy, hmax⟩ := visits_tallied hv
  rw [← hpolicy, ← hmax] at hbuilt
  constructor
  · intro bound p hcall hp
    obtain ⟨bound', hcall', -, hprice⟩ := htally.authorized p hp
    rw [hcall] at hcall'
    cases hcall'
    exact deriveReservation_of_price hbuilt hprice
  · exact htally.events
  · intro m hm
    obtain ⟨reservation, i, o, hcall, hprice⟩ := htally.settled m hm
    exact ⟨reservation, i, o, hcall, deriveMeasured_of_price hbuilt hprice⟩
  · intro e amount he hf
    exact forfeited_event he hf

theorem authorizedCharge_eq (htally : Tallied v) (hmax : 0 ≤ v.before.maxOutputTokens)
    (h : ∀ i o, Priced v.before v.call i o → 0 ≤ i → 0 ≤ o → v.before.policy.Exact i o) :
    authorizedCharge v = (authorizedAt v).map SignedDecimal.value := by
  cases hp : authorizedAt v with
  | none =>
    unfold authorizedCharge
    rw [hp]
    split <;> rfl
  | some p =>
    obtain ⟨bound, hcall, hadmits, hprice⟩ := htally.authorized p hp
    obtain ⟨hbound, -⟩ := price_counts hprice
    have hexact := h bound v.before.maxOutputTokens (hcall ▸ .authorize hadmits) hbound hmax
    obtain ⟨p', hp', hcharge⟩ := price_exact hbound hmax hexact
    obtain rfl := Except.ok.inj (hprice.symm.trans hp')
    rw [authorizedCharge, hcall, hp]
    exact congrArg some hcharge.symm

theorem measuredCharge_eq (htally : Tallied v)
    (h : ∀ i o, Priced v.before v.call i o → 0 ≤ i → 0 ≤ o → v.before.policy.Exact i o) :
    measuredCharge v = (measuredAt v).map SignedDecimal.value := by
  cases hm : measuredAt v with
  | none =>
    unfold measuredCharge
    rw [hm]
    split <;> rfl
  | some m =>
    obtain ⟨reservation, i, o, hcall, hprice⟩ := htally.settled m hm
    obtain ⟨hi, ho⟩ := price_counts hprice
    have hexact := h i o (hcall ▸ .settle) hi ho
    obtain ⟨m', hm', hcharge⟩ := price_exact hi ho hexact
    obtain rfl := Except.ok.inj (hprice.symm.trans hm')
    rw [measuredCharge, hcall, hm]
    exact congrArg some hcharge.symm

theorem totals_accumulated (calls : List Call) (hinit : init policy capUsd max hard = .ok g) :
    ((visits perform g calls).filterMap authorizedAt).foldlM pricingContext.addSigned (.ofInt 0) =
        .ok (afterAll perform g calls).reserved ∧
      ((visits perform g calls).filterMap measuredAt).foldlM pricingContext.addSigned (.ofInt 0) =
        .ok (afterAll perform g calls).measured ∧
      ((visits perform g calls).filterMap forfeitedAt).foldlM pricingContext.addSigned (.ofInt 0) =
        .ok (afterAll perform g calls).forfeited := by
  obtain ⟨cap, -, -, -, -, rfl⟩ := init_ok hinit
  refine ⟨?_, ?_, ?_⟩
  · exact run_accumulates rfl fun _ h => h.reserved
  · exact run_accumulates rfl fun _ h => h.measured
  · exact run_accumulates rfl fun _ h => h.forfeited

/-- Guard and ledger agree on every text, and nothing is rounded precisely when the exact prices
and their sums have digits enough. -/
theorem ledger_agrees (hinit : init policy capUsd max hard = .ok g)
    (hbuilt : BuiltFrom g.policy g.maxOutputTokens controls) :
    Agreed controls g calls ∧ (RunUnrounded g calls ↔ RunFits g calls) := by
  obtain ⟨hreserved, hmeasured, hforfeited⟩ := totals_accumulated calls hinit
  have hmax := (books_init hinit).2
  constructor
  · constructor
    · intro i o hi ho
      exact priced_built hbuilt hi ho
    · intro v hv
      exact visit_rederived hbuilt hv
    · exact sumAmounts_texts hreserved
    · exact sumAmounts_texts hmeasured
    · exact sumAmounts_texts hforfeited
  · have hcharges (h : ∀ v ∈ visits perform g calls, ∀ i o, Priced v.before v.call i o →
        0 ≤ i → 0 ≤ o → g.policy.Exact i o) :
        (visits perform g calls).filterMap authorizedCharge =
            ((visits perform g calls).filterMap authorizedAt).map SignedDecimal.value ∧
          (visits perform g calls).filterMap measuredCharge =
            ((visits perform g calls).filterMap measuredAt).map SignedDecimal.value := by
      rw [List.map_filterMap, List.map_filterMap]
      constructor
      · apply List.filterMap_congr
        intro v hv
        obtain ⟨htally, hpolicy, hmax'⟩ := visits_tallied hv
        apply authorizedCharge_eq htally (hmax' ▸ hmax)
        rw [hpolicy]
        exact h v hv
      · apply List.filterMap_congr
        intro v hv
        obtain ⟨htally, hpolicy, -⟩ := visits_tallied hv
        apply measuredCharge_eq htally
        rw [hpolicy]
        exact h v hv
    constructor
    · intro h
      have hexact (v : GuardVisit) (hv : v ∈ visits perform g calls) (i o : ℤ)
          (hpriced : Priced v.before v.call i o) (hi : 0 ≤ i) (ho : 0 ≤ o) :
          g.policy.Exact i o := unrounded_iff.mp (h.prices v hv i o hpriced hi ho)
      obtain ⟨hauthorized, hsettled⟩ := hcharges hexact
      constructor
      · exact hexact
      · exact hauthorized ▸ (associates_iff hreserved).mp h.reserved
      · exact hsettled ▸ (associates_iff hmeasured).mp h.measured
      · exact (associates_iff hforfeited).mp h.forfeited
    · intro h
      obtain ⟨hauthorized, hsettled⟩ := hcharges h.prices
      constructor
      · intro v hv i o hpriced hi ho
        exact unrounded_iff.mpr (h.prices v hv i o hpriced hi ho)
      · exact (associates_iff hreserved).mpr (hauthorized ▸ h.reserved)
      · exact (associates_iff hmeasured).mpr (hsettled ▸ h.measured)
      · exact (associates_iff hforfeited).mpr h.forfeited

end Runs

section Samples

def tenDollarControls : LedgerControls where
  maxProviderCalls := 4
  maxAttemptsPerCall := 1
  expectedProviderCalls := 1
  tokenHardCap := 10
  maxOutputTokens := 1
  costCapUsd := ['1', '0']
  costCapPolicy := "refuse_before_dispatch"
  turnDeadlineSeconds := 60
  wallClockDeadlineSeconds := 600
  pricing := wholeDollars.asDict
  valid := by decide +kernel
  canonical := by decide +kernel

theorem ten_dollars_agree : Agreed tenDollarControls tenDollars oneCall := by
  have hinit : init wholeDollars (.text "10".toList) 1 (some 10) = .ok tenDollars := rfl
  have hbuilt : BuiltFrom tenDollars.policy tenDollars.maxOutputTokens tenDollarControls :=
    ⟨rfl, rfl⟩
  exact (ledger_agrees hinit hbuilt).1

def wideOutputGuard : LifecycleCostGuard := { wideGuard with maxOutputTokens := 5 }

def widePrice : SignedDecimal := ⟨false, 10 ^ 59, 1⟩

def fiveDollars : SignedDecimal := ⟨false, 5000000, -6⟩

def wideSettlements : List Call :=
  [.authorize 1, .settle (.finite widePrice) (some 1) (some 0),
    .authorize 0, .settle (.finite fiveDollars) (some 0) (some 5),
    .authorize 0, .settle (.finite fiveDollars) (some 0) (some 5)]

/-- Five dollars were measured twice and are in no total; taken together they would be in it. -/
theorem wide_rates_lost :
    construct "wide-rates" (.text "1E+66".toList) (.text "1000000".toList)
      "operator_supplied_pinned_rates" = .ok wideRates ∧
    init wideRates (.text "1E+62".toList) 5 none = .ok wideOutputGuard ∧
    (∀ v ∈ visits perform wideOutputGuard wideSettlements, refused v = false) ∧
    ∃ t r, leaves t = .ofInt 0 ::
        (visits perform wideOutputGuard wideSettlements).filterMap measuredAt ∧
      evaluate pricingContext.addSigned t = .ok r ∧
      usdText r ≠ usdText (afterAll perform wideOutputGuard wideSettlements).measured := by
  refine ⟨rfl, rfl, by decide +kernel,
    .mul (.of (.ofInt 0)) (.mul (.of widePrice) (.mul (.of fiveDollars) (.of fiveDollars))),
    ⟨false, 10 ^ 59 + 1, 1⟩, by decide +kernel, rfl, by decide +kernel⟩

end Samples

end OperateBench.Agents
