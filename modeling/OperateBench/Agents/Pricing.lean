import OperateBench.ExecutionLedger.Amounts
import OperateBench.Foundation.Dict
import OperateBench.Foundation.SignedArithmetic
import OperateBench.Foundation.Text

/-! # The pricing policy of a run

Two rates that an operator pinned, an identity, and where the rates came from. The price of a call
is computed in a context of sixty digits.
-/

namespace OperateBench.Agents

open Foundation ExecutionLedger Providers.SignedAmount

section Policy

inductive PricingPolicyError
  | rate (error : AmountError)
  | unnamed
  | rateSource (source : String)
  | count (name : String) (value : ℤ)
  | notPositive (name : String)
  | notReproduced
  | notOutstanding
  | notMostRecent
  | decimal (signal : DecimalSignal)
deriving DecidableEq

/-- What a caller passes for a rate; a float is refused by its type. -/
inductive RateArgument
  | decimal (value : Constructed)
  | integer (value : ℤ)
  | text (value : List Char)

/-- `_rate` -/
def checkRate (value : RateArgument) (name : String) : Except PricingPolicyError SignedDecimal :=
  match value with
  | .text value => (policyRate value name).mapError .rate
  | .integer value =>
    if value < 0 then .error (.rate (.pricingPolicy name .notNonNegative)) else .ok (.ofInt value)
  | .decimal (.finite value) =>
    if value.toDecimal < 0 then .error (.rate (.pricingPolicy name .notNonNegative)) else .ok value
  | .decimal _ => .error (.rate (.pricingPolicy name .notNonNegative))

def rateSources : List String := ["operator_supplied_pinned_rates"]

structure LifecyclePricingPolicy where
  policyId : String
  inputUsdPerMtok : SignedDecimal
  outputUsdPerMtok : SignedDecimal
  rateSource : String
  named : isBlank policyId = false
  sourced : rateSource ∈ rateSources
  input_nonneg : ¬inputUsdPerMtok.toDecimal < 0
  output_nonneg : ¬outputUsdPerMtok.toDecimal < 0

theorem checkRate_ok {value : RateArgument} {name : String} {rate : SignedDecimal}
    (h : checkRate value name = .ok rate) : ¬rate.toDecimal < 0 := by
  unfold checkRate at h
  split at h
  · rename_i text
    rw [policyRate, readNonNegative] at h
    split at h
    · cases h
    · split at h
      · cases h
      · rename_i hnot
        obtain rfl := Except.ok.inj h
        exact hnot
    · cases h
  · rename_i n
    obtain ⟨hnot, h⟩ := unless_ok h
    obtain rfl := Except.ok.inj h
    rw [Decimal.lt_iff, Decimal.value_zero, not_lt, Decimal.value, SignedDecimal.ofInt]
    simp [SignedDecimal.toDecimal, hnot]
  · obtain ⟨hnot, h⟩ := unless_ok h
    obtain rfl := Except.ok.inj h
    exact hnot
  · cases h

namespace LifecyclePricingPolicy

/-- `LifecyclePricingPolicy(...)` -/
def construct (policyId : String) (inputUsdPerMtok outputUsdPerMtok : RateArgument)
    (rateSource : String) : Except PricingPolicyError LifecyclePricingPolicy :=
  if hnamed : isBlank policyId then .error .unnamed
  else if hsourced : rateSource ∈ rateSources then
    match hi : checkRate inputUsdPerMtok "input_usd_per_mtok" with
    | .error e => .error e
    | .ok input =>
      match ho : checkRate outputUsdPerMtok "output_usd_per_mtok" with
      | .error e => .error e
      | .ok output =>
        .ok ⟨policyId, input, output, rateSource, by simpa using hnamed, hsourced,
          checkRate_ok hi, checkRate_ok ho⟩
  else .error (.rateSource rateSource)

variable (policy : LifecyclePricingPolicy)

def asDict : Dict String (List Char) :=
  .ofList [("policy_id", policy.policyId.toList),
    ("input_usd_per_mtok", usdText policy.inputUsdPerMtok),
    ("output_usd_per_mtok", usdText policy.outputUsdPerMtok),
    ("rate_source", policy.rateSource.toList)]

/-- The precision of the policy, with the default exponents. -/
def pricingContext : DecimalContext := { prec := 60, emin := -999999, emax := 999999 }

def price (inputTokens outputTokens : ℤ) : Except PricingPolicyError SignedDecimal :=
  if inputTokens < 0 then .error (.count "input_tokens" inputTokens)
  else if outputTokens < 0 then .error (.count "output_tokens" outputTokens)
  else Except.mapError .decimal <| do
    let input ← pricingContext.mulSigned (.ofInt inputTokens) policy.inputUsdPerMtok
    let output ← pricingContext.mulSigned (.ofInt outputTokens) policy.outputUsdPerMtok
    let total ← pricingContext.addSigned input output
    pricingContext.shiftSigned total 6

/-- The rational number that the price of a call stands for. -/
def charge (inputTokens outputTokens : ℤ) : ℚ :=
  (inputTokens * policy.inputUsdPerMtok.value + outputTokens * policy.outputUsdPerMtok.value) /
    10 ^ 6

/-- No operation of the price needs more digits than there are. -/
structure Exact (inputTokens outputTokens : ℤ) : Prop where
  input : pricingContext.Fits (inputTokens * policy.inputUsdPerMtok.value)
  output : pricingContext.Fits (outputTokens * policy.outputUsdPerMtok.value)
  total : pricingContext.Fits (inputTokens * policy.inputUsdPerMtok.value +
    outputTokens * policy.outputUsdPerMtok.value)
  price : pricingContext.Fits (policy.charge inputTokens outputTokens)

/-- Each operation of the price returns its exact result. -/
structure Unrounded (inputTokens outputTokens : ℤ) : Prop where
  steps : ∃ input output total price,
    pricingContext.mulSigned (.ofInt inputTokens) policy.inputUsdPerMtok = .ok input ∧
    input.value = inputTokens * policy.inputUsdPerMtok.value ∧
    pricingContext.mulSigned (.ofInt outputTokens) policy.outputUsdPerMtok = .ok output ∧
    output.value = outputTokens * policy.outputUsdPerMtok.value ∧
    pricingContext.addSigned input output = .ok total ∧
    total.value = input.value + output.value ∧
    pricingContext.shiftSigned total 6 = .ok price ∧ price.value = total.value / 10 ^ 6

end LifecyclePricingPolicy

end Policy

section Prices

open LifecyclePricingPolicy

variable {policy : LifecyclePricingPolicy} {i o : ℤ} {p : SignedDecimal}

theorem pricing_range : pricingContext.etiny ≤ pricingContext.etop := by decide

theorem ofInt_value (n : ℤ) : (SignedDecimal.ofInt n).value = n := by
  have hn : (if n < 0 then -(n.natAbs : ℤ) else n.natAbs) = n := by
    split <;> omega
  simp only [SignedDecimal.value, SignedDecimal.toDecimal, SignedDecimal.ofInt, decide_eq_true_eq,
    hn, Decimal.value, zpow_zero, mul_one]

theorem unrounded_iff : policy.Unrounded i o ↔ policy.Exact i o := by
  constructor
  · rintro ⟨input, output, total, price, hinput, hi, houtput, ho, htotal, ht, hprice, hp⟩
    constructor
    · exact hi ▸ DecimalContext.fixSigned_fits pricing_range hinput
    · exact ho ▸ DecimalContext.fixSigned_fits pricing_range houtput
    · rw [← hi, ← ho, ← ht]
      exact DecimalContext.fixSigned_fits pricing_range htotal
    · rw [charge, ← hi, ← ho, ← ht, ← hp]
      exact DecimalContext.fixSigned_fits pricing_range hprice
  · intro h
    have hin := h.input
    have hout := h.output
    rw [← ofInt_value i] at hin
    rw [← ofInt_value o] at hout
    obtain ⟨input, hinput, hik⟩ := DecimalContext.mulSigned_exact hin
    obtain ⟨output, houtput, hok⟩ := DecimalContext.mulSigned_exact hout
    have hi : input.value = i * policy.inputUsdPerMtok.value := by
      rw [(DecimalContext.key_eq.mp hik).2, DecimalContext.exactProduct_value, ofInt_value]
    have ho : output.value = o * policy.outputUsdPerMtok.value := by
      rw [(DecimalContext.key_eq.mp hok).2, DecimalContext.exactProduct_value, ofInt_value]
    have hsum := h.total
    rw [← hi, ← ho] at hsum
    obtain ⟨total, htotal, htk⟩ := DecimalContext.addSigned_exact hsum
    have ht : total.value = input.value + output.value := by
      rw [(DecimalContext.key_eq.mp htk).2, DecimalContext.exactSum_value]
    have hshift := h.price
    rw [charge, ← hi, ← ho, ← ht] at hshift
    obtain ⟨price, hprice, -, hp⟩ := DecimalContext.shiftSigned_exact hshift
    exact ⟨input, output, total, price, hinput, hi, houtput, ho, htotal, ht, hprice, hp⟩

/-- A price that needs no rounding is the charge. -/
theorem price_exact (hi : 0 ≤ i) (ho : 0 ≤ o) (h : policy.Exact i o) :
    ∃ p, policy.price i o = .ok p ∧ p.value = policy.charge i o := by
  obtain ⟨input, output, total, price, hinput, hiv, houtput, hov, htotal, ht, hprice, hp⟩ :=
    unrounded_iff.mpr h
  refine ⟨price, ?_, ?_⟩
  · rw [LifecyclePricingPolicy.price, if_neg hi.not_gt, if_neg ho.not_gt]
    simp only [hinput, houtput, htotal, hprice, ok_bind]
    rfl
  · rw [hp, ht, hiv, hov, charge]

theorem LifecyclePricingPolicy.input_value_nonneg : 0 ≤ policy.inputUsdPerMtok.value := by
  have h := policy.input_nonneg
  rwa [Decimal.lt_iff, Decimal.value_zero, not_lt] at h

theorem LifecyclePricingPolicy.output_value_nonneg : 0 ≤ policy.outputUsdPerMtok.value := by
  have h := policy.output_nonneg
  rwa [Decimal.lt_iff, Decimal.value_zero, not_lt] at h

theorem charge_nonneg (hi : 0 ≤ i) (ho : 0 ≤ o) : 0 ≤ policy.charge i o := by
  have hin : (0 : ℚ) ≤ i := by exact_mod_cast hi
  have hout : (0 : ℚ) ≤ o := by exact_mod_cast ho
  apply div_nonneg _ (by positivity)
  exact add_nonneg (mul_nonneg hin policy.input_value_nonneg)
    (mul_nonneg hout policy.output_value_nonneg)

theorem price_steps (h : policy.price i o = .ok p) : 0 ≤ i ∧ 0 ≤ o ∧ ∃ input output total,
    pricingContext.mulSigned (.ofInt i) policy.inputUsdPerMtok = .ok input ∧
    pricingContext.mulSigned (.ofInt o) policy.outputUsdPerMtok = .ok output ∧
    pricingContext.addSigned input output = .ok total ∧
    pricingContext.shiftSigned total 6 = .ok p := by
  obtain ⟨hi, h⟩ := unless_ok h
  obtain ⟨ho, h⟩ := unless_ok h
  obtain ⟨input, hinput, h⟩ := bind_ok (mapError_ok h)
  obtain ⟨output, houtput, h⟩ := bind_ok h
  obtain ⟨total, htotal, h⟩ := bind_ok h
  exact ⟨not_lt.mp hi, not_lt.mp ho, input, output, total, hinput, houtput, htotal, h⟩

theorem price_nonneg (h : policy.price i o = .ok p) : 0 ≤ p.value := by
  obtain ⟨hi, ho, input, output, total, hinput, houtput, htotal, hp⟩ := price_steps h
  have hin : 0 ≤ input.value := by
    apply DecimalContext.fixSigned_nonneg hinput
    rw [DecimalContext.exactProduct_value, ofInt_value]
    exact mul_nonneg (by exact_mod_cast hi) policy.input_value_nonneg
  have hout : 0 ≤ output.value := by
    apply DecimalContext.fixSigned_nonneg houtput
    rw [DecimalContext.exactProduct_value, ofInt_value]
    exact mul_nonneg (by exact_mod_cast ho) policy.output_value_nonneg
  have hsum := DecimalContext.addSigned_nonneg htotal hin hout
  apply DecimalContext.fixSigned_nonneg hp
  rw [DecimalContext.shifted_value]
  positivity

theorem price_counts (h : policy.price i o = .ok p) : 0 ≤ i ∧ 0 ≤ o := by
  obtain ⟨hi, h⟩ := unless_ok h
  obtain ⟨ho, -⟩ := unless_ok h
  exact ⟨not_lt.mp hi, not_lt.mp ho⟩

end Prices

end OperateBench.Agents
