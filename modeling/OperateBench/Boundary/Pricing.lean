import OperateBench.Foundation.Decimal
import OperateBench.Foundation.Fallible

/-! # The pricing policy

Amounts and token counts are checked where they are stated, so that a price is made of
accepted amounts only. The cost of a turn is computed in a context of eighty digits, and
inside the accepted domain no operation rounds.
-/

namespace OperateBench.Boundary

open Foundation

/-- A decimal as a caller can hold one. -/
inductive Operand
  | finite (amount : Decimal)
  | infinite
  | nan (signaling : Bool)
deriving DecidableEq, Repr

/-- What a caller passes for a count of tokens. -/
inductive Count
  | absent
  | whole (tokens : ℤ)
  | other
deriving DecidableEq, Repr

inductive PricingError
  | tokenCount (name : String)
  | notFinite (name : String)
  | negative (name : String)
  | aboveMaximum (name : String)
  | tooFine (name : String)
  | inexact
deriving DecidableEq, Repr

def maxExactTokenCount : ℕ := 2 ^ 53 - 1

def maxUsdAmount : Decimal := ⟨1, 15⟩

def maxUsdDecimalPlaces : ℤ := 12

/-- `Context(prec=80)`, with the default exponents. -/
def exactDecimalContext : DecimalContext := { prec := 80, emin := -999999, emax := 999999 }

/-- A USD amount inside the accepted domain. -/
structure UsdAmount where
  amount : Decimal
  nonneg : 0 ≤ amount.coefficient
  bounded : amount ≤ maxUsdAmount
  scale : -maxUsdDecimalPlaces ≤ amount.exponent

def checkUsdAmount (value : Operand) (name : String) : Except PricingError UsdAmount :=
  match value with
  | .infinite => .error (.notFinite name)
  | .nan _ => .error (.notFinite name)
  | .finite amount =>
    if hneg : amount.coefficient < 0 then .error (.negative name)
    else if hmax : amount ≤ maxUsdAmount then
      if hfine : amount.exponent < -maxUsdDecimalPlaces then .error (.tooFine name)
      else .ok ⟨amount, not_lt.mp hneg, hmax, not_lt.mp hfine⟩
    else .error (.aboveMaximum name)

def checkTokenCount (value : Count) (name : String) : Except PricingError ℕ :=
  match value with
  | .whole tokens =>
    if tokens < 0 ∨ (maxExactTokenCount : ℤ) < tokens then .error (.tokenCount name)
    else .ok tokens.toNat
  | _ => .error (.tokenCount name)

structure LongContextTier where
  inputTokenThreshold : ℕ
  /-- Whether a prompt of exactly the threshold is already priced at these rates. -/
  appliesAtThreshold : Bool
  inputUsdPerMillionTokens : UsdAmount
  outputUsdPerMillionTokens : UsdAmount
  positive : 1 ≤ inputTokenThreshold
  exact : inputTokenThreshold ≤ maxExactTokenCount

def LongContextTier.selects (tier : LongContextTier) (inputTokens : ℕ) : Bool :=
  if tier.appliesAtThreshold then tier.inputTokenThreshold ≤ inputTokens
  else tier.inputTokenThreshold < inputTokens

/-- A price whose long-context rates are not below its base rates. -/
structure ModelPrice where
  inputUsdPerMillionTokens : UsdAmount
  outputUsdPerMillionTokens : UsdAmount
  longContextTier : Option LongContextTier
  rising : ∀ tier ∈ longContextTier,
    inputUsdPerMillionTokens.amount ≤ tier.inputUsdPerMillionTokens.amount ∧
      outputUsdPerMillionTokens.amount ≤ tier.outputUsdPerMillionTokens.amount

namespace ModelPrice

variable (price : ModelPrice)

def ratesFor (inputTokens : ℕ) : UsdAmount × UsdAmount :=
  match price.longContextTier with
  | some tier =>
    if tier.selects inputTokens then
      (tier.inputUsdPerMillionTokens, tier.outputUsdPerMillionTokens)
    else (price.inputUsdPerMillionTokens, price.outputUsdPerMillionTokens)
  | none => (price.inputUsdPerMillionTokens, price.outputUsdPerMillionTokens)

/-- `(input * input_rate + output * output_rate).scaleb(-6)` in the exact context. -/
def priced (input output : ℕ) : Except DecimalSignal Decimal := do
  let rates := price.ratesFor input
  let inputCost ← exactDecimalContext.mul ⟨input, 0⟩ rates.1.amount
  let outputCost ← exactDecimalContext.mul ⟨output, 0⟩ rates.2.amount
  let total ← exactDecimalContext.add inputCost outputCost
  exactDecimalContext.scaleb total (-6)

def cost (inputTokens outputTokens : Count) : Except PricingError Decimal := do
  let billedInput ← checkTokenCount inputTokens "input_tokens"
  let billedOutput ← checkTokenCount outputTokens "output_tokens"
  (price.priced billedInput billedOutput).mapError fun _ => .inexact

end ModelPrice

/-- The cost of a turn that reported both counts. -/
def measuredCostUsd (price : ModelPrice) (inputTokens outputTokens : Count) :
    Except PricingError (Option Decimal) :=
  if inputTokens = .absent ∨ outputTokens = .absent then .ok none
  else some <$> price.cost inputTokens outputTokens

/-- The rational number that the cost of a turn stands for. -/
def ModelPrice.charge (price : ModelPrice) (input output : ℕ) : ℚ :=
  (input * (price.ratesFor input).1.amount.value +
    output * (price.ratesFor input).2.amount.value) / 10 ^ 6

theorem UsdAmount.grid (u : UsdAmount) : Grid 12 (10 ^ 27) u.amount.value := by
  obtain ⟨n, hn⟩ : ∃ n : ℕ, (n : ℤ) = u.amount.coefficientAt (-12) :=
    ⟨_, Int.toNat_of_nonneg (mul_nonneg u.nonneg (by positivity))⟩
  have hvalue : u.amount.value = n / 10 ^ 12 := by
    rw [Decimal.value_at u.scale, maxUsdDecimalPlaces, ← hn, Int.cast_natCast, zpow_neg,
      div_eq_mul_inv]
    rfl
  have hgrid : Grid 12 n u.amount.value := ⟨n, le_rfl, hvalue⟩
  apply hgrid.bounded
  have hmax : maxUsdAmount.value = 10 ^ 15 := by
    rw [Decimal.value, maxUsdAmount, Int.cast_one, one_mul]
    norm_cast
  calc u.amount.value ≤ maxUsdAmount.value := Decimal.le_iff.mp u.bounded
    _ = (10 ^ 27 : ℕ) / 10 ^ 12 := by
      rw [hmax]
      norm_num

theorem exact_fits {s a : ℕ} {q : ℚ} (h : Grid s a q) (ha : a < 10 ^ 80) (hs : s ≤ 1000) :
    exactDecimalContext.Fits q := by
  apply h.fits ha
  · have : exactDecimalContext.etiny = -1000078 := rfl
    omega
  · have : exactDecimalContext.etop = 999920 := rfl
    omega

theorem checkTokenCount_ok {value : Count} {name : String} {tokens : ℕ}
    (h : checkTokenCount value name = .ok tokens) :
    value = .whole tokens ∧ tokens ≤ maxExactTokenCount := by
  unfold checkTokenCount at h
  cases value with
  | absent => cases h
  | other => cases h
  | whole n =>
    obtain ⟨hrange, hn⟩ := unless_ok h
    have := Except.ok.inj hn
    constructor
    · rw [← this, Int.toNat_of_nonneg (by omega)]
    · omega

theorem checkTokenCount_whole {tokens : ℕ} {name : String} (h : tokens ≤ maxExactTokenCount) :
    checkTokenCount (.whole tokens) name = .ok tokens := by
  unfold checkTokenCount
  dsimp only
  rw [if_neg (by omega), Int.toNat_natCast]

namespace ModelPrice

variable {price : ModelPrice} {input output : ℕ}

/-- The units of a charge: 10⁻¹⁸ of a dollar. -/
def chargeBound : ℕ := 2 * (maxExactTokenCount * 10 ^ 27)

theorem chargeBound_le : chargeBound ≤ 10 ^ 44 := by decide

theorem charge_grid (hi : input ≤ maxExactTokenCount) (ho : output ≤ maxExactTokenCount) :
    Grid 18 chargeBound (price.charge input output) := by
  have hin := ((price.ratesFor input).1.grid.nsmul input).mono (Nat.mul_le_mul_right _ hi)
  have hout := ((price.ratesFor input).2.grid.nsmul output).mono (Nat.mul_le_mul_right _ ho)
  have hsum := (hin.add hout).shift 6
  rwa [← two_mul] at hsum

/-- No operation of the pricing rounds. -/
theorem priced_exact (hi : input ≤ maxExactTokenCount) (ho : output ≤ maxExactTokenCount) :
    ∃ d, price.priced input output = .ok d ∧ d.value = price.charge input output := by
  have hwhole (n : ℕ) : (⟨n, 0⟩ : Decimal).value = n := by simp [Decimal.value]
  have hin := ((price.ratesFor input).1.grid.nsmul input).mono (Nat.mul_le_mul_right _ hi)
  have hout := ((price.ratesFor input).2.grid.nsmul output).mono (Nat.mul_le_mul_right _ ho)
  obtain ⟨x, hx, hxv⟩ := DecimalContext.mul_exact (c := exactDecimalContext) (x := ⟨input, 0⟩)
    (y := (price.ratesFor input).1.amount)
    (by rw [hwhole]; exact exact_fits hin (by decide) (by norm_num))
  obtain ⟨y, hy, hyv⟩ := DecimalContext.mul_exact (c := exactDecimalContext) (x := ⟨output, 0⟩)
    (y := (price.ratesFor input).2.amount)
    (by rw [hwhole]; exact exact_fits hout (by decide) (by norm_num))
  rw [hwhole] at hxv hyv
  obtain ⟨z, hz, hzv⟩ := DecimalContext.add_exact (c := exactDecimalContext) (x := x) (y := y)
    (by rw [hxv, hyv]; exact exact_fits (hin.add hout) (by decide) (by norm_num))
  have hscaled : z.value * 10 ^ (-6 : ℤ) = price.charge input output := by
    rw [hzv, hxv, hyv, charge, zpow_neg, div_eq_mul_inv]
    rfl
  obtain ⟨d, hd, hdv⟩ := DecimalContext.scaleb_exact (c := exactDecimalContext) (x := z) (n := -6)
    (by rw [hscaled]; exact exact_fits (charge_grid hi ho) (by decide) (by norm_num))
  refine ⟨d, ?_, hdv.trans hscaled⟩
  unfold priced
  dsimp only
  rw [hx, ok_bind, hy, ok_bind, hz, ok_bind, hd]

theorem cost_ok {inputTokens outputTokens : Count} {d : Decimal}
    (h : price.cost inputTokens outputTokens = .ok d) :
    ∃ i o : ℕ, inputTokens = .whole i ∧ outputTokens = .whole o ∧ i ≤ maxExactTokenCount ∧
      o ≤ maxExactTokenCount ∧ d.value = price.charge i o := by
  obtain ⟨i, hi, hrest⟩ := bind_ok h
  obtain ⟨o, ho, hpriced⟩ := bind_ok hrest
  obtain ⟨hin, hib⟩ := checkTokenCount_ok hi
  obtain ⟨hout, hob⟩ := checkTokenCount_ok ho
  obtain ⟨e, he, hev⟩ : ∃ e, price.priced i o = .ok e ∧ _ := priced_exact hib hob
  rw [he] at hpriced
  exact ⟨i, o, hin, hout, hib, hob, by rw [← Except.ok.inj hpriced, hev]⟩

end ModelPrice

end OperateBench.Boundary
