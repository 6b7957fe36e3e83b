import OperateBench.Boundary.Resumption
import OperateBench.Providers.UsdText

/-! # Reading amounts

The readers that hold a recorded amount to its rendering, and those that read a rate or a cap. The
text of an accepted amount is accepted by each of them and states the amount again; it names the
amount, except that a negative zero has a text of its own.
-/

namespace OperateBench.ExecutionLedger

open Foundation Boundary Providers.SignedAmount

section Readers

inductive AmountProblem
  | notDecimal (text : List Char)
  | notNonNegative
  | notPositive
  | notCanonical (text rendering : List Char)
  | outsideDomain (error : PricingError)
deriving DecidableEq

/-- The exception of a reader. -/
inductive AmountError
  | ledgerSchema (context : String) (problem : AmountProblem)
  | artifact (context : String) (problem : AmountProblem)
  | pricingPolicy (name : String) (problem : AmountProblem)
  | budget (problem : AmountProblem)
deriving DecidableEq

/-- A text that states a finite amount that is not negative. -/
def readNonNegative (text : List Char) : Except AmountProblem SignedDecimal :=
  match SignedDecimal.ofText text with
  | none => .error (.notDecimal text)
  | some (.finite parsed) =>
    if parsed.toDecimal < 0 then .error .notNonNegative else .ok parsed
  | some _ => .error .notNonNegative

def checkCanonical (text : List Char) : Except AmountProblem (List Char) := do
  let parsed ← readNonNegative text
  if usdText parsed ≠ text then .error (.notCanonical text (usdText parsed)) else .ok text

/-- `_amount` of the ledger. -/
def amount (value : List Char) (context : String) : Except AmountError (List Char) :=
  (checkCanonical value).mapError (.ledgerSchema context)

/-- `_amount_text` of the artifact. -/
def amountText (value : List Char) (context : String) : Except AmountError (List Char) :=
  (checkCanonical value).mapError (.artifact context)

/-- `_canonical_amount`, which reads the cap. -/
def canonicalAmount (value : List Char) (context : String) : Except AmountError (List Char) :=
  match SignedDecimal.ofText value with
  | none => .error (.ledgerSchema context (.notDecimal value))
  | some (.finite parsed) =>
    if parsed.toDecimal ≤ 0 then .error (.ledgerSchema context .notPositive)
    else .ok (usdText parsed)
  | some _ => .error (.ledgerSchema context .notPositive)

/-- `LedgerControls.rate` -/
def controlsRate (value : List Char) (name : String) : Except AmountError SignedDecimal :=
  (readNonNegative value).mapError (.ledgerSchema s!"controls.pricing.{name}")

/-- `_rate` of the pricing policy, of a text. -/
def policyRate (value : List Char) (name : String) : Except AmountError SignedDecimal :=
  (readNonNegative value).mapError (.pricingPolicy name)

/-- `parse_cost_cap` -/
def parseCostCap (value : List Char) : Except AmountError UsdAmount :=
  match SignedDecimal.ofText value with
  | none => .error (.budget (.notDecimal value))
  | some (.finite parsed) => (checkUsdAmount (.finite parsed.toDecimal) "--max-cost-usd").mapError
      fun e => .budget (.outsideDomain e)
  | some .infinite => .error (.budget (.outsideDomain (.notFinite "--max-cost-usd")))
  | some .nan => .error (.budget (.outsideDomain (.notFinite "--max-cost-usd")))

end Readers

section RoundTrip

variable {x y : SignedDecimal} {u v : UsdAmount} {name : String}

/-- What the text of an amount is to its readers. -/
structure ReadBack (x : SignedDecimal) : Prop where
  states : ∃ p, SignedDecimal.ofText (usdText x) = some (.finite p) ∧ p.value = x.value
  amount : ∀ context, amount (usdText x) context = .ok (usdText x)
  amountText : ∀ context, amountText (usdText x) context = .ok (usdText x)
  controlsRate : ∀ name, ∃ p, controlsRate (usdText x) name = .ok p ∧ p.value = x.value
  policyRate : ∀ name, ∃ p, policyRate (usdText x) name = .ok p ∧ p.value = x.value
  costCap : ∃ u, parseCostCap (usdText x) = .ok u ∧ u.amount.value = x.value
  canonicalAmount : 0 < x.value → ∀ context, canonicalAmount (usdText x) context = .ok (usdText x)

theorem readNonNegative_usdText (h : 0 ≤ x.value) :
    readNonNegative (usdText x) = .ok (stated x) := by
  have hnot : ¬(stated x).toDecimal < 0 := by
    rw [Decimal.lt_iff, Decimal.value_zero, not_lt]
    exact h.trans_eq stated_value.symm
  rw [readNonNegative, ofText_usdText]
  exact if_neg hnot

theorem checkCanonical_usdText (h : 0 ≤ x.value) :
    checkCanonical (usdText x) = .ok (usdText x) := by
  rw [checkCanonical, readNonNegative_usdText h]
  exact if_neg (not_not.mpr usdText_stated)

theorem checkUsdAmount_ok {d : Decimal} (h : checkUsdAmount (.finite d) name = .ok u) :
    u.amount = d := by
  unfold checkUsdAmount at h
  dsimp only at h
  split at h
  · cases h
  · split at h
    · split at h
      · cases h
      · rw [← Except.ok.inj h]
    · cases h

theorem value_nonneg (h : checkUsdAmount (.finite x.toDecimal) name = .ok u) : 0 ≤ x.value := by
  have hgrid := u.grid.nonneg
  rwa [checkUsdAmount_ok h] at hgrid

/-- The stated amount has no more places than the amount. -/
theorem stated_recordable (h : Recordable x.toDecimal) : Recordable (stated x).toDecimal := by
  obtain ⟨hnonneg, hbounded, hscale⟩ := recordable_iff.mp h
  have hvalue : (stated x).toDecimal.value = x.toDecimal.value := stated_value
  have hlength : (shortFraction x).length ≤ x.places := by
    rw [← @SignedDecimal.length_fractionText x]
    exact (List.rdropWhile_prefix _ _).length_le
  refine recordable_iff.mpr ⟨?_, ?_, ?_⟩
  · apply DecimalContext.coefficient_nonneg
    rw [hvalue, Decimal.value]
    exact mul_nonneg (by exact_mod_cast hnonneg) (Decimal.scale_pos _).le
  · rw [Decimal.le_iff] at hbounded ⊢
    rwa [hvalue]
  · have hexp : -maxUsdDecimalPlaces ≤ x.exponent := hscale
    change -maxUsdDecimalPlaces ≤ -((shortFraction x).length : ℤ)
    rw [SignedDecimal.places] at hlength
    unfold maxUsdDecimalPlaces at hexp ⊢
    omega

theorem readBack_of_accepted (h : checkUsdAmount (.finite x.toDecimal) name = .ok u) :
    ReadBack x := by
  have hnonneg := value_nonneg h
  have hread := readNonNegative_usdText hnonneg
  have hcanonical := checkCanonical_usdText hnonneg
  constructor
  · exact ⟨stated x, ofText_usdText, stated_value⟩
  · intro context
    rw [ExecutionLedger.amount, hcanonical]
    rfl
  · intro context
    rw [ExecutionLedger.amountText, hcanonical]
    rfl
  · intro name
    refine ⟨stated x, ?_, stated_value⟩
    rw [ExecutionLedger.controlsRate, hread]
    rfl
  · intro name
    refine ⟨stated x, ?_, stated_value⟩
    rw [ExecutionLedger.policyRate, hread]
    rfl
  · have hrecordable : Recordable x.toDecimal := ⟨u, checkUsdAmount_ok h⟩
    obtain ⟨v, hv, hamount⟩ :=
      RunCostGuard.checkUsdAmount_recordable "--max-cost-usd" (stated_recordable hrecordable)
    refine ⟨v, ?_, hamount ▸ stated_value⟩
    rw [parseCostCap, ofText_usdText]
    simp only [hv]
    rfl
  · intro hpos context
    have hnot : ¬(stated x).toDecimal ≤ 0 := by
      rw [Decimal.le_iff, Decimal.value_zero, not_le]
      exact hpos.trans_eq stated_value.symm
    rw [ExecutionLedger.canonicalAmount, ofText_usdText]
    simp only [if_neg hnot, usdText_stated]

/-- An accepted amount with a minus sign is zero. -/
theorem value_of_negative (h : checkUsdAmount (.finite x.toDecimal) name = .ok u)
    (hneg : x.negative = true) : x.value = 0 := by
  have hnonneg := u.nonneg
  rw [checkUsdAmount_ok h, SignedDecimal.toDecimal, hneg] at hnonneg
  simp only [if_true] at hnonneg
  rw [SignedDecimal.value_eq_zero]
  omega

/-- Money text is canonical, except for the sign of zero. -/
theorem usd_text_canonical (hx : checkUsdAmount (.finite x.toDecimal) name = .ok u)
    (hy : checkUsdAmount (.finite y.toDecimal) name = .ok v) :
    ((usdText x = usdText y ↔ x.value = y.value) ∧ ReadBack x ∧ ReadBack y) ↔
      ¬(x.value = 0 ∧ y.value = 0 ∧ x.negative ≠ y.negative) := by
  constructor
  · rintro ⟨hiff, -, -⟩ ⟨hx0, hy0, hsign⟩
    have htext := hiff.mpr (hx0.trans hy0.symm)
    rw [usdText_zero (SignedDecimal.value_eq_zero.mp hx0),
      usdText_zero (SignedDecimal.value_eq_zero.mp hy0), List.append_cancel_right_eq] at htext
    apply hsign
    rw [SignedDecimal.signText, SignedDecimal.signText] at htext
    cases hxs : x.negative <;> cases hys : y.negative <;> simp_all
  · intro hzeros
    refine ⟨⟨?_, ?_⟩, readBack_of_accepted hx, readBack_of_accepted hy⟩
    · intro htext
      have hread := @ofText_usdText x
      rw [htext, ofText_usdText] at hread
      have hstated : stated y = stated x := Constructed.finite.inj (Option.some.inj hread)
      rw [← stated_value, ← hstated, stated_value]
    · intro hvalue
      apply usdText_congr _ hvalue
      by_contra hsign
      apply hzeros
      cases hxs : x.negative with
      | true =>
        have hx0 := value_of_negative hx hxs
        exact ⟨hx0, hvalue ▸ hx0, hxs ▸ hsign⟩
      | false =>
        have hys : y.negative = true := by
          rw [hxs] at hsign
          exact Bool.not_eq_false _ ▸ fun h => hsign h.symm
        have hy0 := value_of_negative hy hys
        exact ⟨hvalue.trans hy0, hy0, hxs ▸ hsign⟩

/-- One dollar and fifty cents, with and without the last zero. -/
theorem trailing_zero_canonical :
    (usdText ⟨false, 150, -2⟩ = usdText ⟨false, 15, -1⟩ ↔
      SignedDecimal.value ⟨false, 150, -2⟩ = SignedDecimal.value ⟨false, 15, -1⟩) ∧
    ReadBack ⟨false, 150, -2⟩ ∧ ReadBack ⟨false, 15, -1⟩ := by
  have hx : ∃ u, checkUsdAmount (.finite (SignedDecimal.toDecimal ⟨false, 150, -2⟩)) "amount" =
      .ok u := ⟨_, rfl⟩
  have hy : ∃ u, checkUsdAmount (.finite (SignedDecimal.toDecimal ⟨false, 15, -1⟩)) "amount" =
      .ok u := ⟨_, rfl⟩
  obtain ⟨u, hu⟩ := hx
  obtain ⟨v, hv⟩ := hy
  apply (usd_text_canonical hu hv).mpr
  rintro ⟨-, -, hsign⟩
  exact hsign rfl

/-- Both zeros are accepted, they are equal, and their texts are not. -/
theorem negative_zero_differs :
    ¬∀ (x y : SignedDecimal) (u v : UsdAmount) (name : String),
      checkUsdAmount (.finite x.toDecimal) name = .ok u →
      checkUsdAmount (.finite y.toDecimal) name = .ok v →
      (usdText x = usdText y ↔ x.value = y.value) ∧ ReadBack x ∧ ReadBack y := by
  intro h
  obtain ⟨hiff, -, -⟩ := h ⟨false, 0, 0⟩ ⟨true, 0, 0⟩ _ _ "amount" rfl rfl
  have hvalue : SignedDecimal.value ⟨false, 0, 0⟩ = SignedDecimal.value ⟨true, 0, 0⟩ := rfl
  exact absurd (hiff.mpr hvalue) (by decide)

end RoundTrip

end OperateBench.ExecutionLedger
