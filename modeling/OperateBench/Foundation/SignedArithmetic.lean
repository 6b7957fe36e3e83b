import OperateBench.Foundation.Fallible
import OperateBench.Foundation.SignedDecimal

/-! # Arithmetic of signed decimals

Sums, products and quotients in a context, with the sign of a zero. A result depends on the signs
and the values of the operands only, not on the zeros at their ends, and it is the exact one
precisely where the exact one fits the context.
-/

namespace Foundation

namespace DecimalContext

section Operations

variable (c : DecimalContext)

/-- The magnitude is rounded, the sign is kept. -/
def fixSigned (x : SignedDecimal) : Except DecimalSignal SignedDecimal :=
  (c.fix ⟨x.coefficient, x.exponent⟩).map fun r => ⟨x.negative, r.coefficient.natAbs, r.exponent⟩

/-- The number with this coefficient, and with this sign if it is zero. -/
def withZero (zero : Bool) (x : Decimal) : SignedDecimal :=
  ⟨if x.coefficient = 0 then zero else x.coefficient < 0, x.coefficient.natAbs, x.exponent⟩

/-- A sum of zeros is negative only if both of them are. -/
def exactSum (x y : SignedDecimal) : SignedDecimal :=
  let e := min x.exponent y.exponent
  withZero (x.negative && y.negative)
    ⟨x.toDecimal.coefficientAt e + y.toDecimal.coefficientAt e, e⟩

def exactProduct (x y : SignedDecimal) : SignedDecimal :=
  ⟨x.negative != y.negative, x.coefficient * y.coefficient, x.exponent + y.exponent⟩

def addSigned (x y : SignedDecimal) : Except DecimalSignal SignedDecimal :=
  c.fixSigned (exactSum x y)

def mulSigned (x y : SignedDecimal) : Except DecimalSignal SignedDecimal :=
  c.fixSigned (exactProduct x y)

def subSigned (x y : SignedDecimal) : Except DecimalSignal SignedDecimal :=
  c.addSigned x { y with negative := !y.negative }

/-- `x / Decimal(10 ** n)` -/
def shiftSigned (x : SignedDecimal) (n : ℕ) : Except DecimalSignal SignedDecimal :=
  c.fixSigned { x with exponent := x.exponent - n }

end Operations

section Values

variable {x y : SignedDecimal} {n : ℕ}

theorem withZero_toDecimal {zero : Bool} {d : Decimal} : (withZero zero d).toDecimal = d := by
  obtain ⟨s, e⟩ := d
  simp only [withZero, SignedDecimal.toDecimal, Decimal.mk.injEq, and_true]
  rcases lt_trichotomy s 0 with h | rfl | h
  · rw [if_neg h.ne, decide_eq_true h, if_pos rfl]
    omega
  · simp
  · rw [if_neg h.ne', decide_eq_false h.not_gt, if_neg Bool.false_ne_true]
    omega

theorem exactSum_value : (exactSum x y).value = x.value + y.value := by
  rw [exactSum, SignedDecimal.value, withZero_toDecimal]
  exact value_add x.toDecimal y.toDecimal

theorem exactProduct_value : (exactProduct x y).value = x.value * y.value := by
  obtain ⟨n, c, e⟩ := x
  obtain ⟨m, d, f⟩ := y
  simp only [SignedDecimal.value]
  rw [← value_mul, Decimal.value, Decimal.value]
  simp only [exactProduct, SignedDecimal.toDecimal]
  cases n <;> cases m <;> simp

theorem negated_value : SignedDecimal.value { x with negative := !x.negative } = -x.value := by
  simp only [SignedDecimal.value, SignedDecimal.toDecimal, Decimal.value]
  cases x.negative <;> simp

theorem shifted_value :
    SignedDecimal.value { x with exponent := x.exponent - n } = x.value / 10 ^ n := by
  simp only [SignedDecimal.value, SignedDecimal.toDecimal, Decimal.value]
  rw [zpow_sub₀ (by norm_num), zpow_natCast, mul_div_assoc]

end Values

section Rounding

variable {c : DecimalContext} {x y r : Decimal}

/-- A rounded number fits. -/
theorem fix_fits (hrange : c.etiny ≤ c.etop) (h : c.fix x = .ok r) : c.Fits r.value := by
  have hdigits := natAbs_lt x
  unfold fix at h
  dsimp only at h
  split at h
  · rw [← Except.ok.inj h]
    exact ⟨0, c.etiny, by simp [Decimal.value], by simp, le_rfl, hrange⟩
  · split at h
    · cases h
    · rename_i hover
      obtain ⟨m, hm⟩ : ∃ m, m = max ((x.digits : ℤ) + x.exponent - c.prec) c.etiny := ⟨_, rfl⟩
      rw [← hm] at h
      split at h
      · rename_i hkept
        rw [← Except.ok.inj h]
        obtain ⟨f, hf⟩ : ∃ f, f = min x.exponent c.etop := ⟨_, rfl⟩
        refine ⟨x.coefficientAt f, f, Decimal.value_at (by omega), ?_, by omega, by omega⟩
        have hpow : 10 ^ (x.digits + (x.exponent - f).toNat) ≤ 10 ^ c.prec :=
          Nat.pow_le_pow_right (by decide) (by omega)
        have hscaled : x.coefficient.natAbs * 10 ^ (x.exponent - f).toNat < 10 ^ c.prec := by
          apply lt_of_lt_of_le _ hpow
          rw [pow_add]
          exact Nat.mul_lt_mul_of_pos_right hdigits (by positivity)
        rw [Decimal.coefficientAt, Int.abs_eq_natAbs, Int.natAbs_mul, Int.natAbs_pow]
        exact_mod_cast hscaled
      · rename_i hrounded
        have hle : Decimal.halfEven x.coefficient.natAbs (m - x.exponent).toNat ≤ 10 ^ c.prec := by
          apply halfEven_le_pow
          apply hdigits.trans_le
          apply Nat.pow_le_pow_right (by decide)
          omega
        have hsigned (q : ℕ) (hq : q < 10 ^ c.prec) : |signed x.coefficient q| < 10 ^ c.prec := by
          rw [signed]
          split <;> simp only [abs_neg, Nat.abs_cast] <;> exact_mod_cast hq
        split at h
        · rename_i hsmall
          split at h
          · cases h
          · rw [← Except.ok.inj h]
            exact ⟨_, m, rfl, hsigned _ hsmall, by omega, by omega⟩
        · split at h
          · cases h
          · rw [← Except.ok.inj h]
            refine ⟨_, m + 1, rfl, hsigned _ ?_, by omega, by omega⟩
            have hpos : 0 < 10 ^ c.prec := by positivity
            omega

/-- Rounding changes nothing precisely where the number fits. -/
theorem fix_exact_iff (hrange : c.etiny ≤ c.etop) :
    (∃ r, c.fix x = .ok r ∧ r.value = x.value) ↔ c.Fits x.value := by
  constructor
  · rintro ⟨r, hr, hvalue⟩
    exact hvalue ▸ fix_fits hrange hr
  · exact fix_exact

theorem halfEven_scaled (n m k : ℕ) :
    Decimal.halfEven (n * 10 ^ k) (m + k) = Decimal.halfEven n m := by
  have hpos : 0 < 10 ^ k := by positivity
  have hq : n * 10 ^ k / 10 ^ (m + k) = n / 10 ^ m := by
    rw [pow_add, Nat.mul_div_mul_right _ _ hpos]
  have hr : n * 10 ^ k % 10 ^ (m + k) = n % 10 ^ m * 10 ^ k := by
    rw [pow_add, Nat.mul_mod_mul_right]
  have hlt : 10 ^ (m + k) < 2 * (n % 10 ^ m * 10 ^ k) ↔ 10 ^ m < 2 * (n % 10 ^ m) := by
    rw [pow_add, ← Nat.mul_assoc, Nat.mul_lt_mul_right hpos]
  have heq : 2 * (n % 10 ^ m * 10 ^ k) = 10 ^ (m + k) ↔ 2 * (n % 10 ^ m) = 10 ^ m := by
    rw [pow_add, ← Nat.mul_assoc, Nat.mul_left_inj hpos.ne']
  unfold Decimal.halfEven
  simp only [hq, hr, hlt, heq]

theorem digits_scaled (h : x.coefficient ≠ 0) (k : ℕ) (e : ℤ) :
    (⟨x.coefficient * 10 ^ k, e⟩ : Decimal).digits = x.digits + k := by
  have hn : x.coefficient.natAbs ≠ 0 := Int.natAbs_ne_zero.mpr h
  rw [Decimal.digits, Decimal.digits, Int.natAbs_mul, Int.natAbs_pow]
  have hlog : Nat.log 10 (x.coefficient.natAbs * 10 ^ k) = Nat.log 10 x.coefficient.natAbs + k := by
    induction k with
    | zero => simp
    | succ k ih =>
      rw [pow_succ, ← Nat.mul_assoc, Nat.log_mul_base (by decide) (by positivity), ih]
      rfl
  change Nat.log 10 (x.coefficient.natAbs * 10 ^ k) + 1 = _
  omega

theorem value_scaled (x : Decimal) (k : ℕ) :
    (⟨x.coefficient * 10 ^ k, x.exponent - k⟩ : Decimal).value = x.value := by
  simp only [Decimal.value]
  rw [zpow_sub₀ (by norm_num), zpow_natCast]
  push_cast
  field_simp

theorem signed_scaled (s : ℤ) (k q : ℕ) : signed (s * 10 ^ k) q = signed s q := by
  have hten : (0 : ℤ) < 10 ^ k := by positivity
  have hneg : s * 10 ^ k < 0 ↔ s < 0 := by simp [mul_neg_iff, hten, hten.not_gt]
  simp only [signed, hneg]

/-- A quotient without a remainder is the same number. -/
theorem signed_value {s m f : ℤ} {q : ℕ} (hf : f ≤ m) (h : s.natAbs = q * 10 ^ (m - f).toNat) :
    (⟨signed s q, m⟩ : Decimal).value = (⟨s, f⟩ : Decimal).value := by
  have hvalue := signed_mul h
  have hexp : m = ((m - f).toNat : ℤ) + f := by omega
  simp only [Decimal.value]
  conv_lhs => rw [hexp, zpow_add₀ (by norm_num), zpow_natCast, ← mul_assoc]
  congr 1
  exact_mod_cast hvalue

/-- Zeros at the end of the coefficient do not matter. -/
theorem fix_scaled (hrange : c.etiny ≤ c.etop) (k : ℕ) :
    (c.fix ⟨x.coefficient * 10 ^ k, x.exponent - k⟩).map Decimal.value =
      (c.fix x).map Decimal.value := by
  by_cases h0 : x.coefficient = 0
  · simp [fix, h0, Except.map, Decimal.value]
  · have h0' : x.coefficient * 10 ^ k ≠ 0 := mul_ne_zero h0 (by positivity)
    have hdigits := digits_scaled h0 k (x.exponent - k)
    have hlt := natAbs_lt x
    obtain ⟨m, hm⟩ : ∃ m, m = max ((x.digits : ℤ) + x.exponent - c.prec) c.etiny := ⟨_, rfl⟩
    have hleast : (((x.digits + k : ℕ) : ℤ) + (x.exponent - k) - c.prec) =
        x.digits + x.exponent - c.prec := by
      push_cast
      ring
    unfold fix
    simp only [hdigits, hleast, if_neg h0, if_neg h0', ← hm]
    split
    · rfl
    · by_cases hx : m ≤ x.exponent
      · rw [if_pos hx]
        by_cases hy : m ≤ x.exponent - k
        · rw [if_pos hy]
          exact congrArg Except.ok (value_scaled x k)
        · have hsplit : k = (x.exponent - m).toNat + (m - (x.exponent - k)).toNat := by omega
          have hmagnitude : (x.coefficient * 10 ^ k).natAbs =
              x.coefficient.natAbs * 10 ^ (x.exponent - m).toNat *
                10 ^ (m - (x.exponent - k)).toNat := by
            rw [Int.natAbs_mul, Int.natAbs_pow]
            conv_lhs => rw [hsplit, pow_add, ← Nat.mul_assoc]
            rfl
          have hsmall : x.coefficient.natAbs * 10 ^ (x.exponent - m).toNat < 10 ^ c.prec := by
            have hpow : 10 ^ (x.digits + (x.exponent - m).toNat) ≤ 10 ^ c.prec :=
              Nat.pow_le_pow_right (by decide) (by omega)
            apply lt_of_lt_of_le _ hpow
            rw [pow_add]
            exact Nat.mul_lt_mul_of_pos_right hlt (by positivity)
          rw [if_neg hy, hmagnitude, halfEven_mul, if_pos hsmall, if_neg (by omega)]
          apply congrArg Except.ok
          exact (signed_value (not_le.mp hy).le hmagnitude).trans (value_scaled x k)
      · have hy : ¬m ≤ x.exponent - k := by omega
        have hplaces : (m - (x.exponent - k)).toNat = (m - x.exponent).toNat + k := by omega
        have hmagnitude : (x.coefficient * 10 ^ k).natAbs = x.coefficient.natAbs * 10 ^ k := by
          rw [Int.natAbs_mul, Int.natAbs_pow]
          rfl
        rw [if_neg hx, if_neg hy, hplaces, hmagnitude]
        simp only [signed_scaled, halfEven_scaled]

/-- Equal numbers are rounded to equal numbers. -/
theorem fix_congr (hrange : c.etiny ≤ c.etop) (h : x.value = y.value) :
    (c.fix x).map Decimal.value = (c.fix y).map Decimal.value := by
  have hle {x y : Decimal} (h : x.value = y.value) (he : y.exponent ≤ x.exponent) :
      (c.fix x).map Decimal.value = (c.fix y).map Decimal.value := by
    obtain ⟨k, hk⟩ : ∃ k : ℕ, (k : ℤ) = x.exponent - y.exponent :=
      ⟨_, Int.toNat_of_nonneg (by omega)⟩
    have hy : y = ⟨x.coefficient * 10 ^ k, x.exponent - k⟩ := by
      have hc : y.coefficient = x.coefficient * 10 ^ k := by
        have hsplit : x.exponent = (k : ℤ) + y.exponent := by omega
        rw [Decimal.value, Decimal.value, hsplit, zpow_add₀ (by norm_num), zpow_natCast,
          ← mul_assoc] at h
        have := mul_right_cancel₀ (Decimal.scale_pos y.exponent).ne' h
        exact_mod_cast this.symm
      obtain ⟨d, f⟩ := y
      simp only [Decimal.mk.injEq]
      simp only at hc hk
      exact ⟨hc, by omega⟩
    rw [hy, fix_scaled hrange k]
  rcases le_total y.exponent x.exponent with he | he
  · exact hle h he
  · exact (hle h.symm he).symm

end Rounding

section Alike

variable {c : DecimalContext} {x x' y y' r : SignedDecimal} {n : ℕ}

/-- What an amount is to its text: its sign and its value. -/
def key (x : SignedDecimal) : Bool × ℚ := (x.negative, x.value)

theorem key_eq : key x = key y ↔ x.negative = y.negative ∧ x.value = y.value := Prod.mk_inj

theorem magnitude_value (x : SignedDecimal) :
    (⟨x.coefficient, x.exponent⟩ : Decimal).value = |x.value| := by
  rw [SignedDecimal.abs_value]
  rfl

theorem value_of_magnitude {negative : Bool} {m : ℕ} {e : ℤ} :
    SignedDecimal.value ⟨negative, m, e⟩ =
      (if negative then -1 else 1) * (⟨m, e⟩ : Decimal).value := by
  simp only [SignedDecimal.value, SignedDecimal.toDecimal, Decimal.value]
  cases negative <;> simp

theorem fix_nonneg {x r : Decimal} (h0 : 0 ≤ x.coefficient) (h : c.fix x = .ok r) :
    0 ≤ r.coefficient := by
  have hsigned (q : ℕ) : 0 ≤ signed x.coefficient q := by
    rw [signed, if_neg h0.not_gt]
    positivity
  unfold fix at h
  dsimp only at h
  split at h
  · rw [← Except.ok.inj h]
  · split at h
    · cases h
    · split at h
      · rwa [← Except.ok.inj h]
      · split at h
        · split at h
          · cases h
          · rw [← Except.ok.inj h]
            exact hsigned _
        · split at h
          · cases h
          · rw [← Except.ok.inj h]
            exact hsigned _

theorem key_fixSigned (x : SignedDecimal) : (c.fixSigned x).map key =
    ((c.fix ⟨x.coefficient, x.exponent⟩).map Decimal.value).map fun v =>
      (x.negative, (if x.negative then -1 else 1) * v) := by
  rw [fixSigned]
  cases h : c.fix ⟨x.coefficient, x.exponent⟩ with
  | error e => rfl
  | ok r =>
    have hnonneg := fix_nonneg (Int.natCast_nonneg x.coefficient) h
    have hmagnitude : (⟨(r.coefficient.natAbs : ℤ), r.exponent⟩ : Decimal) = r := by
      rw [Int.natAbs_of_nonneg hnonneg]
    simp only [Except.map, key, value_of_magnitude, hmagnitude]

theorem fixSigned_congr (hrange : c.etiny ≤ c.etop) (h : key x = key y) :
    (c.fixSigned x).map key = (c.fixSigned y).map key := by
  obtain ⟨hs, hv⟩ := key_eq.mp h
  have hmagnitude : (⟨x.coefficient, x.exponent⟩ : Decimal).value =
      (⟨y.coefficient, y.exponent⟩ : Decimal).value := by
    rw [magnitude_value, magnitude_value, hv]
  rw [key_fixSigned, key_fixSigned, fix_congr hrange hmagnitude, hs]

theorem key_withZero {zero : Bool} {d : Decimal} :
    key (withZero zero d) = (if d.value = 0 then zero else d.value < 0, d.value) := by
  have hpos := Decimal.scale_pos d.exponent
  have hzero : d.coefficient = 0 ↔ d.value = 0 := by
    rw [Decimal.value, mul_eq_zero, or_iff_left hpos.ne', Int.cast_eq_zero]
  have hneg : d.coefficient < 0 ↔ d.value < 0 := by
    rw [Decimal.value, mul_neg_iff, Int.cast_lt_zero]
    simp [hpos, hpos.not_gt]
  rw [key, SignedDecimal.value, withZero_toDecimal, withZero]
  simp only [hzero, hneg]

theorem key_exactSum : key (exactSum x y) =
    (if x.value + y.value = 0 then x.negative && y.negative else x.value + y.value < 0,
      x.value + y.value) := by
  have hsum := value_add x.toDecimal y.toDecimal
  rw [← SignedDecimal.value, ← SignedDecimal.value] at hsum
  rw [exactSum, key_withZero]
  exact hsum ▸ rfl

theorem exactSum_congr (hx : key x = key x') (hy : key y = key y') :
    key (exactSum x y) = key (exactSum x' y') := by
  obtain ⟨hxs, hxv⟩ := key_eq.mp hx
  obtain ⟨hys, hyv⟩ := key_eq.mp hy
  rw [key_exactSum, key_exactSum, hxs, hxv, hys, hyv]

theorem exactProduct_congr (hx : key x = key x') (hy : key y = key y') :
    key (exactProduct x y) = key (exactProduct x' y') := by
  obtain ⟨hxs, hxv⟩ := key_eq.mp hx
  obtain ⟨hys, hyv⟩ := key_eq.mp hy
  rw [key_eq, exactProduct_value, exactProduct_value, hxv, hyv]
  refine ⟨?_, rfl⟩
  simp only [exactProduct, hxs, hys]

theorem addSigned_congr (hrange : c.etiny ≤ c.etop) (hx : key x = key x') (hy : key y = key y') :
    (c.addSigned x y).map key = (c.addSigned x' y').map key :=
  fixSigned_congr hrange (exactSum_congr hx hy)

theorem mulSigned_congr (hrange : c.etiny ≤ c.etop) (hx : key x = key x') (hy : key y = key y') :
    (c.mulSigned x y).map key = (c.mulSigned x' y').map key :=
  fixSigned_congr hrange (exactProduct_congr hx hy)

theorem shiftSigned_congr (hrange : c.etiny ≤ c.etop) (hx : key x = key x') :
    (c.shiftSigned x n).map key = (c.shiftSigned x' n).map key := by
  apply fixSigned_congr hrange
  obtain ⟨hs, hv⟩ := key_eq.mp hx
  rw [key_eq, shifted_value, shifted_value, hv]
  exact ⟨hs, rfl⟩

end Alike

section Exact

variable {c : DecimalContext} {x y r : SignedDecimal} {n : ℕ}

theorem fits_abs {q : ℚ} : c.Fits |q| ↔ c.Fits q := by
  have hneg {q : ℚ} (h : c.Fits q) : c.Fits (-q) := by
    obtain ⟨k, f, rfl, hk, hlow, hhigh⟩ := h
    exact ⟨-k, f, by push_cast; ring, by rwa [abs_neg], hlow, hhigh⟩
  rcases abs_choice q with h | h
  · rw [h]
  · rw [h]
    constructor
    · intro hfits
      exact neg_neg q ▸ hneg hfits
    · exact hneg

theorem fixSigned_ok (h : c.fixSigned x = .ok r) : r.negative = x.negative ∧
    ∃ d, c.fix ⟨x.coefficient, x.exponent⟩ = .ok d ∧
      r.value = (if x.negative then -1 else 1) * d.value := by
  obtain ⟨d, hd, rfl⟩ := map_ok h
  have hnonneg := fix_nonneg (Int.natCast_nonneg x.coefficient) hd
  refine ⟨rfl, d, hd, ?_⟩
  rw [value_of_magnitude, Int.natAbs_of_nonneg hnonneg]

theorem fixSigned_fits (hrange : c.etiny ≤ c.etop) (h : c.fixSigned x = .ok r) :
    c.Fits r.value := by
  obtain ⟨-, d, hd, hvalue⟩ := fixSigned_ok h
  have hfits := fix_fits hrange hd
  rw [← fits_abs] at hfits ⊢
  rw [hvalue, abs_mul]
  split <;> simpa using hfits

theorem fixSigned_exact (h : c.Fits x.value) :
    ∃ r, c.fixSigned x = .ok r ∧ r.negative = x.negative ∧ r.value = x.value := by
  rw [← fits_abs, ← magnitude_value] at h
  obtain ⟨d, hd, hvalue⟩ := fix_exact h
  have hr : c.fixSigned x = .ok ⟨x.negative, d.coefficient.natAbs, d.exponent⟩ := by
    rw [fixSigned, hd]
    rfl
  obtain ⟨-, d', hd', hr'⟩ := fixSigned_ok hr
  obtain rfl := Except.ok.inj (hd.symm.trans hd')
  refine ⟨_, hr, rfl, ?_⟩
  rw [hr', hvalue]
  exact value_of_magnitude.symm

/-- An amount that is not negative is not rounded to a negative one. -/
theorem fixSigned_nonneg (h : c.fixSigned x = .ok r) (hx : 0 ≤ x.value) : 0 ≤ r.value := by
  obtain ⟨-, d, hd, hvalue⟩ := fixSigned_ok h
  have hd0 : 0 ≤ d.value := by
    have hcoefficient := fix_nonneg (Int.natCast_nonneg x.coefficient) hd
    exact mul_nonneg (by exact_mod_cast hcoefficient) (Decimal.scale_pos _).le
  rw [hvalue]
  split
  · rename_i hneg
    have hzero : x.coefficient = 0 := by
      rw [← SignedDecimal.value_eq_zero]
      apply le_antisymm _ hx
      rw [SignedDecimal.value, SignedDecimal.toDecimal, hneg, if_pos rfl, Decimal.value]
      push_cast
      rw [neg_mul, neg_nonpos]
      exact mul_nonneg (Nat.cast_nonneg _) (Decimal.scale_pos _).le
    rw [hzero, fix, if_pos (by simp)] at hd
    rw [← Except.ok.inj hd]
    simp [Decimal.value]
  · simpa using hd0

theorem addSigned_nonneg (h : c.addSigned x y = .ok r) (hx : 0 ≤ x.value) (hy : 0 ≤ y.value) :
    0 ≤ r.value := by
  apply fixSigned_nonneg h
  rw [exactSum_value]
  exact add_nonneg hx hy

theorem addSigned_exact (h : c.Fits (x.value + y.value)) :
    ∃ r, c.addSigned x y = .ok r ∧ key r = key (exactSum x y) := by
  rw [← exactSum_value] at h
  obtain ⟨r, hr, hs, hv⟩ := fixSigned_exact h
  exact ⟨r, hr, key_eq.mpr ⟨hs, hv⟩⟩

theorem mulSigned_exact (h : c.Fits (x.value * y.value)) :
    ∃ r, c.mulSigned x y = .ok r ∧ key r = key (exactProduct x y) := by
  rw [← exactProduct_value] at h
  obtain ⟨r, hr, hs, hv⟩ := fixSigned_exact h
  exact ⟨r, hr, key_eq.mpr ⟨hs, hv⟩⟩

theorem shiftSigned_exact (h : c.Fits (x.value / 10 ^ n)) :
    ∃ r, c.shiftSigned x n = .ok r ∧ r.negative = x.negative ∧ r.value = x.value / 10 ^ n := by
  rw [← shifted_value] at h ⊢
  exact fixSigned_exact h

end Exact

end DecimalContext

end Foundation
