import Mathlib.Algebra.Order.Field.Power
import Mathlib.Data.Nat.Log
import Mathlib.Tactic.FieldSimp
import Mathlib.Tactic.Linarith
import Mathlib.Tactic.Positivity
import Mathlib.Tactic.Ring
/-! # Decimal arithmetic

A decimal number is a coefficient and an exponent of ten. A context rounds the true
result of an operation half to even, to so many digits and within a range of exponents.
A result that fits the context is not changed by the rounding.
-/

namespace Foundation

structure Decimal where
  coefficient : ℤ
  exponent : ℤ
deriving DecidableEq, Repr

namespace Decimal

variable {x y : Decimal} {e : ℤ}

def value (x : Decimal) : ℚ := x.coefficient * 10 ^ x.exponent

/-- The coefficient of the same number at an exponent that is no larger. -/
def coefficientAt (x : Decimal) (e : ℤ) : ℤ := x.coefficient * 10 ^ (x.exponent - e).toNat

instance : Zero Decimal := ⟨⟨0, 0⟩⟩

/-- Numeric equality, which ignores trailing zeros. -/
def Same (x y : Decimal) : Prop :=
  x.coefficientAt (min x.exponent y.exponent) = y.coefficientAt (min x.exponent y.exponent)

instance : LE Decimal where
  le x y := x.coefficientAt (min x.exponent y.exponent) ≤ y.coefficientAt (min x.exponent y.exponent)

instance : LT Decimal where
  lt x y := x.coefficientAt (min x.exponent y.exponent) < y.coefficientAt (min x.exponent y.exponent)

instance : Decidable (Same x y) := inferInstanceAs (Decidable (_ = _))
instance : Decidable (x ≤ y) := inferInstanceAs (Decidable ((_ : ℤ) ≤ _))
instance : Decidable (x < y) := inferInstanceAs (Decidable ((_ : ℤ) < _))

@[simp] theorem value_zero : (0 : Decimal).value = 0 := by
  change ((0 : ℤ) : ℚ) * 10 ^ (0 : ℤ) = 0
  simp

theorem value_at (he : e ≤ x.exponent) : x.value = x.coefficientAt e * 10 ^ e := by
  have hsplit : x.exponent = ((x.exponent - e).toNat : ℤ) + e := by omega
  calc x.value = x.coefficient * 10 ^ (((x.exponent - e).toNat : ℤ) + e) := by rw [value, ← hsplit]
    _ = x.coefficientAt e * 10 ^ e := by
      rw [zpow_add₀ (by norm_num), zpow_natCast, coefficientAt]
      push_cast
      ring

theorem scale_pos (e : ℤ) : (0 : ℚ) < 10 ^ e := by positivity

theorem same_iff : x.Same y ↔ x.value = y.value := by
  rw [value_at (min_le_left x.exponent y.exponent), value_at (min_le_right x.exponent y.exponent),
    mul_left_inj' (scale_pos _).ne', Int.cast_inj, Same]

theorem le_iff : x ≤ y ↔ x.value ≤ y.value := by
  rw [value_at (min_le_left x.exponent y.exponent), value_at (min_le_right x.exponent y.exponent),
    mul_le_mul_iff_left₀ (scale_pos _), Int.cast_le]
  exact Iff.rfl

theorem lt_iff : x < y ↔ x.value < y.value := by
  rw [value_at (min_le_left x.exponent y.exponent), value_at (min_le_right x.exponent y.exponent),
    mul_lt_mul_iff_left₀ (scale_pos _), Int.cast_lt]
  exact Iff.rfl

/-- How many digits the coefficient has. -/
def digits (x : Decimal) : ℕ := Nat.log 10 x.coefficient.natAbs + 1

/-- The quotient by a power of ten, half to even. -/
def halfEven (c : ℕ) (n : ℕ) : ℕ :=
  let q := c / 10 ^ n
  let r := c % 10 ^ n
  if 10 ^ n < 2 * r ∨ (2 * r = 10 ^ n ∧ q % 2 = 1) then q + 1 else q

end Decimal

inductive DecimalSignal
  | overflow
  | invalidOperation
deriving DecidableEq, Repr

/-- The precision and the exponents of the arithmetic. -/
structure DecimalContext where
  prec : ℕ
  emin : ℤ
  emax : ℤ

namespace DecimalContext

variable (c : DecimalContext)

def etiny : ℤ := c.emin - c.prec + 1
def etop : ℤ := c.emax - c.prec + 1

/-- A number with the sign of the first and the magnitude of the second. -/
def signed (sign : ℤ) (magnitude : ℕ) : ℤ := if sign < 0 then -magnitude else magnitude

def fix (x : Decimal) : Except DecimalSignal Decimal :=
  if x.coefficient = 0 then .ok ⟨0, min (max x.exponent c.etiny) c.emax⟩
  else
    let least := x.digits + x.exponent - c.prec
    if c.etop < least then .error .overflow
    else
      let least := max least c.etiny
      if least ≤ x.exponent then .ok x
      else
        let magnitude := Decimal.halfEven x.coefficient.natAbs (least - x.exponent).toNat
        if magnitude < 10 ^ c.prec then
          if c.etop < least then .error .overflow
          else .ok ⟨signed x.coefficient magnitude, least⟩
        else if c.etop < least + 1 then .error .overflow
        else .ok ⟨signed x.coefficient (magnitude / 10), least + 1⟩

def add (x y : Decimal) : Except DecimalSignal Decimal :=
  let e := min x.exponent y.exponent
  c.fix ⟨x.coefficientAt e + y.coefficientAt e, e⟩

def mul (x y : Decimal) : Except DecimalSignal Decimal :=
  c.fix ⟨x.coefficient * y.coefficient, x.exponent + y.exponent⟩

def scaleb (x : Decimal) (n : ℤ) : Except DecimalSignal Decimal :=
  c.fix ⟨x.coefficient, x.exponent + n⟩

variable {c} {x y : Decimal}

theorem signed_mul {s : ℤ} {q n : ℕ} (h : s.natAbs = q * n) :
    signed s q * (n : ℤ) = s := by
  unfold signed
  split_ifs with hneg
  · have habs : (s.natAbs : ℤ) = -s := by omega
    have hcast : (s.natAbs : ℤ) = (q : ℤ) * n := by exact_mod_cast h
    linarith
  · have habs : (s.natAbs : ℤ) = s := by omega
    have hcast : (s.natAbs : ℤ) = (q : ℤ) * n := by exact_mod_cast h
    linarith

theorem halfEven_mul (q n : ℕ) : Decimal.halfEven (q * 10 ^ n) n = q := by
  have hpos : 0 < 10 ^ n := by positivity
  unfold Decimal.halfEven
  simp only [Nat.mul_div_cancel _ hpos, Nat.mul_mod_left, mul_zero]
  rw [if_neg]
  omega

theorem natAbs_lt (x : Decimal) : x.coefficient.natAbs < 10 ^ x.digits :=
  Nat.lt_pow_succ_log_self (by norm_num) _

theorem le_natAbs (h : x.coefficient ≠ 0) : 10 ^ (x.digits - 1) ≤ x.coefficient.natAbs :=
  Nat.pow_log_le_self 10 (by omega)

theorem abs_value (x : Decimal) : |x.value| = x.coefficient.natAbs * 10 ^ x.exponent := by
  rw [Decimal.value, abs_mul, abs_of_pos (Decimal.scale_pos _), ← Int.cast_abs, ← Int.natCast_natAbs]
  rfl

theorem abs_value_lt (x : Decimal) : |x.value| < 10 ^ (x.digits + x.exponent) := by
  rw [abs_value, zpow_add₀ (by norm_num), zpow_natCast]
  apply mul_lt_mul_of_pos_right _ (Decimal.scale_pos _)
  exact_mod_cast natAbs_lt x

theorem le_abs_value (h : x.coefficient ≠ 0) :
    10 ^ (x.digits - 1 + x.exponent) ≤ |x.value| := by
  have hd : ((x.digits : ℤ) - 1) = ((x.digits - 1 : ℕ) : ℤ) := by
    have : 1 ≤ x.digits := Nat.le_add_left 1 _
    omega
  rw [abs_value, zpow_add₀ (by norm_num), hd, zpow_natCast]
  apply mul_le_mul_of_nonneg_right _ (Decimal.scale_pos _).le
  exact_mod_cast le_natAbs h

/-- The number has a form within the digits and the exponents of the context. -/
def Fits (c : DecimalContext) (q : ℚ) : Prop :=
  ∃ k f : ℤ, q = k * 10 ^ f ∧ |k| < 10 ^ c.prec ∧ c.etiny ≤ f ∧ f ≤ c.etop

theorem least_le {k f : ℤ} (h0 : x.coefficient ≠ 0) (hx : x.value = k * 10 ^ f)
    (hk : |k| < 10 ^ c.prec) : x.digits + x.exponent - c.prec ≤ f := by
  have hlow := le_abs_value h0
  have hhigh : |x.value| < 10 ^ (c.prec + f) := by
    rw [hx, abs_mul, abs_of_pos (Decimal.scale_pos _), zpow_add₀ (by norm_num), zpow_natCast]
    apply mul_lt_mul_of_pos_right _ (Decimal.scale_pos _)
    exact_mod_cast hk
  have := (zpow_lt_zpow_iff_right₀ (by norm_num : (1 : ℚ) < 10)).mp (hlow.trans_lt hhigh)
  omega

/-- A shorter form of the number at an exponent between. -/
theorem natAbs_eq {k f m : ℤ} (hx : x.value = k * 10 ^ f) (he : x.exponent ≤ m) (hm : m ≤ f) :
    x.coefficient.natAbs = k.natAbs * 10 ^ (f - m).toNat * 10 ^ (m - x.exponent).toNat := by
  have hf : f = (((f - m).toNat + (m - x.exponent).toNat : ℕ) : ℤ) + x.exponent := by omega
  have hc : (x.coefficient : ℚ) = k * 10 ^ ((f - m).toNat + (m - x.exponent).toNat) := by
    rw [Decimal.value, hf, zpow_add₀ (by norm_num), ← mul_assoc] at hx
    rw [mul_right_cancel₀ (Decimal.scale_pos _).ne' hx, zpow_natCast]
  have hi : x.coefficient = k * 10 ^ ((f - m).toNat + (m - x.exponent).toNat) := by
    exact_mod_cast hc
  rw [hi, Int.natAbs_mul, Int.natAbs_pow, pow_add, ← mul_assoc]
  rfl

/-- A number that fits is rounded to itself. -/
theorem fix_exact (h : c.Fits x.value) : ∃ r, c.fix x = .ok r ∧ r.value = x.value := by
  obtain ⟨k, f, hx, hk, hlow, hhigh⟩ := h
  by_cases h0 : x.coefficient = 0
  · refine ⟨_, if_pos h0, ?_⟩
    simp [Decimal.value, h0]
  · have hleast := least_le h0 hx hk
    have hdigits := natAbs_lt x
    unfold fix
    rw [if_neg h0, if_neg (by omega)]
    generalize hm : max ((x.digits : ℤ) + x.exponent - c.prec) c.etiny = m
    have hmf : m ≤ f := by omega
    by_cases hme : m ≤ x.exponent
    · exact ⟨x, if_pos hme, rfl⟩
    · have hq := natAbs_eq hx (not_le.mp hme).le hmf
      rw [if_neg hme, hq, halfEven_mul]
      generalize k.natAbs * 10 ^ (f - m).toNat = q at hq
      have hlt : q < 10 ^ c.prec := by
        have hn : x.digits ≤ c.prec + (m - x.exponent).toNat := by omega
        have hpow : 10 ^ x.digits ≤ 10 ^ (c.prec + (m - x.exponent).toNat) :=
          Nat.pow_le_pow_right (by norm_num) hn
        rw [pow_add] at hpow
        rw [hq] at hdigits
        exact Nat.lt_of_mul_lt_mul_right (hdigits.trans_le hpow)
      rw [if_pos hlt, if_neg (by omega)]
      refine ⟨_, rfl, ?_⟩
      have hs : (signed x.coefficient q : ℚ) * 10 ^ (m - x.exponent).toNat = x.coefficient := by
        exact_mod_cast signed_mul hq
      have hexp : m = ((m - x.exponent).toNat : ℤ) + x.exponent := by omega
      calc (signed x.coefficient q : ℚ) * 10 ^ m
          = signed x.coefficient q * 10 ^ (m - x.exponent).toNat * 10 ^ x.exponent := by
            conv_lhs => rw [hexp, zpow_add₀ (by norm_num), zpow_natCast, ← mul_assoc]
        _ = x.value := by rw [hs, Decimal.value]

section Saturation

variable {b : ℤ}

theorem halfEven_le (n m : ℕ) : 2 * (Decimal.halfEven n m * 10 ^ m) ≤ 2 * n + 10 ^ m := by
  have hdiv := Nat.div_add_mod n (10 ^ m)
  have hcomm : 10 ^ m * (n / 10 ^ m) = n / 10 ^ m * 10 ^ m := Nat.mul_comm _ _
  unfold Decimal.halfEven
  dsimp only
  split_ifs with hup
  · rw [Nat.add_mul, one_mul]
    omega
  · omega

theorem halfEven_le_pow {n m p : ℕ} (h : n < 10 ^ (p + m)) : Decimal.halfEven n m ≤ 10 ^ p := by
  have hq : n / 10 ^ m < 10 ^ p := Nat.div_lt_of_lt_mul (by rwa [← pow_add, add_comm])
  unfold Decimal.halfEven
  dsimp only
  split_ifs <;> omega

/-- A number below the greatest exponent is kept, or rounded to its least exponent. -/
theorem fix_cases (hpos : 0 < x.coefficient) (hprec : 1 ≤ c.prec) (hrange : c.etiny < c.etop)
    (hx : x.digits + x.exponent - c.prec < c.etop) {m : ℤ}
    (hm : m = max ((x.digits : ℤ) + x.exponent - c.prec) c.etiny) :
    ∃ r, c.fix x = .ok r ∧ (m ≤ x.exponent ∧ r.value = x.value ∨
      x.exponent < m ∧ ∃ q : ℕ, r.value = q * 10 ^ m ∧ q ≤ 10 ^ c.prec ∧
        2 * (q * 10 ^ (m - x.exponent).toNat) ≤
          2 * x.coefficient.natAbs + 10 ^ (m - x.exponent).toNat) := by
  unfold fix
  rw [if_neg hpos.ne', if_neg (by omega), ← hm]
  by_cases hme : m ≤ x.exponent
  · exact ⟨x, if_pos hme, .inl ⟨hme, rfl⟩⟩
  · have hlt : Decimal.halfEven x.coefficient.natAbs (m - x.exponent).toNat ≤ 10 ^ c.prec := by
      apply halfEven_le_pow
      apply (natAbs_lt x).trans_le
      apply Nat.pow_le_pow_right (by norm_num)
      omega
    have hnear := halfEven_le x.coefficient.natAbs (m - x.exponent).toNat
    rw [if_neg hme]
    generalize Decimal.halfEven x.coefficient.natAbs (m - x.exponent).toNat = q at hlt hnear
    have hsigned (q : ℕ) : signed x.coefficient q = q := if_neg (by omega)
    by_cases hq : q < 10 ^ c.prec
    · refine ⟨⟨q, m⟩, ?_, .inr ⟨by omega, q, rfl, hlt, hnear⟩⟩
      rw [if_pos hq, if_neg (by omega), hsigned]
    · refine ⟨⟨(q / 10 : ℕ), m + 1⟩, ?_, .inr ⟨by omega, q, ?_, hlt, hnear⟩⟩
      · rw [if_neg hq, if_neg (by omega), hsigned]
      · obtain ⟨p, hp⟩ : ∃ p, c.prec = p + 1 := ⟨c.prec - 1, by omega⟩
        have hten : q / 10 * 10 = q := by
          rw [hp, pow_succ] at hlt hq
          omega
        rw [Decimal.value, zpow_add₀ (by norm_num)]
        calc ((q / 10 : ℕ) : ℚ) * (10 ^ m * 10 ^ (1 : ℤ)) = ((q / 10 * 10 : ℕ) : ℚ) * 10 ^ m := by
              push_cast
              ring
          _ = q * 10 ^ m := by rw [hten]

/-- A multiple of a unit that is above another multiple is above it by a unit. -/
theorem unit_gap {k : ℤ} {g : ℤ} (hg : g ≤ b) (h : (10 : ℚ) ^ b < k * 10 ^ g) :
    10 ^ b + 10 ^ g ≤ (k : ℚ) * 10 ^ g := by
  have hb : (10 : ℚ) ^ b = ((10 ^ (b - g).toNat : ℤ) : ℚ) * 10 ^ g := by
    have hsplit : b = ((b - g).toNat : ℤ) + g := by omega
    conv_lhs => rw [hsplit, zpow_add₀ (by norm_num), zpow_natCast]
    push_cast
    rfl
  rw [hb] at h ⊢
  have hk : (10 ^ (b - g).toNat : ℤ) + 1 ≤ k := by
    have := lt_of_mul_lt_mul_right h (Decimal.scale_pos g).le
    exact_mod_cast this
  calc ((10 ^ (b - g).toNat : ℤ) : ℚ) * 10 ^ g + 10 ^ g
      = (((10 ^ (b - g).toNat + 1 : ℤ)) : ℚ) * 10 ^ g := by
        push_cast
        ring
    _ ≤ k * 10 ^ g := by
        apply mul_le_mul_of_nonneg_right _ (Decimal.scale_pos g).le
        exact_mod_cast hk

/-- What exceeds a power of ten by less than half a unit of the next place is rounded down to it. -/
theorem fix_saturates (hprec : 1 ≤ c.prec) (hrange : c.etiny < c.etop) (hlow : c.etiny ≤ b) (hhigh : b + 1 < c.emax)
    (h0 : 0 ≤ x.value) (hx : x.value < 10 ^ b + 10 ^ (b - c.prec) / 2) :
    ∃ r, c.fix x = .ok r ∧ 0 ≤ r.value ∧ r.value ≤ 10 ^ b := by
  have hnonneg : 0 ≤ x.coefficient := by
    rw [Decimal.value] at h0
    exact_mod_cast nonneg_of_mul_nonneg_left h0 (Decimal.scale_pos _)
  rcases hnonneg.eq_or_lt with hz | hpos
  · refine ⟨_, if_pos hz.symm, ?_⟩
    simp [Decimal.value, (Decimal.scale_pos b).le]
  · have hplace : (10 : ℚ) ^ (b - c.prec) ≤ 10 ^ b :=
      zpow_le_zpow_right₀ (by norm_num) (by omega)
    have hvalue : |x.value| = x.value := abs_of_nonneg h0
    have hten : (10 : ℚ) ^ (b + 1) = 10 ^ b * 10 := by
      rw [zpow_add₀ (by norm_num), zpow_one]
    have hbig := Decimal.scale_pos b
    have hdigits : x.digits - 1 + x.exponent < b + 1 := by
      apply (zpow_lt_zpow_iff_right₀ (by norm_num : (1 : ℚ) < 10)).mp
      apply (le_abs_value hpos.ne').trans_lt
      rw [hvalue, hten]
      linarith
    have hunder := abs_value_lt x
    rw [hvalue] at hunder
    obtain ⟨m, hm⟩ : ∃ m, m = max ((x.digits : ℤ) + x.exponent - c.prec) c.etiny := ⟨_, rfl⟩
    have htop : c.etop = c.emax - c.prec + 1 := rfl
    obtain ⟨r, hr, ⟨hme, hrv⟩ | ⟨hme, q, hrv, hq, hnear⟩⟩ :=
      fix_cases hpos hprec hrange (by omega) hm
    · refine ⟨r, hr, hrv ▸ h0, ?_⟩
      by_contra hgt
      rw [hrv, not_le] at hgt
      have hover := hgt.trans hunder
      rw [zpow_lt_zpow_iff_right₀ (by norm_num)] at hover
      have hgap := unit_gap (min_le_right x.exponent b)
        (by rwa [Decimal.value_at (min_le_left x.exponent b)] at hgt)
      rw [← Decimal.value_at (min_le_left x.exponent b)] at hgap
      have hunit : (10 : ℚ) ^ (b - c.prec) ≤ 10 ^ min x.exponent b :=
        zpow_le_zpow_right₀ (by norm_num) (by omega)
      linarith [Decimal.scale_pos (b - c.prec)]
    · refine ⟨r, hr, by rw [hrv]; positivity, ?_⟩
      by_contra hgt
      rw [hrv, not_le] at hgt
      have hover : (q : ℚ) * 10 ^ m ≤ 10 ^ (c.prec + m) := by
        rw [zpow_add₀ (by norm_num), zpow_natCast]
        apply mul_le_mul_of_nonneg_right _ (Decimal.scale_pos m).le
        exact_mod_cast hq
      have hplaces := hgt.trans_le hover
      rw [zpow_lt_zpow_iff_right₀ (by norm_num)] at hplaces
      have hgap := unit_gap (k := q) (by omega : m ≤ b) (by exact_mod_cast hgt)
      have hunit : (10 : ℚ) ^ (b - c.prec) ≤ 10 ^ m :=
        zpow_le_zpow_right₀ (by norm_num) (by omega)
      have hsplit : (10 : ℚ) ^ m = 10 ^ (m - x.exponent).toNat * 10 ^ x.exponent := by
        have hexp : m = ((m - x.exponent).toNat : ℤ) + x.exponent := by omega
        conv_lhs => rw [hexp, zpow_add₀ (by norm_num), zpow_natCast]
      have hnear' : 2 * ((q : ℚ) * 10 ^ m) ≤ 2 * x.value + 10 ^ m := by
        have habs : x.value = x.coefficient.natAbs * 10 ^ x.exponent := by
          rw [← hvalue, abs_value]
        have hcast : 2 * ((q : ℚ) * 10 ^ (m - x.exponent).toNat) ≤
            2 * x.coefficient.natAbs + 10 ^ (m - x.exponent).toNat := by exact_mod_cast hnear
        rw [habs, hsplit]
        have := mul_le_mul_of_nonneg_right hcast (Decimal.scale_pos x.exponent).le
        linarith
      push_cast at hgap
      linarith

end Saturation

theorem value_add (x y : Decimal) :
    (⟨x.coefficientAt (min x.exponent y.exponent) + y.coefficientAt (min x.exponent y.exponent),
      min x.exponent y.exponent⟩ : Decimal).value = x.value + y.value := by
  rw [Decimal.value_at (min_le_left x.exponent y.exponent),
    Decimal.value_at (min_le_right x.exponent y.exponent), Decimal.value]
  push_cast
  ring

theorem value_mul (x y : Decimal) :
    (⟨x.coefficient * y.coefficient, x.exponent + y.exponent⟩ : Decimal).value =
      x.value * y.value := by
  simp only [Decimal.value, zpow_add₀ (by norm_num : (10 : ℚ) ≠ 0)]
  push_cast
  ring

theorem value_scaleb (x : Decimal) (n : ℤ) :
    (⟨x.coefficient, x.exponent + n⟩ : Decimal).value = x.value * 10 ^ n := by
  simp only [Decimal.value, zpow_add₀ (by norm_num : (10 : ℚ) ≠ 0)]
  ring

theorem add_exact (h : c.Fits (x.value + y.value)) :
    ∃ r, c.add x y = .ok r ∧ r.value = x.value + y.value := by
  rw [← value_add] at h ⊢
  exact fix_exact h

theorem mul_exact (h : c.Fits (x.value * y.value)) :
    ∃ r, c.mul x y = .ok r ∧ r.value = x.value * y.value := by
  rw [← value_mul] at h ⊢
  exact fix_exact h

theorem scaleb_exact {n : ℤ} (h : c.Fits (x.value * 10 ^ n)) :
    ∃ r, c.scaleb x n = .ok r ∧ r.value = x.value * 10 ^ n := by
  rw [← value_scaleb] at h ⊢
  exact fix_exact h

/-- Rounding does not lower an exponent. -/
theorem fix_exponent {b : ℤ} {r : Decimal} (hb : b ≤ x.exponent) (hmax : b ≤ c.emax)
    (h : c.fix x = .ok r) : b ≤ r.exponent := by
  unfold fix at h
  dsimp only at h
  split at h
  · rw [← Except.ok.inj h]
    exact le_min (hb.trans (le_max_left _ _)) hmax
  · split at h
    · cases h
    · split at h
      · rwa [← Except.ok.inj h]
      · rename_i hleast
        split at h
        · split at h
          · cases h
          · rw [← Except.ok.inj h]
            exact hb.trans (not_le.mp hleast).le
        · split at h
          · cases h
          · rw [← Except.ok.inj h]
            exact (hb.trans (not_le.mp hleast).le).trans (Int.le_add_one le_rfl)

theorem coefficient_nonneg (h : 0 ≤ x.value) : 0 ≤ x.coefficient := by
  rw [Decimal.value] at h
  exact_mod_cast nonneg_of_mul_nonneg_left h (Decimal.scale_pos _)

theorem add_exponent {b : ℤ} {r : Decimal} (hx : b ≤ x.exponent) (hy : b ≤ y.exponent)
    (hmax : b ≤ c.emax) (h : c.add x y = .ok r) : b ≤ r.exponent :=
  fix_exponent (le_min hx hy) hmax h

/-- A total up to a power of ten stays there when it takes less than half a unit of the next place. -/
theorem add_saturates {b : ℤ} (hprec : 1 ≤ c.prec) (hrange : c.etiny < c.etop)
    (hlow : c.etiny ≤ b) (hhigh : b + 1 < c.emax) (hx : 0 ≤ x.value) (hxb : x.value ≤ 10 ^ b)
    (hy : 0 ≤ y.value) (hyb : y.value < 10 ^ (b - c.prec) / 2) :
    ∃ r, c.add x y = .ok r ∧ 0 ≤ r.value ∧ r.value ≤ 10 ^ b := by
  apply fix_saturates hprec hrange hlow hhigh
  · rw [value_add]
    exact add_nonneg hx hy
  · rw [value_add]
    exact add_lt_add_of_le_of_lt hxb hyb

end DecimalContext

/-- At most so many units of the given number of decimal places. -/
def Grid (places bound : ℕ) (q : ℚ) : Prop := ∃ n : ℕ, n ≤ bound ∧ q = n / 10 ^ places

namespace Grid

variable {s a b : ℕ} {p q : ℚ}

theorem zero : Grid s a 0 := ⟨0, Nat.zero_le _, by simp⟩

theorem mono (h : Grid s a q) (hab : a ≤ b) : Grid s b q := by
  obtain ⟨n, hn, rfl⟩ := h
  exact ⟨n, hn.trans hab, rfl⟩

theorem add (hp : Grid s a p) (hq : Grid s b q) : Grid s (a + b) (p + q) := by
  obtain ⟨m, hm, rfl⟩ := hp
  obtain ⟨n, hn, rfl⟩ := hq
  refine ⟨m + n, Nat.add_le_add hm hn, ?_⟩
  push_cast
  ring

theorem nsmul (h : Grid s a q) (k : ℕ) : Grid s (k * a) (k * q) := by
  obtain ⟨n, hn, rfl⟩ := h
  refine ⟨k * n, Nat.mul_le_mul_left k hn, ?_⟩
  push_cast
  ring

theorem shift (h : Grid s a q) (k : ℕ) : Grid (s + k) a (q / 10 ^ k) := by
  obtain ⟨n, hn, rfl⟩ := h
  refine ⟨n, hn, ?_⟩
  rw [pow_add]
  field_simp

theorem refine (h : Grid s a q) (k : ℕ) : Grid (s + k) (a * 10 ^ k) q := by
  obtain ⟨n, hn, rfl⟩ := h
  refine ⟨n * 10 ^ k, Nat.mul_le_mul_right _ hn, ?_⟩
  rw [pow_add]
  push_cast
  field_simp

theorem nonneg (h : Grid s a q) : 0 ≤ q := by
  obtain ⟨n, -, rfl⟩ := h
  positivity

theorem le (h : Grid s a q) : q ≤ a / 10 ^ s := by
  obtain ⟨n, hn, rfl⟩ := h
  apply div_le_div_of_nonneg_right _ (by positivity)
  exact_mod_cast hn

theorem bounded (h : Grid s a q) (hq : q ≤ b / 10 ^ s) : Grid s b q := by
  obtain ⟨n, -, rfl⟩ := h
  refine ⟨n, ?_, rfl⟩
  rw [div_le_div_iff_of_pos_right (by positivity)] at hq
  exact_mod_cast hq

/-- A decimal with so many places is a number of their units. -/
theorem of_decimal {x : Decimal} (h0 : 0 ≤ x.coefficient) (hs : -(s : ℤ) ≤ x.exponent)
    (hx : x.value ≤ a / 10 ^ s) : Grid s a x.value := by
  obtain ⟨n, hn⟩ : ∃ n : ℕ, (n : ℤ) = x.coefficientAt (-s) :=
    ⟨_, Int.toNat_of_nonneg (mul_nonneg h0 (by positivity))⟩
  have hvalue : x.value = n / 10 ^ s := by
    rw [Decimal.value_at hs, ← hn, Int.cast_natCast, zpow_neg, zpow_natCast, div_eq_mul_inv]
  have hgrid : Grid s n x.value := ⟨n, le_rfl, hvalue⟩
  exact hgrid.bounded hx

theorem fits {c : DecimalContext} (h : Grid s a q) (ha : a < 10 ^ c.prec) (hlow : c.etiny ≤ -s)
    (hhigh : -s ≤ c.etop) : c.Fits q := by
  obtain ⟨n, hn, rfl⟩ := h
  refine ⟨n, -s, ?_, ?_, hlow, hhigh⟩
  · rw [zpow_neg, zpow_natCast, Int.cast_natCast, div_eq_mul_inv]
  · rw [Nat.abs_cast]
    exact_mod_cast hn.trans_lt ha

end Grid

end Foundation
