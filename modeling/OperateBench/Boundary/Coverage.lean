import OperateBench.Boundary.Cap

/-! # A reservation covers its measurement

A longer prompt or a longer answer never costs less, also where the prompt crosses into the
long-context tier. So a turn within the bound and the ceiling that its reservation was taken
for is settled without a breach.
-/

namespace OperateBench.Boundary

open Foundation

namespace LongContextTier

variable {tier : LongContextTier} {input input' : ℕ}

theorem selects_mono (h : tier.selects input = true) (hi : input ≤ input') :
    tier.selects input' = true := by
  unfold selects at h ⊢
  split
  · rename_i hat
    rw [if_pos hat] at h
    exact decide_eq_true ((of_decide_eq_true h).trans hi)
  · rename_i hat
    rw [if_neg hat] at h
    exact decide_eq_true ((of_decide_eq_true h).trans_le hi)

end LongContextTier

namespace ModelPrice

variable {price : ModelPrice} {input input' output output' : ℕ}

theorem ratesFor_mono (h : input ≤ input') :
    (price.ratesFor input).1.amount.value ≤ (price.ratesFor input').1.amount.value ∧
      (price.ratesFor input).2.amount.value ≤ (price.ratesFor input').2.amount.value := by
  unfold ratesFor
  cases htier : price.longContextTier with
  | none => exact ⟨le_rfl, le_rfl⟩
  | some tier =>
    dsimp only
    by_cases hlong : tier.selects input = true
    · rw [if_pos hlong, if_pos (LongContextTier.selects_mono hlong h)]
      exact ⟨le_rfl, le_rfl⟩
    · rw [if_neg hlong]
      split
      · obtain ⟨hin, hout⟩ := price.rising tier htier
        exact ⟨Decimal.le_iff.mp hin, Decimal.le_iff.mp hout⟩
      · exact ⟨le_rfl, le_rfl⟩

theorem charge_mono (hi : input ≤ input') (ho : output ≤ output') :
    price.charge input output ≤ price.charge input' output' := by
  obtain ⟨hin, hout⟩ : (price.ratesFor input).1.amount.value ≤ _ ∧ _ := ratesFor_mono hi
  have hin0 := (price.ratesFor input).1.grid.nonneg
  have hout0 := (price.ratesFor input).2.grid.nonneg
  unfold charge
  gcongr

/-- Of two prices that are computed, that of the longer turn is not the lower one. -/
theorem cost_mono {x y : Decimal} (hi : input ≤ input') (ho : output ≤ output')
    (hx : price.cost (.whole input) (.whole output) = .ok x)
    (hy : price.cost (.whole input') (.whole output') = .ok y) : x ≤ y := by
  obtain ⟨i, o, hin, hout, -, -, hxv⟩ := cost_ok hx
  obtain ⟨i', o', hin', hout', -, -, hyv⟩ := cost_ok hy
  cases hin
  cases hout
  cases hin'
  cases hout'
  rw [Decimal.le_iff, hxv, hyv]
  exact charge_mono hi ho

/-- A turn that is no longer than one with a price has a price. -/
theorem cost_defined {y : Decimal} (hi : input ≤ input') (ho : output ≤ output')
    (hy : price.cost (.whole input') (.whole output') = .ok y) :
    ∃ x, price.cost (.whole input) (.whole output) = .ok x := by
  obtain ⟨i, o, hin, hout, hib, hob, -⟩ := cost_ok hy
  cases hin
  cases hout
  obtain ⟨x, hx, -⟩ : ∃ d, price.priced input output = .ok d ∧ _ :=
    priced_exact (hi.trans hib) (ho.trans hob)
  refine ⟨x, ?_⟩
  unfold cost
  rw [checkTokenCount_whole (hi.trans hib), ok_bind, checkTokenCount_whole (ho.trans hob), ok_bind,
    hx]
  rfl

end ModelPrice

namespace RunCostGuard

variable {g t : RunCostGuard} {reservation : Operand} {input output : Count}

theorem Posted.pricing {e : Posting} (h : Posted g e t) :
    t.price = g.price ∧ t.maxOutputTokens = g.maxOutputTokens := by
  cases h <;> exact ⟨rfl, rfl⟩

/-- The counts of a response stay within a bound, as far as it states any. -/
def Count.AtMost (count : Count) (bound : ℕ) : Prop := ∀ n : ℤ, count = .whole n → n ≤ bound

theorem settle_covered (hs : g.Sound) {p : Decimal} {n bound : ℕ} (hp : g.pending = some (p, n))
    (hpriced : p.value = g.price.charge bound g.maxOutputTokens)
    (hin : Count.AtMost input bound) (hout : Count.AtMost output g.maxOutputTokens) :
    Leaves (settle reservation input output) g (fun _ _ => True) fun e _ => e.isBreach = false := by
  unfold settle
  simp only [leaves_bind, leaves_get]
  refine release_leaves.mono ?_ fun e t h => h.2
  rintro reserved _ ⟨p', n', hp', -, hv, rfl⟩
  obtain ⟨rfl, rfl⟩ := Prod.mk.inj (Option.some.inj (hp.symm.trans hp'))
  cases hm : g.measure input output with
  | none =>
    simp only [leaves_bind, leaves_pure]
    refine (bankExposure_leaves hs.released (hv ▸ hs.pending _ _ hp)).mono ?_ ?_
    · exact fun _ _ _ => trivial
    · exact fun _ _ => False.elim
  | some d =>
    obtain ⟨i, o, rfl, rfl, hib, hob, hd⟩ := measure_some hm
    have hcovered : d.value ≤ reserved.value := by
      rw [hd, hv, hpriced]
      exact ModelPrice.charge_mono (Int.ofNat_le.mp (hin i rfl)) (Int.ofNat_le.mp (hout o rfl))
    simp only [leaves_bind]
    refine (bankMeasured_leaves hs.released (hd ▸ ModelPrice.charge_grid hib hob)).mono ?_ ?_
    · rintro _ _ -
      rw [if_neg (by rw [Decimal.lt_iff]; exact not_lt.mpr hcovered)]
      trivial
    · exact fun _ _ => False.elim

/-- Prices rise with both counts across the tier, and a turn that stays within the bound and the
ceiling of its reservation is settled without a breach. -/
theorem reservation_covers (price : ModelPrice) :
    (∀ i i' o o' : ℕ, i ≤ i' → o ≤ o' → ∀ y, price.cost (.whole i') (.whole o') = .ok y →
      ∃ x, price.cost (.whole i) (.whole o) = .ok x ∧ x ≤ y) ∧
    ∀ g, Reached g → g.price = price → ∀ (bound : ℤ) (reserved : Decimal) (held : RunCostGuard),
      authorize (.whole bound) g = .ok reserved held →
      ∀ (reservation : Operand) (input output : Count),
        Count.AtMost input bound.toNat → Count.AtMost output g.maxOutputTokens →
        ∀ e t, settle reservation input output held = .error e t → e.isBreach = false := by
  constructor
  · intro i i' o o' hi ho y hy
    obtain ⟨x, hx⟩ := ModelPrice.cost_defined hi ho hy
    exact ⟨x, hx, ModelPrice.cost_mono hi ho hx hy⟩
  · rintro g hg - bound reserved held hauth reservation input output hin hout e t hsettle
    obtain ⟨i, hi, hposted, hreserved, hpending⟩ := authorize_leaves.ok hauth
    obtain rfl := Count.whole.inj hi
    obtain ⟨i', o', hi', ho', -, -, hvalue⟩ := ModelPrice.cost_ok hreserved
    cases hi'
    cases ho'
    have hsound := hposted.sound hg.sound
    obtain ⟨hprice, hceiling⟩ := hposted.pricing
    rw [← hprice, ← hceiling] at hvalue
    rw [← hceiling] at hout
    exact (settle_covered hsound hpending hvalue hin hout).error hsettle

theorem sample_reservation_covers :
    (∃ x, samplePrice.cost (.whole 800) (.whole 300) = .ok x ∧ x ≤ ⟨7000, -6⟩) ∧
    ∀ e t, settle (.finite ⟨7, -3⟩) (.whole 800) (.whole 300)
      { sampleGuard with pending := some (⟨7000, -6⟩, 1500) } = .error e t →
      e.isBreach = false := by
  have hbuilt : init sampleControls 500 = .ok { sampleGuard with seeded := false } := rfl
  have hseeded : seed (.finite 0) (.finite 0) { sampleGuard with seeded := false } =
      .ok () sampleGuard := rfl
  obtain ⟨hmono, hsettle⟩ := reservation_covers samplePrice
  constructor
  · exact hmono 800 1000 300 500 (by decide) (by decide) ⟨7000, -6⟩ rfl
  · refine hsettle sampleGuard (.seeded (.built hbuilt) hseeded) rfl 1000 ⟨7000, -6⟩ _ rfl
      (.finite ⟨7, -3⟩) (.whole 800) (.whole 300) ?_ ?_
    · rintro n ⟨⟩
      decide
    · rintro n ⟨⟩
      decide

end RunCostGuard

end OperateBench.Boundary
