import OperateBench.Boundary.Cap

/-! # Resuming a recorded spend

A resumed run seeds a fresh guard with the totals of its ledger. They are accepted as long as every
amount that was added to them had at most twelve decimal places and left them under the largest
amount: the guard itself keeps no such bound.
-/

namespace OperateBench.Boundary

open Foundation RunCostGuard

/-- A total that the guard accepts as recorded spend. -/
def Recordable (total : Decimal) : Prop := ∃ u : UsdAmount, u.amount = total

theorem recordable_iff {total : Decimal} : Recordable total ↔
    0 ≤ total.coefficient ∧ total ≤ maxUsdAmount ∧ -maxUsdDecimalPlaces ≤ total.exponent := by
  constructor
  · rintro ⟨u, rfl⟩
    exact ⟨u.nonneg, u.bounded, u.scale⟩
  · rintro ⟨hnonneg, hbounded, hscale⟩
    exact ⟨⟨total, hnonneg, hbounded, hscale⟩, rfl⟩

theorem recordable_zero : Recordable 0 := recordable_iff.mpr ⟨le_rfl, by decide, by decide⟩

theorem maxUsdAmount_value : maxUsdAmount.value = 10 ^ 15 := by
  rw [Decimal.value, maxUsdAmount, Int.cast_one, one_mul]
  norm_cast

/-- A total stays recordable by an amount of twelve places that leaves it under the maximum. -/
theorem Recordable.add {x d : Decimal} (hx : Recordable x) (hnonneg : 0 ≤ d.value)
    (hscale : -maxUsdDecimalPlaces ≤ d.exponent) (hsum : x.value + d.value ≤ 10 ^ 15) :
    ∃ y, exactDecimalContext.add x d = .ok y ∧ Recordable y := by
  obtain ⟨u, rfl⟩ := hx
  have hmax : (10 : ℚ) ^ 15 = (10 ^ 27 : ℕ) / 10 ^ 12 := by norm_num
  have hu := u.grid
  have hle : d.value ≤ 10 ^ 15 := by
    have := hu.nonneg
    linarith
  have hd : Grid 12 (10 ^ 27) d.value :=
    .of_decimal (DecimalContext.coefficient_nonneg hnonneg) hscale (hmax ▸ hle)
  have hfits := exact_fits (hu.add hd) (by decide) (by decide)
  obtain ⟨y, hy, hyv⟩ := DecimalContext.add_exact hfits
  refine ⟨y, hy, recordable_iff.mpr ⟨?_, ?_, ?_⟩⟩
  · apply DecimalContext.coefficient_nonneg
    rw [hyv]
    exact (hu.add hd).nonneg
  · rw [Decimal.le_iff, maxUsdAmount_value, hyv]
    exact hsum
  · exact DecimalContext.add_exponent u.scale hscale (by decide) hy

namespace RunCostGuard

/-- A count that the price accepts. -/
def Accepted (count : Count) : Prop := ∃ tokens : ℕ, count = .whole tokens ∧ tokens ≤ maxExactTokenCount

variable {g t : RunCostGuard}

/-- The reservation is the one that is outstanding. -/
def Outstanding (g : RunCostGuard) (reservation : Decimal) : Prop :=
  ∃ p n, g.pending = some (p, n) ∧ reservation.Same p

/-- The amount leaves a total of the run and the same total of the episode under the maximum. -/
def Room (run episode : Decimal) (amount : ℚ) : Prop :=
  run.value + amount ≤ 10 ^ 15 ∧ episode.value + amount ≤ 10 ^ 15

/-- What a settlement at accepted counts adds has twelve decimal places at most, as the rates of the
counts have six. -/
def SettlesRecordably (g : RunCostGuard) (input output : ℕ) : Prop :=
  -6 ≤ (g.price.ratesFor input).1.amount.exponent ∧
    -6 ≤ (g.price.ratesFor input).2.amount.exponent ∧
    Room g.measured g.episodeMeasured (g.price.charge input output)

def ExposesRecordably (g : RunCostGuard) (reservation : Decimal) : Prop :=
  -maxUsdDecimalPlaces ≤ reservation.exponent ∧
    Room g.exposure g.episodeExposure reservation.value

/-- The call leaves totals that can be seeded. -/
def Recoverable (g : RunCostGuard) : Call → Prop
  | .settle (.finite reservation) input output => g.Outstanding reservation →
      (∀ i o : ℕ, input = .whole i → output = .whole o → i ≤ maxExactTokenCount →
        o ≤ maxExactTokenCount → g.SettlesRecordably i o) ∧
      (¬(Accepted input ∧ Accepted output) → g.ExposesRecordably reservation)
  | .forfeit (.finite reservation) => g.Outstanding reservation → g.ExposesRecordably reservation
  | _ => True

/-- The guards of the runs whose calls are all recoverable. -/
inductive Recorded : RunCostGuard → Prop
  | built {controls : CostControls} {maxOutputTokens : ℤ} {g : RunCostGuard}
      (built : init controls maxOutputTokens = .ok g) : Recorded g
  | seeded {measuredUsd exposureUsd : Operand} {g t : RunCostGuard} (h : Recorded g)
      (seeded : seed measuredUsd exposureUsd g = .ok () t) : Recorded t
  | begun {g t : RunCostGuard} (h : Recorded g) (begun : beginEpisode g = .ok () t) : Recorded t
  | visited {g : RunCostGuard} (h : Recorded g) {call : Call} (recoverable : g.Recoverable call) :
      Recorded (g.visit call).after

theorem Recorded.reached (h : Recorded g) : Reached g := by
  induction h with
  | built built => exact .built built
  | seeded _ seeded ih => exact .seeded ih seeded
  | begun _ begun ih => exact .begun ih begun
  | visited _ _ ih => exact .visited ih _

/-- All four totals can be seeded. -/
structure Seedable (g : RunCostGuard) : Prop where
  measured : Recordable g.measured
  exposure : Recordable g.exposure
  episodeMeasured : Recordable g.episodeMeasured
  episodeExposure : Recordable g.episodeExposure

theorem priced_exponent {price : ModelPrice} {i o : ℕ} {d : Decimal}
    (h : price.priced i o = .ok d) (hin : -6 ≤ (price.ratesFor i).1.amount.exponent)
    (hout : -6 ≤ (price.ratesFor i).2.amount.exponent) : -maxUsdDecimalPlaces ≤ d.exponent := by
  obtain ⟨x, hx, h⟩ := bind_ok h
  obtain ⟨y, hy, h⟩ := bind_ok h
  obtain ⟨z, hz, h⟩ := bind_ok h
  have hxe : -6 ≤ x.exponent := by
    apply DecimalContext.fix_exponent _ (by decide) hx
    change -6 ≤ 0 + (price.ratesFor i).1.amount.exponent
    omega
  have hye : -6 ≤ y.exponent := by
    apply DecimalContext.fix_exponent _ (by decide) hy
    change -6 ≤ 0 + (price.ratesFor i).2.amount.exponent
    omega
  have hze : -6 ≤ z.exponent := DecimalContext.add_exponent hxe hye (by decide) hz
  apply DecimalContext.fix_exponent _ (by decide) h
  change -12 ≤ z.exponent + -6
  omega

theorem measure_exponent {i o : ℕ} {d : Decimal} (h : g.measure (.whole i) (.whole o) = some d)
    (hs : g.SettlesRecordably i o) : -maxUsdDecimalPlaces ≤ d.exponent := by
  unfold measure measuredCostUsd at h
  rw [if_neg (by simp)] at h
  cases hc : g.price.cost (.whole i) (.whole o) with
  | error e =>
    rw [hc] at h
    cases h
  | ok c =>
    rw [hc] at h
    obtain rfl : c = d := Option.some.inj h
    obtain ⟨i', hi, hrest⟩ := bind_ok hc
    obtain ⟨o', ho, hpriced⟩ := bind_ok hrest
    obtain ⟨hi, -⟩ := checkTokenCount_ok hi
    obtain ⟨ho, -⟩ := checkTokenCount_ok ho
    cases hi
    cases ho
    cases hd : g.price.priced i o with
    | error e =>
      rw [hd] at hpriced
      cases hpriced
    | ok c' =>
      rw [hd] at hpriced
      obtain rfl : c' = c := Except.ok.inj hpriced
      exact priced_exponent hd hs.1 hs.2.1

theorem measure_none {i o : Count} (h : g.measure i o = none) : ¬(Accepted i ∧ Accepted o) := by
  rintro ⟨⟨m, rfl, hm⟩, n, rfl, hn⟩
  unfold measure measuredCostUsd at h
  rw [if_neg (by simp)] at h
  have hpriced : ∃ d, g.price.priced m n = .ok d ∧ d.value = g.price.charge m n :=
    ModelPrice.priced_exact hm hn
  obtain ⟨d, hd, -⟩ := hpriced
  rw [ModelPrice.cost, checkTokenCount_whole hm, checkTokenCount_whole hn, ok_bind, ok_bind, hd] at h
  cases h

section Steps

theorem bankExposure_seedable {r : Decimal} (hs : g.Sound) (hg : g.Seedable)
    (hr : Grid 18 ModelPrice.chargeBound r.value) (he : g.ExposesRecordably r) :
    Leaves (bankExposure r) g (fun _ t => t.Seedable) (fun _ _ => False) := by
  obtain ⟨x, hx, hxr⟩ := hg.exposure.add hr.nonneg he.1 he.2.1
  obtain ⟨y, hy, hyr⟩ := hg.episodeExposure.add hr.nonneg he.1 he.2.2
  refine (bankExposure_leaves hs hr).mono ?_ fun _ _ h => h
  rintro _ _ ⟨x', y', hx', hy', rfl⟩
  obtain rfl := Except.ok.inj (hx.symm.trans hx')
  obtain rfl := Except.ok.inj (hy.symm.trans hy')
  exact ⟨hg.measured, hxr, hg.episodeMeasured, hyr⟩

theorem bankMeasured_seedable {d : Decimal} {i o : ℕ} (hs : g.Sound) (hg : g.Seedable)
    (hd : Grid 18 ModelPrice.chargeBound d.value) (hexact : d.value = g.price.charge i o)
    (hscale : -maxUsdDecimalPlaces ≤ d.exponent) (he : g.SettlesRecordably i o) :
    Leaves (bankMeasured d) g (fun _ t => t.Seedable) (fun _ _ => False) := by
  obtain ⟨-, -, hrun, hepisode⟩ := he
  rw [← hexact] at hrun hepisode
  obtain ⟨x, hx, hxr⟩ := hg.measured.add hd.nonneg hscale hrun
  obtain ⟨y, hy, hyr⟩ := hg.episodeMeasured.add hd.nonneg hscale hepisode
  refine (bankMeasured_leaves hs hd).mono ?_ fun _ _ h => h
  rintro _ _ ⟨x', y', hx', hy', rfl⟩
  obtain rfl := Except.ok.inj (hx.symm.trans hx')
  obtain rfl := Except.ok.inj (hy.symm.trans hy')
  exact ⟨hxr, hg.exposure, hyr, hg.episodeExposure⟩

theorem Seedable.released (h : g.Seedable) : Seedable { g with pending := none } :=
  ⟨h.measured, h.exposure, h.episodeMeasured, h.episodeExposure⟩

/-- What an unchanged guard leaves. -/
theorem Seedable.unchanged (h : g.Seedable) {e : GuardError} (hu : Unchanged g e t) :
    t.Seedable := hu.1 ▸ h

theorem forfeit_seedable {r : Operand} (hs : g.Sound) (hg : g.Seedable)
    (hc : g.Recoverable (.forfeit r)) :
    Leaves (forfeit r) g (fun _ t => t.Seedable) (fun _ t => t.Seedable) := by
  unfold forfeit
  simp only [leaves_bind]
  refine release_leaves.mono ?_ fun _ _ h => hg.unchanged h
  rintro reserved _ ⟨p, n, hp, rfl, hv, rfl⟩
  have hcharge : Grid 18 ModelPrice.chargeBound reserved.value := hv ▸ hs.pending p n hp
  have hexposes := hc ⟨p, n, hp, Decimal.same_iff.mpr hv⟩
  exact (bankExposure_seedable hs.released hg.released hcharge hexposes).mono (fun _ _ h => h)
    fun _ _ => False.elim

theorem settle_seedable {r : Operand} {i o : Count} (hs : g.Sound) (hg : g.Seedable)
    (hc : g.Recoverable (.settle r i o)) :
    Leaves (settle r i o) g (fun _ t => t.Seedable) (fun _ t => t.Seedable) := by
  unfold settle
  simp only [leaves_bind, leaves_get]
  refine release_leaves.mono ?_ fun _ _ h => hg.unchanged h
  rintro reserved _ ⟨p, n, hp, rfl, hv, rfl⟩
  obtain ⟨hsettles, hexposes⟩ := hc ⟨p, n, hp, Decimal.same_iff.mpr hv⟩
  cases hm : g.measure i o with
  | none =>
    have hcharge : Grid 18 ModelPrice.chargeBound reserved.value := hv ▸ hs.pending p n hp
    simp only [leaves_bind, leaves_pure]
    exact (bankExposure_seedable hs.released hg.released hcharge
      (hexposes (measure_none hm))).mono (fun _ _ h => h) fun _ _ => False.elim
  | some d =>
    obtain ⟨m, k, rfl, rfl, hmb, hkb, hd⟩ := measure_some hm
    have hsettle := hsettles m k rfl rfl hmb hkb
    have hcharge : Grid 18 ModelPrice.chargeBound d.value := hd ▸ ModelPrice.charge_grid hmb hkb
    simp only [leaves_bind]
    refine (bankMeasured_seedable hs.released hg.released hcharge hd (measure_exponent hm hsettle)
      hsettle).mono ?_ fun _ _ => False.elim
    intro _ t ht
    split
    · simp only [leaves_bind, leaves_modify, leaves_get, leaves_throw]
      exact ⟨ht.measured, ht.exposure, ht.episodeMeasured, ht.episodeExposure⟩
    · exact ht

/-- Taking and cancelling a reservation leaves the totals alone. -/
theorem Seedable.posted {e : Posting} (h : g.Seedable) (hp : Posted g e t)
    (hm : ∀ q, e ≠ .measured q) (hf : ∀ q, e ≠ .forfeited q) : t.Seedable := by
  cases hp with
  | reserved => exact ⟨h.measured, h.exposure, h.episodeMeasured, h.episodeExposure⟩
  | measured => exact absurd rfl (hm _)
  | forfeited => exact absurd rfl (hf _)
  | cancelled => exact h.released

theorem after_of_leaves {call : Call} {P : RunCostGuard → Prop}
    (h : Leaves (perform call) g (fun _ t => P t) (fun _ t => P t)) : P (g.visit call).after := by
  unfold Leaves at h
  unfold Visit.after visit
  cases hr : perform call g with
  | ok reply t =>
    rw [hr] at h
    exact h
  | error e t =>
    rw [hr] at h
    exact h

theorem visit_seedable {call : Call} (hs : g.Sound) (hg : g.Seedable) (hc : g.Recoverable call) :
    (g.visit call).after.Seedable := by
  apply after_of_leaves
  cases call with
  | authorize bound =>
    rw [perform, leaves_map]
    refine authorize_leaves.mono ?_ fun _ _ h => hg.unchanged h
    rintro _ t ⟨i, rfl, hp, -⟩
    exact hg.posted hp (by simp) (by simp)
  | settle r i o =>
    rw [perform, leaves_map]
    exact settle_seedable hs hg hc
  | forfeit r =>
    rw [perform, leaves_map]
    exact forfeit_seedable hs hg hc
  | cancel r bound =>
    rw [perform, leaves_map]
    refine cancel_leaves.mono ?_ fun _ _ h => hg.unchanged h
    rintro _ t ⟨amount, rfl, hp⟩
    exact hg.posted hp (by simp) (by simp)

end Steps

section Runs

variable {controls : CostControls} {maxOutputTokens : ℤ} {fresh : RunCostGuard}

theorem Recorded.seedable (h : Recorded g) : g.Seedable := by
  induction h with
  | built built =>
    obtain ⟨-, -, hm, hx, hem, hex, -⟩ := init_ok built
    exact ⟨hm ▸ recordable_zero, hx ▸ recordable_zero, hem ▸ recordable_zero,
      hex ▸ recordable_zero⟩
  | seeded _ seeded ih =>
    obtain ⟨measured, exposure, rfl⟩ := seed_ok seeded
    exact ⟨⟨measured, rfl⟩, ⟨exposure, rfl⟩, ih.episodeMeasured, ih.episodeExposure⟩
  | begun _ begun ih =>
    rw [beginEpisode_leaves.ok begun]
    exact ⟨ih.measured, ih.exposure, recordable_zero, recordable_zero⟩
  | visited h recoverable ih => exact visit_seedable h.reached.sound ih recoverable

/-- Measured, exposed and in flight, in the exact context. -/
def committedUsd (g : RunCostGuard) : Except DecimalSignal Decimal := do
  let pending : Decimal := match g.pending with
    | none => 0
    | some (reservation, _) => reservation
  let spent ← exactDecimalContext.add g.measured g.exposure
  exactDecimalContext.add spent pending

theorem checkUsdAmount_recordable {total : Decimal} (name : String) (h : Recordable total) :
    ∃ u, checkUsdAmount (.finite total) name = .ok u ∧ u.amount = total := by
  obtain ⟨u, rfl⟩ := h
  refine ⟨u, ?_, rfl⟩
  unfold checkUsdAmount
  dsimp only
  rw [dif_neg (not_lt.mpr u.nonneg), dif_pos u.bounded, dif_neg (not_lt.mpr u.scale)]

theorem init_seeded (built : init controls maxOutputTokens = .ok fresh) :
    fresh.seeded = false := by
  unfold init at built
  split at built
  · obtain ⟨_, h⟩ := unless_ok built
    rw [← Except.ok.inj h]
  · cases built

/-- A fresh guard adopts recordable totals as they are. -/
theorem seed_recordable {measured exposure : Decimal}
    (built : init controls maxOutputTokens = .ok fresh) (hm : Recordable measured)
    (hx : Recordable exposure) : seed (.finite measured) (.finite exposure) fresh =
      .ok () { fresh with measured, exposure, seeded := true } := by
  obtain ⟨m, hm, rfl⟩ := checkUsdAmount_recordable "measured_usd recovered from the ledger" hm
  obtain ⟨x, hx, rfl⟩ := checkUsdAmount_recordable "exposure_usd recovered from the ledger" hx
  have hleaves : Leaves (seed (.finite m.amount) (.finite x.amount)) fresh
      (fun _ t => t = { fresh with measured := m.amount, exposure := x.amount, seeded := true })
      (fun _ _ => False) := by
    unfold seed
    simp [init_seeded built, hm, hx]
  cases hr : seed (.finite m.amount) (.finite x.amount) fresh with
  | ok u t => rw [hleaves.ok hr]
  | error e t => exact (hleaves.error hr).elim

/-- What a run records is adopted by a fresh guard, and with nothing in flight it commits the
same. -/
theorem recorded_spend_resumes (h : Recorded g)
    (built : init controls maxOutputTokens = .ok fresh) (hcap : fresh.cap = g.cap) :
    (∃ t, seed (.finite g.measured) (.finite g.exposure) fresh = .ok () t ∧ t.cap = g.cap ∧
      t.measured = g.measured ∧ t.exposure = g.exposure ∧
      (g.pending = none → t.committedUsd = g.committedUsd)) ∧
    ∃ t, seed (.finite g.episodeMeasured) (.finite g.episodeExposure) fresh = .ok () t ∧
      t.measured = g.episodeMeasured ∧ t.exposure = g.episodeExposure := by
  have hg := h.seedable
  obtain ⟨-, -, -, -, -, -, hfree, -⟩ := init_ok built
  constructor
  · refine ⟨_, seed_recordable built hg.measured hg.exposure, hcap, rfl, rfl, ?_⟩
    intro hpending
    rw [committedUsd, committedUsd, hpending]
    simp only [hfree]
  · exact ⟨_, seed_recordable built hg.episodeMeasured hg.episodeExposure, rfl, rfl⟩

def freshSample : RunCostGuard := { sampleGuard with seeded := false }

/-- A turn of 800 and 300 tokens is settled. -/
def settledSample : RunCostGuard :=
  freshSample.afterAll [.authorize (.whole 1000), .settle (.finite ⟨7, -3⟩) (.whole 800) (.whole 300)]

theorem settledSample_recorded : Recorded settledSample := by
  have hbuilt : init sampleControls 500 = .ok freshSample := rfl
  have hsettles : (freshSample.visit (.authorize (.whole 1000))).after.Recoverable
      (.settle (.finite ⟨7, -3⟩) (.whole 800) (.whole 300)) := by
    intro _
    constructor
    · rintro i o ⟨⟩ ⟨⟩ - -
      have hroom : (0 : Decimal).value + samplePrice.charge 800 300 ≤ 10 ^ 15 := by
        rw [Decimal.value_zero]
        norm_num [ModelPrice.charge, ModelPrice.ratesFor, samplePrice, Decimal.value]
      refine ⟨?_, ?_, hroom, hroom⟩ <;> decide
    · intro hnot
      exact absurd ⟨⟨800, rfl, by decide⟩, 300, rfl, by decide⟩ hnot
  have hauthorized : Recorded (freshSample.visit (.authorize (.whole 1000))).after :=
    @Recorded.visited _ (.built hbuilt) (.authorize (.whole 1000)) trivial
  exact .visited hauthorized hsettles

/-- The settled turn of 0.0046 dollars is adopted again. -/
theorem settledSample_resumes :
    ∃ t, seed (.finite ⟨4600, -6⟩) (.finite 0) freshSample = .ok () t ∧
      t.committedUsd = settledSample.committedUsd := by
  have hbuilt : init sampleControls 500 = .ok freshSample := rfl
  obtain ⟨⟨t, ht, -, -, -, hcommitted⟩, -⟩ := recorded_spend_resumes settledSample_recorded hbuilt rfl
  exact ⟨t, ht, hcommitted rfl⟩

/-- Rates of seven decimal places, which the price accepts. -/
def finePrice : ModelPrice where
  inputUsdPerMillionTokens := ⟨⟨1, -7⟩, by decide, by decide, by decide⟩
  outputUsdPerMillionTokens := ⟨⟨1, -7⟩, by decide, by decide, by decide⟩
  longContextTier := none
  rising := nofun

def fineControls : CostControls := { sampleControls with price := some finePrice, priced := fun _ => rfl }

def fineGuard : RunCostGuard := { price := finePrice, cap := ⟨1, 0⟩, maxOutputTokens := 500 }

def fineCalls : List Call :=
  [.authorize (.whole 1000), .settle (.finite ⟨1500, -13⟩) (.whole 1) (.whole 1)]

/-- The spend of one settled turn has thirteen decimal places, and no resumed run adopts it. -/
theorem fine_spend_refused :
    ¬∀ g, Reached g → ∀ controls maxOutputTokens fresh,
      init controls maxOutputTokens = .ok fresh → fresh.cap = g.cap →
      ∃ t, seed (.finite g.measured) (.finite g.exposure) fresh = .ok () t := by
  intro h
  have hbuilt : init fineControls 500 = .ok fineGuard := rfl
  have hreached : Reached (fineGuard.afterAll fineCalls) := by
    rw [fineCalls, afterAll_cons, afterAll_cons, afterAll, List.foldl_nil]
    exact .visited (.visited (.built hbuilt) _) _
  obtain ⟨t, ht⟩ := h _ hreached fineControls 500 fineGuard hbuilt rfl
  have hrefused : seed (.finite (fineGuard.afterAll fineCalls).measured)
      (.finite (fineGuard.afterAll fineCalls).exposure) fineGuard =
      .error (.recovered (.tooFine "measured_usd recovered from the ledger")) fineGuard := rfl
  rw [hrefused] at ht
  cases ht

end Runs

end RunCostGuard

end OperateBench.Boundary
