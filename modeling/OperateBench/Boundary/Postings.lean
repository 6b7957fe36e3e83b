import OperateBench.Boundary.Budget

/-! # What the guard posts

The books of a run are the reservations that were taken and what became of each. Every
call of the guard either posts one entry or raises and changes nothing.
-/

namespace OperateBench.Boundary

open Foundation RunCostGuard

/-- One line of the books, in exact dollars. -/
inductive Posting
  | reserved (amount : ℚ)
  | measured (amount : ℚ)
  | forfeited (amount : ℚ)
  | cancelled (amount : ℚ)

namespace Posting

def spent : Posting → ℚ
  | measured amount => amount
  | _ => 0

def exposed : Posting → ℚ
  | forfeited amount => amount
  | _ => 0

/-- The entry resolves a reservation of the given amount. -/
def Resolves (q : ℚ) : Posting → Prop
  | reserved _ => False
  | measured _ => True
  | forfeited amount => amount = q
  | cancelled amount => amount = q

end Posting

/-- Each reservation is resolved once, by one entry, before the next one is taken. -/
def Alternates : Option ℚ → List Posting → Prop
  | _, [] => True
  | none, .reserved q :: rest => Alternates (some q) rest
  | none, _ :: _ => False
  | some q, e :: rest => e.Resolves q ∧ Alternates none rest

namespace RunCostGuard

variable {g t : RunCostGuard}

/-- What one posted entry does to the guard. -/
inductive Posted (g : RunCostGuard) : Posting → RunCostGuard → Prop
  | reserved {tokens : ℕ} {d spent committed : Decimal} (free : g.pending = none)
      (input : tokens ≤ maxExactTokenCount) (output : g.maxOutputTokens ≤ maxExactTokenCount)
      (exact : d.value = g.price.charge tokens g.maxOutputTokens)
      (total : exactDecimalContext.add g.measured g.exposure = .ok spent)
      (sum : exactDecimalContext.add spent d = .ok committed) (covered : ¬g.cap < committed) :
      Posted g (.reserved (g.price.charge tokens g.maxOutputTokens))
        { g with pending := some (d, tokens + g.maxOutputTokens) }
  | measured {p d x y : Decimal} {n i o : ℕ} {breached : Bool} (held : g.pending = some (p, n))
      (input : i ≤ maxExactTokenCount) (output : o ≤ maxExactTokenCount)
      (exact : d.value = g.price.charge i o)
      (run : exactDecimalContext.add g.measured d = .ok x)
      (episode : exactDecimalContext.add g.episodeMeasured d = .ok y)
      (exceeds : breached = false → d.value ≤ p.value) :
      Posted g (.measured (g.price.charge i o))
        { g with pending := none, measured := x, episodeMeasured := y,
                 breached := g.breached || breached }
  | forfeited {p r x y : Decimal} {n : ℕ} (held : g.pending = some (p, n))
      (same : r.value = p.value) (run : exactDecimalContext.add g.exposure r = .ok x)
      (episode : exactDecimalContext.add g.episodeExposure r = .ok y) :
      Posted g (.forfeited r.value)
        { g with pending := none, exposure := x, episodeExposure := y }
  | cancelled {p r : Decimal} {n : ℕ} (held : g.pending = some (p, n))
      (same : r.value = p.value) : Posted g (.cancelled r.value) { g with pending := none }

theorem Posted.cap {e : Posting} (h : Posted g e t) : t.cap = g.cap := by cases h <;> rfl

theorem Posted.reservationFor {e : Posting} (h : Posted g e t) (bound : Count) :
    t.reservationFor bound = g.reservationFor bound := by cases h <;> rfl

theorem Posted.tokenExposure {e : Posting} (h : Posted g e t) (bound : Count) :
    t.tokenExposure bound = g.tokenExposure bound := by cases h <;> cases bound <;> rfl

/-- A reservation is taken where nothing is outstanding. -/
theorem Posted.free {e : Posting} (h : Posted g e t) {q : ℚ} (he : e = .reserved q) :
    g.pending = none := by
  cases h with
  | reserved free => exact free
  | _ => cases he

/-- A resolution leaves nothing outstanding. -/
theorem Posted.freed {e : Posting} (h : Posted g e t) (he : ∀ q, e ≠ .reserved q) :
    t.pending = none := by
  cases h with
  | reserved => exact absurd rfl (he _)
  | _ => rfl

/-- The call raised before it changed anything. -/
def Unchanged (g : RunCostGuard) (e : GuardError) (t : RunCostGuard) : Prop :=
  t = g ∧ e.isBreach = false

theorem release_leaves {reservation : Operand} {expected : Option ℕ} :
    Leaves (release reservation expected) g
      (fun r t => ∃ p n, g.pending = some (p, n) ∧ reservation = .finite r ∧
        r.value = p.value ∧ t = { g with pending := none })
      (Unchanged g) := by
  unfold release
  rw [leaves_bind, leaves_get]
  cases hp : g.pending with
  | none => exact ⟨rfl, rfl⟩
  | some pending =>
    obtain ⟨p, n⟩ := pending
    simp only [leaves_bind, leaves_raising]
    refine ⟨?_, fun _ _ => ⟨rfl, rfl⟩⟩
    intro same hsame
    cases same with
    | false => cases reservation <;> exact ⟨rfl, rfl⟩
    | true =>
      cases reservation with
      | infinite => cases hsame
      | nan signaling => cases signaling <;> cases hsame
      | finite amount =>
        have hv : amount.value = p.value :=
          Decimal.same_iff.mp (of_decide_eq_true (Except.ok.inj hsame))
        dsimp only
        split
        · exact ⟨rfl, rfl⟩
        · exact ⟨p, n, rfl, rfl, hv, rfl⟩

theorem authorize_leaves {bound : Count} :
    Leaves (authorize bound) g
      (fun d t => ∃ i : ℕ, bound = .whole i ∧
        Posted g (.reserved (g.price.charge i g.maxOutputTokens)) t ∧
        g.reservationFor bound = .ok d ∧ t.pending = some (d, g.tokenExposure bound))
      (Unchanged g) := by
  unfold authorize
  simp only [leaves_bind, leaves_get]
  cases hp : g.pending with
  | some pending => exact ⟨rfl, rfl⟩
  | none =>
    simp only [Option.isSome_none, Bool.false_eq_true, if_false, leaves_bind, leaves_raising]
    refine ⟨?_, fun _ _ => ⟨rfl, rfl⟩⟩
    intro d hd
    refine ⟨?_, fun _ _ => ⟨rfl, rfl⟩⟩
    intro spent hs
    refine ⟨?_, fun _ _ => ⟨rfl, rfl⟩⟩
    intro committed hc
    split
    · exact ⟨rfl, rfl⟩
    · rename_i hcap
      obtain ⟨i, o, rfl, ho, hi, hob, hv⟩ := ModelPrice.cost_ok hd
      obtain rfl : g.maxOutputTokens = o := by injection ho with ho; omega
      have hposted := Posted.reserved (g := g) hp hi hob hv hs hc hcap
      exact ⟨i, rfl, hposted, hd, rfl⟩

/-- The totals are far below the overflow of the context, and a reservation is a charge. -/
structure Sound (g : RunCostGuard) : Prop where
  measured : 0 ≤ g.measured.value ∧ g.measured.value ≤ 10 ^ (120 : ℤ)
  exposure : 0 ≤ g.exposure.value ∧ g.exposure.value ≤ 10 ^ (120 : ℤ)
  episodeMeasured : 0 ≤ g.episodeMeasured.value ∧ g.episodeMeasured.value ≤ 10 ^ (120 : ℤ)
  episodeExposure : 0 ≤ g.episodeExposure.value ∧ g.episodeExposure.value ≤ 10 ^ (120 : ℤ)
  pending : ∀ p n, g.pending = some (p, n) → Grid 18 ModelPrice.chargeBound p.value

/-- A charge added to such a total leaves such a total. -/
theorem add_charge {x d : Decimal} (hx : 0 ≤ x.value ∧ x.value ≤ 10 ^ (120 : ℤ))
    (hd : Grid 18 ModelPrice.chargeBound d.value) :
    ∃ y, exactDecimalContext.add x d = .ok y ∧ 0 ≤ y.value ∧ y.value ≤ 10 ^ (120 : ℤ) := by
  have hsmall : d.value < 10 ^ ((120 : ℤ) - exactDecimalContext.prec) / 2 := by
    apply hd.le.trans_lt
    have hplace : (120 : ℤ) - exactDecimalContext.prec = (40 : ℕ) := rfl
    have hbound : (ModelPrice.chargeBound : ℚ) ≤ 10 ^ 44 := by
      exact_mod_cast ModelPrice.chargeBound_le
    rw [hplace, zpow_natCast]
    linarith
  have hrange : exactDecimalContext.etiny < exactDecimalContext.etop := by decide
  have hlow : exactDecimalContext.etiny ≤ 120 := by decide
  have hhigh : (120 : ℤ) + 1 < exactDecimalContext.emax := by decide
  exact DecimalContext.add_saturates (by decide) hrange hlow hhigh hx.1 hx.2 hd.nonneg hsmall

theorem bankExposure_leaves {r : Decimal} (hs : g.Sound)
    (hr : Grid 18 ModelPrice.chargeBound r.value) :
    Leaves (bankExposure r) g
      (fun _ t => ∃ x y, exactDecimalContext.add g.exposure r = .ok x ∧
        exactDecimalContext.add g.episodeExposure r = .ok y ∧
        t = { g with exposure := x, episodeExposure := y })
      (fun _ _ => False) := by
  obtain ⟨x, hx, -⟩ := add_charge hs.exposure hr
  obtain ⟨y, hy, -⟩ := add_charge hs.episodeExposure hr
  unfold bankExposure
  simp only [leaves_bind, leaves_get, leaves_raising, leaves_modify, hx, hy]
  simp

theorem bankMeasured_leaves {d : Decimal} (hs : g.Sound)
    (hd : Grid 18 ModelPrice.chargeBound d.value) :
    Leaves (bankMeasured d) g
      (fun _ t => ∃ x y, exactDecimalContext.add g.measured d = .ok x ∧
        exactDecimalContext.add g.episodeMeasured d = .ok y ∧
        t = { g with measured := x, episodeMeasured := y })
      (fun _ _ => False) := by
  obtain ⟨x, hx, -⟩ := add_charge hs.measured hd
  obtain ⟨y, hy, -⟩ := add_charge hs.episodeMeasured hd
  unfold bankMeasured
  simp only [leaves_bind, leaves_get, leaves_raising, leaves_modify, hx, hy]
  simp

theorem Sound.released (hs : g.Sound) : Sound { g with pending := none } :=
  ⟨hs.measured, hs.exposure, hs.episodeMeasured, hs.episodeExposure, nofun⟩

theorem measure_some {i o : Count} {d : Decimal} (h : g.measure i o = some d) :
    ∃ m n : ℕ, i = .whole m ∧ o = .whole n ∧ m ≤ maxExactTokenCount ∧ n ≤ maxExactTokenCount ∧
      d.value = g.price.charge m n := by
  unfold measure measuredCostUsd at h
  split at h
  · rename_i measured hm
    split at hm
    · cases Except.ok.inj hm
      cases h
    · cases hc : g.price.cost i o with
      | error e => rw [hc] at hm; cases hm
      | ok c =>
        rw [hc] at hm
        obtain rfl : some c = measured := Except.ok.inj hm
        obtain rfl := Option.some.inj h
        exact ModelPrice.cost_ok hc
  · cases h

/-- The guard holds the reservation, so naming it releases it. -/
theorem release_held {d : Decimal} {n : ℕ} {expected : Option ℕ} (hp : g.pending = some (d, n))
    (he : expected.all (· == n) = true) :
    Leaves (release (.finite d) expected) g
      (fun r t => ∃ p n, g.pending = some (p, n) ∧ Operand.finite d = .finite r ∧
        r.value = p.value ∧ t = { g with pending := none })
      (fun _ _ => False) := by
  have hsame : (Operand.finite d).equals d = .ok true := by
    rw [Operand.equals, decide_eq_true (Decimal.same_iff.mpr rfl)]
  have hany : expected.any (· != n) = false := by
    cases expected with
    | none => rfl
    | some m =>
      have hm : (m == n) = true := he
      rw [Option.any_some, bne, hm]
      rfl
  unfold release
  rw [leaves_bind, leaves_get]
  simp only [hp, leaves_bind, leaves_raising, hsame]
  refine ⟨?_, by rintro _ ⟨⟩⟩
  rintro _ ⟨⟩
  simp only [hany, Bool.false_eq_true, if_false]
  exact ⟨d, n, rfl, rfl, rfl, rfl⟩

section Resolution

variable {r : Operand} {R : GuardError → RunCostGuard → Prop}

/-- A release of what was held, with an exit of its own for what it raises. -/
abbrev Releases (g : RunCostGuard) (r : Operand) (expected : Option ℕ)
    (R : GuardError → RunCostGuard → Prop) : Prop :=
  Leaves (release r expected) g
    (fun amount t => ∃ p n, g.pending = some (p, n) ∧ r = .finite amount ∧
      amount.value = p.value ∧ t = { g with pending := none }) R

theorem settle_leaves {i o : Count} (hs : g.Sound) (hr : Releases g r none R) :
    Leaves (settle r i o) g
      (fun cost t => match cost with
        | none => ∃ amount, r = .finite amount ∧ Posted g (.forfeited amount.value) t
        | some _ => ∃ m n : ℕ, i = .whole m ∧ o = .whole n ∧
            Posted g (.measured (g.price.charge m n)) t ∧ t.breached = g.breached)
      (fun e t => (e.isBreach = true ∧ ∃ m n : ℕ, i = .whole m ∧ o = .whole n ∧
        Posted g (.measured (g.price.charge m n)) t ∧ t.breached = true) ∨ R e t) := by
  unfold settle
  simp only [leaves_bind, leaves_get]
  refine hr.mono ?_ fun e t h => Or.inr h
  rintro reserved _ ⟨p, n, hp, rfl, hv, rfl⟩
  cases hm : g.measure i o with
  | none =>
    simp only [leaves_bind, leaves_pure]
    refine (bankExposure_leaves hs.released (hv ▸ hs.pending p n hp)).mono ?_ ?_
    · rintro _ _ ⟨x, y, hx, hy, rfl⟩
      exact ⟨reserved, rfl, .forfeited hp hv hx hy⟩
    · exact fun _ _ => False.elim
  | some d =>
    obtain ⟨m, k, rfl, rfl, hmb, hkb, hd⟩ := measure_some hm
    simp only [leaves_bind]
    refine (bankMeasured_leaves hs.released (hd ▸ ModelPrice.charge_grid hmb hkb)).mono ?_ ?_
    · rintro _ _ ⟨x, y, hx, hy, rfl⟩
      split
      · simp only [leaves_bind, leaves_modify, leaves_get, leaves_throw]
        refine Or.inl ⟨rfl, m, k, rfl, rfl, ?_, trivial⟩
        have hposted := Posted.measured hp hmb hkb hd hx hy fun h : true = false => by cases h
        rwa [Bool.or_true] at hposted
      · rename_i hover
        have hle : d.value ≤ p.value := by
          rw [Decimal.lt_iff, not_lt] at hover
          exact hv ▸ hover
        have hposted := Posted.measured hp hmb hkb hd hx hy fun _ : false = false => hle
        rw [Bool.or_false] at hposted
        exact ⟨m, k, rfl, rfl, hposted, rfl⟩
    · exact fun _ _ => False.elim

theorem forfeit_leaves (hs : g.Sound) (hr : Releases g r none R) :
    Leaves (forfeit r) g
      (fun _ t => ∃ amount, r = .finite amount ∧ Posted g (.forfeited amount.value) t) R := by
  unfold forfeit
  simp only [leaves_bind]
  refine hr.mono ?_ fun e t h => h
  rintro reserved _ ⟨p, n, hp, rfl, hv, rfl⟩
  refine (bankExposure_leaves hs.released (hv ▸ hs.pending p n hp)).mono ?_ ?_
  · rintro _ _ ⟨x, y, hx, hy, rfl⟩
    exact ⟨reserved, rfl, .forfeited hp hv hx hy⟩
  · exact fun _ _ => False.elim

theorem cancel_leaves {bound : Count} :
    Leaves (cancel r bound) g
      (fun _ t => ∃ amount, r = .finite amount ∧ Posted g (.cancelled amount.value) t)
      (Unchanged g) := by
  unfold cancel
  simp only [leaves_bind, leaves_get, leaves_raising]
  refine ⟨?_, fun _ _ => ⟨rfl, rfl⟩⟩
  intro recomputed _
  refine ⟨?_, fun _ _ => ⟨rfl, rfl⟩⟩
  intro same _
  split
  · exact ⟨rfl, rfl⟩
  · simp only [leaves_bind, leaves_pure]
    refine release_leaves.mono ?_ fun e t h => h
    rintro reserved _ ⟨p, n, hp, rfl, hv, rfl⟩
    exact ⟨reserved, rfl, .cancelled hp hv⟩

/-- A reservation is cancelled under the bound that it was taken for. -/
theorem cancel_held {d : Decimal} {bound : Count} (hd : g.reservationFor bound = .ok d)
    (hp : g.pending = some (d, g.tokenExposure bound)) :
    Leaves (cancel (.finite d) bound) g (fun _ t => Posted g (.cancelled d.value) t)
      (fun _ _ => False) := by
  have hsame : (Operand.finite d).equals d = .ok true := by
    rw [Operand.equals, decide_eq_true (Decimal.same_iff.mpr rfl)]
  unfold cancel
  simp only [leaves_bind, leaves_get, leaves_raising, hd]
  refine ⟨?_, by rintro _ ⟨⟩⟩
  rintro _ ⟨⟩
  rw [hsame]
  refine ⟨?_, by rintro _ ⟨⟩⟩
  rintro _ ⟨⟩
  simp only [Bool.not_true, Bool.false_eq_true, if_false, leaves_bind, leaves_pure]
  refine (release_held hp (beq_self_eq_true _)).mono ?_ fun _ _ h => h
  rintro _ _ ⟨p, n, hpn, hr, hv, rfl⟩
  cases hr
  exact .cancelled hpn hv

end Resolution

end RunCostGuard

end OperateBench.Boundary
