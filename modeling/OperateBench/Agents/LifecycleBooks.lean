import OperateBench.Agents.LifecycleGuard
import OperateBench.Foundation.Raising

/-! # The books of the lifecycle guard

Each call posts one entry to the books or is refused and changes nothing, as long as no amount of
the call needs more digits than the context has.
-/

namespace OperateBench.Agents

open Foundation LifecyclePricingPolicy

section Entries

/-- One line of the books, in exact dollars and in tokens. -/
inductive Posting
  | reserved (amount : ℚ) (exposure : ℤ)
  | measured (reservation amount : ℚ)
  | forfeited (reservation : ℚ)
  | cancelled (reservation : ℚ) (exposure : ℤ)

namespace Posting

/-- The reservation that is taken. -/
def taken : Posting → List ℚ
  | reserved amount _ => [amount]
  | _ => []

/-- The reservation that is resolved. -/
def resolved : Posting → List ℚ
  | measured reservation _ => [reservation]
  | forfeited reservation => [reservation]
  | cancelled reservation _ => [reservation]
  | _ => []

/-- What was measured is within what was reserved. -/
def Within : Posting → Prop
  | measured reservation amount => amount ≤ reservation
  | _ => True

def spent : Posting → ℚ
  | measured _ amount => amount
  | _ => 0

def exposed : Posting → ℚ
  | forfeited reservation => reservation
  | _ => 0

/-- The tokens that are reserved, or given back. -/
def tokens : Posting → ℤ
  | reserved _ exposure => exposure
  | cancelled _ exposure => -exposure
  | _ => 0

end Posting

end Entries

namespace LifecycleCostGuard

variable {g t : LifecycleCostGuard}

/-- The amounts that are outstanding, one for each reservation. -/
def held (g : LifecycleCostGuard) : List ℚ := Stacks.held SignedDecimal.value g.pending

/-- What is committed, in exact dollars. -/
def committed (g : LifecycleCostGuard) : ℚ :=
  g.measured.value + g.forfeited.value + g.outstanding.value

/-- What one posted entry does to the guard. -/
structure Posted (g : LifecycleCostGuard) (e : Posting) (t : LifecycleCostGuard) : Prop where
  fixed : t.policy = g.policy ∧ t.cap = g.cap ∧ t.maxOutputTokens = g.maxOutputTokens ∧
    t.tokenHardCap = g.tokenHardCap
  outstanding : t.outstanding.value = g.outstanding.value + e.taken.sum - e.resolved.sum
  measured : t.measured.value = g.measured.value + e.spent
  forfeited : t.forfeited.value = g.forfeited.value + e.exposed
  reserved : t.reserved.value = g.reserved.value + e.taken.sum
  reservedTokens : t.reservedTokens = g.reservedTokens + e.tokens
  held : (e.resolved ++ t.held).Perm (e.taken ++ g.held)
  nonneg : ∀ q ∈ e.taken, 0 ≤ q
  covered : ∀ q n, e = .reserved q n →
    g.committed + q ≤ g.cap.value ∧ ∀ cap ∈ g.tokenHardCap, g.reservedTokens + n ≤ cap
  returned : ∀ q n, e = .cancelled q n → 0 ≤ n

/-- The call was refused before it changed anything. -/
def Unchanged (g : LifecycleCostGuard) (e : LifecycleError) (t : LifecycleCostGuard) : Prop :=
  t = g ∧ e.isBreach = false

abbrev Fits (q : ℚ) : Prop := pricingContext.Fits q

theorem sameAmount_value {x y : SignedDecimal} (h : sameAmount x y = true) : x.value = y.value :=
  Decimal.same_iff.mp (of_decide_eq_true h)

/-- The call names a reservation that is outstanding, with the exposure it was authorised at. -/
def Owes (g : LifecycleCostGuard) (reservation : Constructed) (amount : SignedDecimal)
    (exposure : ℤ) : Prop :=
  reservation = .finite amount ∧ Stacks.top? sameAmount amount g.pending = some exposure

def released (g : LifecycleCostGuard) (amount : SignedDecimal) : LifecycleCostGuard :=
  { g with pending := Stacks.pop sameAmount amount g.pending }

def AdmitsTokens (g : LifecycleCostGuard) (bound : ℤ) : Prop :=
  ∀ cap ∈ g.tokenHardCap, g.reservedTokens + g.exposureOf bound ≤ cap

/-- The sums that an authorisation at this price forms have digits enough. -/
structure FitsAuthorize (g : LifecycleCostGuard) (price : ℚ) : Prop where
  resolved : Fits (g.measured.value + g.forfeited.value)
  committed : Fits g.committed
  projected : Fits (g.committed + price)
  held : g.committed + price ≤ g.cap.value →
    Fits (g.outstanding.value + price) ∧ Fits (g.reserved.value + price)

theorem release_leaves {reservation : Constructed} {expected : Option ℤ} :
    Leaves (release reservation expected) g
      (fun amount t => (∃ exposure, g.Owes reservation amount exposure ∧
          ∀ n ∈ expected, n = exposure) ∧
        t = g.released amount)
      (Unchanged g) := by
  unfold release
  rw [leaves_bind, leaves_get]
  cases reservation with
  | infinite => exact ⟨rfl, rfl⟩
  | nan => exact ⟨rfl, rfl⟩
  | finite amount =>
    simp only [keyOf]
    cases htop : Stacks.top? sameAmount amount g.pending with
    | none => exact ⟨rfl, rfl⟩
    | some exposure =>
      dsimp only
      split
      · exact ⟨rfl, rfl⟩
      · rename_i hsame
        refine ⟨⟨exposure, ⟨rfl, htop⟩, ?_⟩, rfl⟩
        intro n hn
        by_contra hne
        exact hsame ⟨n, hn, Ne.symm hne⟩

theorem add_exact {x y : SignedDecimal} (h : Fits (x.value + y.value)) :
    ∃ r, pricingContext.addSigned x y = .ok r ∧ r.value = x.value + y.value := by
  obtain ⟨r, hr, hkey⟩ := DecimalContext.addSigned_exact h
  exact ⟨r, hr, by rw [(DecimalContext.key_eq.mp hkey).2, DecimalContext.exactSum_value]⟩

theorem sub_exact {x y : SignedDecimal} (h : Fits (x.value - y.value)) :
    ∃ r, pricingContext.subSigned x y = .ok r ∧ r.value = x.value - y.value := by
  rw [sub_eq_add_neg, ← DecimalContext.negated_value] at h
  obtain ⟨r, hr, hv⟩ := add_exact h
  exact ⟨r, hr, by rw [hv, DecimalContext.negated_value, sub_eq_add_neg]⟩

theorem leaves_arithmetic {α β : Type} {result : Except DecimalSignal α} {a : α}
    {f : α → Guarded β} {Q : β → LifecycleCostGuard → Prop}
    {R : LifecycleError → LifecycleCostGuard → Prop} (h : result = .ok a) :
    Leaves (arithmetic result >>= f) g Q R ↔ Leaves (f a) g Q R := by
  subst h
  exact Iff.rfl

theorem checkTokenCap_leaves {bound : ℤ} :
    Leaves (checkTokenCap bound) g
      (fun _ t => t = g ∧ g.AdmitsTokens bound)
      (Unchanged g) := by
  unfold checkTokenCap
  rw [leaves_bind, leaves_get]
  cases hcap : g.tokenHardCap with
  | none =>
    refine ⟨rfl, ?_⟩
    simp [AdmitsTokens, hcap]
  | some cap =>
    dsimp only
    split
    · exact ⟨rfl, rfl⟩
    · rename_i hnot
      refine ⟨rfl, ?_⟩
      simpa [AdmitsTokens, hcap] using hnot

theorem checkCostCap_leaves {p : SignedDecimal} (h : FitsAuthorize g p.value) :
    Leaves (checkCostCap p) g (fun _ t => t = g ∧ g.committed + p.value ≤ g.cap.value)
      (Unchanged g) := by
  obtain ⟨hresolved, hcommitted, hprojected, -⟩ := h
  simp only [committed] at hcommitted hprojected
  obtain ⟨resolved, hr, hrv⟩ := add_exact hresolved
  rw [← hrv] at hcommitted hprojected
  obtain ⟨committed, hc, hcv⟩ := add_exact hcommitted
  rw [← hcv] at hprojected
  obtain ⟨projected, hj, hjv⟩ := add_exact hprojected
  unfold checkCostCap
  rw [leaves_bind, leaves_get, leaves_arithmetic hr, leaves_arithmetic hc, leaves_arithmetic hj]
  split
  · exact ⟨rfl, rfl⟩
  · rename_i hunder
    rw [Decimal.lt_iff, not_lt] at hunder
    have hsum : projected.value ≤ g.cap.value := hunder
    rw [hjv, hcv, hrv] at hsum
    exact ⟨rfl, hsum⟩

theorem hold_leaves {p : SignedDecimal} {exposure : ℤ}
    (houtstanding : Fits (g.outstanding.value + p.value))
    (hreserved : Fits (g.reserved.value + p.value)) :
    Leaves (hold p exposure) g
      (fun _ t => ∃ outstanding reserved : SignedDecimal,
        outstanding.value = g.outstanding.value + p.value ∧
        reserved.value = g.reserved.value + p.value ∧
        t = { g with outstanding, reserved, reservedTokens := g.reservedTokens + exposure,
                     pending := Stacks.push sameAmount p exposure g.pending })
      (fun _ _ => False) := by
  obtain ⟨outstanding, ho, hov⟩ := add_exact houtstanding
  obtain ⟨reserved, hw, hwv⟩ := add_exact hreserved
  unfold hold
  rw [leaves_bind, leaves_get, leaves_arithmetic ho, leaves_bind, leaves_modify, leaves_bind,
    leaves_get, leaves_arithmetic hw]
  exact ⟨outstanding, reserved, hov, hwv, rfl⟩

theorem authorize_leaves {bound : ℤ} (hmax : 0 ≤ g.maxOutputTokens)
    (h : g.AdmitsTokens bound → ∀ p, g.policy.price bound g.maxOutputTokens = .ok p →
      FitsAuthorize g p.value) :
    Leaves (authorize bound) g
      (fun p t => g.policy.price bound g.maxOutputTokens = .ok p ∧
        Posted g (.reserved p.value (g.exposureOf bound)) t)
      (Unchanged g) := by
  unfold authorize
  rw [leaves_bind, leaves_get, leaves_bind]
  refine checkTokenCap_leaves.mono ?_ fun _ _ => id
  rintro _ _ ⟨rfl, htokens⟩
  rw [leaves_bind, leaves_raising]
  refine ⟨?_, fun _ _ => ⟨rfl, rfl⟩⟩
  intro p hp
  have hfits := h htokens p hp
  rw [leaves_bind]
  refine (checkCostCap_leaves hfits).mono ?_ fun _ _ => id
  rintro _ _ ⟨rfl, hsum⟩
  obtain ⟨houtstanding, hreserved⟩ := hfits.held hsum
  rw [leaves_bind]
  refine (hold_leaves houtstanding hreserved).mono ?_ fun _ _ => False.elim
  rintro _ _ ⟨outstanding, reserved, ho, hw, rfl⟩
  refine ⟨hp, ?_⟩
  constructor
  · exact ⟨rfl, rfl, rfl, rfl⟩
  · simp [Posting.taken, Posting.resolved, ho]
  · simp [Posting.spent]
  · simp [Posting.exposed]
  · simp [Posting.taken, hw]
  · rfl
  · exact Stacks.held_push fun _ _ => sameAmount_value
  · intro q hq
    rw [List.mem_singleton.mp hq]
    exact price_nonneg hp
  · rintro q n ⟨⟩
    exact ⟨hsum, htokens⟩
  · nofun

theorem subtractOutstanding_leaves {r : SignedDecimal}
    (h : Fits (g.outstanding.value - r.value)) :
    Leaves (subtractOutstanding r) g
      (fun _ t => ∃ outstanding : SignedDecimal,
        outstanding.value = g.outstanding.value - r.value ∧ t = { g with outstanding })
      (fun _ _ => False) := by
  obtain ⟨outstanding, ho, hv⟩ := sub_exact h
  unfold subtractOutstanding
  rw [leaves_bind, leaves_get, leaves_arithmetic ho]
  exact ⟨outstanding, hv, rfl⟩

/-- A release takes the reservation out of what is held. -/
theorem Owes.held_perm {reservation : Constructed} {amount : SignedDecimal} {exposure : ℤ}
    (h : g.Owes reservation amount exposure) :
    (amount.value :: Stacks.held SignedDecimal.value
      (Stacks.pop sameAmount amount g.pending)).Perm g.held := by
  apply List.Perm.symm
  exact Stacks.held_pop (fun _ _ h => sameAmount_value h) h.2

theorem forfeit_leaves {reservation : Constructed}
    (h : ∀ amount exposure, g.Owes reservation amount exposure →
      Fits (g.outstanding.value - amount.value) ∧ Fits (g.forfeited.value + amount.value)) :
    Leaves (forfeit reservation) g
      (fun _ t => ∃ amount, reservation = .finite amount ∧ Posted g (.forfeited amount.value) t)
      (Unchanged g) := by
  unfold forfeit
  rw [leaves_bind]
  refine release_leaves.mono ?_ fun _ _ => id
  rintro amount _ ⟨⟨exposure, howes, -⟩, rfl⟩
  obtain ⟨houtstanding, hforfeited⟩ := h amount exposure howes
  rw [leaves_bind]
  refine (subtractOutstanding_leaves (g := g.released amount) houtstanding).mono ?_
    fun _ _ => False.elim
  rintro _ _ ⟨outstanding, ho, rfl⟩
  obtain ⟨forfeited, hf, hfv⟩ := add_exact hforfeited
  rw [leaves_bind, leaves_get]
  dsimp only [released]
  rw [leaves_arithmetic hf]
  refine ⟨amount, howes.1, ?_⟩
  constructor
  · exact ⟨rfl, rfl, rfl, rfl⟩
  · simp [Posting.taken, Posting.resolved, ho, released]
  · simp [Posting.spent]
  · exact hfv
  · simp [Posting.taken]
  · exact (add_zero _).symm
  · exact howes.held_perm
  · nofun
  · nofun
  · nofun

theorem cancel_leaves {reservation : Constructed} {bound : ℤ} (hmax : 0 ≤ g.maxOutputTokens)
    (h : 0 ≤ bound → ∀ amount, g.Owes reservation amount (g.exposureOf bound) →
      Fits (g.outstanding.value - amount.value)) :
    Leaves (cancel reservation bound) g
      (fun _ t => ∃ amount, reservation = .finite amount ∧
        Posted g (.cancelled amount.value (g.exposureOf bound)) t)
      (Unchanged g) := by
  unfold cancel
  rw [leaves_bind, leaves_get, leaves_bind, leaves_raising]
  refine ⟨?_, fun _ _ => ⟨rfl, rfl⟩⟩
  intro p hp
  obtain ⟨hbound, -⟩ := price_counts hp
  dsimp only
  split
  · exact ⟨rfl, rfl⟩
  · rw [leaves_bind]
    refine release_leaves.mono ?_ fun _ _ => id
    rintro amount _ ⟨⟨exposure, howes, hexposure⟩, rfl⟩
    obtain rfl := hexposure _ rfl
    rw [leaves_bind]
    have houtstanding := h hbound amount howes
    refine (subtractOutstanding_leaves (g := g.released amount) houtstanding).mono ?_
      fun _ _ => False.elim
    rintro _ _ ⟨outstanding, ho, rfl⟩
    refine ⟨amount, howes.1, ?_⟩
    constructor
    · exact ⟨rfl, rfl, rfl, rfl⟩
    · simp [Posting.taken, Posting.resolved, ho, released]
    · simp [Posting.spent, released]
    · simp [Posting.exposed, released]
    · simp [Posting.taken, released]
    · exact sub_eq_add_neg _ _
    · exact howes.held_perm
    · nofun
    · nofun
    · rintro q n ⟨⟩
      exact add_nonneg hbound hmax

/-- What was measured is on the books also where it breached its reservation. -/
theorem settle_leaves {reservation : Constructed} {i o : ℤ}
    (h : ∀ m, g.policy.price i o = .ok m → ∀ amount exposure,
      g.Owes reservation amount exposure →
        Fits (g.outstanding.value - amount.value) ∧ Fits (g.measured.value + m.value)) :
    Leaves (settle reservation (some i) (some o)) g
      (fun reply t => ∃ amount m, reservation = .finite amount ∧ reply = some m ∧
        g.policy.price i o = .ok m ∧ m.value ≤ amount.value ∧
        Posted g (.measured amount.value m.value) t)
      (fun e t => Unchanged g e t ∨ ∃ amount m, reservation = .finite amount ∧
        e = .reservationBreached m amount g.cap ∧ g.policy.price i o = .ok m ∧
        amount.value < m.value ∧ Posted g (.measured amount.value m.value) t) := by
  unfold settle
  dsimp only
  rw [leaves_bind, leaves_get, leaves_bind, leaves_raising]
  refine ⟨?_, fun _ _ => .inl ⟨rfl, rfl⟩⟩
  intro m hm
  rw [leaves_bind]
  refine release_leaves.mono ?_ fun _ _ => .inl
  rintro amount _ ⟨⟨exposure, howes, -⟩, rfl⟩
  obtain ⟨houtstanding, hmeasured⟩ := h m hm amount exposure howes
  rw [leaves_bind]
  refine (subtractOutstanding_leaves (g := g.released amount) houtstanding).mono ?_
    fun _ _ => False.elim
  rintro _ _ ⟨outstanding, ho, rfl⟩
  obtain ⟨total, ht, htv⟩ := add_exact hmeasured
  rw [leaves_bind, leaves_get]
  dsimp only [released]
  rw [leaves_arithmetic ht, leaves_bind, leaves_modify, record, leaves_bind, leaves_modify]
  have hposted (last : Option GuardEvent) (pendingEvents : List GuardEvent) :
      Posted g (.measured amount.value m.value)
        { g.released amount with outstanding, measured := total, last, pendingEvents } := by
    constructor
    · exact ⟨rfl, rfl, rfl, rfl⟩
    · simp [Posting.taken, Posting.resolved, ho, released]
    · exact htv
    · simp [Posting.exposed, released]
    · simp [Posting.taken, released]
    · exact (add_zero _).symm
    · exact howes.held_perm
    · rintro _ ⟨⟩
    · rintro _ _ ⟨⟩
    · rintro _ _ ⟨⟩
  split
  · rename_i hbreach
    rw [Decimal.lt_iff] at hbreach
    exact .inr ⟨amount, m, howes.1, rfl, hm, hbreach, hposted _ _⟩
  · rename_i hwithin
    rw [Decimal.lt_iff, not_lt] at hwithin
    exact ⟨amount, m, howes.1, rfl, hm, hwithin, hposted _ _⟩

end LifecycleCostGuard

end OperateBench.Agents
