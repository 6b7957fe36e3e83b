import OperateBench.Agents.LifecycleRuns
import OperateBench.Agents.Pricing
import OperateBench.ExecutionLedger.Controls

/-! # What the guard has accumulated

The guard and the ledger compute on decimals that differ in their zeros only, and so they come to
the same text. Whatever is rounded, each total is what its amounts come to one after the other,
and each recorded amount is what the ledger derives for the same counts.
-/

namespace OperateBench.Agents

open Foundation ExecutionLedger Providers.SignedAmount LifecyclePricingPolicy DecimalContext

section Alike

/-- The results have one sign and one value, or they are the same exception. -/
def Alike (x y : Except DecimalSignal SignedDecimal) : Prop := x.map key = y.map key

variable {x y : Except DecimalSignal SignedDecimal} {f g : SignedDecimal →
  Except DecimalSignal SignedDecimal}

theorem Alike.bind (h : Alike x y) (hfg : ∀ a b, key a = key b → Alike (f a) (g b)) :
    Alike (x >>= f) (y >>= g) := by
  cases x with
  | error s => cases y with
    | error s' =>
      obtain rfl := Except.error.inj h
      rfl
    | ok b => cases h
  | ok a => cases y with
    | error s' => cases h
    | ok b => exact hfg a b (Except.ok.inj h)

theorem Alike.usdText (h : Alike x y) : x.map usdText = y.map usdText := by
  cases x with
  | error s => cases y with
    | error s' =>
      obtain rfl := Except.error.inj h
      rfl
    | ok b => cases h
  | ok a => cases y with
    | error s' => cases h
    | ok b =>
      obtain ⟨hs, hv⟩ := key_eq.mp (Except.ok.inj h)
      exact congrArg Except.ok (usdText_congr hs hv)

theorem key_stated (x : SignedDecimal) : key (stated x) = key x :=
  key_eq.mpr ⟨rfl, stated_value⟩

end Alike

section Prices

/-- Counts at two rates, in the precision that the guard and the ledger share. -/
def priceAt (inputRate outputRate : SignedDecimal) (inputTokens outputTokens : ℤ) :
    Except DecimalSignal SignedDecimal := do
  let input ← pricingContext.mulSigned (.ofInt inputTokens) inputRate
  let output ← pricingContext.mulSigned (.ofInt outputTokens) outputRate
  let total ← pricingContext.addSigned input output
  pricingContext.shiftSigned total 6

variable {policy : LifecyclePricingPolicy} {controls : LedgerControls} {max i o : ℤ}
  {p : SignedDecimal}

theorem priceAt_stated (inputRate outputRate : SignedDecimal) :
    Alike (priceAt inputRate outputRate i o) (priceAt (stated inputRate) (stated outputRate) i o) := by
  have hinput := (key_stated inputRate).symm
  have houtput := (key_stated outputRate).symm
  apply Alike.bind (mulSigned_congr pricing_range rfl hinput)
  intro a a' ha
  apply Alike.bind (mulSigned_congr pricing_range rfl houtput)
  intro b b' hb
  apply Alike.bind (addSigned_congr pricing_range ha hb)
  intro c c' hc
  exact shiftSigned_congr pricing_range hc

theorem price_eq (hi : 0 ≤ i) (ho : 0 ≤ o) : policy.price i o =
    (priceAt policy.inputUsdPerMtok policy.outputUsdPerMtok i o).mapError .decimal := by
  rw [LifecyclePricingPolicy.price, if_neg hi.not_gt, if_neg ho.not_gt]
  rfl

/-- The controls of a header that was built from the policy, for a guard of this ceiling. -/
structure BuiltFrom (policy : LifecyclePricingPolicy) (maxOutputTokens : ℤ)
    (controls : LedgerControls) : Prop where
  pricing : controls.pricing = policy.asDict
  maxOutputTokens : controls.maxOutputTokens = maxOutputTokens

theorem rate_built (h : BuiltFrom policy max controls) :
    controls.rate "input_usd_per_mtok" = .ok (stated policy.inputUsdPerMtok) ∧
      controls.rate "output_usd_per_mtok" = .ok (stated policy.outputUsdPerMtok) := by
  have hinput := readNonNegative_usdText policy.input_value_nonneg
  have houtput := readNonNegative_usdText policy.output_value_nonneg
  have hget : policy.asDict.get? "input_usd_per_mtok" = some (usdText policy.inputUsdPerMtok) ∧
      policy.asDict.get? "output_usd_per_mtok" = some (usdText policy.outputUsdPerMtok) :=
    ⟨rfl, rfl⟩
  constructor
  · rw [ControlsFields.rate, h.pricing, hget.1]
    simp only [controlsRate, hinput]
    rfl
  · rw [ControlsFields.rate, h.pricing, hget.2]
    simp only [controlsRate, houtput]
    rfl

theorem arithmetic_bind {α β : Type} {x : Except DecimalSignal α} {f : α → Except DecimalSignal β} :
    arithmetic (x >>= f) = arithmetic x >>= fun a => arithmetic (f a) := by
  cases x <;> rfl

theorem arithmetic_map {α β : Type} {x : Except DecimalSignal α} {f : α → β} :
    arithmetic (x.map f) = arithmetic x >>= fun a => pure (f a) := by
  cases x <;> rfl

/-- For the same counts the guard and the ledger come to the same text, or to the same exception of
the arithmetic. -/
theorem priced_built (h : BuiltFrom policy max controls) (hi : 0 ≤ i) (ho : 0 ≤ o) :
    ∃ result : Except DecimalSignal SignedDecimal,
      policy.price i o = result.mapError .decimal ∧
        priced controls i o = arithmetic (result.map usdText) := by
  refine ⟨_, price_eq hi ho, ?_⟩
  rw [(priceAt_stated _ _).usdText, priced, (rate_built h).1, (rate_built h).2]
  have hcontext : ledgerContext = pricingContext := rfl
  simp only [ok_bind, priceAt, hcontext, arithmetic_map, arithmetic_bind, bind_assoc]

theorem priced_of_price (h : BuiltFrom policy max controls) (hp : policy.price i o = .ok p) :
    priced controls i o = .ok (usdText p) := by
  obtain ⟨hi, ho⟩ := price_counts hp
  obtain ⟨result, hprice, hpriced⟩ := priced_built h hi ho
  have hresult := mapError_ok (hprice.symm.trans hp)
  rw [hpriced, hresult]
  rfl

theorem deriveReservation_of_price (h : BuiltFrom policy max controls)
    (hp : policy.price i max = .ok p) : deriveReservationUsd i controls = .ok (usdText p) := by
  obtain ⟨hi, -⟩ := price_counts hp
  rw [deriveReservationUsd, count, refuseIf, if_neg hi.not_gt, h.maxOutputTokens]
  exact priced_of_price h hp

theorem deriveMeasured_of_price (h : BuiltFrom policy max controls)
    (hp : policy.price i o = .ok p) : deriveMeasuredUsd i o controls = .ok (usdText p) := by
  obtain ⟨hi, ho⟩ := price_counts hp
  rw [deriveMeasuredUsd, count, count, refuseIf, refuseIf, if_neg hi.not_gt, if_neg ho.not_gt]
  exact priced_of_price h hp

end Prices

end OperateBench.Agents

namespace OperateBench.Agents

open Foundation LifecyclePricingPolicy LifecycleCostGuard

section Records

/-- The reservation that a call was authorised at. -/
def authorizedAt (v : GuardVisit) : Option SignedDecimal :=
  match v.result with
  | .ok (.authorized p) _ => some p
  | _ => none

/-- The event that a call has recorded. -/
def eventOf (v : GuardVisit) : Option GuardEvent :=
  match v.call, v.result with
  | .settle (.finite r) _ _, .ok (.settled (some m)) _ =>
    some { reservationUsd := r, measuredUsd := some m }
  | .settle (.finite r) _ _, .ok (.settled none) _ =>
    some { reservationUsd := r, forfeitedUsd := some r }
  | .settle _ _ _, .error (.reservationBreached m r _) _ =>
    some { reservationUsd := r, measuredUsd := some m }
  | .forfeit (.finite r), .ok _ _ => some { reservationUsd := r, forfeitedUsd := some r }
  | _, _ => none

def measuredAt (v : GuardVisit) : Option SignedDecimal := (eventOf v).bind fun e => e.measuredUsd

def forfeitedAt (v : GuardVisit) : Option SignedDecimal := (eventOf v).bind fun e => e.forfeitedUsd

/-- A total with the amount of a call, if there is one. -/
def accumulate (total : SignedDecimal) : Option SignedDecimal → Except DecimalSignal SignedDecimal
  | none => .ok total
  | some amount => pricingContext.addSigned total amount

/-- What a call does to the totals and to the events. -/
structure Tallied (v : GuardVisit) : Prop where
  policy : v.after.policy = v.before.policy
  maxOutputTokens : v.after.maxOutputTokens = v.before.maxOutputTokens
  events : v.after.pendingEvents = v.before.pendingEvents ++ (eventOf v).toList
  measured : accumulate v.before.measured (measuredAt v) = .ok v.after.measured
  forfeited : accumulate v.before.forfeited (forfeitedAt v) = .ok v.after.forfeited
  reserved : accumulate v.before.reserved (authorizedAt v) = .ok v.after.reserved
  authorized : ∀ p, authorizedAt v = some p → ∃ bound, v.call = .authorize bound ∧
    v.before.AdmitsTokens bound ∧ v.before.policy.price bound v.before.maxOutputTokens = .ok p
  settled : ∀ m, measuredAt v = some m → ∃ reservation i o,
    v.call = .settle reservation (some i) (some o) ∧ v.before.policy.price i o = .ok m

/-- The totals and the events are as before. -/
structure Kept (g t : LifecycleCostGuard) : Prop where
  policy : t.policy = g.policy
  maxOutputTokens : t.maxOutputTokens = g.maxOutputTokens
  events : t.pendingEvents = g.pendingEvents
  measured : t.measured = g.measured
  forfeited : t.forfeited = g.forfeited
  reserved : t.reserved = g.reserved

end Records

section Steps

variable {g t : LifecycleCostGuard} {call : Call} {e : LifecycleError}

theorem Kept.refl : Kept g g := ⟨rfl, rfl, rfl, rfl, rfl, rfl⟩

/-- A call that was refused, possibly after it changed what is outstanding. -/
theorem tallied_refused (h : Kept g t ∧ e.isBreach = false) : Tallied ⟨g, call, .error e t⟩ := by
  obtain ⟨hkept, he⟩ := h
  have hnone : eventOf ⟨g, call, .error e t⟩ = none := by
    cases call with
    | settle reservation i o => cases e with
      | reservationBreached => cases he
      | _ => cases reservation <;> rfl
    | forfeit reservation => cases reservation <;> rfl
    | _ => rfl
  constructor
  · exact hkept.policy
  · exact hkept.maxOutputTokens
  · rw [hnone]
    exact hkept.events.trans (List.append_nil _).symm
  · rw [measuredAt, hnone]
    exact congrArg Except.ok hkept.measured.symm
  · rw [forfeitedAt, hnone]
    exact congrArg Except.ok hkept.forfeited.symm
  · exact congrArg Except.ok hkept.reserved.symm
  · nofun
  · rw [measuredAt, hnone]
    nofun

theorem release_tallied {reservation : Constructed} {expected : Option ℤ} :
    Leaves (release reservation expected) g
      (fun amount t => reservation = .finite amount ∧ t = g.released amount)
      (fun e t => Kept g t ∧ e.isBreach = false) := by
  refine release_leaves.mono ?_ ?_
  · rintro amount t ⟨⟨exposure, howes, -⟩, rfl⟩
    exact ⟨howes.1, rfl⟩
  · rintro e t ⟨rfl, he⟩
    exact ⟨.refl, he⟩

theorem subtract_tallied {amount : SignedDecimal} :
    Leaves (subtractOutstanding amount) g
      (fun _ t => ∃ outstanding, t = { g with outstanding })
      (fun e t => Kept g t ∧ e.isBreach = false) := by
  unfold subtractOutstanding arithmetic
  simp only [leaves_bind, leaves_get, leaves_raising, leaves_modify]
  constructor
  · intro outstanding _
    exact ⟨outstanding, rfl⟩
  · intro s _
    exact ⟨.refl, rfl⟩

theorem authorize_tallied {bound : ℤ} :
    Leaves (authorize bound) g
      (fun p t => Tallied ⟨g, .authorize bound, .ok (.authorized p) t⟩)
      (fun e t => Tallied ⟨g, .authorize bound, .error e t⟩) := by
  unfold authorize
  rw [leaves_bind, leaves_get, leaves_bind]
  refine checkTokenCap_leaves.mono ?_ ?_
  · rintro _ _ ⟨rfl, htokens⟩
    rw [leaves_bind, leaves_raising]
    refine ⟨?_, fun _ _ => tallied_refused ⟨.refl, rfl⟩⟩
    intro p hp
    unfold checkCostCap hold arithmetic
    simp only [leaves_bind, leaves_get, leaves_raising]
    refine ⟨?_, fun _ _ => tallied_refused ⟨.refl, rfl⟩⟩
    intro resolved _
    refine ⟨?_, fun _ _ => tallied_refused ⟨.refl, rfl⟩⟩
    intro committed _
    refine ⟨?_, fun _ _ => tallied_refused ⟨.refl, rfl⟩⟩
    intro projected _
    split
    · exact tallied_refused ⟨.refl, rfl⟩
    · simp only [leaves_pure, leaves_modify]
      refine ⟨?_, fun _ _ => tallied_refused ⟨.refl, rfl⟩⟩
      intro outstanding _
      refine ⟨?_, fun _ _ => tallied_refused ⟨⟨rfl, rfl, rfl, rfl, rfl, rfl⟩, rfl⟩⟩
      intro reserved hreserved
      constructor
      · rfl
      · rfl
      · exact (List.append_nil _).symm
      · rfl
      · rfl
      · exact hreserved
      · rintro _ ⟨⟩
        exact ⟨bound, rfl, htokens, hp⟩
      · rintro _ ⟨⟩
  · rintro e t ⟨rfl, he⟩
    exact tallied_refused ⟨.refl, he⟩

/-- What a forfeit leaves behind. -/
structure Forfeited (g : LifecycleCostGuard) (amount : SignedDecimal) (t : LifecycleCostGuard) :
    Prop where
  policy : t.policy = g.policy
  maxOutputTokens : t.maxOutputTokens = g.maxOutputTokens
  events : t.pendingEvents =
    g.pendingEvents ++ [{ reservationUsd := amount, forfeitedUsd := some amount }]
  measured : t.measured = g.measured
  forfeited : pricingContext.addSigned g.forfeited amount = .ok t.forfeited
  reserved : t.reserved = g.reserved

theorem forfeit_tallied {reservation : Constructed} :
    Leaves (LifecycleCostGuard.forfeit reservation) g
      (fun _ t => ∃ amount, reservation = .finite amount ∧ Forfeited g amount t)
      (fun e t => Kept g t ∧ e.isBreach = false) := by
  unfold LifecycleCostGuard.forfeit
  rw [leaves_bind]
  refine release_tallied.mono ?_ fun _ _ => id
  rintro amount _ ⟨hfinite, rfl⟩
  rw [leaves_bind]
  refine subtract_tallied.mono ?_ ?_
  · rintro _ _ ⟨outstanding, rfl⟩
    unfold arithmetic record
    simp only [leaves_bind, leaves_get, leaves_raising, leaves_modify]
    constructor
    · intro forfeited hforfeited
      exact ⟨amount, hfinite, rfl, rfl, rfl, rfl, hforfeited, rfl⟩
    · intro s _
      exact ⟨⟨rfl, rfl, rfl, rfl, rfl, rfl⟩, rfl⟩
  · rintro e t ⟨hkept, he⟩
    exact ⟨⟨hkept.policy, hkept.maxOutputTokens, hkept.events, hkept.measured, hkept.forfeited,
      hkept.reserved⟩, he⟩

theorem Forfeited.tallied {amount : SignedDecimal} {reply : Reply}
    (hevent : eventOf ⟨g, call, .ok reply t⟩ =
      some { reservationUsd := amount, forfeitedUsd := some amount })
    (hreply : ∀ p, reply ≠ .authorized p) (h : Forfeited g amount t) :
    Tallied ⟨g, call, .ok reply t⟩ := by
  have hauthorized : authorizedAt ⟨g, call, .ok reply t⟩ = none := by
    cases reply with
    | authorized p => exact absurd rfl (hreply p)
    | _ => rfl
  constructor
  · exact h.policy
  · exact h.maxOutputTokens
  · rw [hevent]
    exact h.events
  · rw [measuredAt, hevent]
    exact congrArg Except.ok h.measured.symm
  · rw [forfeitedAt, hevent]
    exact h.forfeited
  · rw [hauthorized]
    exact congrArg Except.ok h.reserved.symm
  · rw [hauthorized]
    nofun
  · rw [measuredAt, hevent]
    nofun

theorem measured_tallied {amount m : SignedDecimal} {r : Constructed} {i o : ℤ}
    {result : EStateM.Result LifecycleError LifecycleCostGuard Reply}
    (hevent : eventOf ⟨g, .settle r (some i) (some o), result⟩ =
      some { reservationUsd := amount, measuredUsd := some m })
    (hreply : authorizedAt ⟨g, .settle r (some i) (some o), result⟩ = none)
    (hprice : g.policy.price i o = .ok m) {outstanding total : SignedDecimal}
    {pending : Stacks SignedDecimal ℤ} {last : Option GuardEvent}
    (htotal : pricingContext.addSigned g.measured m = .ok total)
    (hafter : (⟨g, .settle r (some i) (some o), result⟩ : GuardVisit).after =
      { g with outstanding, pending, last, measured := total,
               pendingEvents := g.pendingEvents ++
                 [{ reservationUsd := amount, measuredUsd := some m }] }) :
    Tallied ⟨g, .settle r (some i) (some o), result⟩ := by
  constructor
  · rw [hafter]
  · rw [hafter]
  · rw [hafter, hevent]
    rfl
  · rw [hafter, measuredAt, hevent]
    exact htotal
  · rw [hafter, forfeitedAt, hevent]
    rfl
  · rw [hafter, hreply]
    rfl
  · rw [hreply]
    nofun
  · rw [measuredAt, hevent]
    rintro _ ⟨⟩
    exact ⟨r, i, o, rfl, hprice⟩

theorem settle_tallied {reservation : Constructed} {i o : Option ℤ} :
    Leaves (settle reservation i o) g
      (fun m t => Tallied ⟨g, .settle reservation i o, .ok (.settled m) t⟩)
      (fun e t => Tallied ⟨g, .settle reservation i o, .error e t⟩) := by
  have hforfeit (hnone : i = none ∨ o = none) : Leaves (settle reservation i o) g
      (fun m t => Tallied ⟨g, .settle reservation i o, .ok (.settled m) t⟩)
      (fun e t => Tallied ⟨g, .settle reservation i o, .error e t⟩) := by
    have hsettle : settle reservation i o = do
        LifecycleCostGuard.forfeit reservation
        return none := by
      rcases hnone with rfl | rfl
      · rfl
      · cases i <;> rfl
    rw [hsettle, leaves_bind]
    refine forfeit_tallied.mono ?_ fun _ _ => tallied_refused
    rintro _ t ⟨amount, rfl, hforfeited⟩
    exact hforfeited.tallied rfl nofun
  cases i with
  | none => exact hforfeit (.inl rfl)
  | some i => cases o with
    | none => exact hforfeit (.inr rfl)
    | some o =>
      unfold settle
      dsimp only
      rw [leaves_bind, leaves_get, leaves_bind, leaves_raising]
      refine ⟨?_, fun _ _ => tallied_refused ⟨.refl, rfl⟩⟩
      intro m hm
      rw [leaves_bind]
      refine release_tallied.mono ?_ fun _ _ => tallied_refused
      rintro amount _ ⟨rfl, rfl⟩
      rw [leaves_bind]
      refine subtract_tallied.mono ?_ ?_
      · rintro _ _ ⟨outstanding, rfl⟩
        unfold arithmetic record
        simp only [leaves_bind, leaves_get, leaves_raising, leaves_modify]
        refine ⟨?_, fun _ _ => tallied_refused ⟨⟨rfl, rfl, rfl, rfl, rfl, rfl⟩, rfl⟩⟩
        intro total htotal
        split
        · exact measured_tallied rfl rfl hm htotal rfl
        · exact measured_tallied rfl rfl hm htotal rfl
      · rintro e t ⟨hkept, he⟩
        exact tallied_refused ⟨⟨hkept.policy, hkept.maxOutputTokens, hkept.events, hkept.measured,
          hkept.forfeited, hkept.reserved⟩, he⟩

theorem cancel_tallied {reservation : Constructed} {bound : ℤ} :
    Leaves (cancel reservation bound) g
      (fun _ t => Tallied ⟨g, .cancel reservation bound, .ok .resolved t⟩)
      (fun e t => Tallied ⟨g, .cancel reservation bound, .error e t⟩) := by
  unfold cancel
  rw [leaves_bind, leaves_get, leaves_bind, leaves_raising]
  refine ⟨?_, fun _ _ => tallied_refused ⟨.refl, rfl⟩⟩
  intro p _
  dsimp only
  split
  · exact tallied_refused ⟨.refl, rfl⟩
  · rw [leaves_bind]
    refine release_tallied.mono ?_ fun _ _ => tallied_refused
    rintro amount _ ⟨-, rfl⟩
    rw [leaves_bind]
    refine subtract_tallied.mono ?_ ?_
    · rintro _ _ ⟨outstanding, rfl⟩
      exact ⟨rfl, rfl, (List.append_nil _).symm, rfl, rfl, rfl, nofun, nofun⟩
    · rintro e t ⟨hkept, he⟩
      exact tallied_refused ⟨⟨hkept.policy, hkept.maxOutputTokens, hkept.events, hkept.measured,
        hkept.forfeited, hkept.reserved⟩, he⟩

theorem visit_tallied : Tallied (visit perform g call) := by
  apply visit_leaves
  cases call with
  | authorize bound =>
    rw [perform, leaves_map]
    exact authorize_tallied
  | settle reservation i o =>
    rw [perform, leaves_map]
    exact settle_tallied
  | forfeit reservation =>
    rw [perform, leaves_map]
    refine forfeit_tallied.mono ?_ fun _ _ => tallied_refused
    rintro _ t ⟨amount, rfl, hforfeited⟩
    exact hforfeited.tallied rfl (by rintro _ ⟨⟩)
  | cancel reservation bound =>
    rw [perform, leaves_map]
    exact cancel_tallied

end Steps

end OperateBench.Agents
