import OperateBench.Agents.Pricing
import OperateBench.Foundation.Raising
import OperateBench.Foundation.Stacks

/-! # The lifecycle cost guard

A request is authorised against a reservation at its own bound on tokens, under a cap of money and
one of tokens. Several reservations may be outstanding, told apart by their amount alone.
-/

namespace OperateBench.Agents

open Foundation Providers.SignedAmount LifecyclePricingPolicy

section Guard

inductive LifecycleError
  | tokenCapExceeded (cap reserved exposure bound maxOutputTokens projected : ℤ)
  | costCapExceeded (cap projected : List Char)
  | reservationBreached (measured reservation cap : SignedDecimal)
  | policy (error : PricingPolicyError)
deriving DecidableEq

def LifecycleError.isBreach : LifecycleError → Bool
  | reservationBreached .. => true
  | _ => false

/-- How one reservation was resolved. -/
structure GuardEvent where
  reservationUsd : SignedDecimal
  measuredUsd : Option SignedDecimal := none
  forfeitedUsd : Option SignedDecimal := none
deriving DecidableEq

structure LifecycleCostGuard where
  policy : LifecyclePricingPolicy
  cap : SignedDecimal
  maxOutputTokens : ℤ
  tokenHardCap : Option ℤ
  reservedTokens : ℤ := 0
  measured : SignedDecimal := .ofInt 0
  forfeited : SignedDecimal := .ofInt 0
  reserved : SignedDecimal := .ofInt 0
  outstanding : SignedDecimal := .ofInt 0
  last : Option GuardEvent := none
  pendingEvents : List GuardEvent := []
  /-- The exposures that are outstanding at each price. -/
  pending : Stacks SignedDecimal ℤ := []

/-- Keys of a dictionary are the same where they are equal as numbers. -/
def sameAmount (x y : SignedDecimal) : Bool := x.toDecimal.Same y.toDecimal

namespace LifecycleCostGuard

abbrev Guarded := EStateM LifecycleError LifecycleCostGuard

/-- `LifecycleCostGuard(...)` -/
def init (policy : LifecyclePricingPolicy) (capUsd : RateArgument) (maxOutputTokens : ℤ)
    (tokenHardCap : Option ℤ) : Except PricingPolicyError LifecycleCostGuard := do
  let cap ← checkRate capUsd "cap_usd"
  if cap.toDecimal ≤ 0 then .error (.notPositive "cap_usd")
  else if maxOutputTokens < 1 then .error (.notPositive "max_output_tokens")
  else if ∃ tokens ∈ tokenHardCap, tokens < 1 then .error (.notPositive "token_hard_cap")
  else .ok { policy, cap, maxOutputTokens, tokenHardCap }

def arithmetic {α : Type} (result : Except DecimalSignal α) : Guarded α :=
  raising (fun signal => .policy (.decimal signal)) result

/-- An amount as a caller names it is a key where it is finite. -/
def keyOf : Constructed → Option SignedDecimal
  | .finite amount => some amount
  | _ => none

/-- `_release` -/
def release (reservation : Constructed) (expectedExposure : Option ℤ) : Guarded SignedDecimal := do
  let g ← get
  match keyOf reservation with
  | none => throw (.policy .notOutstanding)
  | some amount =>
    match Stacks.top? sameAmount amount g.pending with
    | none => throw (.policy .notOutstanding)
    | some exposure =>
      if ∃ expected ∈ expectedExposure, exposure ≠ expected then throw (.policy .notMostRecent)
      modify fun g => { g with pending := Stacks.pop sameAmount amount g.pending }
      return amount

/-- The token bound with the output ceiling. -/
def exposureOf (g : LifecycleCostGuard) (inputTokensUpperBound : ℤ) : ℤ :=
  inputTokensUpperBound + g.maxOutputTokens

def checkTokenCap (inputTokensUpperBound : ℤ) : Guarded Unit := do
  let g ← get
  let exposure := g.exposureOf inputTokensUpperBound
  match g.tokenHardCap with
  | none => return
  | some cap =>
    if cap < g.reservedTokens + exposure then
      throw (.tokenCapExceeded cap g.reservedTokens exposure inputTokensUpperBound
        g.maxOutputTokens (g.reservedTokens + exposure))

def checkCostCap (reservation : SignedDecimal) : Guarded Unit := do
  let g ← get
  let resolved ← arithmetic (pricingContext.addSigned g.measured g.forfeited)
  let committed ← arithmetic (pricingContext.addSigned resolved g.outstanding)
  let projected ← arithmetic (pricingContext.addSigned committed reservation)
  if g.cap.toDecimal < projected.toDecimal then
    throw (.costCapExceeded (usdText g.cap) (usdText projected))

/-- The totals are changed one after the other, the tokens only once the money was. -/
def hold (reservation : SignedDecimal) (exposure : ℤ) : Guarded Unit := do
  let outstanding ← arithmetic (pricingContext.addSigned (← get).outstanding reservation)
  modify fun g => { g with outstanding }
  let reserved ← arithmetic (pricingContext.addSigned (← get).reserved reservation)
  modify fun g => { g with reserved }
  modify fun g => { g with reservedTokens := g.reservedTokens + exposure }
  modify fun g => { g with pending := Stacks.push sameAmount reservation exposure g.pending }

def authorize (inputTokensUpperBound : ℤ) : Guarded SignedDecimal := do
  let g ← get
  checkTokenCap inputTokensUpperBound
  let reservation ← raising .policy (g.policy.price inputTokensUpperBound g.maxOutputTokens)
  checkCostCap reservation
  hold reservation (g.exposureOf inputTokensUpperBound)
  return reservation

/-- Take a reservation out of what is outstanding. -/
def subtractOutstanding (reservation : SignedDecimal) : Guarded Unit := do
  let outstanding ← arithmetic (pricingContext.subSigned (← get).outstanding reservation)
  modify fun g => { g with outstanding }

def record (event : GuardEvent) : Guarded Unit :=
  modify fun g => { g with last := some event, pendingEvents := g.pendingEvents ++ [event] }

def forfeit (reservation : Constructed) : Guarded Unit := do
  let amount ← release reservation none
  subtractOutstanding amount
  let forfeited ← arithmetic (pricingContext.addSigned (← get).forfeited amount)
  modify fun g => { g with forfeited }
  record { reservationUsd := amount, forfeitedUsd := some amount }

def settle (reservation : Constructed) (inputTokens outputTokens : Option ℤ) :
    Guarded (Option SignedDecimal) := do
  match inputTokens, outputTokens with
  | some inputTokens, some outputTokens =>
    let measured ← raising .policy ((← get).policy.price inputTokens outputTokens)
    let amount ← release reservation none
    subtractOutstanding amount
    let total ← arithmetic (pricingContext.addSigned (← get).measured measured)
    modify fun g => { g with measured := total }
    record { reservationUsd := amount, measuredUsd := some measured }
    if amount.toDecimal < measured.toDecimal then
      throw (.reservationBreached measured amount (← get).cap)
    return some measured
  | _, _ =>
    forfeit reservation
    return none

/-- Two amounts are equal as numbers; nothing equals what is not finite. -/
def equalsAmount (recomputed : SignedDecimal) : Constructed → Bool
  | .finite amount => sameAmount recomputed amount
  | _ => false

def cancel (reservation : Constructed) (inputTokensUpperBound : ℤ) : Guarded Unit := do
  let g ← get
  let recomputed ← raising .policy (g.policy.price inputTokensUpperBound g.maxOutputTokens)
  let exposure := g.exposureOf inputTokensUpperBound
  if !equalsAmount recomputed reservation then throw (.policy .notReproduced)
  let amount ← release reservation (some exposure)
  subtractOutstanding amount
  modify fun g => { g with reservedTokens := g.reservedTokens - exposure }

end LifecycleCostGuard

end Guard

end OperateBench.Agents
