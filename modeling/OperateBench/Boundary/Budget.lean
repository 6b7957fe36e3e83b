import OperateBench.Boundary.Pricing
import OperateBench.Foundation.Raising

/-! # The cost guard of a run

One provider request is authorised at a time, against a reservation that its own upper
bound on tokens prices. The reservation is then settled at what the response reported,
forfeited as exposure, or cancelled when the request was never dispatched.
-/

namespace OperateBench.Boundary

open Foundation

structure CostControls where
  maxCostUsd : Option UsdAmount
  price : Option ModelPrice
  positive : ∀ cap ∈ maxCostUsd, 0 < cap.amount
  priced : maxCostUsd.isSome → price.isSome

inductive GuardError
  | notEnforcing
  | maxOutputTokens
  | alreadySeeded
  | recovered (error : PricingError)
  | requestOutstanding
  | pricing (error : PricingError)
  | decimal (signal : DecimalSignal)
  | costCapExceeded (cap measured exposure reservation : Decimal)
  | boundDoesNotReproduce
  | noneOutstanding
  | otherReservation
  | otherExposure
  | reservationBreached (measured reservation cap : Decimal)
deriving DecidableEq, Repr

def GuardError.isBreach : GuardError → Bool
  | reservationBreached .. => true
  | _ => false

structure RunCostGuard where
  price : ModelPrice
  cap : Decimal
  maxOutputTokens : ℕ
  measured : Decimal := 0
  exposure : Decimal := 0
  episodeMeasured : Decimal := 0
  episodeExposure : Decimal := 0
  /-- The reservation that is outstanding, with its exposure in tokens. -/
  pending : Option (Decimal × ℕ) := none
  seeded : Bool := false
  breached : Bool := false

/-- `value == other`, which signals when a signaling NaN is compared. -/
def Operand.equals (value : Operand) (other : Decimal) : Except DecimalSignal Bool :=
  match value with
  | .finite amount => .ok (amount.Same other)
  | .infinite => .ok false
  | .nan signaling => if signaling then .error .invalidOperation else .ok false

namespace RunCostGuard

abbrev Guarded := EStateM GuardError RunCostGuard

def init (controls : CostControls) (maxOutputTokens : ℤ) : Except GuardError RunCostGuard :=
  match controls.maxCostUsd, controls.price with
  | some cap, some price =>
    if maxOutputTokens < 1 then .error .maxOutputTokens
    else .ok { price, cap := cap.amount, maxOutputTokens := maxOutputTokens.toNat }
  | _, _ => .error .notEnforcing

/-- Adopt the spend that the ledger of a resumed run records. -/
def seed (measuredUsd exposureUsd : Operand) : Guarded Unit := do
  if (← get).seeded then throw .alreadySeeded
  let measured ← raising .recovered (checkUsdAmount measuredUsd "measured_usd recovered from the ledger")
  let exposure ← raising .recovered (checkUsdAmount exposureUsd "exposure_usd recovered from the ledger")
  modify fun g => { g with measured := measured.amount }
  modify fun g => { g with exposure := exposure.amount }
  modify fun g => { g with seeded := true }

/-- The most that one attempt at the request can cost. -/
def reservationFor (g : RunCostGuard) (inputTokensUpperBound : Count) :
    Except PricingError Decimal :=
  g.price.cost inputTokensUpperBound (.whole g.maxOutputTokens)

/-- The token bound with the pinned ceiling of the output. -/
def tokenExposure (g : RunCostGuard) : Count → ℕ
  | .whole tokens => tokens.toNat + g.maxOutputTokens
  | _ => g.maxOutputTokens

def authorize (inputTokensUpperBound : Count) : Guarded Decimal := do
  let g ← get
  if g.pending.isSome then throw .requestOutstanding
  let reservation ← raising .pricing (g.reservationFor inputTokensUpperBound)
  let spent ← raising .decimal (exactDecimalContext.add g.measured g.exposure)
  let committed ← raising .decimal (exactDecimalContext.add spent reservation)
  if g.cap < committed then
    throw (.costCapExceeded g.cap g.measured g.exposure reservation)
  modify fun g => { g with pending := some (reservation, g.tokenExposure inputTokensUpperBound) }
  return reservation

/-- Resolve the outstanding reservation, which the caller has to name. -/
def release (reservation : Operand) (expectedExposure : Option ℕ) : Guarded Decimal := do
  match (← get).pending with
  | none => throw .noneOutstanding
  | some (pendingReservation, pendingExposure) =>
    let same ← raising .decimal (reservation.equals pendingReservation)
    match same, reservation with
    | true, .finite amount =>
      if expectedExposure.any (· != pendingExposure) then throw .otherExposure
      modify fun g => { g with pending := none }
      return amount
    | _, _ => throw .otherReservation

def bankExposure (reservation : Decimal) : Guarded Unit := do
  let exposure ← raising .decimal (exactDecimalContext.add (← get).exposure reservation)
  modify fun g => { g with exposure }
  let episodeExposure ← raising .decimal
    (exactDecimalContext.add (← get).episodeExposure reservation)
  modify fun g => { g with episodeExposure }

def bankMeasured (amount : Decimal) : Guarded Unit := do
  let measured ← raising .decimal (exactDecimalContext.add (← get).measured amount)
  modify fun g => { g with measured }
  let episodeMeasured ← raising .decimal
    (exactDecimalContext.add (← get).episodeMeasured amount)
  modify fun g => { g with episodeMeasured }

/-- A count that the price refuses is unmeasured. -/
def measure (g : RunCostGuard) (inputTokens outputTokens : Count) : Option Decimal :=
  match measuredCostUsd g.price inputTokens outputTokens with
  | .ok measured => measured
  | .error _ => none

/-- Start an episode's own accounting. -/
def beginEpisode : Guarded Unit := do
  if (← get).pending.isSome then throw .requestOutstanding
  modify fun g => { g with episodeMeasured := 0, episodeExposure := 0 }

def settle (reservation : Operand) (inputTokens outputTokens : Count) :
    Guarded (Option Decimal) := do
  let measured := (← get).measure inputTokens outputTokens
  let reserved ← release reservation none
  match measured with
  | none =>
    bankExposure reserved
    return none
  | some amount =>
    bankMeasured amount
    if reserved < amount then
      modify fun g => { g with breached := true }
      throw (.reservationBreached amount reserved (← get).cap)
    return some amount

def forfeit (reservation : Operand) : Guarded Unit := do
  let reserved ← release reservation none
  bankExposure reserved

def cancel (reservation : Operand) (inputTokensUpperBound : Count) : Guarded Unit := do
  let g ← get
  let recomputed ← raising .pricing (g.reservationFor inputTokensUpperBound)
  let same ← raising .decimal (reservation.equals recomputed)
  if !same then throw .boundDoesNotReproduce
  let _ ← release reservation (some (g.tokenExposure inputTokensUpperBound))

end RunCostGuard

end OperateBench.Boundary
