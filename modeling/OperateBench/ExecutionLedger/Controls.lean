import OperateBench.Foundation.Dict
import OperateBench.Foundation.SignedArithmetic
import OperateBench.ExecutionLedger.Records

/-! # The controls of a run

What a run was authorised for, the amounts that follow from its pinned rates, and which calls it
can have made.
-/

namespace OperateBench.ExecutionLedger

open Foundation Providers.SignedAmount

section Controls

def costCapPolicies : List String := ["refuse_before_dispatch"]

def pricingRateFields : List String := ["input_usd_per_mtok", "output_usd_per_mtok"]

/-- The fields of `LedgerControls`, the cap in its one rendering. -/
structure ControlsFields where
  maxProviderCalls : ℤ
  maxAttemptsPerCall : ℤ
  expectedProviderCalls : ℤ
  tokenHardCap : ℤ
  maxOutputTokens : ℤ
  costCapUsd : List Char
  costCapPolicy : String
  turnDeadlineSeconds : ℚ
  wallClockDeadlineSeconds : ℚ
  pricing : Dict String (List Char)

namespace ControlsFields

variable (controls : ControlsFields)

def rate (name : String) : Except LedgerError SignedDecimal :=
  match controls.pricing.get? name with
  | none => .error (.schema s!"controls.pricing.{name}" .missingRate)
  | some value => (controlsRate value name).mapError .amount

/-- `LedgerControls.__post_init__` -/
def check : Check :=
  inOrder [
    count 1 controls.maxProviderCalls "controls.max_provider_calls",
    count 1 controls.maxAttemptsPerCall "controls.max_attempts_per_call",
    count 1 controls.expectedProviderCalls "controls.expected_provider_calls",
    count 1 controls.tokenHardCap "controls.token_hard_cap",
    count 1 controls.maxOutputTokens "controls.max_output_tokens",
    ((canonicalAmount controls.costCapUsd "controls.cost_cap_usd").map fun _ => ()).mapError
      .amount,
    member costCapPolicies controls.costCapPolicy "controls.cost_cap_policy",
    seconds controls.turnDeadlineSeconds "controls.turn_deadline_seconds",
    seconds controls.wallClockDeadlineSeconds "controls.wall_clock_deadline_seconds",
    refuseIf (controls.maxProviderCalls < controls.expectedProviderCalls)
      (.schema "controls" .expectedAboveBound),
    inOrder (pricingRateFields.map fun name => (controls.rate name).map fun _ => ())]

end ControlsFields

structure LedgerControls extends ControlsFields where
  valid : toControlsFields.check = .ok ()
  canonical : canonicalAmount costCapUsd "controls.cost_cap_usd" = .ok costCapUsd

end Controls

section Amounts

/-- The precision of the ledger, with the default exponents. -/
def ledgerContext : DecimalContext := { prec := 60, emin := -999999, emax := 999999 }

def arithmetic {α : Type} (result : Except DecimalSignal α) : Except LedgerError α :=
  result.mapError .decimal

/-- `_priced` -/
def priced (controls : LedgerControls) (inputTokens outputTokens : ℤ) :
    Except LedgerError (List Char) := do
  let inputRate ← controls.rate "input_usd_per_mtok"
  let input ← arithmetic (ledgerContext.mulSigned (.ofInt inputTokens) inputRate)
  let outputRate ← controls.rate "output_usd_per_mtok"
  let output ← arithmetic (ledgerContext.mulSigned (.ofInt outputTokens) outputRate)
  let total ← arithmetic (ledgerContext.addSigned input output)
  let amount ← arithmetic (ledgerContext.shiftSigned total 6)
  return usdText amount

def deriveReservationUsd (inputTokenUpperBound : ℤ) (controls : LedgerControls) :
    Except LedgerError (List Char) := do
  count 0 inputTokenUpperBound "input_token_upper_bound"
  priced controls inputTokenUpperBound controls.maxOutputTokens

def deriveMeasuredUsd (inputTokens outputTokens : ℤ) (controls : LedgerControls) :
    Except LedgerError (List Char) := do
  count 0 inputTokens "input_tokens"
  count 0 outputTokens "output_tokens"
  priced controls inputTokens outputTokens

def checkReservation (call : LedgerCall) (controls : LedgerControls) (attempt : LedgerAttempt) :
    Check :=
  match attempt.costReservationUsd with
  | none => .ok ()
  | some stated => do
    let expected ← deriveReservationUsd call.inputTokenUpperBound controls
    refuseIf (stated ≠ expected)
      (.chain call.location (.reservation attempt.attemptIndex stated expected))

def checkMeasured (call : LedgerCall) (controls : LedgerControls) (attempt : LedgerAttempt) :
    Check :=
  if attempt.costSettlement = some attemptSettlementMeasured then
    match attempt.inputTokens, attempt.outputTokens with
    | some inputTokens, some outputTokens => do
      let expected ← deriveMeasuredUsd inputTokens outputTokens controls
      refuseIf (attempt.costMeasuredUsd ≠ some expected)
        (.chain call.location (.measured attempt.attemptIndex attempt.costMeasuredUsd expected))
    | _, _ => .error (.chain call.location (.measuredWithoutCounts attempt.attemptIndex))
  else .ok ()

def checkForfeited (call : LedgerCall) (attempt : LedgerAttempt) : Check :=
  refuseIf (attempt.costSettlement = some attemptSettlementForfeited ∧
      attempt.costForfeitedUsd ≠ attempt.costReservationUsd)
    (.chain call.location (.forfeited attempt.attemptIndex attempt.costForfeitedUsd
      attempt.costReservationUsd))

def checkCallAmounts (call : LedgerCall) (controls : LedgerControls) : Check :=
  inOrder (call.attempts.map fun attempt => inOrder [
    checkReservation call controls attempt,
    checkMeasured call controls attempt,
    checkForfeited call attempt])

end Amounts

section Admission

def checkCallAdmissible (call : LedgerCall) (controls : LedgerControls)
    (previous : Option LedgerCall) : Check :=
  inOrder [
    refuseIf (controls.maxProviderCalls ≤ call.callIndex)
      (.chain call.location (.tooManyCalls controls.maxProviderCalls)),
    refuseIf (controls.maxAttemptsPerCall < call.attempts.length)
      (.chain call.location
        (.tooManyAttempts call.attempts.length controls.maxAttemptsPerCall)),
    refuseIf (call.terminalReason = some turnEndRetriesExhausted ∧
        (call.attempts.length : ℤ) ≠ controls.maxAttemptsPerCall)
      (.chain call.location (.retriesLeft call.attempts.length controls.maxAttemptsPerCall)),
    match previous with
      | none => .ok ()
      | some previous => refuseIf
          (call.invocationIndex < previous.invocationIndex ∨
            call.invocationIndex = previous.invocationIndex ∧ call.turnIndex ≤ previous.turnIndex)
          (.chain call.location (.notForwards call.invocationIndex call.turnIndex
            previous.invocationIndex previous.turnIndex))]

end Admission

end OperateBench.ExecutionLedger
