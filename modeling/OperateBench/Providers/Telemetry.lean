import OperateBench.Boundary.Budget

/-! # Faults, attempts and telemetry

What a turn records about the requests it made: closed sets of names, the reservation of
each attempt as an exact decimal text, and local durations. Durations are of any type that
a clock may read.
-/

namespace OperateBench.Providers

open Foundation Boundary

inductive ProviderFault
  | authentication
  | badRequestUnclassified
  | configuration
  | invalidRequestOrSpendLimit
  | networkError
  | rateLimited
  | requestRejected
  | responseInvalid
  | serverError
  | spendLimit
  | timeout
deriving DecidableEq, Repr

namespace ProviderFault

def name : ProviderFault → String
  | authentication => "provider_authentication"
  | badRequestUnclassified => "provider_bad_request_unclassified"
  | configuration => "provider_configuration"
  | invalidRequestOrSpendLimit => "provider_invalid_request_or_spend_limit"
  | networkError => "provider_network_error"
  | rateLimited => "provider_rate_limited"
  | requestRejected => "provider_request_rejected"
  | responseInvalid => "provider_response_invalid"
  | serverError => "provider_server_error"
  | spendLimit => "provider_spend_limit"
  | timeout => "provider_timeout"

/-- A second attempt may answer differently. -/
def retryable : ProviderFault → Bool
  | networkError | rateLimited | serverError | timeout => true
  | _ => false

end ProviderFault

/-- What one exception of an SDK means. -/
structure Fault where
  fault : ProviderFault
  status : Option ℕ
  responseReceived : Bool := false
deriving DecidableEq, Repr

def faultDetail (fault : Fault) (attempts : ℕ) (reason : String) : String :=
  let answered :=
    match fault.status with
    | some status => s!"the provider answered HTTP {status}"
    | none => "the request to the provider did not complete"
  s!"{answered} ({fault.fault.name}) after {attempts} attempt(s); {reason}. The " ++
    "provider's own message, response body, headers and request id are not recorded here by design"

inductive AttemptOutcome
  | fault
  | response
  | unclassified
deriving DecidableEq, Repr

inductive AttemptSettlement
  | forfeited
  | measured
deriving DecidableEq, Repr

/-- Why the loop of a turn stopped. -/
inductive TurnEnd
  | response
  | faultNotRetryable
  | retriesExhausted
  | unclassified
  | deadlineExceeded
  | backoffUnaffordable
  | costCapExhausted
  | preDispatchRefused
deriving DecidableEq, Repr

/-- One request to the provider, and what came back. -/
structure ProviderAttempt (T : Type) where
  index : ℕ
  outcome : AttemptOutcome
  fault : Option ProviderFault := none
  httpStatus : Option ℕ := none
  latencySeconds : T
  responseReceived : Bool := false
  usageReported : Bool := false
  costReservationUsd : Option String
  costSettlement : Option AttemptSettlement

structure ProviderTelemetry (T : Type) where
  attempts : List (ProviderAttempt T)
  turnLatencySeconds : T
  terminalReason : TurnEnd

structure AdapterUsage (T : Type) where
  inputTokens : Count
  outputTokens : Count
  costUsd : Option Decimal
  latencySeconds : T

/-- An amount in fixed point, without trailing zeros after the point. -/
def usdText (amount : Decimal) : String :=
  let digits := (toString amount.coefficient.natAbs).toList
  let places := (-amount.exponent).toNat
  let padded := List.replicate (places + 1 - digits.length) '0' ++ digits
  let whole := padded.take (padded.length - places)
  let fraction := ((padded.drop (padded.length - places)).reverse.dropWhile (· = '0')).reverse
  let scaled := if amount.coefficient = 0 then whole
    else whole ++ List.replicate amount.exponent.toNat '0'
  String.ofList ((if amount.coefficient < 0 then ['-'] else []) ++ scaled ++
    (if fraction = [] then [] else '.' :: fraction))

example : usdText ⟨7000, -6⟩ = "0.007" ∧ usdText ⟨12, 3⟩ = "12000" := by decide

end OperateBench.Providers
