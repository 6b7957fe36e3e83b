import OperateBench.Core.Clock
import OperateBench.ExecutionLedger.Amounts

/-! # The records of a call

An attempt, a decision and a call, each with the checks of its constructor as a field, and what a
version of the ledger demands of them besides.
-/

namespace OperateBench.ExecutionLedger

open Foundation

section Vocabulary

def executionLedgerVersionV2 : ℤ := 2
def executionLedgerVersion : ℤ := 3

def attemptOutcomeFault := "fault"
def attemptOutcomeResponse := "response"
def attemptOutcomeUnclassified := "unclassified_error"

def attemptSettlementForfeited := "forfeited"
def attemptSettlementMeasured := "measured"

def turnEndBackoffUnaffordable := "backoff_unaffordable"
def turnEndCostCapExhausted := "cost_cap_exhausted"
def turnEndDeadlineExceeded := "deadline_exceeded"
def turnEndFaultNotRetryable := "fault_not_retryable"
def turnEndPreDispatchRefused := "pre_dispatch_refused"
def turnEndResponse := "response"
def turnEndRetriesExhausted := "retries_exhausted"
def turnEndUnclassified := "unclassified_error"

def attemptOutcomes : List String := ["fault", "response", "unclassified_error"]

def attemptSettlements : List String := ["forfeited", "measured"]

def turnTerminalReasons : List String :=
  ["backoff_unaffordable", "cost_cap_exhausted", "deadline_exceeded", "fault_not_retryable",
    "pre_dispatch_refused", "response", "retries_exhausted", "unclassified_error"]

def providerFaultsV2 : List String :=
  ["provider_authentication", "provider_configuration", "provider_network_error",
    "provider_rate_limited", "provider_request_rejected", "provider_response_invalid",
    "provider_server_error", "provider_timeout"]

def providerFaultsV3 : List String :=
  ["provider_authentication", "provider_bad_request_unclassified", "provider_configuration",
    "provider_invalid_request_or_spend_limit", "provider_network_error", "provider_rate_limited",
    "provider_request_rejected", "provider_response_invalid", "provider_server_error",
    "provider_spend_limit", "provider_timeout"]

def retryableProviderFaults : List String :=
  ["provider_network_error", "provider_rate_limited", "provider_server_error", "provider_timeout"]

/-- What the rows of a version may state. -/
structure Semantics where
  attemptOutcomes : List String
  attemptSettlements : List String
  turnTerminalReasons : List String
  providerFaults : List String
  retryableProviderFaults : List String

/-- The tables of a version; there are none for a version that is not supported. -/
def semanticsOf (ledgerVersion : ℤ) : Option Semantics :=
  if ledgerVersion = executionLedgerVersionV2 then
    some ⟨attemptOutcomes, attemptSettlements, turnTerminalReasons, providerFaultsV2,
      retryableProviderFaults⟩
  else if ledgerVersion = executionLedgerVersion then
    some ⟨attemptOutcomes, attemptSettlements, turnTerminalReasons, providerFaultsV3,
      retryableProviderFaults⟩
  else none

def stopClassifications : List String := ["completed", "max_tokens"]

end Vocabulary

section Errors

/-- `LedgerSchemaError` -/
inductive SchemaProblem
  | notIdentifier
  | notDigest
  | notCount (minimum value : ℤ)
  | negativeDuration
  | notMember (value : String) (allowed : List String)
  | notInstant (error : PyError)
  | faultOutcome (outcome : String) (fault : Option String)
  | responseNotReceived
  | usageNotReceived
  | reservationUnresolved
  | measuredAmount
  | forfeitedAmount
  | measuredWithoutUsage
  | usageCounts (usageReported : Bool) (inputTokens outputTokens : Option ℤ)
  | evidenceWithoutResponse
  | noSemantics (ledgerVersion : ℤ)
  | faultNotOwned (fault : String) (ledgerVersion : ℤ) (allowed : List String)
  | statusWithoutResponse
  | notUrl
  | endedBeforeStart
  | noAttempts
  | attemptIndex (position stated : ℤ)
  | partialWireRequest
  | decisionWithoutResponse (outcome : String) (fault : Option String)
  | decisionUnbound
  | attemptAfterResponse (index : ℤ)
  | attemptAfterUnclassified (index : ℤ)
  | attemptAfterFault (index : ℤ) (fault : String)
  | reasonNotOwned (reason : String) (ledgerVersion : ℤ) (allowed : List String)
  | exitNotAnswered (reason outcome : String)
  | exitNotUnclassified (reason outcome : String)
  | missingRate
  | notRate (problem : AmountError)
  | expectedAboveBound
  | scoredUnderCode
  | excludedWithoutCode
  | abortedUnderCode (code : Option String)
  | otherDetail
  | incompatibleTaxonomy
deriving DecidableEq

/-- `LedgerChainError` -/
inductive ChainProblem
  | reservation (attempt : ℤ) (stated expected : List Char)
  | measuredWithoutCounts (attempt : ℤ)
  | measured (attempt : ℤ) (stated : Option (List Char)) (expected : List Char)
  | forfeited (attempt : ℤ) (stated reservation : Option (List Char))
  | tooManyCalls (bound : ℤ)
  | tooManyAttempts (attempts : ℕ) (allowed : ℤ)
  | retriesLeft (attempts : ℕ) (allowed : ℤ)
  | notForwards (invocation turn previousInvocation previousTurn : ℤ)
  | scoredFault (fault : Option String)
  | scoredUnclassified
  | scoredWithoutDecision
  | excludedAborted
  | excludedWithoutCause (code : Option String)
deriving DecidableEq

inductive LedgerError
  | schema (context : String) (problem : SchemaProblem)
  | amount (error : AmountError)
  | chain (context : String) (problem : ChainProblem)
  | decimal (signal : DecimalSignal)
deriving DecidableEq

end Errors

section Validators

abbrev Check := Except LedgerError Unit

def isAlphanumeric (c : Char) : Bool :=
  ('A' ≤ c ∧ c ≤ 'Z') ∨ ('a' ≤ c ∧ c ≤ 'z') ∨ ('0' ≤ c ∧ c ≤ '9')

def maxLedgerTextCharacters : ℕ := 256

/-- `_TOKEN` -/
def isToken (value : String) : Bool :=
  let text := chars value
  1 ≤ text.length ∧ text.length ≤ maxLedgerTextCharacters ∧
    text.all fun c => isAlphanumeric c ∨ c ∈ "._:@/+-".toList

/-- `_HEX_DIGEST` -/
def isDigest (value : String) : Bool :=
  let text := chars value
  text.length = 64 ∧ text.all fun c => ('0' ≤ c ∧ c ≤ '9') ∨ ('a' ≤ c ∧ c ≤ 'f')

/-- `_URL` -/
def isUrl (value : String) : Bool :=
  let text := chars value
  let scheme := "https://".toList
  let location := text.drop scheme.length
  let isHost := fun c => isAlphanumeric c ∨ c = '.' ∨ c = '-'
  let host := location.takeWhile isHost
  let behind := location.dropWhile isHost
  let digits := behind.tail.takeWhile Char.isDigit
  let behind :=
    if behind.head? = some ':' ∧ digits ≠ [] then behind.tail.dropWhile Char.isDigit else behind
  scheme.isPrefixOf text ∧ host ≠ [] ∧ (behind = [] ∨ behind.head? = some '/' ∧
    behind.tail.all fun c => isAlphanumeric c ∨ c ∈ "._~/-".toList)

def token (value context : String) : Check :=
  refuseIf (isToken value = false) (.schema context .notIdentifier)

def digest (value context : String) : Check :=
  refuseIf (isDigest value = false) (.schema context .notDigest)

def count (minimum value : ℤ) (context : String) : Check :=
  refuseIf (value < minimum) (.schema context (.notCount minimum value))

def seconds (value : Option ℚ) (context : String) : Check :=
  refuseIf (∃ duration ∈ value, duration < 0) (.schema context .negativeDuration)

def checkAmount (value : List Char) (context : String) : Check :=
  ((amount value context).map fun _ => ()).mapError .amount

def instant (value context : String) : Check :=
  ((parseTimestamp value context).map fun _ => ()).mapError fun e => .schema context (.notInstant e)

def member (allowed : List String) (value context : String) : Check :=
  refuseIf (value ∉ allowed) (.schema context (.notMember value allowed))

/-- A field that may be left out. -/
def optionally {α : Type} (check : α → String → Check) (value : Option α) (context : String) :
    Check :=
  match value with
  | none => .ok ()
  | some value => check value context

end Validators

section Attempts

/-- The arguments of `LedgerAttempt`. -/
structure AttemptFields where
  attemptIndex : ℤ
  outcome : String
  fault : Option String := none
  httpStatus : Option ℤ := none
  latencySeconds : Option ℚ := none
  responseReceived : Bool := false
  usageReported : Bool := false
  costReservationUsd : Option (List Char) := none
  costSettlement : Option String := none
  costMeasuredUsd : Option (List Char) := none
  costForfeitedUsd : Option (List Char) := none
  inputTokens : Option ℤ := none
  outputTokens : Option ℤ := none
  responseModel : Option String := none
  responseIdDigestSha256 : Option String := none
  responseStopClassification : Option String := none
  responseNormalizedDigestSha256 : Option String := none
deriving DecidableEq

namespace AttemptFields

variable (a : AttemptFields)

/-- `LedgerAttempt.__post_init__` -/
def check : Check :=
  let location := s!"attempt {a.attemptIndex}"
  let measured := a.costSettlement = some attemptSettlementMeasured
  let forfeited := a.costSettlement = some attemptSettlementForfeited
  let counted := a.inputTokens.isSome && a.outputTokens.isSome
  inOrder [
    count 1 a.attemptIndex s!"{location}.attempt_index",
    token a.outcome s!"{location}.outcome",
    optionally token a.fault s!"{location}.fault",
    optionally (count 100) a.httpStatus s!"{location}.http_status",
    seconds a.latencySeconds s!"{location}.latency_seconds",
    optionally checkAmount a.costReservationUsd s!"{location}.cost_reservation_usd",
    optionally token a.costSettlement s!"{location}.cost_settlement",
    optionally checkAmount a.costMeasuredUsd s!"{location}.cost_measured_usd",
    optionally checkAmount a.costForfeitedUsd s!"{location}.cost_forfeited_usd",
    optionally (count 0) a.inputTokens s!"{location}.input_tokens",
    optionally (count 0) a.outputTokens s!"{location}.output_tokens",
    optionally token a.responseModel s!"{location}.response_model",
    optionally digest a.responseIdDigestSha256 s!"{location}.response_id_digest_sha256",
    optionally (member stopClassifications) a.responseStopClassification
      s!"{location}.response_stop_classification",
    optionally digest a.responseNormalizedDigestSha256
      s!"{location}.response_normalized_digest_sha256",
    refuseIf (a.fault.isSome ≠ (a.outcome = attemptOutcomeFault))
      (.schema location (.faultOutcome a.outcome a.fault)),
    refuseIf (a.outcome = attemptOutcomeResponse ∧ a.responseReceived = false)
      (.schema location .responseNotReceived),
    refuseIf (a.usageReported ∧ a.responseReceived = false) (.schema location .usageNotReceived),
    refuseIf (a.costReservationUsd.isNone ≠ a.costSettlement.isNone)
      (.schema location .reservationUnresolved),
    refuseIf (measured ≠ a.costMeasuredUsd.isSome) (.schema location .measuredAmount),
    refuseIf (forfeited ≠ a.costForfeitedUsd.isSome) (.schema location .forfeitedAmount),
    refuseIf (measured ∧ a.usageReported = false) (.schema location .measuredWithoutUsage),
    refuseIf (a.usageReported ≠ counted)
      (.schema location (.usageCounts a.usageReported a.inputTokens a.outputTokens)),
    refuseIf (a.outcome ≠ attemptOutcomeResponse ∧
        (a.responseModel.isSome ∨ a.responseIdDigestSha256.isSome ∨
          a.responseStopClassification.isSome ∨ a.responseNormalizedDigestSha256.isSome))
      (.schema location .evidenceWithoutResponse)]

def validateForLedgerVersion (ledgerVersion : ℤ) (context : String) : Check :=
  match semanticsOf ledgerVersion with
  | none => .error (.schema context (.noSemantics ledgerVersion))
  | some s => inOrder [
      member s.attemptOutcomes a.outcome s!"{context}.outcome",
      optionally (member s.attemptSettlements) a.costSettlement s!"{context}.cost_settlement",
      optionally (fun fault where_ => refuseIf (fault ∉ s.providerFaults)
        (.schema where_ (.faultNotOwned fault ledgerVersion s.providerFaults)))
        a.fault s!"{context}.fault",
      refuseIf (ledgerVersion = executionLedgerVersion ∧ a.httpStatus.isSome ∧
        a.responseReceived = false) (.schema context .statusWithoutResponse)]

end AttemptFields

/-- One request to the provider. -/
structure LedgerAttempt extends AttemptFields where
  valid : toAttemptFields.check = .ok ()

end Attempts

section Calls

/-- The arguments of `LedgerDecision`. -/
structure DecisionFields where
  kind : String
  decisionDigestSha256 : String
  classificationCode : Option String := none

/-- `LedgerDecision.__post_init__` -/
def DecisionFields.check (d : DecisionFields) : Check :=
  inOrder [
    token d.kind "decision.kind",
    digest d.decisionDigestSha256 "decision.decision_digest_sha256",
    optionally token d.classificationCode "decision.classification_code"]

structure LedgerDecision extends DecisionFields where
  valid : toDecisionFields.check = .ok ()

/-- The arguments of `LedgerCall`. -/
structure CallFields where
  callIndex : ℤ
  invocationIndex : ℤ
  turnIndex : ℤ
  requestDigestSha256 : String
  promptDigestSha256 : String
  observationDigestSha256 : String
  payloadDigestSha256 : String
  inputTokenUpperBound : ℤ
  startedAt : String
  endedAt : String
  attempts : List LedgerAttempt
  wireRequestDigestSha256 : Option String := none
  wireRequestBytes : Option ℤ := none
  wireRequestMethod : Option String := none
  wireRequestUrl : Option String := none
  turnLatencySeconds : Option ℚ := none
  terminalReason : Option String := none
  decision : Option LedgerDecision := none

namespace CallFields

variable (call : CallFields)

def location : String := s!"call {call.callIndex}"

/-- The attempts are numbered from one. -/
def checkAttemptIndexes (location : String) : ℤ → List LedgerAttempt → Check
  | _, [] => .ok ()
  | position, attempt :: attempts => inOrder [
      refuseIf (attempt.attemptIndex ≠ position)
        (.schema location (.attemptIndex position attempt.attemptIndex)),
      checkAttemptIndexes location (position + 1) attempts]

/-- Both instants were accepted when they are compared. -/
def checkDuration : Check :=
  match parseTimestamp call.endedAt call.location, parseTimestamp call.startedAt call.location with
  | .ok ended, .ok started => refuseIf (ended < started) (.schema call.location .endedBeforeStart)
  | .error e, _ => .error (.schema call.location (.notInstant e))
  | _, .error e => .error (.schema call.location (.notInstant e))

/-- `_check_decision_binding` -/
def checkDecisionBinding (last : LedgerAttempt) : Check :=
  inOrder [
    refuseIf (last.outcome ≠ attemptOutcomeResponse)
      (.schema call.location (.decisionWithoutResponse last.outcome last.fault)),
    refuseIf (last.responseNormalizedDigestSha256 = none)
      (.schema call.location .decisionUnbound)]

/-- `LedgerCall.__post_init__` -/
def check : Check :=
  let location := call.location
  let wire := [call.wireRequestDigestSha256.isNone, call.wireRequestBytes.isNone,
    call.wireRequestMethod.isNone, call.wireRequestUrl.isNone]
  inOrder [
    count 0 call.callIndex s!"{location}.call_index",
    count 0 call.invocationIndex s!"{location}.invocation_index",
    count 0 call.turnIndex s!"{location}.turn_index",
    digest call.requestDigestSha256 s!"{location}.request_digest_sha256",
    digest call.promptDigestSha256 s!"{location}.prompt_digest_sha256",
    digest call.observationDigestSha256 s!"{location}.observation_digest_sha256",
    digest call.payloadDigestSha256 s!"{location}.payload_digest_sha256",
    optionally digest call.wireRequestDigestSha256 s!"{location}.wire_request_digest_sha256",
    optionally (count 0) call.wireRequestBytes s!"{location}.wire_request_bytes",
    optionally (member ["POST"]) call.wireRequestMethod s!"{location}.wire_request_method",
    refuseIf (∃ url ∈ call.wireRequestUrl, isUrl url = false)
      (.schema s!"{location}.wire_request_url" .notUrl),
    count 0 call.inputTokenUpperBound s!"{location}.input_token_upper_bound",
    instant call.startedAt s!"{location}.started_at",
    instant call.endedAt s!"{location}.ended_at",
    seconds call.turnLatencySeconds s!"{location}.turn_latency_seconds",
    optionally token call.terminalReason s!"{location}.terminal_reason",
    call.checkDuration,
    refuseIf (call.attempts = []) (.schema location .noAttempts),
    checkAttemptIndexes location 1 call.attempts,
    refuseIf (wire.any id ∧ wire.any not) (.schema location .partialWireRequest),
    match call.decision, call.attempts.getLast? with
      | some _, some last => call.checkDecisionBinding last
      | _, _ => .ok ()]

/-- An attempt that another one may follow. -/
def checkFollowed (location : String) (retryable : List String) (attempt : LedgerAttempt) :
    Check :=
  inOrder [
    refuseIf (attempt.outcome = attemptOutcomeResponse)
      (.schema location (.attemptAfterResponse attempt.attemptIndex)),
    refuseIf (attempt.outcome = attemptOutcomeUnclassified)
      (.schema location (.attemptAfterUnclassified attempt.attemptIndex)),
    match attempt.fault with
      | none => .ok ()
      | some fault => refuseIf (fault ∉ retryable)
          (.schema location (.attemptAfterFault attempt.attemptIndex fault))]

/-- `_check_attempt_sequence` -/
def checkAttemptSequence (location : String) (retryable : List String) : Check :=
  inOrder (call.attempts.dropLast.map (checkFollowed location retryable))

/-- `_check_terminal_reason` -/
def checkTerminalReason (location : String) : Check :=
  match call.terminalReason, call.attempts.getLast? with
  | some reason, some last => inOrder [
      refuseIf (decide (last.outcome = attemptOutcomeResponse) ≠ decide (reason = turnEndResponse))
        (.schema location (.exitNotAnswered reason last.outcome)),
      refuseIf (decide (last.outcome = attemptOutcomeUnclassified) ≠
          decide (reason = turnEndUnclassified))
        (.schema location (.exitNotUnclassified reason last.outcome))]
  | _, _ => .ok ()

def validateForLedgerVersion (ledgerVersion : ℤ) (context : String) : Check :=
  match semanticsOf ledgerVersion with
  | none => .error (.schema context (.noSemantics ledgerVersion))
  | some s => inOrder [
      inOrder (call.attempts.mapIdx fun index attempt =>
        attempt.validateForLedgerVersion ledgerVersion s!"{context}.attempts[{index}]"),
      refuseIf (∃ reason ∈ call.terminalReason, reason ∉ s.turnTerminalReasons)
        (.schema s!"{context}.terminal_reason" (.reasonNotOwned (call.terminalReason.getD "")
          ledgerVersion s.turnTerminalReasons)),
      call.checkAttemptSequence context s.retryableProviderFaults,
      call.checkTerminalReason context]

end CallFields

/-- One call of the model. -/
structure LedgerCall extends CallFields where
  valid : toCallFields.check = .ok ()

end Calls

end OperateBench.ExecutionLedger
