import OperateBench.ExecutionLedger.Controls
import OperateBench.ExecutionLedger.Durability
import OperateBench.Providers.Telemetry

/-! # Totals and terminals

What the rows of a run add up to, which ending they support, and the format of the journal that
holds them.
-/

namespace OperateBench.ExecutionLedger

open Foundation Providers.SignedAmount

section Totals

/-- The sum of amounts that were accepted, from left to right. -/
def sumFrom : SignedDecimal → List (List Char) → Except LedgerError SignedDecimal
  | total, [] => .ok total
  | total, amount :: amounts =>
    match SignedDecimal.ofText amount with
    | some (.finite parsed) => do
      let total ← arithmetic (ledgerContext.addSigned total parsed)
      sumFrom total amounts
    | _ => .error (.decimal .invalidOperation)

/-- `_sum` -/
def sumAmounts (amounts : List (List Char)) : Except LedgerError (List Char) := do
  let total ← sumFrom (.ofInt 0) amounts
  return usdText total

structure TotalsFields where
  providerCalls : ℤ
  attempts : ℤ
  inputTokens : ℤ
  outputTokens : ℤ
  measuredCostUsd : List Char
  forfeitedReservationUsd : List Char
  reservedUsd : List Char
  faultCounts : List (String × ℤ)
deriving DecidableEq

/-- `LedgerTotals.__post_init__` -/
def TotalsFields.check (totals : TotalsFields) : Check :=
  inOrder [
    count 0 totals.providerCalls "totals.provider_calls",
    count 0 totals.attempts "totals.attempts",
    count 0 totals.inputTokens "totals.input_tokens",
    count 0 totals.outputTokens "totals.output_tokens",
    checkAmount totals.measuredCostUsd "totals.measured_cost_usd",
    checkAmount totals.forfeitedReservationUsd "totals.forfeited_reservation_usd",
    checkAmount totals.reservedUsd "totals.reserved_usd",
    inOrder (totals.faultCounts.map fun (fault, met) => inOrder [
      token fault "totals.fault_counts",
      count 1 met s!"totals.fault_counts.{fault}"])]

structure LedgerTotals extends TotalsFields where
  valid : toTotalsFields.check = .ok ()

def LedgerTotals.construct (fields : TotalsFields) : Except LedgerError LedgerTotals :=
  match h : fields.check with
  | .error e => .error e
  | .ok () => .ok ⟨fields, h⟩

def allAttempts (calls : List LedgerCall) : List LedgerAttempt := calls.flatMap fun c => c.attempts

def countFault (faults : Dict String ℤ) (attempt : LedgerAttempt) : Dict String ℤ :=
  match attempt.fault with
  | none => faults
  | some fault => faults.set fault ((faults.get? fault).getD 0 + 1)

/-- How often each fault was met, by the names of the faults. -/
def faultCounts (attempts : List LedgerAttempt) : List (String × ℤ) :=
  (attempts.foldl countFault .empty).entries.insertionSort fun e e' => e.1 ≤ e'.1

def recomputeTotals (calls : List LedgerCall) : Except LedgerError LedgerTotals := do
  let attempts := allAttempts calls
  let measured ← sumAmounts (attempts.filterMap fun a => a.costMeasuredUsd)
  let forfeited ← sumAmounts (attempts.filterMap fun a => a.costForfeitedUsd)
  let reserved ← sumAmounts (attempts.filterMap fun a => a.costReservationUsd)
  LedgerTotals.construct
    { providerCalls := calls.length
      attempts := attempts.length
      inputTokens := (attempts.map fun a => a.inputTokens.getD 0).sum
      outputTokens := (attempts.map fun a => a.outputTokens.getD 0).sum
      measuredCostUsd := measured
      forfeitedReservationUsd := forfeited
      reservedUsd := reserved
      faultCounts := faultCounts attempts }

end Totals

section Terminals

inductive TerminalKind
  | scored
  | excluded
  | aborted
deriving DecidableEq

def abortedCode := "execution_aborted"

def controlExclusions : List String := ["provider_budget", "provider_deadline"]

def exclusionCodes : List String :=
  [abortedCode, "provider_budget", "provider_deadline"] ++ providerFaultsV3 ++
    ["provider_protocol", "provider_transport"]

def turnEndEarlyReasons : List String :=
  ["backoff_unaffordable", "cost_cap_exhausted", "deadline_exceeded", "pre_dispatch_refused"]

/-- `TERMINAL_DETAILS` -/
def TerminalKind.detail : TerminalKind → String
  | scored => ""
  | excluded => "execution stopped at the provider boundary"
  | aborted => "execution did not reach a terminal state and was abandoned"

/-- What a scored run cannot state of a call. -/
def checkScored (call : LedgerCall) : Check :=
  inOrder [
    refuseIf (∃ attempt ∈ call.attempts, attempt.fault.isSome)
      (.chain call.location (.scoredFault (call.attempts.getLast?.bind fun a => a.fault))),
    refuseIf (∃ attempt ∈ call.attempts, attempt.outcome = attemptOutcomeUnclassified)
      (.chain call.location .scoredUnclassified),
    refuseIf call.decision.isNone (.chain call.location .scoredWithoutDecision)]

def checkExcluded (exclusionCode : Option String) (calls : List LedgerCall) : Check :=
  if exclusionCode = some abortedCode then .error (.chain "terminal" .excludedAborted)
  else if (∃ code ∈ exclusionCode, code ∈ controlExclusions) ∨ calls = [] then .ok ()
  else if ∃ call ∈ calls, ∃ attempt ∈ call.attempts,
      attempt.fault.isSome ∨ attempt.outcome = attemptOutcomeUnclassified then .ok ()
  else if ∃ call ∈ calls, ∃ reason ∈ call.terminalReason, reason ∈ turnEndEarlyReasons then .ok ()
  else .error (.chain "terminal" (.excludedWithoutCause exclusionCode))

def checkTerminalAdmissible (kind : TerminalKind) (exclusionCode : Option String)
    (calls : List LedgerCall) : Check :=
  match kind with
  | .scored => inOrder (calls.map checkScored)
  | .excluded => checkExcluded exclusionCode calls
  | .aborted => .ok ()

/-- What a journal is finalised with. -/
structure Ending where
  kind : TerminalKind
  endedAt : String
  exclusionCode : Option String := none

structure TerminalFields where
  kind : TerminalKind
  endedAt : String
  totals : LedgerTotals
  exclusionCode : Option String := none
  exclusionDetail : String := ""

/-- `LedgerTerminal.__post_init__`; an empty detail was replaced by the one of the kind. -/
def TerminalFields.check (terminal : TerminalFields) : Check :=
  inOrder [
    instant terminal.endedAt "terminal.ended_at",
    refuseIf (terminal.kind = .scored ∧ terminal.exclusionCode.isSome)
      (.schema "terminal" .scoredUnderCode),
    refuseIf (terminal.kind = .excluded ∧ terminal.exclusionCode = none)
      (.schema "terminal" .excludedWithoutCode),
    refuseIf (terminal.kind = .aborted ∧ terminal.exclusionCode ≠ some abortedCode)
      (.schema "terminal" (.abortedUnderCode terminal.exclusionCode)),
    optionally (member exclusionCodes) terminal.exclusionCode "terminal.exclusion_code",
    refuseIf (terminal.exclusionDetail ≠ terminal.kind.detail)
      (.schema "terminal.exclusion_detail" .otherDetail)]

structure LedgerTerminal extends TerminalFields where
  valid : toTerminalFields.check = .ok ()

def LedgerTerminal.construct (fields : TerminalFields) : Except LedgerError LedgerTerminal :=
  let fields := if fields.exclusionDetail = "" then
    { fields with exclusionDetail := fields.kind.detail } else fields
  match h : fields.check with
  | .error e => .error e
  | .ok () => .ok ⟨fields, h⟩

/-- What `finalize` decides before it appends. -/
def conclude (calls : List LedgerCall) (ending : Ending) : Except LedgerError LedgerTerminal := do
  checkTerminalAdmissible ending.kind ending.exclusionCode calls
  let totals ← recomputeTotals calls
  LedgerTerminal.construct
    { kind := ending.kind, endedAt := ending.endedAt, exclusionCode := ending.exclusionCode, totals }

end Terminals

section Format

/-- How a row is scanned, digested and written. -/
structure RowWriter where
  Digest : Type
  genesis : Digest
  headerRow : ℕ → Digest → LedgerControls → Except LedgerError (Digest × List UInt8)
  callRow : ℕ → Digest → LedgerCall → Except LedgerError (Digest × List UInt8)
  terminalRow : ℕ → Digest → LedgerTerminal → Except LedgerError (Digest × List UInt8)

/-- `PROVIDER_FAULTS` of the live taxonomy. -/
def liveProviderFaults : List String :=
  [Providers.ProviderFault.authentication, .badRequestUnclassified, .configuration,
    .invalidRequestOrSpendLimit, .networkError, .rateLimited, .requestRejected, .responseInvalid,
    .serverError, .spendLimit, .timeout].map Providers.ProviderFault.name

/-- `RETRYABLE_PROVIDER_FAULTS` -/
def liveRetryableProviderFaults : List String :=
  [Providers.ProviderFault.networkError, .rateLimited, .serverError, .timeout].map
    Providers.ProviderFault.name

def assertCurrentProviderLedgerCompatibility : Check :=
  refuseIf (liveProviderFaults ≠ providerFaultsV3 ∨
    liveRetryableProviderFaults ≠ retryableProviderFaults)
    (.schema "execution ledger" .incompatibleTaxonomy)

/-- The format of the current version. -/
abbrev ledgerFormat (rows : RowWriter) : Format where
  Header := LedgerControls
  Call := LedgerCall
  Ending := Ending
  Terminal := LedgerTerminal
  Digest := rows.Digest
  Refusal := LedgerError
  genesis := rows.genesis
  callIndex call := call.callIndex
  validate call := inOrder [
    assertCurrentProviderLedgerCompatibility,
    call.validateForLedgerVersion executionLedgerVersion call.location]
  admissible controls previous call := inOrder [
    checkCallAdmissible call controls previous,
    checkCallAmounts call controls]
  conclude := conclude
  headerRow := rows.headerRow
  callRow := rows.callRow
  terminalRow := rows.terminalRow

end Format

end OperateBench.ExecutionLedger
