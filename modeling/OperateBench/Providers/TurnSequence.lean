import OperateBench.Providers.Executor

/-! # Sequences of attempts

What a reader requires of the attempts of a turn and of the reason it ended for: only the last
attempt may end the turn, the policy bounds their number, and the reason is one that they permit.
-/

namespace OperateBench.Providers

open Foundation Boundary

namespace TurnEnd

def text : TurnEnd → String
  | response => "response"
  | faultNotRetryable => "fault_not_retryable"
  | retriesExhausted => "retries_exhausted"
  | unclassified => "unclassified_error"
  | deadlineExceeded => "deadline_exceeded"
  | backoffUnaffordable => "backoff_unaffordable"
  | costCapExhausted => "cost_cap_exhausted"
  | preDispatchRefused => "pre_dispatch_refused"

theorem text_injective {a b : TurnEnd} (h : a.text = b.text) : a = b := by
  cases a <;> cases b <;> first | rfl | exact absurd h (by decide)

end TurnEnd

/-- The recorded attempt, as far as the order of attempts goes. -/
structure AttemptRow where
  outcome : AttemptOutcome
  fault : Option ProviderFault
deriving DecidableEq, Repr

/-- An attempt that ended in a fault names it, and no other does. -/
def AttemptRow.Named (row : AttemptRow) : Prop := row.fault.isSome = (row.outcome == .fault)

theorem AttemptRow.Named.fault_eq_none {outcome : AttemptOutcome} {fault : Option ProviderFault}
    (h : AttemptRow.Named ⟨outcome, fault⟩) (ho : outcome ≠ .fault) : fault = none := by
  have hnone : fault.isSome = false := h.trans (beq_eq_false_iff_ne.mpr ho)
  simpa using hnone

def turnTerminalReasonsV7 : List String :=
  ["backoff_unaffordable", "cost_cap_exhausted", "deadline_exceeded", "fault_not_retryable",
    "pre_dispatch_refused", "response", "retries_exhausted", "unclassified_error"]

def turnEndEarlyReasonsV7 : List String :=
  ["backoff_unaffordable", "cost_cap_exhausted", "deadline_exceeded", "pre_dispatch_refused"]

def retryableProviderFaultsV7 : List ProviderFault :=
  [.networkError, .rateLimited, .serverError, .timeout]

inductive SequenceError
  | unknownReason (reason : String)
  | followed (position : ℕ)
  | beyondPolicy (attempts : ℕ)
  | notPermitted (reason : Option String)
deriving DecidableEq, Repr

def AttemptRow.faultRetryable (row : AttemptRow) : Bool :=
  row.fault.any (· ∈ retryableProviderFaultsV7)

/-- The attempt ended in a fault that may be retried. -/
def AttemptRow.repeats (row : AttemptRow) : Bool := row.outcome == .fault && row.faultRetryable

def permittedTerminalReasons (attempts : List AttemptRow) (maxAttempts : ℤ) :
    List (Option String) :=
  match attempts.getLast? with
  | none => [none, some "deadline_exceeded", some "cost_cap_exhausted",
      some "pre_dispatch_refused"]
  | some last =>
    if last.outcome = .response then [some "response"]
    else if last.outcome = .unclassified then [some "unclassified_error"]
    else if !last.faultRetryable then [some "fault_not_retryable"]
    else if (attempts.length : ℤ) = maxAttempts then [some "retries_exhausted"]
    else turnEndEarlyReasonsV7.map some

def checkTurnSequence (attempts : List AttemptRow) (reason : Option String) (maxAttempts : ℤ) :
    Except SequenceError (Option String) :=
  match reason.filter fun text => decide (text ∉ turnTerminalReasonsV7),
      attempts.dropLast.findIdx? fun row => !row.repeats with
  | some unknown, _ => .error (.unknownReason unknown)
  | none, some position => .error (.followed (position + 1))
  | none, none =>
    if maxAttempts < attempts.length then .error (.beyondPolicy attempts.length)
    else if reason ∉ permittedTerminalReasons attempts maxAttempts then
      .error (.notPermitted reason)
    else .ok reason

section Reader

variable {attempts : List AttemptRow} {reason : Option String} {maxAttempts : ℤ}

/-- The frozen faults that may be retried are those of the providers. -/
theorem faultRetryable_eq (row : AttemptRow) :
    row.faultRetryable = row.fault.any ProviderFault.retryable := by
  obtain ⟨outcome, fault⟩ := row
  cases fault with
  | none => rfl
  | some fault => cases fault <;> rfl

/-- Every known reason is one that a turn can end for. -/
theorem ending_of_known {text : String} (h : text ∈ turnTerminalReasonsV7) :
    ∃ ending : TurnEnd, ending.text = text := by
  simp only [turnTerminalReasonsV7, List.mem_cons, List.not_mem_nil, or_false] at h
  rcases h with rfl | rfl | rfl | rfl | rfl | rfl | rfl | rfl
  · exact ⟨.backoffUnaffordable, rfl⟩
  · exact ⟨.costCapExhausted, rfl⟩
  · exact ⟨.deadlineExceeded, rfl⟩
  · exact ⟨.faultNotRetryable, rfl⟩
  · exact ⟨.preDispatchRefused, rfl⟩
  · exact ⟨.response, rfl⟩
  · exact ⟨.retriesExhausted, rfl⟩
  · exact ⟨.unclassified, rfl⟩

theorem permitted_known (h : reason ∈ permittedTerminalReasons attempts maxAttempts) :
    reason.filter (fun text => decide (text ∉ turnTerminalReasonsV7)) = none := by
  have hknown : ∀ r ∈ ([none, some "deadline_exceeded", some "cost_cap_exhausted",
      some "pre_dispatch_refused", some "response", some "unclassified_error",
      some "fault_not_retryable", some "retries_exhausted", some "backoff_unaffordable"] :
      List (Option String)),
      r.filter (fun text => decide (text ∉ turnTerminalReasonsV7)) = none := by
    decide
  apply hknown
  unfold permittedTerminalReasons at h
  split at h
  · revert h
    simp only [List.mem_cons]
    tauto
  · split at h
    · simp_all
    · split at h
      · simp_all
      · split at h
        · simp_all
        · split at h
          · simp_all
          · simp only [turnEndEarlyReasonsV7, List.map_cons, List.map_nil, List.mem_cons] at h
            simp only [List.mem_cons]
            tauto

theorem permitted_ending (h : reason ∈ permittedTerminalReasons attempts maxAttempts) :
    ∃ ending : Option TurnEnd, ending.map TurnEnd.text = reason := by
  have hknown := permitted_known h
  cases reason with
  | none => exact ⟨none, rfl⟩
  | some text =>
    have hmem : text ∈ turnTerminalReasonsV7 := by simpa using hknown
    obtain ⟨ending, rfl⟩ := ending_of_known hmem
    exact ⟨some ending, rfl⟩

theorem checkTurnSequence_iff : checkTurnSequence attempts reason maxAttempts = .ok reason ↔
    (∀ row ∈ attempts.dropLast, row.repeats = true) ∧ (attempts.length : ℤ) ≤ maxAttempts ∧
      reason ∈ permittedTerminalReasons attempts maxAttempts := by
  have hearly : (attempts.dropLast.findIdx? fun row => !row.repeats) = none ↔
      ∀ row ∈ attempts.dropLast, row.repeats = true := by
    simp [List.findIdx?_eq_none_iff]
  unfold checkTurnSequence
  rw [← hearly]
  constructor
  · intro h
    split at h
    · cases h
    · cases h
    · rename_i hfollowed
      split at h
      · cases h
      rename_i hmax
      split at h
      · cases h
      rename_i hreason
      exact ⟨hfollowed, not_lt.mp hmax, not_not.mp hreason⟩
  · rintro ⟨hfollowed, hmax, hreason⟩
    rw [permitted_known hreason, hfollowed]
    simp only [if_neg (not_lt.mpr hmax), if_neg (not_not.mpr hreason)]

end Reader

end OperateBench.Providers
