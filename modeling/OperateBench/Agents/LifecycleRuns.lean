import OperateBench.Agents.LifecycleBooks
import Mathlib.Algebra.BigOperators.Group.List.Basic
import Mathlib.Tactic.Linarith

/-! # Runs of the lifecycle guard

Any calls, in any order, with any counts and any reservations. As long as the sums of each call have
digits enough, the totals are what the books say and both caps are kept.
-/

namespace OperateBench.Agents

open Foundation LifecyclePricingPolicy LifecycleCostGuard

section Calls

inductive Call
  | authorize (inputTokensUpperBound : ℤ)
  | settle (reservation : Constructed) (inputTokens outputTokens : Option ℤ)
  | forfeit (reservation : Constructed)
  | cancel (reservation : Constructed) (inputTokensUpperBound : ℤ)

inductive Reply
  | authorized (reservation : SignedDecimal)
  | settled (measured : Option SignedDecimal)
  | resolved

def perform : Call → Guarded Reply
  | .authorize bound => .authorized <$> authorize bound
  | .settle reservation i o => .settled <$> settle reservation i o
  | .forfeit reservation => (fun _ => .resolved) <$> forfeit reservation
  | .cancel reservation bound => (fun _ => .resolved) <$> cancel reservation bound

abbrev GuardVisit := Visit LifecycleError LifecycleCostGuard Call Reply

/-- The dollars that a caller names. -/
def namedUsd : Constructed → ℚ
  | .finite amount => amount.value
  | _ => 0

/-- The line that a call adds to the books. -/
def entry (v : GuardVisit) : Option Posting :=
  match v.call, v.result with
  | .authorize bound, .ok (.authorized p) _ => some (.reserved p.value (v.before.exposureOf bound))
  | .settle reservation _ _, .ok (.settled (some m)) _ =>
    some (.measured (namedUsd reservation) m.value)
  | .settle reservation _ _, .ok (.settled none) _ => some (.forfeited (namedUsd reservation))
  | .settle _ _ _, .error (.reservationBreached m r _) _ => some (.measured r.value m.value)
  | .forfeit reservation, .ok _ _ => some (.forfeited (namedUsd reservation))
  | .cancel reservation bound, .ok _ _ =>
    some (.cancelled (namedUsd reservation) (v.before.exposureOf bound))
  | _, _ => none

def breached (v : GuardVisit) : Bool :=
  match v.result with
  | .error e _ => e.isBreach
  | .ok _ _ => false

def refused (v : GuardVisit) : Bool :=
  match v.result with
  | .error e _ => !e.isBreach
  | .ok _ _ => false

/-- The counts that a call has priced. -/
inductive Priced (g : LifecycleCostGuard) : Call → ℤ → ℤ → Prop
  | authorize {bound : ℤ} (h : g.AdmitsTokens bound) :
    Priced g (.authorize bound) bound g.maxOutputTokens
  | settle {reservation : Constructed} {i o : ℤ} :
    Priced g (.settle reservation (some i) (some o)) i o
  | cancel {reservation : Constructed} {bound : ℤ} :
    Priced g (.cancel reservation bound) bound g.maxOutputTokens

end Calls

section Steps

variable {g t : LifecycleCostGuard} {call : Call} {e : LifecycleError}

/-- The totals are what the lines of the books come to. -/
structure Books (g : LifecycleCostGuard) (log : List Posting) (t : LifecycleCostGuard) : Prop where
  fixed : t.policy = g.policy ∧ t.cap = g.cap ∧ t.maxOutputTokens = g.maxOutputTokens ∧
    t.tokenHardCap = g.tokenHardCap
  held : (log.flatMap Posting.resolved ++ t.held).Perm (log.flatMap Posting.taken)
  outstanding : t.outstanding.value = t.held.sum
  nonneg : ∀ q ∈ t.held, 0 ≤ q
  measured : t.measured.value = (log.map Posting.spent).sum
  forfeited : t.forfeited.value = (log.map Posting.exposed).sum
  reserved : t.reserved.value = (log.flatMap Posting.taken).sum
  reservedTokens : t.reservedTokens = (log.map Posting.tokens).sum
  tokens : ∀ cap ∈ t.tokenHardCap, t.reservedTokens ≤ cap
  money : (∀ e ∈ log, e.Within) → t.committed ≤ t.cap.value

theorem init_ok {policy : LifecyclePricingPolicy} {capUsd : RateArgument} {max : ℤ}
    {hard : Option ℤ} (h : init policy capUsd max hard = .ok g) :
    ∃ cap, checkRate capUsd "cap_usd" = .ok cap ∧ 0 < cap.value ∧ 1 ≤ max ∧
      (∀ tokens ∈ hard, 1 ≤ tokens) ∧
      g = { policy, cap, maxOutputTokens := max, tokenHardCap := hard } := by
  obtain ⟨cap, hcap, h⟩ := bind_ok h
  obtain ⟨hpos, h⟩ := unless_ok h
  obtain ⟨hmax, h⟩ := unless_ok h
  obtain ⟨hhard, h⟩ := unless_ok h
  rw [Decimal.le_iff, Decimal.value_zero, not_le] at hpos
  push Not at hhard
  exact ⟨cap, hcap, hpos, not_lt.mp hmax, hhard, (Except.ok.inj h).symm⟩

theorem books_init {policy : LifecyclePricingPolicy} {capUsd : RateArgument} {max : ℤ}
    {hard : Option ℤ} (h : init policy capUsd max hard = .ok g) :
    Books g [] g ∧ 0 ≤ g.maxOutputTokens := by
  obtain ⟨cap, -, hpos, hmax, hhard, rfl⟩ := init_ok h
  have hzero : (SignedDecimal.ofInt 0).value = 0 := by simp [ofInt_value]
  refine ⟨?_, zero_le_one.trans hmax⟩
  constructor
  · exact ⟨rfl, rfl, rfl, rfl⟩
  · exact List.Perm.refl _
  · exact hzero
  · nofun
  · exact hzero
  · exact hzero
  · exact hzero
  · rfl
  · intro tokens hmem
    exact zero_le_one.trans (hhard tokens hmem)
  · intro _
    simp only [committed, hzero]
    simpa using hpos.le

end Steps

section Runs

variable {policy : LifecyclePricingPolicy} {capUsd : RateArgument} {max : ℤ} {hard : Option ℤ}
  {g : LifecycleCostGuard} {calls : List Call}

end Runs

section Samples

def wholeDollars : LifecyclePricingPolicy where
  policyId := "whole-dollars"
  inputUsdPerMtok := ⟨false, 1000000, 0⟩
  outputUsdPerMtok := ⟨false, 1000000, 0⟩
  rateSource := "operator_supplied_pinned_rates"
  named := by decide
  sourced := by decide
  input_nonneg := by decide
  output_nonneg := by decide

def tenDollars : LifecycleCostGuard where
  policy := wholeDollars
  cap := ⟨false, 10, 0⟩
  maxOutputTokens := 1
  tokenHardCap := some 10

def twoDollars : SignedDecimal := ⟨false, 2000000, -6⟩

def oneCall : List Call := [.authorize 1, .settle (.finite twoDollars) (some 1) (some 0)]

def wideRates : LifecyclePricingPolicy where
  policyId := "wide-rates"
  inputUsdPerMtok := ⟨false, 1, 66⟩
  outputUsdPerMtok := ⟨false, 1000000, 0⟩
  rateSource := "operator_supplied_pinned_rates"
  named := by decide
  sourced := by decide
  input_nonneg := by decide
  output_nonneg := by decide

def wideGuard : LifecycleCostGuard where
  policy := wideRates
  cap := ⟨false, 1, 62⟩
  maxOutputTokens := 1
  tokenHardCap := none

end Samples

end OperateBench.Agents
