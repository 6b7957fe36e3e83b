import OperateBench.ExecutionLedger.Accepted
import OperateBench.ExecutionLedger.Totals

/-! # Scored runs

The sequence of a call's attempts lets a retryable fault pass, the terminal of a scored run does
not: a run whose calls were all answered is scored precisely when none of them had to be repeated.
-/

namespace OperateBench.ExecutionLedger

open Foundation Providers.SignedAmount

section Attempts

variable {attempt : LedgerAttempt} {call : LedgerCall}

/-- The last attempt is a response, and a decision was taken from it. -/
def LedgerCall.Answered (call : LedgerCall) : Prop :=
  (∃ last, call.attempts.getLast? = some last ∧ last.outcome = attemptOutcomeResponse) ∧
    call.decision.isSome

/-- An attempt before the last one met a fault. -/
def LedgerCall.Recovered (call : LedgerCall) : Prop :=
  ∃ attempt ∈ call.attempts.dropLast, attempt.fault.isSome

/-- An attempt names a fault exactly when that is how it ended. -/
theorem LedgerAttempt.fault_iff : attempt.fault.isSome ↔ attempt.outcome = attemptOutcomeFault := by
  have hvalid := inOrder_ok.mp attempt.valid
  simp only [List.forall_mem_cons] at hvalid
  obtain ⟨-, -, -, -, -, -, -, -, -, -, -, -, -, -, -, hfault, -⟩ := hvalid
  rw [refuseIf_ok, not_not] at hfault
  exact Iff.of_eq hfault

/-- What the version demands of a call, apart from its exit. -/
theorem validate_ok {context : String}
    (h : call.validateForLedgerVersion executionLedgerVersion context = .ok ()) :
    (∀ attempt ∈ call.attempts, attempt.outcome ∈ attemptOutcomes) ∧
      ∀ attempt ∈ call.attempts.dropLast, attempt.outcome ≠ attemptOutcomeResponse ∧
        attempt.outcome ≠ attemptOutcomeUnclassified := by
  have hchecks := inOrder_ok.mp h
  simp only [List.forall_mem_cons] at hchecks
  obtain ⟨hattempts, -, hsequence, -⟩ := hchecks
  constructor
  · intro attempt hmem
    obtain ⟨i, hi, rfl⟩ := List.mem_iff_getElem.mp hmem
    have hattempt := inOrder_ok.mp hattempts _ (List.mem_mapIdx.mpr ⟨i, hi, rfl⟩)
    have houtcome := inOrder_ok.mp hattempt _ List.mem_cons_self
    rw [member, refuseIf_ok, not_not] at houtcome
    exact houtcome
  · intro attempt hmem
    have hfollowed := inOrder_ok.mp (inOrder_ok.mp hsequence _ (List.mem_map_of_mem hmem))
    simp only [List.forall_mem_cons, refuseIf_ok] at hfollowed
    exact ⟨hfollowed.1, hfollowed.2.1⟩

/-- An attempt that another one follows met a fault. -/
theorem fault_of_followed {context : String}
    (h : call.validateForLedgerVersion executionLedgerVersion context = .ok ())
    (hmem : attempt ∈ call.attempts.dropLast) : attempt.fault.isSome := by
  obtain ⟨houtcomes, hsequence⟩ := validate_ok h
  obtain ⟨hresponse, hunclassified⟩ := hsequence attempt hmem
  have houtcome := houtcomes attempt (List.dropLast_subset _ hmem)
  rw [LedgerAttempt.fault_iff]
  simp only [attemptOutcomes, List.mem_cons, List.not_mem_nil, or_false] at houtcome
  rcases houtcome with h | h | h
  · exact h
  · exact absurd h hresponse
  · exact absurd h hunclassified

/-- A call recovered from a fault precisely when it was repeated. -/
theorem recovered_iff {context : String}
    (h : call.validateForLedgerVersion executionLedgerVersion context = .ok ()) :
    call.Recovered ↔ 1 < call.attempts.length := by
  constructor
  · rintro ⟨attempt, hmem, -⟩
    have hpos := List.length_pos_of_mem hmem
    rw [List.length_dropLast] at hpos
    omega
  · intro hlength
    have hpos : 0 < call.attempts.dropLast.length := by
      rw [List.length_dropLast]
      omega
    exact ⟨_, List.getElem_mem hpos, fault_of_followed h (List.getElem_mem hpos)⟩

end Attempts

section Calls

variable {call : LedgerCall} {calls : List LedgerCall}

theorem mem_attempts {call : LedgerCall} {last attempt : LedgerAttempt}
    (h : call.attempts.getLast? = some last) :
    attempt ∈ call.attempts ↔ attempt ∈ call.attempts.dropLast ∨ attempt = last := by
  have hsplit := List.dropLast_append_getLast? last h
  conv_lhs => rw [← hsplit]
  rw [List.mem_append, List.mem_singleton]

/-- A scored run states an answered call precisely when the call was not repeated. -/
theorem checkScored_iff {context : String} (hanswered : call.Answered)
    (h : call.validateForLedgerVersion executionLedgerVersion context = .ok ()) :
    checkScored call = .ok () ↔ ¬call.Recovered := by
  obtain ⟨⟨last, hlast, hresponse⟩, hdecision⟩ := hanswered
  have hlastFault : ¬last.fault.isSome := by
    rw [LedgerAttempt.fault_iff, hresponse]
    decide
  rw [checkScored, inOrder_ok]
  simp only [List.forall_mem_cons, refuseIf_ok, List.not_mem_nil, false_imp_iff, implies_true,
    and_true]
  constructor
  · rintro ⟨hfault, -⟩ ⟨attempt, hmem, hsome⟩
    exact hfault ⟨attempt, List.dropLast_subset _ hmem, hsome⟩
  · intro hnot
    refine ⟨?_, ?_, ?_⟩
    · rintro ⟨attempt, hmem, hsome⟩
      rcases (mem_attempts hlast).mp hmem with hmem | rfl
      · exact hnot ⟨attempt, hmem, hsome⟩
      · exact hlastFault hsome
    · rintro ⟨attempt, hmem, hunclassified⟩
      rcases (mem_attempts hlast).mp hmem with hmem | rfl
      · exact ((validate_ok h).2 attempt hmem).2 hunclassified
      · rw [hresponse] at hunclassified
        exact absurd hunclassified (by decide)
    · cases hd : call.decision with
      | none => simp [hd] at hdecision
      | some decision => simp

theorem checkScored_decision (h : checkScored call = .ok ()) : call.decision ≠ none := by
  have hdecision := inOrder_ok.mp h
  simp only [List.forall_mem_cons, refuseIf_ok] at hdecision
  simpa using hdecision.2.2.1

/-- A scored terminal passes precisely where each call passes. -/
theorem checkTerminalAdmissible_scored : checkTerminalAdmissible .scored none calls = .ok () ↔
    ∀ call ∈ calls, checkScored call = .ok () := by
  rw [checkTerminalAdmissible, inOrder_ok, List.forall_mem_map]

end Calls

section Totals

variable {amounts : List (List Char)} {calls : List LedgerCall} {attempt : LedgerAttempt}

theorem checkAmount_ok {value : List Char} {context : String}
    (h : checkAmount value context = .ok ()) :
    ∃ parsed, SignedDecimal.ofText value = some (.finite parsed) ∧ 0 ≤ parsed.value := by
  rw [checkAmount, amount, checkCanonical] at h
  cases hread : readNonNegative value with
  | error e => simp [hread, bind, Except.bind, Except.mapError, Except.map] at h
  | ok parsed =>
    rw [readNonNegative] at hread
    split at hread
    · cases hread
    · rename_i hfinite
      obtain ⟨hnot, hsame⟩ := unless_ok hread
      obtain rfl := Except.ok.inj hsame
      refine ⟨_, hfinite, ?_⟩
      rwa [Decimal.lt_iff, Decimal.value_zero, not_lt] at hnot
    · cases hread

theorem checkAmount_usdText {x : SignedDecimal} (h : 0 ≤ x.value) (context : String) :
    checkAmount (usdText x) context = .ok () := by
  rw [checkAmount, amount, checkCanonical_usdText h]
  rfl

def Amounts (amounts : List (List Char)) : Prop :=
  ∀ value ∈ amounts, ∃ context, checkAmount value context = .ok ()

theorem sumFrom_cases {total : SignedDecimal} (hamounts : Amounts amounts)
    (htotal : 0 ≤ total.value) :
    (∃ sum, sumFrom total amounts = .ok sum ∧ 0 ≤ sum.value) ∨
      ∃ signal, sumFrom total amounts = .error (.decimal signal) := by
  induction amounts generalizing total with
  | nil => exact .inl ⟨total, rfl, htotal⟩
  | cons value amounts ih =>
    obtain ⟨context, hvalue⟩ := hamounts value List.mem_cons_self
    obtain ⟨parsed, hparsed, hnonneg⟩ := checkAmount_ok hvalue
    rw [sumFrom, hparsed]
    dsimp only
    cases hadd : ledgerContext.addSigned total parsed with
    | error signal => exact .inr ⟨signal, rfl⟩
    | ok next =>
      exact ih (fun value hmem => hamounts value (List.mem_cons_of_mem _ hmem))
        (DecimalContext.addSigned_nonneg hadd htotal hnonneg)

/-- The sum of accepted amounts is accepted, unless it overflows. -/
theorem sumAmounts_cases (h : Amounts amounts) :
    (∃ total, sumAmounts amounts = .ok total ∧ ∀ context, checkAmount total context = .ok ()) ∨
      ∃ signal, sumAmounts amounts = .error (.decimal signal) := by
  have hzero : 0 ≤ (SignedDecimal.ofInt 0).value := by
    simp [SignedDecimal.value, SignedDecimal.toDecimal, SignedDecimal.ofInt, Decimal.value]
  rw [sumAmounts]
  rcases sumFrom_cases h hzero with ⟨sum, hsum, hnonneg⟩ | ⟨signal, hsum⟩
  · rw [hsum]
    exact .inl ⟨_, rfl, checkAmount_usdText hnonneg⟩
  · rw [hsum]
    exact .inr ⟨signal, rfl⟩

theorem optionally_ok {α : Type} {check : α → String → Check} {value : Option α} {context : String}
    {a : α} (h : optionally check value context = .ok ()) (ha : value = some a) :
    check a context = .ok () := by
  rw [ha] at h
  exact h

/-- The recorded counts, amounts and faults of an attempt were checked. -/
theorem LedgerAttempt.checked (attempt : LedgerAttempt) :
    (∀ fault, attempt.fault = some fault → isToken fault = true) ∧
    (∀ value, attempt.costReservationUsd = some value ∨ attempt.costMeasuredUsd = some value ∨
      attempt.costForfeitedUsd = some value → ∃ context, checkAmount value context = .ok ()) ∧
    (∀ n, attempt.inputTokens = some n ∨ attempt.outputTokens = some n → 0 ≤ n) := by
  have hvalid := inOrder_ok.mp attempt.valid
  simp only [List.forall_mem_cons] at hvalid
  obtain ⟨-, -, hfault, -, -, hreservation, -, hmeasured, hforfeited, hinput, houtput, -⟩ := hvalid
  refine ⟨?_, ?_, ?_⟩
  · intro fault h
    have htoken := optionally_ok hfault h
    rw [token, refuseIf_ok] at htoken
    simpa using htoken
  · rintro value (h | h | h)
    · exact ⟨_, optionally_ok hreservation h⟩
    · exact ⟨_, optionally_ok hmeasured h⟩
    · exact ⟨_, optionally_ok hforfeited h⟩
  · rintro n (h | h)
    · have hcount := optionally_ok hinput h
      rw [count, refuseIf_ok] at hcount
      exact not_lt.mp hcount
    · have hcount := optionally_ok houtput h
      rw [count, refuseIf_ok] at hcount
      exact not_lt.mp hcount

/-- The faults are named and were met. -/
def Counted (faults : Dict String ℤ) : Prop :=
  ∀ fault met, faults.get? fault = some met → isToken fault = true ∧ 1 ≤ met

theorem Counted.countFault {faults : Dict String ℤ} (h : Counted faults) :
    Counted (countFault faults attempt) := by
  rw [ExecutionLedger.countFault]
  split
  · exact h
  · rename_i fault hfault
    apply Dict.forall_set h
    refine ⟨attempt.checked.1 fault hfault, ?_⟩
    cases hget : faults.get? fault with
    | none => simp
    | some met =>
      have := (h fault met hget).2
      simp only [Option.getD_some]
      omega

theorem mem_faultCounts {attempts : List LedgerAttempt} {fault : String} {met : ℤ}
    (h : (fault, met) ∈ faultCounts attempts) : isToken fault = true ∧ 1 ≤ met := by
  rw [faultCounts, List.mem_insertionSort] at h
  have hcounted : Counted (attempts.foldl countFault .empty) := by
    apply List.foldlRecOn attempts countFault
    · nofun
    · exact fun _ hfaults _ _ => hfaults.countFault
  exact hcounted fault met (Dict.get?_eq_some_iff.mpr h)

theorem sum_nonneg_of {attempts : List LedgerAttempt} {tokens : LedgerAttempt → Option ℤ}
    (h : ∀ attempt n, tokens attempt = some n → 0 ≤ n) :
    0 ≤ (attempts.map fun a => (tokens a).getD 0).sum := by
  apply List.sum_nonneg
  intro n hn
  obtain ⟨attempt, -, rfl⟩ := List.mem_map.mp hn
  cases htokens : tokens attempt with
  | none => simp
  | some n => exact h attempt n htokens

theorem amounts_of {attempts : List LedgerAttempt} {cost : LedgerAttempt → Option (List Char)}
    (h : ∀ attempt value, cost attempt = some value →
      ∃ context, checkAmount value context = .ok ()) : Amounts (attempts.filterMap cost) := by
  intro value hmem
  obtain ⟨attempt, -, hcost⟩ := List.mem_filterMap.mp hmem
  exact h attempt value hcost

theorem construct_totals {fields : TotalsFields} (h : fields.check = .ok ()) :
    ∃ totals, LedgerTotals.construct fields = .ok totals := by
  refine ⟨⟨fields, h⟩, ?_⟩
  rw [LedgerTotals.construct]
  split
  · simp_all
  · rfl

/-- The rows of a run have totals, unless a sum of theirs overflows. -/
theorem recomputeTotals_cases (calls : List LedgerCall) :
    (∃ totals, recomputeTotals calls = .ok totals) ∨
      ∃ signal, recomputeTotals calls = .error (.decimal signal) := by
  have hamounts {cost : LedgerAttempt → Option (List Char)}
      (h : ∀ attempt value, cost attempt = some value →
        ∃ context, checkAmount value context = .ok ()) :=
    sumAmounts_cases (amounts_of h : Amounts ((allAttempts calls).filterMap cost))
  rw [recomputeTotals]
  rcases hamounts fun attempt value h => attempt.checked.2.1 value (.inr (.inl h)) with
    ⟨measured, hmeasured, hmeasuredOk⟩ | ⟨signal, h⟩
  · rcases hamounts fun attempt value h => attempt.checked.2.1 value (.inr (.inr h)) with
      ⟨forfeited, hforfeited, hforfeitedOk⟩ | ⟨signal, h⟩
    · rcases hamounts fun attempt value h => attempt.checked.2.1 value (.inl h) with
        ⟨reserved, hreserved, hreservedOk⟩ | ⟨signal, h⟩
      · left
        simp only [hmeasured, hforfeited, hreserved, ok_bind]
        apply construct_totals
        have hinput : ∀ (attempt : LedgerAttempt) n, attempt.inputTokens = some n → 0 ≤ n :=
          fun attempt n h => attempt.checked.2.2 n (.inl h)
        have houtput : ∀ (attempt : LedgerAttempt) n, attempt.outputTokens = some n → 0 ≤ n :=
          fun attempt n h => attempt.checked.2.2 n (.inr h)
        simp only [TotalsFields.check, inOrder_ok, List.forall_mem_cons, count, refuseIf_ok, not_lt,
          hmeasuredOk, hforfeitedOk, hreservedOk, List.forall_mem_map, token]
        refine ⟨Int.natCast_nonneg _, Int.natCast_nonneg _, sum_nonneg_of hinput,
          sum_nonneg_of houtput, trivial, trivial, trivial, ?_, by simp⟩
        rintro ⟨fault, met⟩ hmem
        obtain ⟨htoken, hmet⟩ := mem_faultCounts hmem
        simp [htoken, hmet]
      · exact .inr ⟨signal, by simp only [hmeasured, hforfeited, h, ok_bind]; rfl⟩
    · exact .inr ⟨signal, by simp only [hmeasured, h, ok_bind]; rfl⟩
  · exact .inr ⟨signal, by rw [h]; rfl⟩

end Totals

section Conclusions

variable {calls : List LedgerCall} {totals : LedgerTotals} {endedAt : String}

theorem construct_scored (hinstant : instant endedAt "terminal.ended_at" = .ok ()) :
    ∃ terminal, LedgerTerminal.construct { kind := .scored, endedAt, totals } = .ok terminal ∧
      terminal.kind = .scored ∧ terminal.totals = totals := by
  have hcheck : TerminalFields.check { kind := .scored, endedAt, totals } = .ok () := by
    simp [TerminalFields.check, inOrder_ok, hinstant, optionally, TerminalKind.detail]
  refine ⟨⟨_, hcheck⟩, ?_, rfl, rfl⟩
  rw [LedgerTerminal.construct]
  simp only [TerminalKind.detail, if_true]
  split
  · simp_all
  · rfl

/-- A scored ending passes precisely when each call passes. -/
theorem conclude_scored_iff (hinstant : instant endedAt "terminal.ended_at" = .ok ())
    (htotals : recomputeTotals calls = .ok totals) :
    (∃ terminal, conclude calls ⟨.scored, endedAt, none⟩ = .ok terminal ∧
      terminal.kind = .scored ∧ terminal.totals = totals) ↔
      ∀ call ∈ calls, checkScored call = .ok () := by
  rw [← checkTerminalAdmissible_scored]
  constructor
  · rintro ⟨terminal, hconclude, -⟩
    obtain ⟨_, hadmissible, _⟩ := bind_ok hconclude
    exact hadmissible
  · intro hadmissible
    obtain ⟨terminal, hterminal, hkind, hsame⟩ := construct_scored hinstant
    refine ⟨terminal, ?_, hkind, hsame⟩
    rw [conclude]
    simp only [hadmissible, htotals, ok_bind]
    exact hterminal

theorem conclude_undecided {call : LedgerCall} (hmem : call ∈ calls) (hnone : call.decision = none) :
    ∃ e, conclude calls ⟨.scored, endedAt, none⟩ = .error e := by
  cases hconclude : conclude calls ⟨.scored, endedAt, none⟩ with
  | error e => exact ⟨e, rfl⟩
  | ok terminal =>
    obtain ⟨_, hadmissible, _⟩ := bind_ok hconclude
    have hscored := checkTerminalAdmissible_scored.mp hadmissible call hmem
    exact absurd hnone (checkScored_decision hscored)

variable {rows : RowWriter} {controls : LedgerControls} {s₀ s : Recording (ledgerFormat rows)}

theorem validated_of_run (hcreated : Created controls s₀) (hrun : Reaches Recording.Step s₀ s)
    {call : LedgerCall} (hmem : call ∈ s.journal.calls) :
    call.validateForLedgerVersion executionLedgerVersion call.location = .ok () := by
  have hvalid := (accepted_of_run hcreated hrun).2.valid hmem
  have hchecks := inOrder_ok.mp hvalid
  simp only [List.forall_mem_cons] at hchecks
  exact hchecks.2.1

/-- A run whose calls were all answered is scored precisely when no call recovered from a fault;
one with an undecided call never is. -/
theorem answered_run_scored_iff (hcreated : Created controls s₀)
    (hrun : Reaches Recording.Step s₀ s) (hopen : s.journal.terminal = none)
    (hinstant : instant endedAt "terminal.ended_at" = .ok ()) :
    ((∀ call ∈ s.journal.calls, call.Answered) →
      ∀ totals, recomputeTotals s.journal.calls = .ok totals →
        ((∃ terminal : LedgerTerminal, s.journal.Agrees ⟨.scored, endedAt, none⟩ terminal ∧
          terminal.kind = .scored ∧ terminal.totals = totals) ↔
          ∀ call ∈ s.journal.calls, ¬call.Recovered)) ∧
    ((∃ call ∈ s.journal.calls, call.decision = none) →
      s.journal.Refuses ⟨.scored, endedAt, none⟩) := by
  constructor
  · intro hanswered totals htotals
    have hscored : (∀ call ∈ s.journal.calls, checkScored call = .ok ()) ↔
        ∀ call ∈ s.journal.calls, ¬call.Recovered :=
      forall₂_congr fun call hmem =>
        checkScored_iff (hanswered call hmem) (validated_of_run hcreated hrun hmem)
    rw [← hscored, ← conclude_scored_iff hinstant htotals]
    constructor
    · rintro ⟨terminal, ⟨-, hconclude⟩, hkind, hsame⟩
      exact ⟨terminal, hconclude, hkind, hsame⟩
    · rintro ⟨terminal, hconclude, hkind, hsame⟩
      exact ⟨terminal, ⟨hopen, hconclude⟩, hkind, hsame⟩
  · rintro ⟨call, hmem, hnone⟩
    obtain ⟨e, he⟩ := conclude_undecided hmem hnone
    exact Journal.refuses_of_error he

end Conclusions

section Runs

/-- Rows that hold their index only. -/
def plainRows : RowWriter where
  Digest := ℕ
  genesis := 0
  headerRow := fun index tip _ => .ok (tip + 1, [index.toUInt8])
  callRow := fun index tip _ => .ok (tip + 1, [index.toUInt8])
  terminalRow := fun index tip _ => .ok (tip + 1, [index.toUInt8])

def sampleDigest :=
  "aaaaaaaaaaaaaaaaaaaaaaaaaaaaaaaaaaaaaaaaaaaaaaaaaaaaaaaaaaaaaaaa"

def sampleControls : LedgerControls where
  maxProviderCalls := 4
  maxAttemptsPerCall := 2
  expectedProviderCalls := 1
  tokenHardCap := 1000
  maxOutputTokens := 10
  costCapUsd := ['1']
  costCapPolicy := "refuse_before_dispatch"
  turnDeadlineSeconds := 60
  wallClockDeadlineSeconds := 600
  pricing := .ofList [("input_usd_per_mtok", ['1']), ("output_usd_per_mtok", ['2'])]
  valid := by decide +kernel
  canonical := by decide +kernel

def sampleDecision : LedgerDecision where
  kind := "tool_call"
  decisionDigestSha256 := sampleDigest
  valid := by decide +kernel

/-- An error of the server, after which another attempt may follow. -/
def failedAttempt : LedgerAttempt where
  attemptIndex := 1
  outcome := "fault"
  fault := some "provider_server_error"
  valid := by decide +kernel

def firstAnswer : LedgerAttempt where
  attemptIndex := 1
  outcome := "response"
  responseReceived := true
  responseNormalizedDigestSha256 := some sampleDigest
  valid := by decide +kernel

def secondAnswer : LedgerAttempt where
  attemptIndex := 2
  outcome := "response"
  responseReceived := true
  responseNormalizedDigestSha256 := some sampleDigest
  valid := by decide +kernel

def sampleCall (attempts : List LedgerAttempt) : CallFields where
  callIndex := 0
  invocationIndex := 0
  turnIndex := 0
  requestDigestSha256 := sampleDigest
  promptDigestSha256 := sampleDigest
  observationDigestSha256 := sampleDigest
  payloadDigestSha256 := sampleDigest
  inputTokenUpperBound := 100
  startedAt := "2031-03-03T09:00:00Z"
  endedAt := "2031-03-03T09:00:05Z"
  attempts
  decision := some sampleDecision

/-- Answered at once. -/
def promptCall : LedgerCall := ⟨sampleCall [firstAnswer], by decide +kernel⟩

/-- Answered at the second attempt. -/
def recoveredCall : LedgerCall := ⟨sampleCall [failedAttempt, secondAnswer], by decide +kernel⟩

def oneByte : Weather := ⟨true, [.accepted 1], true, true, true, true⟩

def opened : Recording (ledgerFormat plainRows) :=
  ⟨{ file := ⟨[0], 1⟩, header := sampleControls, rowIndex := 1, previous := (1 : ℕ) },
    [.header sampleControls]⟩

def holding (call : LedgerCall) : Recording (ledgerFormat plainRows) :=
  ⟨{ file := ⟨[0, 1], 2⟩, header := sampleControls, calls := [call], rowIndex := 2,
     previous := (2 : ℕ) }, [.header sampleControls, .call call]⟩

theorem opened_created : Created (F := ledgerFormat plainRows) sampleControls opened :=
  ⟨oneByte, .ok (), rfl, rfl⟩

theorem holding_reached {call : LedgerCall}
    (h : opened.journal.recordCall call oneByte = some (.ok (), (holding call).journal)) :
    Reaches Recording.Step opened (holding call) := by
  apply (Run.refl opened).tail (a := (.recordCall call, oneByte)) trivial
  refine ⟨by simp [opened], .ok [.call call], ?_, rfl⟩
  rw [Journal.perform, h]
  rfl

def promptTotals : LedgerTotals where
  providerCalls := 1
  attempts := 1
  inputTokens := 0
  outputTokens := 0
  measuredCostUsd := ['0']
  forfeitedReservationUsd := ['0']
  reservedUsd := ['0']
  faultCounts := []
  valid := by decide +kernel

def recoveredTotals : LedgerTotals where
  providerCalls := 1
  attempts := 2
  inputTokens := 0
  outputTokens := 0
  measuredCostUsd := ['0']
  forfeitedReservationUsd := ['0']
  reservedUsd := ['0']
  faultCounts := [("provider_server_error", 1)]
  valid := by decide +kernel

def sampleEnd := "2031-03-03T09:00:06Z"

theorem prompt_run_scored :
    ∃ terminal : LedgerTerminal,
      (holding promptCall).journal.Agrees ⟨.scored, sampleEnd, none⟩ terminal ∧
        terminal.kind = .scored ∧ terminal.totals = promptTotals := by
  have hreached : Reaches Recording.Step opened (holding promptCall) := holding_reached rfl
  have hinstant : instant sampleEnd "terminal.ended_at" = .ok () := rfl
  have hiff := (answered_run_scored_iff opened_created hreached rfl hinstant).1 ?_ promptTotals rfl
  · apply hiff.mpr
    intro call hmem
    obtain rfl := List.mem_singleton.mp hmem
    rintro ⟨attempt, hattempt, -⟩
    cases hattempt
  · intro call hmem
    obtain rfl := List.mem_singleton.mp hmem
    exact ⟨⟨firstAnswer, rfl, rfl⟩, rfl⟩

/-- The totals are within the caps of the controls. -/
def Inside (controls : LedgerControls) (totals : LedgerTotals) : Prop :=
  totals.inputTokens + totals.outputTokens ≤ controls.tokenHardCap ∧
    ∃ measured forfeited cap,
      SignedDecimal.ofText totals.measuredCostUsd = some (.finite measured) ∧
      SignedDecimal.ofText totals.forfeitedReservationUsd = some (.finite forfeited) ∧
      SignedDecimal.ofText controls.costCapUsd = some (.finite cap) ∧
      measured.value + forfeited.value ≤ cap.value

/-- The call was answered at its second attempt, and the run cannot be scored. -/
theorem recovered_run_unscored :
    ¬∀ (rows : RowWriter) (controls : LedgerControls) (s₀ s : Recording (ledgerFormat rows))
      (endedAt : String) (totals : LedgerTotals), Created controls s₀ →
      Reaches Recording.Step s₀ s → s.journal.terminal = none →
      instant endedAt "terminal.ended_at" = .ok () →
      (∀ call ∈ s.journal.calls, call.Answered) →
      recomputeTotals s.journal.calls = .ok totals → Inside controls totals →
      ∃ terminal : LedgerTerminal, s.journal.Agrees ⟨.scored, endedAt, none⟩ terminal := by
  intro h
  have hanswered : ∀ call ∈ (holding recoveredCall).journal.calls, call.Answered := by
    intro call hmem
    obtain rfl := List.mem_singleton.mp hmem
    exact ⟨⟨secondAnswer, rfl, rfl⟩, rfl⟩
  have hinside : Inside sampleControls recoveredTotals := by
    refine ⟨by decide, ⟨false, 0, 0⟩, ⟨false, 0, 0⟩, ⟨false, 1, 0⟩, rfl, rfl, rfl, ?_⟩
    norm_num [SignedDecimal.value, SignedDecimal.toDecimal, Decimal.value]
  obtain ⟨terminal, -, hconclude⟩ := h plainRows sampleControls opened (holding recoveredCall)
    sampleEnd recoveredTotals opened_created (holding_reached rfl) rfl rfl hanswered rfl hinside
  have hrefused : conclude [recoveredCall] ⟨.scored, sampleEnd, none⟩ =
      .error (.chain "call 0" (.scoredFault none)) := rfl
  cases hrefused.symm.trans hconclude

end Runs

end OperateBench.ExecutionLedger
