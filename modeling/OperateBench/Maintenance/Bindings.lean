import OperateBench.Maintenance.Batches

/-! # What the retrieval grammar binds

A trajectory on which nothing is reported, read invocation by invocation. The rows that answer a
call name the invocation and state the turn, the served rows are numbered batches, and an
invalidation stands right behind its cause. Outcomes need not name the invocation, nor do further
results of a batch have to state its turn.
-/

namespace OperateBench.Maintenance

open Foundation

namespace Evaluator

section Statement

/-- The rows of one invocation, behind the row that opens it. -/
structure Invocation (trajectory : List Fields) (opened : Fields) (rows : List Fields) : Prop where
  opens : typed "agent_invoked" opened = true
  within : ∀ row ∈ rows, typed "agent_invoked" row = false
  split : ∃ before after, trajectory = before ++ opened :: (rows ++ after) ∧
    ∀ next ∈ after.head?, typed "agent_invoked" next = true

/-- Each cause is followed at once by a row related to it, and such rows stand nowhere else. -/
structure Adjacent (trajectory : List Fields) (causes answers : Fields → Bool)
    (related : Fields → Fields → Bool) : Prop where
  forwards : ∀ position cause, trajectory[position]? = some cause → causes cause = true →
    ∃ answer, trajectory[position + 1]? = some answer ∧ answers answer = true ∧
      related cause answer = true
  backwards : ∀ position answer, trajectory[position]? = some answer → answers answer = true →
    ∃ before cause, position = before + 1 ∧ trajectory[before]? = some cause ∧
      causes cause = true ∧ related cause answer = true

/-- The row says in the field what the other row says there. -/
def repeats (name : String) (cause row : Fields) : Bool := (row.get name).equals (cause.get name)

def invalidates (cause : String) (row : Fields) : Bool :=
  typed "derived_context_invalidated" row && (row.get "cause").isStr cause

end Statement

section Grammar

variable {sha256 : Value → String} {trajectory : List Fields}

/-- The three checkers are silent. -/
theorem grammar_silent (h : retrievalGrammarProblems sha256 trajectory = .ok []) :
    invalidationBindingProblems trajectory = [] ∧
    (∃ t, Checker.Silent TurnState.step 0 (.opening .none) trajectory t) ∧
    ∃ t, Checker.Silent (GrammarState.step sha256) 0 (.opening 0) trajectory t ∧
      closeBatch t.currentBatch = .ok [] := by
  obtain ⟨turns, hturns, h⟩ := bind_ok h
  obtain ⟨⟨t, found⟩, hrun, h⟩ := bind_ok h
  obtain ⟨closing, hclosing, h⟩ := bind_ok h
  simp only [pure, Except.pure, Except.ok.injEq, List.append_eq_nil_iff] at h
  obtain ⟨⟨⟨hbindings, rfl⟩, rfl⟩, rfl⟩ := h
  refine ⟨hbindings, ?_, t, hrun, hclosing⟩
  obtain ⟨⟨u, reports⟩, hrun, rfl⟩ := map_ok hturns
  exact ⟨u, hrun⟩

end Grammar

section Invocations

variable {sha256 : Value → String} {trajectory rows : List Fields} {opened : Fields}

/-- The turns of an invocation are followed from its first call on. -/
theorem Invocation.turns (h : Invocation trajectory opened rows) {s t : TurnState}
    (hsilent : Checker.Silent TurnState.step 0 s trajectory t) :
    ∃ p u, Checker.Silent TurnState.step p (.opening (opened.get "invocation_index")) rows u := by
  obtain ⟨before, after, rfl, -⟩ := h.split
  obtain ⟨v, u, -, hstep, hrest⟩ := hsilent.at
  obtain ⟨w, hrows, -⟩ := Checker.silent_append.mp hrest
  rw [TurnState.step, if_pos h.opens] at hstep
  obtain ⟨rfl, -⟩ := Prod.mk.inj (Except.ok.inj hstep)
  exact ⟨_, w, hrows⟩

/-- The batches of an invocation are followed from its first row to its end. -/
theorem Invocation.batches (h : Invocation trajectory opened rows) {s t : GrammarState}
    (hsilent : Checker.Silent (GrammarState.step sha256) 0 s trajectory t)
    (hclosing : closeBatch t.currentBatch = .ok []) : ∃ p i u,
      Checker.Silent (GrammarState.step sha256) p (.opening i) rows u ∧
        closeBatch u.currentBatch = .ok [] := by
  obtain ⟨before, after, rfl, hafter⟩ := h.split
  obtain ⟨v, u, -, hstep, hinner⟩ := hsilent.at
  obtain ⟨w, hrows, hrest⟩ := Checker.silent_append.mp hinner
  clear hinner hsilent
  rw [GrammarState.step, if_pos h.opens] at hstep
  obtain ⟨closing, -, hstep⟩ := bind_ok hstep
  obtain ⟨rfl, -⟩ := Prod.mk.inj (pure_ok hstep)
  refine ⟨_, _, w, hrows, ?_⟩
  cases after with
  | nil => rwa [Checker.silent_nil.mp hrest]
  | cons next after =>
    obtain ⟨u, hnext, -⟩ := Checker.silent_cons.mp hrest
    rw [GrammarState.step, if_pos (hafter next rfl)] at hnext
    obtain ⟨closing, hclosed, hnext⟩ := bind_ok hnext
    obtain ⟨-, rfl⟩ := Prod.mk.inj (pure_ok hnext)
    exact hclosed

theorem Invocation.batched (h : Invocation trajectory opened rows) {p : ℕ} {i : Int}
    {u : GrammarState} (hsilent : Checker.Silent (GrammarState.step sha256) p (.opening i) rows u) :
    ∃ closed, GrammarState.Batched rows u closed := by
  refine hsilent.invariant (fun rows s => ∃ closed, GrammarState.Batched rows s closed)
    ⟨[], rfl, nofun, nofun, rfl⟩ ?_
  rintro before row p s t hrow ⟨closed, hbatched⟩ hstep
  exact hbatched.step (GrammarState.step_silent (h.within row hrow) hstep)

/-- The served rows of an invocation are batches numbered from zero. -/
theorem Invocation.canonical (h : Invocation trajectory opened rows)
    (hgrammar : retrievalGrammarProblems sha256 trajectory = .ok []) :
    ∃ batches : List (List Fields), batches.flatten = rows.filter (typed "retrieval_served") ∧
      ∀ k batch, batches[k]? = some batch → CanonicalBatch k batch := by
  obtain ⟨-, -, t, hsilent, hclosing⟩ := grammar_silent hgrammar
  obtain ⟨p, i, u, hsilent, hclosing⟩ := h.batches hsilent hclosing
  obtain ⟨closed, hbatched⟩ := h.batched hsilent
  obtain ⟨batches, hall⟩ := hbatched.close (t := { u with currentBatch := [] }) hclosing rfl rfl
  exact ⟨batches, by simpa using hall.served, hall.canonical⟩

/-- Each row of an invocation is met in a state that follows the rows before it. -/
theorem Invocation.followed (h : Invocation trajectory opened rows)
    (hgrammar : retrievalGrammarProblems sha256 trajectory = .ok []) {earlier later : List Fields}
    {row : Fields} (hrows : rows = earlier ++ row :: later) : ∃ p s t,
      TurnState.Followed opened earlier s ∧ TurnState.step p s row = .ok (t, []) := by
  obtain ⟨-, ⟨t, hturns⟩, u, hsilent, hclosing⟩ := grammar_silent hgrammar
  obtain ⟨q, i, w, hbatches, -⟩ := h.batches hsilent hclosing
  obtain ⟨closed, hbatched⟩ := h.batched hbatches
  obtain ⟨p, v, hturns⟩ := h.turns hturns
  have hwithin := h.within
  subst hrows
  obtain ⟨s, t, hearlier, hstep, -⟩ := hturns.at
  refine ⟨_, s, t, ?_, hstep⟩
  refine hearlier.invariant (TurnState.Followed opened) ⟨rfl, rfl, fun next => rfl⟩ ?_
  rintro before row' p s t hrow hfollowed hstep
  have hmem : row' ∈ earlier ++ row :: later := List.mem_append_left _ hrow
  obtain ⟨rfl, -⟩ := TurnState.step_silent (h.within row' hmem) hstep
  exact hfollowed.behind fun hserved => hbatched.number hmem hserved

end Invocations

section Adjacency

variable {trajectory : List Fields} {position : ℕ} {row : Fields}

theorem binding_silent (h : invalidationBindingProblems trajectory = [])
    (hrow : trajectory[position]? = some row) :
    invalidationBinding position (rowBefore trajectory position) trajectory[position + 1]? row =
      [] :=
  List.flatMap_eq_nil_iff.mp h (row, position) (List.mk_mem_zipIdx_iff_getElem?.mpr hrow)

theorem rowBefore_eq {before : Fields} (h : rowBefore trajectory position = some before) :
    ∃ i, position = i + 1 ∧ trajectory[i]? = some before := by
  cases position with
  | zero => cases h
  | succ i => exact ⟨i, rfl, h⟩

theorem invocation_wakes (h : invalidationBindingProblems trajectory = [])
    (hrow : trajectory[position]? = some row) (htyped : typed "agent_invoked" row = true) :
    ∃ answer, trajectory[position + 1]? = some answer ∧ wakes row answer = true := by
  have hbinding := binding_silent h hrow
  rw [invalidationBinding, if_pos htyped] at hbinding
  exact (Option.any_eq_true _ _).mp
    (of_not_not fun hnot => absurd hbinding (by rw [if_neg hnot]; nofun))

theorem effect_moves (h : invalidationBindingProblems trajectory = [])
    (hrow : trajectory[position]? = some row) (htyped : typed "effect_accepted" row = true) :
    ∃ answer, trajectory[position + 1]? = some answer ∧ moves row answer = true := by
  have hbinding := binding_silent h hrow
  have hinvoked : typed "agent_invoked" row = false := typed_other htyped
  rw [invalidationBinding, if_neg (by simp [hinvoked]), if_pos htyped] at hbinding
  exact (Option.any_eq_true _ _).mp
    (of_not_not fun hnot => absurd hbinding (by rw [if_neg hnot]; nofun))

/-- An invalidation stands behind a row of the type that its cause names. -/
theorem invalidation_caused (h : invalidationBindingProblems trajectory = [])
    (hrow : trajectory[position]? = some row) :
    (invalidates invalidationWake row = true → ∃ i opened, position = i + 1 ∧
      trajectory[i]? = some opened ∧ typed "agent_invoked" opened = true) ∧
    (invalidates invalidationEffectAccepted row = true → ∃ i accepted, position = i + 1 ∧
      trajectory[i]? = some accepted ∧ typed "effect_accepted" accepted = true) := by
  have hbinding := binding_silent h hrow
  constructor
  · intro hwake
    obtain ⟨htyped, hcause⟩ := Bool.and_eq_true_iff.mp hwake
    have hinvoked : typed "agent_invoked" row = false := typed_other htyped
    have heffect : typed "effect_accepted" row = false := typed_other htyped
    rw [invalidationBinding, if_neg (by simp [hinvoked]), if_neg (by simp [heffect]), if_pos htyped]
      at hbinding
    dsimp only at hbinding
    split at hbinding
    · cases hbinding
    · rename_i hpreceding
      simp only [hcause, Bool.true_and, Bool.not_eq_true', Bool.not_eq_false] at hpreceding
      obtain ⟨opened, hopened, hboth⟩ := (Option.any_eq_true _ _).mp hpreceding
      obtain ⟨i, rfl, hi⟩ := rowBefore_eq hopened
      exact ⟨i, opened, rfl, hi, (Bool.and_eq_true_iff.mp hboth).1⟩
  · intro heffect
    obtain ⟨htyped, hcause⟩ := Bool.and_eq_true_iff.mp heffect
    have hinvoked : typed "agent_invoked" row = false := typed_other htyped
    have haccepted : typed "effect_accepted" row = false := typed_other htyped
    have hwake : (row.get "cause").isStr invalidationWake = false := by
      rw [Value.isStr_iff.mp hcause, Value.isStr_str]
      rfl
    rw [invalidationBinding, if_neg (by simp [hinvoked]), if_neg (by simp [haccepted]),
      if_pos htyped] at hbinding
    simp only [hwake, Bool.false_and, Bool.false_eq_true, if_false, hcause, Bool.true_and]
      at hbinding
    split at hbinding
    · cases hbinding
    · rename_i hpreceding
      simp only [Bool.not_eq_true', Bool.not_eq_false] at hpreceding
      obtain ⟨accepted, hopened, hboth⟩ := (Option.any_eq_true _ _).mp hpreceding
      obtain ⟨i, rfl, hi⟩ := rowBefore_eq hopened
      exact ⟨i, accepted, rfl, hi, (Bool.and_eq_true_iff.mp hboth).1⟩

/-- Wake invalidations and invocations correspond one to one. -/
theorem wakes_adjacent (h : invalidationBindingProblems trajectory = []) :
    Adjacent trajectory (typed "agent_invoked") (invalidates invalidationWake)
      (repeats "invocation_index") where
  forwards position cause hcause htyped := by
    obtain ⟨answer, hanswer, hwakes⟩ := invocation_wakes h hcause htyped
    exact ⟨answer, hanswer, Bool.and_eq_true_iff.mp hwakes⟩
  backwards position answer hanswer hwake := by
    obtain ⟨i, opened, rfl, hopened, htyped⟩ := (invalidation_caused h hanswer).1 hwake
    obtain ⟨answer', hanswer', hwakes⟩ := invocation_wakes h hopened htyped
    obtain rfl := Option.some.inj (hanswer.symm.trans hanswer')
    exact ⟨i, opened, rfl, hopened, htyped, (Bool.and_eq_true_iff.mp hwakes).2⟩

/-- Effect invalidations and accepted effects correspond one to one. -/
theorem effects_adjacent (h : invalidationBindingProblems trajectory = []) :
    Adjacent trajectory (typed "effect_accepted") (invalidates invalidationEffectAccepted)
      (repeats "action_type") where
  forwards position cause hcause htyped := by
    obtain ⟨answer, hanswer, hmoves⟩ := effect_moves h hcause htyped
    exact ⟨answer, hanswer, Bool.and_eq_true_iff.mp hmoves⟩
  backwards position answer hanswer heffect := by
    obtain ⟨i, accepted, rfl, haccepted, htyped⟩ := (invalidation_caused h hanswer).2 heffect
    obtain ⟨answer', hanswer', hmoves⟩ := effect_moves h haccepted htyped
    obtain rfl := Option.some.inj (hanswer.symm.trans hanswer')
    exact ⟨i, accepted, rfl, haccepted, htyped, (Bool.and_eq_true_iff.mp hmoves).2⟩

end Adjacency

section Bindings

variable {sha256 : Value → String} {trajectory rows : List Fields} {opened : Fields}

/-- The retrieval grammar binds the rows of every invocation to its calls, its served rows to
numbered batches, and the invalidations to their causes. -/
theorem grammar_binds_rows (h : retrievalGrammarProblems sha256 trajectory = .ok []) :
    (∀ opened rows, Invocation trajectory opened rows →
      (∀ row ∈ rows,
        among ["retrieval_served", "retrieval_refused"] (row.get "record_type") = true →
        (row.get "invocation_index").equals (opened.get "invocation_index") = true) ∧
      (∀ earlier row later, rows = earlier ++ row :: later →
        opensCall earlier.getLast? row = true →
        counterValue (row.get "turn_index") = some (callsAnswered none earlier)) ∧
      ∃ batches : List (List Fields), batches.flatten = rows.filter (typed "retrieval_served") ∧
        ∀ k batch, batches[k]? = some batch → CanonicalBatch k batch) ∧
    Adjacent trajectory (typed "agent_invoked") (invalidates invalidationWake)
      (repeats "invocation_index") ∧
    Adjacent trajectory (typed "effect_accepted") (invalidates invalidationEffectAccepted)
      (repeats "action_type") := by
  have hbindings := (grammar_silent h).1
  refine ⟨?_, wakes_adjacent hbindings, effects_adjacent hbindings⟩
  intro opened rows hinvocation
  refine ⟨?_, ?_, hinvocation.canonical h⟩
  · intro row hrow hamong
    obtain ⟨earlier, later, hrows⟩ := List.append_of_mem hrow
    obtain ⟨p, s, t, hfollowed, hstep⟩ := hinvocation.followed h hrows
    obtain ⟨-, hnamed, -⟩ := TurnState.step_silent (hinvocation.within row hrow) hstep
    rw [← hfollowed.invocation]
    apply hnamed
    obtain ⟨recordType, hmem, hrecord⟩ := List.any_eq_true.mp hamong
    have hsub : ["retrieval_served", "retrieval_refused"] ⊆ invocationBoundTypes := by decide
    exact List.any_eq_true.mpr ⟨recordType, hsub hmem, hrecord⟩
  · intro earlier row later hrows hopens
    obtain ⟨p, s, t, hfollowed, hstep⟩ := hinvocation.followed h hrows
    have hrow : row ∈ rows := by rw [hrows]; simp
    obtain ⟨-, -, hturn⟩ := TurnState.step_silent (hinvocation.within row hrow) hstep
    rw [← hfollowed.expectedTurn]
    exact hturn (hfollowed.answers.trans hopens)

end Bindings

section Forged

variable (tool source authority : String) (requestIndex turnIndex : Int) (records : Value)

/-- A served row of the first batch of the first invocation. -/
def servedRow : Fields :=
  .ofList [("record_type", .str "retrieval_served"), ("invocation_index", .int 1),
    ("turn_index", .int turnIndex), ("batch_index", .int 0), ("request_index", .int requestIndex),
    ("initiated_by", .str "agent"), ("tool", .str tool), ("source", .str source),
    ("authority", .str authority), ("record_id", .str (recordIdentity source)),
    ("record_version", .str "0123456789abcdef"), ("as_of", .str "2026-03-02T09:00:00Z"),
    ("schema_id", .str s!"maintenance.{tool}.v1"), ("records", records)]

def invokedRow : Fields :=
  .ofList [("record_type", .str "agent_invoked"), ("invocation_index", .int 1)]

def wakeRow : Fields :=
  .ofList [("record_type", .str "derived_context_invalidated"), ("invocation_index", .int 1),
    ("turn_index", .int 0), ("cause", .str "wake"), ("action_type", .none)]

def obligationsRow : Fields :=
  servedRow "list_obligations" "obligation_service" Authority.systemOfRecord 0 0
    (.ofFields [("obligations", .dict [])])

/-- The second result of the batch states another turn. -/
def quotesRow : Fields :=
  servedRow "list_quotes" "quoting_service" Authority.systemOfRecord 1 7
    (.ofFields [("quotes", .dict [])])

/-- The outcome states another invocation. -/
def outcomeRow : Fields :=
  .ofList [("record_type", .str "agent_outcome"), ("invocation_index", .int 9),
    ("turn_index", .int 1)]

def forgedRows : List Fields := [wakeRow, obligationsRow, quotesRow, outcomeRow]

def forgedVersion (_ : Value) : String := "0123456789abcdef"

theorem forged_silent :
    retrievalGrammarProblems forgedVersion (invokedRow :: forgedRows) = .ok [] := by rfl

theorem forged_invocation : Invocation (invokedRow :: forgedRows) invokedRow forgedRows where
  opens := rfl
  within := by decide +kernel
  split := ⟨[], [], by simp, nofun⟩

/-- An outcome need not name the invocation that is open, nor need the results of one batch state
one turn. -/
theorem forged_passes :
    retrievalGrammarProblems forgedVersion (invokedRow :: forgedRows) = .ok [] ∧
    Invocation (invokedRow :: forgedRows) invokedRow forgedRows ∧
    (∃ row ∈ forgedRows, typed "agent_outcome" row = true ∧
      (row.get "invocation_index").isNone = false ∧
      (row.get "invocation_index").equals (invokedRow.get "invocation_index") = false) ∧
    ∃ earlier first second later, forgedRows = earlier ++ first :: second :: later ∧
      typed "retrieval_served" first = true ∧ typed "retrieval_served" second = true ∧
      extends? (some first) second = true ∧
      counterValue (second.get "turn_index") ≠ counterValue (first.get "turn_index") := by
  refine ⟨forged_silent, forged_invocation, ?_, ?_⟩
  · exact ⟨outcomeRow, by simp [forgedRows], by decide +kernel⟩
  · exact ⟨[wakeRow], obligationsRow, quotesRow, [outcomeRow], rfl, by decide +kernel⟩

theorem forged_bound : ∃ batches : List (List Fields),
    batches.flatten = forgedRows.filter (typed "retrieval_served") ∧
      ∀ k batch, batches[k]? = some batch → CanonicalBatch k batch :=
  ((grammar_binds_rows forged_silent).1 invokedRow forgedRows forged_invocation).2.2

end Forged

end Evaluator

end OperateBench.Maintenance
