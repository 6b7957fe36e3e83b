import Mathlib.Data.Finset.Card
import OperateBench.Core.Journal
import OperateBench.Core.Termination

/-! # The budgets of an episode

Invocations, calls of the agent and served batches are counted by the engine and can be
counted again in the record. The two counts agree in every state that a run reaches, and
none of them passes its declared allowance.
-/

namespace OperateBench

open Foundation EngineState

variable {σ : Type} {E : Engine σ} {s s' t : EngineState σ}

section Tallies

/-- How many rows of a trajectory have the property. -/
def tally (p : Entry → Bool) (R : List Record) : ℕ :=
  R.countP fun row => p (row.recordType, row.payload)

variable {R R' : List Record} {now : String} {l : List Entry} {p : Entry → Bool}

theorem countP_numbered (p : Entry → Bool) (start : ℕ) (now : String) (l : List Entry) :
    tally p (numbered start now l) = l.countP p := by
  induction l generalizing start with
  | nil => rfl
  | cons e l ih =>
    rw [tally, numbered, List.countP_cons, List.countP_cons, ← tally, ih]

theorem Grown.tally (h : Grown R R' now l) (p : Entry → Bool) :
    tally p R' = tally p R + l.countP p := by
  rw [Grown] at h
  rw [h, OperateBench.tally, List.countP_append, ← OperateBench.tally, ← OperateBench.tally,
    countP_numbered]

theorem Grown.tally_eq (h : Grown R R' now l) (hp : ∀ e ∈ l, p e = false) :
    OperateBench.tally p R' = OperateBench.tally p R := by
  rw [h.tally, List.countP_eq_zero.mpr fun e he => by simp [hp e he], Nat.add_zero]

/-- The entry tells of the kind and names the invocation. -/
def Entry.within (recordType : String) (invocation : ℕ) (e : Entry) : Bool :=
  e.1 = recordType ∧ e.2.number "invocation_index" = invocation

def Entry.opens (e : Entry) : Bool := e.1 = "agent_invoked"

def Entry.overruns (e : Entry) : Bool :=
  e.1 = "critical_violation" ∧ e.2.text? "code" = some Engine.callLimitCode

/-- The invocations on record. -/
def invocationsOf (R : List Record) : ℕ := tally Entry.opens R

/-- The batches that were refused in the invocation. -/
def refusedBatches (invocation : ℕ) (R : List Record) : ℕ :=
  tally (Entry.within "retrieval_refused" invocation) R

/-- The rows served in the invocation are those of so many calls of the agent. -/
def ServedIn (invocation : ℕ) (R : List Record) (batches : ℕ) : Prop :=
  ∃ turns : Finset ℕ, turns.card ≤ batches ∧
    ∀ row ∈ R, Entry.within "retrieval_served" invocation (row.recordType, row.payload) = true →
      ∃ turn ∈ turns, row.get "turn_index" = .int turn

/-- The calls of the agent in the invocation. -/
def callsOf (invocation : ℕ) (asked : List AgentObservation) : ℕ :=
  asked.countP fun observation => observation.invocationIndex = invocation

/-- A plain entry counts for nothing. -/
theorem Engine.Plain.counts {e : Entry} (h : Engine.Plain e) : e.opens = false ∧
    (∀ k, e.within "retrieval_refused" k = false) ∧
      (∀ k, e.within "retrieval_served" k = false) ∧ e.overruns = false := by
  rcases h with h | ⟨code, detail, rfl, hc⟩
  · simp only [Engine.meteredRows, List.mem_cons, List.not_mem_nil, or_false, not_or] at h
    obtain ⟨hopens, hserved, hrefused, hviolation⟩ := h
    simp [Entry.opens, Entry.within, Entry.overruns, hopens, hserved, hrefused, hviolation]
  · simp [Engine.violationEntry, entry, Entry.opens, Entry.within, Entry.overruns, Fields.text?,
      Fields.get, Dict.ofList, Dict.get?_set, Value.asStr?, hc]

theorem ServedIn.mono {k a b : ℕ} (h : ServedIn k R a) (hab : a ≤ b) : ServedIn k R b := by
  obtain ⟨turns, hcard, hcover⟩ := h
  exact ⟨turns, hcard.trans hab, hcover⟩

/-- A page that serves nothing in the invocation adds nothing to what was served there. -/
theorem ServedIn.grown {k batches : ℕ} (h : ServedIn k R batches) (hg : Grown R R' now l)
    (hl : ∀ e ∈ l, e.within "retrieval_served" k = false) : ServedIn k R' batches := by
  obtain ⟨turns, hcard, hcover⟩ := h
  refine ⟨turns, hcard, fun row hr hk => ?_⟩
  rcases hg.mem hr with hr | ⟨e, index, he, rfl⟩
  · exact hcover row hr hk
  · rw [show Entry.within _ _ ((e.row index now).recordType, (e.row index now).payload) =
      e.within "retrieval_served" k from rfl, hl e he] at hk
    cases hk

/-- A page that was served on one call adds one batch. -/
theorem ServedIn.served {k batches turn : ℕ} (h : ServedIn k R batches) (hg : Grown R R' now l)
    (hl : ∀ e ∈ l, Fields.get e.2 "turn_index" = .int turn) : ServedIn k R' (batches + 1) := by
  obtain ⟨turns, hcard, hcover⟩ := h
  refine ⟨insert turn turns, (Finset.card_insert_le _ _).trans (Nat.add_le_add_right hcard 1),
    fun row hr hk => ?_⟩
  rcases hg.mem hr with hr | ⟨e, index, he, rfl⟩
  · obtain ⟨turn', hm, ht⟩ := hcover row hr hk
    exact ⟨turn', Finset.mem_insert_of_mem hm, ht⟩
  · exact ⟨turn, Finset.mem_insert_self _ _, hl e he⟩

/-- Wherever the call limit was exceeded, two batches had been refused in that invocation. -/
def Overruns (R : List Record) : Prop :=
  ∀ i row, R[i]? = some row → Entry.overruns (row.recordType, row.payload) = true →
    2 ≤ refusedBatches (invocationsOf (R.take i)) (R.take i)

theorem Overruns.grown (h : Overruns R) (hg : Grown R R' now l)
    (hl : ∀ j e, l[j]? = some e → e.overruns = true →
      2 ≤ refusedBatches (invocationsOf (R'.take (R.length + j))) (R'.take (R.length + j))) :
    Overruns R' := by
  intro i row hr ho
  rcases hg.source hr with hr | ⟨j, e, rfl, he, rfl⟩
  · rw [hg.take (lt_of_getElem? hr).le]
    exact h i row hr ho
  · exact hl j e he ho

theorem Overruns.quiet (h : Overruns R) (hg : Grown R R' now l)
    (hl : ∀ e ∈ l, e.overruns = false) : Overruns R' :=
  h.grown hg fun j e he ho => by rw [hl e (List.mem_of_getElem? he)] at ho; cases ho

end Tallies

namespace Engine

/-- What the declared allowances leave no way around. -/
structure Within (E : Engine σ) (s : EngineState σ) : Prop where
  invoked : invocationsOf s.ledger.records = s.invocations
  allowed : s.invocations ≤ E.plan.maxInvocations
  batches : s.retrievalBatches ≤ E.plan.maxRetrievalBatchesPerInvocation
  calls : ∀ k, callsOf k s.asked ≤ E.callLimit
  served : ∀ k, ∃ batches : ℕ, batches ≤ E.plan.maxRetrievalBatchesPerInvocation ∧
    ServedIn k s.ledger.records batches
  uncalled : ∀ k, s.invocations < k → callsOf k s.asked = 0
  unrefused : ∀ k, s.invocations < k → refusedBatches k s.ledger.records = 0
  unserved : ∀ k, s.invocations < k → ServedIn k s.ledger.records 0
  overruns : Overruns s.ledger.records
  counted : ∀ trigger business turn, s.control = .turn trigger business turn →
    callsOf s.invocations s.asked = turn ∧
      turn = business + s.retrievalBatches + refusedBatches s.invocations s.ledger.records ∧
        ServedIn s.invocations s.ledger.records s.retrievalBatches

section Steps

variable {trigger : Option Event} {business turn : ℕ} {l : List Entry}

theorem grown_of_extend {now : String} (h : s'.ledger = s.ledger.extend now l) :
    Grown s.ledger.records s'.ledger.records now l := h ▸ grown_extend _ _ _

/-- The page counts for no invocation, no refused batch and no served one. -/
structure Uncounted (R R' : List Record) : Prop where
  invocations : invocationsOf R' = invocationsOf R
  refused : ∀ k, refusedBatches k R' = refusedBatches k R
  served : ∀ k batches, ServedIn k R batches → ServedIn k R' batches

theorem uncounted {R R' : List Record} {now : String} (hg : Grown R R' now l)
    (hl : ∀ e ∈ l, e.opens = false ∧ (∀ k, e.within "retrieval_refused" k = false) ∧
      ∀ k, e.within "retrieval_served" k = false) : Uncounted R R' where
  invocations := hg.tally_eq fun e he => (hl e he).1
  refused k := hg.tally_eq fun e he => (hl e he).2.1 k
  served _ _ h := h.grown hg fun e he => (hl e he).2.2 _

theorem uncounted_of_plain {R R' : List Record} {now : String} (hg : Grown R R' now l)
    (hl : ∀ e ∈ l, Plain e) : Uncounted R R' ∧ (Overruns R → Overruns R') := by
  refine ⟨uncounted hg fun e he => ?_, fun h => h.quiet hg fun e he => (hl e he).counts.2.2.2⟩
  obtain ⟨hopens, hrefused, hserved, -⟩ := (hl e he).counts
  exact ⟨hopens, hrefused, hserved⟩

theorem callsOf_append {asked : List AgentObservation} {observation : AgentObservation} (k : ℕ) :
    callsOf k (asked ++ [observation]) =
      callsOf k asked + if observation.invocationIndex = k then 1 else 0 := by
  simp only [callsOf, List.countP_append, List.countP_singleton, decide_eq_true_eq]

/-- The agent was called once more, inside the invocation. -/
theorem Within.asked (h : E.Within s) (asks : E.Asks s s' trigger business turn) :
    callsOf s'.invocations s'.asked = turn + 1 ∧ (∀ k, callsOf k s'.asked ≤ E.callLimit) ∧
      ∀ k, s'.invocations < k → callsOf k s'.asked = 0 := by
  obtain ⟨observation, ho, ha⟩ := asks.asked
  obtain ⟨hturn, -, -⟩ := h.counted _ _ _ asks.before
  have hallowed := asks.allowed
  rw [asks.invocations, ha]
  refine ⟨?_, fun k => ?_, fun k hk => ?_⟩
  · rw [callsOf_append, if_pos ho, hturn]
  · rw [callsOf_append]
    split
    · rename_i hk
      rw [← hk, ho, hturn]
      omega
    · exact h.calls k
  · rw [callsOf_append, if_neg (by omega), h.uncalled k hk]

theorem index_of_get {e : Entry} {n k : ℕ} (h : Fields.get e.2 "invocation_index" = .int n) :
    e.2.number "invocation_index" = k ↔ n = k := by
  rw [Fields.number, h]
  exact Int.ofNat_inj

theorem refusedBatchEntry_counts (batch : RawRequests) (turn : ℕ) (code detail : String) :
    (refusedBatchEntry E s batch turn code detail).opens = false ∧
      (refusedBatchEntry E s batch turn code detail).overruns = false ∧
      (∀ k, (refusedBatchEntry E s batch turn code detail).within "retrieval_served" k = false) ∧
      ∀ k, (refusedBatchEntry E s batch turn code detail).within "retrieval_refused" k =
        decide (s.invocations = k) := by
  refine ⟨rfl, rfl, fun k => ?_, fun k => ?_⟩
  · simp [Entry.within, refusedBatchEntry, entry]
  · have hi : Fields.get (refusedBatchEntry E s batch turn code detail).2 "invocation_index" =
        .int s.invocations := Fields.get_ofList (by simp) List.mem_cons_self
    simp [Entry.within, index_of_get hi]
    simp [refusedBatchEntry, entry]

theorem servedEntry_counts (batchIndex : ℕ) (result : ToolResult × ℕ) :
    (servedEntry s turn batchIndex result).opens = false ∧
      (servedEntry s turn batchIndex result).overruns = false ∧
      (∀ k, (servedEntry s turn batchIndex result).within "retrieval_refused" k = false) ∧
      (∀ k, s.invocations ≠ k →
        (servedEntry s turn batchIndex result).within "retrieval_served" k = false) ∧
      Fields.get (servedEntry s turn batchIndex result).2 "turn_index" = .int turn := by
  refine ⟨rfl, rfl, fun k => ?_, fun k hk => ?_, ?_⟩
  · simp [Entry.within, servedEntry]
  · have hi : Fields.get (servedEntry s turn batchIndex result).2 "invocation_index" =
        .int s.invocations := Fields.get_ofList (by simp) List.mem_cons_self
    simp [Entry.within, index_of_get hi, hk]
  · exact Fields.get_ofList (by simp) (List.mem_cons_of_mem _ List.mem_cons_self)

/-- A step whose rows count for nothing keeps what the counts say about every invocation. -/
theorem Within.still (h : E.Within s) (hu : Uncounted s.ledger.records s'.ledger.records)
    (overruns : Overruns s'.ledger.records) (invocations : s'.invocations = s.invocations)
    (batches : s'.retrievalBatches = s.retrievalBatches)
    (calls : ∀ k, callsOf k s'.asked ≤ E.callLimit)
    (uncalled : ∀ k, s'.invocations < k → callsOf k s'.asked = 0)
    (counted : ∀ trigger business turn, s'.control = .turn trigger business turn →
      callsOf s.invocations s'.asked = turn ∧
        turn = business + s.retrievalBatches + refusedBatches s.invocations s.ledger.records ∧
          ServedIn s.invocations s.ledger.records s.retrievalBatches) : E.Within s' := by
  constructor
  · rw [hu.invocations, h.invoked, invocations]
  · rw [invocations]
    exact h.allowed
  · rw [batches]
    exact h.batches
  · exact calls
  · intro k
    obtain ⟨n, hn, hs⟩ := h.served k
    exact ⟨n, hn, hu.served k n hs⟩
  · exact uncalled
  · intro k hk
    rw [hu.refused, h.unrefused k (invocations ▸ hk)]
  · exact fun k hk => hu.served k 0 (h.unserved k (invocations ▸ hk))
  · exact overruns
  · intro trigger business turn hc
    obtain ⟨hcalls, hturn, hserved⟩ := counted _ _ _ hc
    rw [invocations, hu.refused, batches]
    exact ⟨hcalls, hturn, hu.served _ _ hserved⟩

theorem Within.opened {invoked invalidated : List (String × Value)} {now : String}
    (h : E.Within s) (allowed : s.invocations < E.plan.maxInvocations)
    (after : s'.control = .turn trigger 0 0) (invocations : s'.invocations = s.invocations + 1)
    (asked : s'.asked = s.asked) (batches : s'.retrievalBatches = 0)
    (hl : s'.ledger = s.ledger.extend now (l ++ [entry "agent_invoked" invoked,
      entry "derived_context_invalidated" invalidated]))
    (plain : ∀ e ∈ l, Plain e) : E.Within s' := by
  have hg := grown_of_extend hl
  have hkind : ∀ e ∈ l ++ [entry "agent_invoked" invoked,
      entry "derived_context_invalidated" invalidated],
      (∀ k, e.within "retrieval_refused" k = false) ∧
        (∀ k, e.within "retrieval_served" k = false) ∧ e.overruns = false := by
    intro e he
    rcases List.mem_append.mp he with he | he
    · exact (plain e he).counts.2
    · rcases List.mem_cons.mp he with rfl | he
      · simp [Entry.within, Entry.overruns, entry]
      · obtain rfl := List.mem_singleton.mp he
        simp [Entry.within, Entry.overruns, entry]
  have hrefused : ∀ k, refusedBatches k s'.ledger.records = refusedBatches k s.ledger.records :=
    fun k => hg.tally_eq fun e he => (hkind e he).1 k
  have hserved : ∀ k n, ServedIn k s.ledger.records n → ServedIn k s'.ledger.records n :=
    fun k n hs => hs.grown hg fun e he => (hkind e he).2.1 k
  have hbatches := h.batches
  constructor
  · rw [invocationsOf, hg.tally, ← invocationsOf, h.invoked, invocations, List.countP_append,
      List.countP_eq_zero.mpr fun e he => by simp [(plain e he).counts.1]]
    simp [Entry.opens, entry]
  · rw [invocations]
    push_cast
    omega
  · rw [batches]
    push_cast
    omega
  · rw [asked]
    exact h.calls
  · intro k
    obtain ⟨n, hn, hs⟩ := h.served k
    exact ⟨n, hn, hserved k n hs⟩
  · intro k hk
    rw [asked, h.uncalled k (by omega)]
  · intro k hk
    rw [hrefused, h.unrefused k (by omega)]
  · exact fun k hk => hserved k 0 (h.unserved k (by omega))
  · exact h.overruns.quiet hg fun e he => (hkind e he).2.2
  · intro trigger' business turn hc
    obtain ⟨rfl, rfl, rfl⟩ := Control.turn.inj (after.symm.trans hc)
    have hlt : s.invocations < s'.invocations := by omega
    rw [asked, h.uncalled _ hlt, hrefused, h.unrefused _ hlt, batches]
    exact ⟨rfl, rfl, hserved _ 0 (h.unserved _ hlt)⟩

/-- The calls of an invocation were spent, and the row about it stands where it should. -/
theorem Within.exceeded {code detail : String} {now : String} (h : E.Within s)
    (before : s.control = .turn trigger business turn) (after : s'.control = .head)
    (overrun : code = callLimitCode → business < E.plan.maxTurnsPerInvocation ∧ E.callLimit ≤ turn)
    (invocations : s'.invocations = s.invocations) (asked : s'.asked = s.asked)
    (batches : s'.retrievalBatches = s.retrievalBatches)
    (hl : s'.ledger = s.ledger.extend now [violationEntry code detail]) : E.Within s' := by
  have hg := grown_of_extend hl
  obtain ⟨-, hturn, -⟩ := h.counted _ _ _ before
  have hbatches := h.batches
  refine h.still (uncounted hg fun e he => ?_) ?_ invocations batches (asked ▸ h.calls) ?_
    fun _ _ _ hc => Control.noConfusion (after.symm.trans hc)
  · obtain rfl := List.mem_singleton.mp he
    simp [violationEntry, entry, Entry.opens, Entry.within]
  · refine h.overruns.grown hg fun j e he ho => ?_
    obtain ⟨rfl, rfl⟩ : j = 0 ∧ violationEntry code detail = e := by
      cases j with
      | zero => exact ⟨rfl, Option.some.inj he⟩
      | succ j => cases he
    have hcode : code = callLimitCode := by
      simpa [violationEntry, entry, Entry.overruns, Fields.text?, Fields.get, Dict.ofList,
        Dict.get?_set, Value.asStr?] using ho
    obtain ⟨hbusiness, hcalls⟩ := overrun hcode
    rw [Nat.add_zero, hg.take le_rfl, List.take_length, h.invoked]
    rw [callLimit] at hcalls
    omega
  · rw [asked, invocations]
    exact h.uncalled

theorem Within.refused {batch : RawRequests} {code detail now : String} (h : E.Within s)
    (asks : E.Asks s s' trigger business turn)
    (after : s'.control = .turn trigger business (turn + 1))
    (batches : s'.retrievalBatches = s.retrievalBatches)
    (hl : s'.ledger = s.ledger.extend now [refusedBatchEntry E s batch turn code detail]) :
    E.Within s' := by
  have hg := grown_of_extend hl
  obtain ⟨hopens, hoverruns, hserved, hrefused⟩ :=
    refusedBatchEntry_counts (E := E) (s := s) batch turn code detail
  obtain ⟨hcalls, hlimit, huncalled⟩ := h.asked asks
  obtain ⟨-, hturn, hcurrent⟩ := h.counted _ _ _ asks.before
  have hone : ∀ e ∈ [refusedBatchEntry E s batch turn code detail], e.opens = false ∧
      e.overruns = false ∧ ∀ k, e.within "retrieval_served" k = false := by
    intro e he
    obtain rfl := List.mem_singleton.mp he
    exact ⟨hopens, hoverruns, hserved⟩
  have htally : ∀ k, refusedBatches k s'.ledger.records =
      refusedBatches k s.ledger.records + if s.invocations = k then 1 else 0 := by
    intro k
    rw [refusedBatches, hg.tally, ← refusedBatches, List.countP_singleton, hrefused]
    simp
  constructor
  · rw [asks.invocations, ← h.invoked]
    exact hg.tally_eq fun e he => (hone e he).1
  · rw [asks.invocations]
    exact h.allowed
  · rw [batches]
    exact h.batches
  · exact hlimit
  · intro k
    obtain ⟨n, hn, hs⟩ := h.served k
    exact ⟨n, hn, hs.grown hg fun e he => (hone e he).2.2 k⟩
  · exact huncalled
  · intro k hk
    rw [asks.invocations] at hk
    rw [htally, h.unrefused k hk, if_neg (by omega)]
  · intro k hk
    rw [asks.invocations] at hk
    exact (h.unserved k hk).grown hg fun e he => (hone e he).2.2 k
  · exact h.overruns.quiet hg fun e he => (hone e he).2.1
  · intro _ _ _ hc
    obtain ⟨rfl, rfl, rfl⟩ := Control.turn.inj (after.symm.trans hc)
    rw [asks.invocations, batches, htally, if_pos rfl]
    exact ⟨asks.invocations ▸ hcalls, by omega, hcurrent.grown hg fun e he => (hone e he).2.2 _⟩

theorem Within.batch {results : List ToolResult} {now : String} (h : E.Within s)
    (asks : E.Asks s s' trigger business turn)
    (after : s'.control = .turn trigger business (turn + 1))
    (remaining : s.retrievalBatches < E.plan.maxRetrievalBatchesPerInvocation)
    (batches : s'.retrievalBatches = s.retrievalBatches + 1)
    (hl : s'.ledger = s.ledger.extend now
      (results.zipIdx.map (servedEntry s turn s.retrievalBatches))) : E.Within s' := by
  have hg := grown_of_extend hl
  obtain ⟨hcalls, hlimit, huncalled⟩ := h.asked asks
  obtain ⟨-, hturn, hcurrent⟩ := h.counted _ _ _ asks.before
  have hall : ∀ e ∈ results.zipIdx.map (servedEntry s turn s.retrievalBatches),
      e.opens = false ∧ e.overruns = false ∧ (∀ k, e.within "retrieval_refused" k = false) ∧
        (∀ k, s.invocations ≠ k → e.within "retrieval_served" k = false) ∧
          Fields.get e.2 "turn_index" = .int turn := by
    intro e he
    obtain ⟨result, -, rfl⟩ := List.mem_map.mp he
    exact servedEntry_counts _ _
  have hrefused : ∀ k, refusedBatches k s'.ledger.records = refusedBatches k s.ledger.records :=
    fun k => hg.tally_eq fun e he => (hall e he).2.2.1 k
  have hother : ∀ k n, s.invocations ≠ k → ServedIn k s.ledger.records n →
      ServedIn k s'.ledger.records n :=
    fun k n hk hs => hs.grown hg fun e he => (hall e he).2.2.2.1 k hk
  have hsame : ServedIn s.invocations s'.ledger.records (s.retrievalBatches + 1) :=
    hcurrent.served hg fun e he => (hall e he).2.2.2.2
  constructor
  · rw [asks.invocations, ← h.invoked]
    exact hg.tally_eq fun e he => (hall e he).1
  · rw [asks.invocations]
    exact h.allowed
  · rw [batches]
    push_cast
    omega
  · exact hlimit
  · intro k
    by_cases hk : s.invocations = k
    · subst hk
      exact ⟨s.retrievalBatches + 1, by push_cast; omega, hsame⟩
    · obtain ⟨n, hn, hs⟩ := h.served k
      exact ⟨n, hn, hother k n hk hs⟩
  · exact huncalled
  · intro k hk
    rw [hrefused, h.unrefused k (asks.invocations ▸ hk)]
  · intro k hk
    rw [asks.invocations] at hk
    exact hother k 0 (by omega) (h.unserved k hk)
  · exact h.overruns.quiet hg fun e he => (hall e he).2.1
  · intro _ _ _ hc
    obtain ⟨rfl, rfl, rfl⟩ := Control.turn.inj (after.symm.trans hc)
    rw [asks.invocations, batches, hrefused]
    exact ⟨asks.invocations ▸ hcalls, by omega, hsame⟩

theorem Within.step (spares : E.domain.Spares meteredRows) (h : E.Within s)
    (hs : E.step s = .ok s') : E.Within s' := by
  cases step_spends spares hs with
  | idle _ same => exact same ▸ h
  | passed _ outside invocations asked batches ledger plain =>
    obtain ⟨hu, ho⟩ := uncounted_of_plain (grown_of_extend ledger) plain
    refine h.still hu (ho h.overruns) invocations batches (asked ▸ h.calls) ?_ fun _ _ _ hc => ?_
    · rw [asked, invocations]
      exact h.uncalled
    · rw [hc] at outside
      cases outside
  | invoked _ allowed after invocations asked batches ledger plain =>
    obtain ⟨invoked, invalidated, hl⟩ := ledger
    exact h.opened allowed after invocations asked batches hl plain
  | exceeded before after overrun invocations asked batches ledger =>
    exact h.exceeded before after overrun invocations asked batches ledger
  | answered asks after batches ledger plain =>
    rename_i l trigger business turn
    obtain ⟨hcalls, hlimit, huncalled⟩ := h.asked asks
    obtain ⟨-, hturn, hserved⟩ := h.counted _ _ _ asks.before
    obtain ⟨hu, ho⟩ := uncounted_of_plain (grown_of_extend ledger) plain
    refine h.still hu (ho h.overruns) asks.invocations batches hlimit huncalled fun _ _ _ hc => ?_
    rcases after with after | after
    · exact Control.noConfusion (after.symm.trans hc)
    · obtain ⟨rfl, rfl, rfl⟩ := Control.turn.inj (after.symm.trans hc)
      exact ⟨asks.invocations ▸ hcalls, by omega, hserved⟩
  | refused asks after batches ledger =>
    exact h.refused asks after batches ledger
  | served _ asks after remaining batches ledger =>
    exact h.batch asks after remaining batches ledger

end Steps

section Runs

/-- No allowance of the plan is negative. -/
structure Sane (plan : EpisodePlan) : Prop where
  invocations : 0 ≤ plan.maxInvocations
  turns : 0 ≤ plan.maxTurnsPerInvocation
  batches : 0 ≤ plan.maxRetrievalBatchesPerInvocation

theorem start_within (sane : Sane E.plan) (h : E.start = .ok s) : E.Within s := by
  obtain ⟨clock, _, h⟩ := bind_ok h
  obtain ⟨queue, _, h⟩ := bind_ok h
  obtain rfl := log_write h
  have hlimit : 0 ≤ E.callLimit := by
    have hturns := sane.turns
    have hbatches := sane.batches
    rw [callLimit]
    omega
  have hplain : ∀ e ∈ [entry "episode_ended" [("phase", .str "started")]], Plain e := by
    intro e he
    obtain rfl := List.mem_singleton.mp he
    exact Or.inl (by simp [entry, meteredRows])
  obtain ⟨hu, ho⟩ := uncounted_of_plain (grown_extend TrajectoryLedger.empty clock.now _) hplain
  have hserved : ∀ k, ServedIn k [] 0 := fun k => ⟨∅, le_rfl, by simp⟩
  refine ⟨hu.invocations, sane.invocations, sane.batches, fun _ => hlimit,
    fun k => ⟨0, sane.batches, hu.served k 0 (hserved k)⟩, fun _ _ => rfl, fun k _ => hu.refused k,
    fun k _ => hu.served k 0 (hserved k), ho ?_, ?_⟩
  · rintro _ _ ⟨⟩
  · rintro _ _ _ ⟨⟩

theorem within_of_runs {P : EngineState σ → Prop} (sane : Sane E.plan)
    (spares : E.domain.Spares meteredRows) (h₀ : E.start = .ok s) (h : E.RunsVia P s s') :
    E.Within s' :=
  Run.invariant h (start_within sane h₀) fun _ _ _ hw _ => hw.step spares

/-- What a trajectory shows of the allowances of the plan. -/
structure Frugal (plan : EpisodePlan) (R : List Record) : Prop where
  invocations : invocationsOf R ≤ plan.maxInvocations
  batches : ∀ k, ServedIn k R plan.maxRetrievalBatchesPerInvocation.toNat
  overruns : Overruns R

theorem Within.frugal (h : E.Within s) : Frugal E.plan s.ledger.records := by
  refine ⟨h.invoked ▸ h.allowed, fun k => ?_, h.overruns⟩
  obtain ⟨n, hn, hs⟩ := h.served k
  exact hs.mono (by omega)

/-- An episode stays within its budgets and comes to its end. -/
structure EndsWithinBudgets (E : Engine σ) : Prop where
  terminates : E.Terminates
  calls : ∀ fuel s₀ s, E.start = .ok s₀ → E.runSteps fuel s₀ = .ok s → ∀ k,
    callsOf k s.asked ≤
      E.plan.maxTurnsPerInvocation + E.plan.maxRetrievalBatchesPerInvocation + 1
  recorded : ∀ fuel s₀ s, E.start = .ok s₀ → E.runSteps fuel s₀ = .ok s →
    Frugal E.plan s.ledger.records
  closed : ∀ fuel outcome, E.run fuel = .ok (some outcome) → Frugal E.plan outcome.trajectory

theorem Frugal.closing {R R' : List Record} {now : String} {payload : List (String × Value)}
    {plan : EpisodePlan} (h : Frugal plan R)
    (hg : Grown R R' now [entry "episode_ended" payload]) : Frugal plan R' := by
  have hplain : ∀ e ∈ [entry "episode_ended" payload], Plain e := by
    intro e he
    obtain rfl := List.mem_singleton.mp he
    exact Or.inl (by simp [entry, meteredRows])
  obtain ⟨hu, ho⟩ := uncounted_of_plain hg hplain
  exact ⟨hu.invocations ▸ h.invocations, fun k => hu.served k _ (h.batches k), ho h.overruns⟩

theorem ends_within (sane : Sane E.plan) (unarming : E.domain.Unarming)
    (spares : E.domain.Spares meteredRows) : E.EndsWithinBudgets := by
  have hwithin : ∀ fuel s₀ s, E.start = .ok s₀ → E.runSteps fuel s₀ = .ok s → E.Within s :=
    fun fuel s₀ s h₀ h => within_of_runs sane spares h₀ (runSteps_runs h)
  refine ⟨terminates unarming spares, fun fuel s₀ s h₀ h => (hwithin fuel s₀ s h₀ h).calls,
    fun fuel s₀ s h₀ h => (hwithin fuel s₀ s h₀ h).frugal, fun fuel outcome h => ?_⟩
  obtain ⟨s₀, h₀, h⟩ := bind_ok h
  obtain ⟨s, hs, h⟩ := bind_ok h
  split at h
  · obtain ⟨closed, hf, h⟩ := bind_ok h
    obtain rfl := Option.some.inj (pure_ok h)
    obtain ⟨-, -, -, payload, ht⟩ := finish_written hf
    rw [ht]
    exact (hwithin fuel s₀ s h₀ hs).frugal.closing (grown_extend _ _ _)
  · cases pure_ok h

end Runs

end Engine

end OperateBench
