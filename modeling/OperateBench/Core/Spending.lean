import OperateBench.Core.Scenes
import OperateBench.Core.Waits

/-! # What a step spends

The allowances of an episode are counted in three places: the invocations of the agent,
its calls within one invocation, and the batches served there. A step that asks the agent
takes from one of them, and the rows that tell of it are the engine's own.
-/

namespace OperateBench

open Foundation EngineState

variable {σ : Type} {E : Engine σ} {s s' t : EngineState σ} {types : List String}

/-- The reductions of the domain leave no rows of the kinds behind. -/
def OperationDomain.Spares (domain : OperationDomain σ) (types : List String) : Prop :=
  ∀ call state reduction, domain.reduce call state = .ok reduction → ∀ recordType payload,
    Effect.record recordType payload ∈ reduction.effects → recordType ∉ types

/-- The rows about timers, which the engine writes for the effects of a reduction. -/
def timerRows : List String := ["timer_scheduled", "timer_cancelled"]

/-- The rows written around what the agent proposes. -/
def proposalRows : List String :=
  ["action_proposed", "action_rejected", "effect_accepted", "derived_context_invalidated",
    "terminal_proposed", "terminal_rejected"] ++ timerRows

/-- The rows in which deliveries are recorded. -/
def deliveryRows : List String :=
  ["event_observed", "event_audit_only", "event_rejected", "event_after_terminal"]

/-- The rows written around a reduction. -/
def dealingRows : List String := proposalRows ++ deliveryRows

namespace EngineState

/-- No allowance was touched, and no row of the kinds was written. -/
structure Hushed (types : List String) (s s' : EngineState σ) : Prop where
  clock : s'.clock = s.clock
  invocations : s'.invocations = s.invocations
  retrievalBatches : s'.retrievalBatches = s.retrievalBatches
  asked : s'.asked = s.asked
  control : s'.control = s.control
  page : ∃ l, s'.ledger = s.ledger.extend s.clock.now l ∧ ∀ e ∈ l, e.1 ∉ types

namespace Hushed

theorem refl (s : EngineState σ) : Hushed types s s := ⟨rfl, rfl, rfl, rfl, rfl, [], rfl, nofun⟩

theorem trans {u : EngineState σ} (h : Hushed types s t) (h' : Hushed types t u) :
    Hushed types s u := by
  obtain ⟨l, hl, hlt⟩ := h.page
  obtain ⟨l', hl', hlt'⟩ := h'.page
  refine ⟨h'.clock.trans h.clock, h'.invocations.trans h.invocations,
    h'.retrievalBatches.trans h.retrievalBatches, h'.asked.trans h.asked,
    h'.control.trans h.control, l ++ l', ?_, fun e he => ?_⟩
  · rw [hl', hl, h.clock, extend_append]
  · exact (List.mem_append.mp he).elim (hlt e) (hlt' e)

theorem write {es : List Entry} (h : ∀ e ∈ es, e.1 ∉ types) : Hushed types s (s.write es) :=
  ⟨rfl, rfl, rfl, rfl, rfl, es, rfl, h⟩

theorem account (h : Engine.account s' = Engine.account s) (hl : s'.ledger = s.ledger) :
    Hushed types s s' :=
  ⟨congrArg Engine.Account.clock h, congrArg Engine.Account.invocations h,
    congrArg Engine.Account.retrievalBatches h, congrArg Engine.Account.asked h,
    congrArg Engine.Account.control h, [], hl, nofun⟩

end Hushed

end EngineState

namespace Engine

section Dealings

section Proposals

variable (spares : E.domain.Spares types) (apart : ∀ t ∈ proposalRows, t ∉ types)

include spares in
theorem commit_hushed {call : Call} {state : σ} {reduction : Reduction σ}
    (timers : ∀ t ∈ timerRows, t ∉ types) (reduced : E.domain.reduce call state = .ok reduction)
    (committed : s.commit reduction = .ok t) : Hushed types s t := by
  obtain ⟨queue, timerCounter, es, hes, rfl⟩ := commit_ok committed
  refine ⟨rfl, rfl, rfl, rfl, rfl, es, rfl, fun e he => ?_⟩
  rcases hes.source he with hr | ht | ht
  · exact spares _ _ _ reduced _ _ hr
  · exact ht ▸ timers _ (by decide)
  · exact ht ▸ timers _ (by decide)

theorem timers_apart {types : List String} (apart : ∀ t ∈ proposalRows, t ∉ types) :
    ∀ t ∈ timerRows, t ∉ types := fun t ht => apart t (List.mem_append_right _ ht)

theorem fireConditionals_hushed {kind : TriggerKind} {typeName : String} {cycleId : Option String}
    {bindings : Bindings} (h : s.fireConditionals kind typeName cycleId bindings = .ok s') :
    Hushed types s s' := by
  obtain ⟨conditionals, queue, rfl⟩ := fireConditionals_ok h
  exact .account rfl rfl

include apart in
theorem proposing_hushed {actionType : String} {payload : Fields} {evidenceRefs : List String} :
    Hushed types s (proposing s actionType payload evidenceRefs) := by
  refine ⟨rfl, rfl, rfl, rfl, rfl, _, rfl, fun e he => ?_⟩
  obtain rfl := List.mem_singleton.mp he
  exact apart "action_proposed" (by decide)

include apart in
theorem refusing_hushed {proposal : ℕ} {actionType code detail : String} :
    Hushed types s (refusing s proposal actionType code detail) := by
  refine ⟨rfl, rfl, rfl, rfl, rfl, _, rfl, fun e he => ?_⟩
  obtain rfl := List.mem_singleton.mp he
  exact apart "action_rejected" (by decide)

include apart in
theorem accepting_hushed {proposal : ℕ} {actionType : String} {verdict : Verdict} :
    Hushed types s (accepting s proposal actionType verdict) := by
  refine ⟨rfl, rfl, rfl, rfl, rfl, _, rfl, fun e he => ?_⟩
  rcases List.mem_cons.mp he with rfl | he
  · exact apart "effect_accepted" (by decide)
  · obtain rfl := List.mem_singleton.mp he
    exact apart "derived_context_invalidated" (by decide)

include spares apart in
theorem Proposed.hushed {actionType : String} {payload : Fields} {evidenceRefs : List String}
    {accepted : Bool} (h : E.Proposed s actionType payload evidenceRefs accepted s') :
    Hushed types s s' := by
  cases h with
  | stopped => exact (proposing_hushed apart).trans (refusing_hushed apart)
  | refused _ reduced committed _ =>
    exact (proposing_hushed apart).trans ((commit_hushed spares (timers_apart apart) reduced committed).trans
      (refusing_hushed apart))
  | accepted _ reduced committed _ fired =>
    exact (proposing_hushed apart).trans ((commit_hushed spares (timers_apart apart) reduced committed).trans
      ((accepting_hushed apart).trans (fireConditionals_hushed fired)))

include apart in
theorem concluding_hushed {outcome : Complete} : Hushed types s (concluding s outcome) := by
  refine .write fun e he => ?_
  obtain rfl := List.mem_singleton.mp he
  exact apart "terminal_proposed" (by decide)

include apart in
theorem denying_hushed {code detail : String} : Hushed types s (denying s code detail) := by
  refine ⟨rfl, rfl, rfl, rfl, rfl, _, rfl, fun e he => ?_⟩
  obtain rfl := List.mem_singleton.mp he
  exact apart "terminal_rejected" (by decide)

include spares apart in
theorem Concluded.hushed {outcome : Complete} {accepted : Bool}
    (h : E.Concluded s outcome accepted s') : Hushed types s s' := by
  cases h with
  | stopped => exact (concluding_hushed apart).trans (denying_hushed apart)
  | refused _ reduced committed _ =>
    exact (concluding_hushed apart).trans ((commit_hushed spares (timers_apart apart) reduced committed).trans
      (denying_hushed apart))
  | accepted _ reduced committed _ fired =>
    rename_i reduction t _ _
    have hcleared : Hushed types t { t with lastRejection := none } := .account rfl rfl
    exact (concluding_hushed apart).trans ((commit_hushed spares (timers_apart apart) reduced committed).trans
      (hcleared.trans (fireConditionals_hushed fired)))

end Proposals

section Reports

variable (spares : E.domain.Spares types) (apart : ∀ t ∈ dealingRows, t ∉ types)

include apart in
theorem noted_hushed {event : Event} {disposition : Disposition} {code : String} {e : Entry}
    (he : e.1 ∈ dealingRows) : Hushed types s ((s.write [e]).noteDelivery event disposition code) := by
  refine ⟨rfl, rfl, rfl, rfl, rfl, [e], rfl, fun e' he' => ?_⟩
  obtain rfl := List.mem_singleton.mp he'
  exact apart _ he

include spares apart in
theorem Reported.hushed {event : Event} (h : E.Reported s event s') : Hushed types s s' := by
  have timers : ∀ t ∈ timerRows, t ∉ types :=
    timers_apart fun t ht => apart t (List.mem_append_left _ ht)
  cases h with
  | late => exact noted_hushed apart (by simp [lateEntry, entry, dealingRows, deliveryRows])
  | rejected _ reduced committed _ =>
    exact (commit_hushed spares timers reduced committed).trans
      (noted_hushed apart (by simp [unheededEntry, entry, dealingRows, deliveryRows]))
  | accepted _ reduced committed _ fired =>
    refine (commit_hushed spares timers reduced committed).trans
      ((noted_hushed apart ?_).trans (fireConditionals_hushed fired))
    cases h : event.triggersAgent <;>
      simp [observedEntry, acceptedType, entry, dealingRows, deliveryRows, h]

end Reports

end Dealings

section Steps

/-- The rows that tell of an allowance. -/
def meteredRows : List String :=
  ["agent_invoked", "retrieval_served", "retrieval_refused", "critical_violation"]

def callLimitCode : String := "INVOCATION_CALL_LIMIT_EXCEEDED"

/-- The entry tells of no allowance but that of invocations or of business turns. -/
def Plain (e : Entry) : Prop :=
  e.1 ∉ meteredRows ∨ ∃ code detail, e = violationEntry code detail ∧ code ≠ callLimitCode

def refusedBatchEntry (E : Engine σ) (s : EngineState σ) (batch : RawRequests) (turnIndex : ℕ)
    (code detail : String) : Entry :=
  entry "retrieval_refused" [("invocation_index", .int s.invocations),
    ("turn_index", .int turnIndex), ("request_count", .int (requestCount batch)),
    ("requested_tools", .ofTexts (knownTools batch E.domain.retrievalCatalogue)),
    ("code", .str code), ("detail", .str detail)]

/-- The agent is called inside an invocation. -/
structure Asks (E : Engine σ) (s s' : EngineState σ) (trigger : Option Event)
    (business turn : ℕ) : Prop where
  before : s.control = .turn trigger business turn
  allowed : turn < E.callLimit
  invocations : s'.invocations = s.invocations
  asked : ∃ observation, observation.invocationIndex = s.invocations ∧
    s'.asked = s.asked ++ [observation]

/-- What one step takes from the allowances. -/
inductive Spends (E : Engine σ) (s s' : EngineState σ) : Prop
  | idle (behind : s.control = .done) (same : s' = s)
  | passed {l : List Entry} (before : s.control = .head) (outside : s'.control.inTurn = false)
      (invocations : s'.invocations = s.invocations) (asked : s'.asked = s.asked)
      (batches : s'.retrievalBatches = s.retrievalBatches)
      (ledger : s'.ledger = s.ledger.extend s'.clock.now l) (plain : ∀ e ∈ l, Plain e)
  | invoked {l : List Entry} {trigger : Option Event} (before : s.control = .head)
      (allowed : s.invocations < E.plan.maxInvocations) (after : s'.control = .turn trigger 0 0)
      (invocations : s'.invocations = s.invocations + 1) (asked : s'.asked = s.asked)
      (batches : s'.retrievalBatches = 0)
      (ledger : ∃ invoked invalidated, s'.ledger = s.ledger.extend s'.clock.now
        (l ++ [entry "agent_invoked" invoked, entry "derived_context_invalidated" invalidated]))
      (plain : ∀ e ∈ l, Plain e)
  | exceeded {trigger : Option Event} {business turn : ℕ} {code detail : String}
      (before : s.control = .turn trigger business turn) (after : s'.control = .head)
      (overrun : code = callLimitCode →
        business < E.plan.maxTurnsPerInvocation ∧ E.callLimit ≤ turn)
      (invocations : s'.invocations = s.invocations) (asked : s'.asked = s.asked)
      (batches : s'.retrievalBatches = s.retrievalBatches)
      (ledger : s'.ledger = s.ledger.extend s'.clock.now [violationEntry code detail])
  | refused {trigger : Option Event} {business turn : ℕ} {batch : RawRequests}
      {code detail : String} (asks : E.Asks s s' trigger business turn)
      (after : s'.control = .turn trigger business (turn + 1))
      (batches : s'.retrievalBatches = s.retrievalBatches)
      (ledger : s'.ledger = s.ledger.extend s'.clock.now
        [refusedBatchEntry E s batch turn code detail])
  | served {trigger : Option Event} {business turn : ℕ} (results : List ToolResult)
      (asks : E.Asks s s' trigger business turn)
      (after : s'.control = .turn trigger business (turn + 1))
      (remaining : s.retrievalBatches < E.plan.maxRetrievalBatchesPerInvocation)
      (batches : s'.retrievalBatches = s.retrievalBatches + 1)
      (ledger : s'.ledger = s.ledger.extend s'.clock.now
        (results.zipIdx.map (servedEntry s turn s.retrievalBatches)))
  | answered {l : List Entry} {trigger : Option Event} {business turn : ℕ}
      (asks : E.Asks s s' trigger business turn)
      (after : s'.control = .head ∨ s'.control = .turn trigger (business + 1) (turn + 1))
      (batches : s'.retrievalBatches = s.retrievalBatches)
      (ledger : s'.ledger = s.ledger.extend s'.clock.now l) (plain : ∀ e ∈ l, Plain e)

/-- A batch is accepted only while there is allowance for it. -/
theorem remaining_of_batch {requests : RawRequests} {catalogue : Catalogue} {remaining : Int}
    {accepted : List RetrievalRequest}
    (h : retrievalBatchProblem requests catalogue remaining = .ok accepted) : 0 < remaining := by
  unfold retrievalBatchProblem at h
  split at h
  · cases h
  · obtain ⟨read, _, h⟩ := bind_ok h
    obtain ⟨_, h⟩ := unless_ok h
    obtain ⟨keyed, _, h⟩ := bind_ok h
    obtain ⟨_, h⟩ := unless_ok h
    obtain ⟨_, h⟩ := unless_ok h
    obtain ⟨_, h⟩ := unless_ok h
    obtain ⟨_, _, h⟩ := bind_ok h
    obtain ⟨hr, _⟩ := unless_ok h
    omega

theorem observation_index {trigger : Option Event} {turn : ℕ} {observation : AgentObservation}
    (h : E.observation s trigger turn = .ok observation) :
    observation.invocationIndex = s.invocations := by
  obtain ⟨schemas, _, h⟩ := bind_ok h
  exact pure_ok h ▸ rfl

theorem Waited.hushed {wait : Wait} {ended : Bool} (h : E.Waited s wait ended s') :
    Hushed meteredRows s s' := by
  cases h with
  | refused =>
    refine ⟨rfl, rfl, rfl, rfl, rfl, _, rfl, fun e he => ?_⟩
    obtain rfl := List.mem_singleton.mp he
    simp [entry, meteredRows]
  | standing =>
    refine ⟨rfl, rfl, rfl, rfl, rfl, _, rfl, fun e he => ?_⟩
    obtain rfl := List.mem_singleton.mp he
    simp [entry, meteredRows]

theorem Handled.hushed (spares : E.domain.Spares meteredRows) {outcome : AgentOutcome}
    {ended : Bool} (h : E.Handled s outcome ended s') : Hushed meteredRows s s' := by
  have apart : ∀ t ∈ proposalRows, t ∉ meteredRows := by decide
  cases h with
  | wait waited => exact waited.hushed
  | complete concluded => exact concluded.hushed spares apart
  | act proposed => exact proposed.hushed spares apart
  | ask proposed waited => exact (proposed.hushed spares apart).trans waited.hushed
  | unasked proposed => exact proposed.hushed spares apart
  | escalate proposed waited => exact (proposed.hushed spares apart).trans waited.hushed
  | unescalated proposed => exact proposed.hushed spares apart

theorem Batched.spends {trigger : Option Event} {business turn : ℕ}
    {observation : AgentObservation} {batch : RawRequests}
    (h : E.Batched (asking s observation turn) batch turn t)
    (asks : ∀ u : EngineState σ, u.invocations = s.invocations →
      u.asked = s.asked ++ [observation] → E.Asks s u trigger business turn) :
    E.Spends s { t with control := .turn trigger business (turn + 1) } := by
  cases h with
  | refused => exact .refused (asks _ rfl rfl) rfl rfl rfl
  | served checked answered =>
    rename_i requests results
    have ha := serving_account results
      { asking s observation turn with retrievalBatches := s.retrievalBatches + 1 }
    have hledger := (serving_frame results
      { asking s observation turn with retrievalBatches := s.retrievalBatches + 1 }).2.2.1
    have hremaining := remaining_of_batch checked
    refine .served results (asks _ ?_ ?_) rfl ?_ ?_ ?_
    · exact congrArg Account.invocations ha
    · exact congrArg Account.asked ha
    · change 0 < E.plan.maxRetrievalBatchesPerInvocation - (s.retrievalBatches : Int) at hremaining
      omega
    · exact congrArg Account.retrievalBatches ha
    · exact congrArg (TrajectoryLedger.extend · _ _) hledger

theorem turnStep_spends (spares : E.domain.Spares meteredRows) {trigger : Option Event}
    {business turn : ℕ} (hc : s.control = .turn trigger business turn)
    (h : E.turnStep s trigger business turn = .ok s') : E.Spends s s' := by
  unfold turnStep at h
  split at h
  · obtain ⟨t, ht, h⟩ := bind_ok h
    obtain rfl := refuseInvocation_write ht
    exact pure_ok h ▸ .exceeded hc rfl (by simp [callLimitCode]) rfl rfl rfl rfl
  rename_i hb
  split at h
  · rename_i hl
    obtain ⟨t, ht, h⟩ := bind_ok h
    obtain rfl := refuseInvocation_write ht
    exact pure_ok h ▸ .exceeded hc rfl (fun _ => ⟨by simpa using hb, hl⟩) rfl rfl rfl rfl
  rename_i hl
  obtain ⟨observation, ho, h⟩ := bind_ok h
  obtain ⟨answer, ha, h⟩ := bind_ok h
  have hask : ∀ u : EngineState σ, u.invocations = s.invocations →
      u.asked = s.asked ++ [observation] → E.Asks s u trigger business turn := fun u hi hu =>
    ⟨hc, by omega, hi, observation, observation_index ho, hu⟩
  split at h
  · obtain ⟨t, ht, h⟩ := bind_ok h
    obtain rfl := pure_ok h
    exact (serveBatch_batched ht).spends hask
  · split at h
    · cases h
    · obtain ⟨t, ht, h⟩ := bind_ok h
      obtain ⟨u, hu, ht⟩ := bind_ok ht
      obtain rfl := log_write hu
      obtain rfl := pure_ok ht
      refine pure_ok h ▸ .answered (hask _ rfl rfl) (Or.inr rfl) rfl rfl fun e he => ?_
      obtain rfl := List.mem_singleton.mp he
      exact Or.inl (by simp [entry, meteredRows])
    · rename_i outcome _
      obtain ⟨s₀, h₀, h⟩ := bind_ok h
      obtain rfl := log_write h₀
      obtain ⟨⟨ended, t⟩, ht, h⟩ := bind_ok h
      obtain rfl := pure_ok h
      have hrow : Hushed meteredRows (asking s observation turn)
          ((asking s observation turn).write [outcomeEntry s turn outcome]) := by
        refine .write fun e he => ?_
        obtain rfl := List.mem_singleton.mp he
        simp [outcomeEntry, entry, meteredRows]
      have hh := hrow.trans ((handle_handled ht).hushed spares)
      obtain ⟨l, hl, hplain⟩ := hh.page
      refine .answered (l := l) (hask _ hh.invocations hh.asked) ?_ hh.retrievalBatches ?_
        fun e he => Or.inl (hplain e he)
      · cases ended with
        | true => exact Or.inl rfl
        | false => exact Or.inr rfl
      · exact hl.trans (congrArg (TrajectoryLedger.extend _ ·.now _) hh.clock.symm)

/-- A wake that the wait did not declare is noted in a row that is not metered. -/
theorem wakeEntries_unmetered {event : Event} {e : Entry} (he : e ∈ wakeEntries s event) :
    e.1 ∉ meteredRows := by
  unfold wakeEntries at he
  split at he
  · cases he
  · split at he
    · cases he
    · obtain rfl := List.mem_singleton.mp he
      simp [entry, meteredRows]

theorem extend_extended {ledger ledger' : TrajectoryLedger} {now : String} {l l' : List Entry}
    (h : ledger' = ledger.extend now l) : ledger'.extend now l' = ledger.extend now (l ++ l') := by
  rw [h, extend_append]

/-- A pass that opens no invocation may as well be the last one. -/
theorem Spends.done (h : E.Spends s s') (hc : s.control = .head)
    (outside : s'.control.inTurn = false) : E.Spends s { s' with control := .done } := by
  cases h with
  | idle before => exact Control.noConfusion (hc.symm.trans before)
  | passed _ _ invocations asked batches ledger plain =>
    exact .passed hc rfl invocations asked batches ledger plain
  | invoked _ _ after =>
    rw [after] at outside
    cases outside
  | exceeded before => exact Control.noConfusion (hc.symm.trans before)
  | refused asks => exact Control.noConfusion (hc.symm.trans asks.before)
  | served _ asks => exact Control.noConfusion (hc.symm.trans asks.before)
  | answered asks => exact Control.noConfusion (hc.symm.trans asks.before)

/-- The agent is called for after plain rows were written and the clock moved on. -/
theorem Summoned.spends {trigger : Option Event} {spent : Bool} {l : List Entry}
    (h : E.Summoned t trigger spent s') (hc : s.control = .head) (control : t.control = s.control)
    (invocations : t.invocations = s.invocations) (asked : t.asked = s.asked)
    (batches : t.retrievalBatches = s.retrievalBatches)
    (ledger : t.ledger = s.ledger.extend t.clock.now l) (plain : ∀ e ∈ l, Plain e) :
    E.Spends s s' := by
  cases h with
  | spent =>
    rename_i detail _
    refine .passed (l := l ++ [violationEntry "INVOCATION_LIMIT_EXCEEDED" detail]) hc ?_
      invocations asked batches ?_ fun e he => ?_
    · exact (congrArg Control.inTurn (control.trans hc)).trans rfl
    · exact extend_extended ledger
    · rcases List.mem_append.mp he with he | he
      · exact plain e he
      · exact Or.inr ⟨_, _, List.mem_singleton.mp he, by simp [callLimitCode]⟩
  | invoked allowed =>
    exact .invoked (l := l) hc (invocations ▸ allowed) rfl (congrArg (· + 1) invocations) asked
      rfl ⟨_, _, extend_extended ledger⟩ plain

theorem Passed.spends (spares : E.domain.Spares meteredRows) (hc : s.control = .head)
    (h : E.Passed s s') : E.Spends s s' := by
  have apart : ∀ t ∈ dealingRows, t ∉ meteredRows := by decide
  cases h with
  | stopped => exact .passed (l := []) hc rfl rfl rfl rfl rfl nofun
  | horizon => exact .passed (l := []) hc rfl rfl rfl rfl rfl nofun
  | empty => exact .passed (l := []) hc rfl rfl rfl rfl rfl nofun
  | unresolved =>
    refine .passed hc rfl rfl rfl rfl rfl fun e he => ?_
    obtain rfl := List.mem_singleton.mp he
    exact Or.inl (by simp [entry, meteredRows])
  | fallback _ _ _ summoned =>
    rename_i queue clock instant spent t _ _ _
    have hplain : ∀ e ∈ [entry "wait_declared" [("fallback_fired", .bool true)]], Plain e := by
      intro e he
      obtain rfl := List.mem_singleton.mp he
      exact Or.inl (by simp [entry, meteredRows])
    have hspends := summoned.spends hc rfl rfl rfl rfl rfl hplain
    cases spent with
    | false => exact hspends
    | true =>
      refine hspends.done hc ?_
      cases summoned
      exact (congrArg Control.inTurn hc).trans rfl
  | delivery _ _ _ arrived =>
    rename_i event _ _ _
    cases arrived with
    | silent reported =>
      have hh := reported.hushed spares apart
      obtain ⟨l, hl, hplain⟩ := hh.page
      refine .passed hc ?_ hh.invocations hh.asked hh.retrievalBatches
        (hl.trans ?_) fun e he => Or.inl (hplain e he)
      · exact (congrArg Control.inTurn (hh.control.trans hc)).trans rfl
      · rw [hh.clock]
    | summons reported live summoned triggers heard =>
      rename_i t spent
      have hwake : Hushed meteredRows t (t.write (wakeEntries t event)) :=
        .write fun e he => wakeEntries_unmetered he
      have hh := (reported.hushed spares apart).trans hwake
      obtain ⟨l, hl, hplain⟩ := hh.page
      exact summoned.spends hc hh.control hh.invocations hh.asked hh.retrievalBatches
        (hl.trans (by rw [hh.clock])) fun e he => Or.inl (hplain e he)

theorem step_spends (spares : E.domain.Spares meteredRows) (h : E.step s = .ok s') :
    E.Spends s s' := by
  unfold step at h
  split at h
  · rename_i hc
    exact (headStep_passed hc h).spends spares hc
  · rename_i hc
    exact turnStep_spends spares hc h
  · rename_i hc
    exact .idle hc (Except.ok.inj h).symm

end Steps

end Engine

end OperateBench
