import OperateBench.Core.Projection

/-! # What a refusal says

An agent is told of the last refusal on record, while nothing has settled it. The read guard
refuses under three codes, for a claim that no record bears out, for a read that is no longer in
force and for one that was never made. What it goes by is what the trajectory says was read and
claimed, so that the code of a refusal can be checked against the trajectory.
-/

namespace OperateBench

open Foundation

namespace Engine

open EngineState

section Told

variable {σ : Type} {E : Engine σ} {s s' t : EngineState σ} {accepted : Bool}

/-- What was refused in the row, if it tells of a refusal that the agent hears of. -/
def refusalSubject (row : Record) : Option String :=
  if row.recordType = "action_rejected" then some (row.payload.text "action_type")
  else if row.recordType = "terminal_rejected" then some completeOutcomeKey
  else if row.recordType = "wait_rejected" ∧ row.payload.contains "event_id" = false then
    some "wait"
  else if row.recordType = "retrieval_refused" then some "retrieve"
  else if row.recordType = "outcome_rejected" then some "<malformed outcome>"
  else none

/-- The rows after which no refusal stands. -/
def settlingRows : List String := ["agent_invoked", "effect_accepted", "terminal_proposed"]

def refusalRows : List String :=
  settlingRows ++ ["action_rejected", "terminal_rejected", "wait_rejected", "retrieval_refused",
    "outcome_rejected"]

/-- What one row makes of the refusal that stands. -/
def refusalAfter (refusal : Option Rejection) (row : Record) : Option Rejection :=
  if row.recordType ∈ settlingRows then none
  else match refusalSubject row with
    | some subject => some ⟨subject, row.payload.text "code", row.payload.text "detail"⟩
    | none => refusal

/-- The last refusal, unless something was accepted or a new invocation opened since. -/
def standingRefusal (R : List Record) : Option Rejection := R.foldl refusalAfter none

/-- The agent is told of the refusal that stands in the record. -/
def Tells (s : EngineState σ) : Prop := s.lastRejection = standingRefusal s.ledger.records

variable {R : List Record} {row : Record} {refusal : Option Rejection} {now : String}
  {e : Entry} {es : List Entry}

theorem standingRefusal_append (R R' : List Record) :
    standingRefusal (R ++ R') = R'.foldl refusalAfter (standingRefusal R) := List.foldl_append

theorem refusalAfter_quiet (h : row.recordType ∉ refusalRows) :
    refusalAfter refusal row = refusal := by
  simp only [refusalRows, settlingRows, List.mem_append, List.mem_cons, List.not_mem_nil,
    or_false, not_or] at h
  simp [refusalAfter, refusalSubject, settlingRows, h]

theorem refusals_quiet (hquiet : ∀ e ∈ es, e.1 ∉ refusalRows) (start : ℕ) :
    (numbered start now es).foldl refusalAfter refusal = refusal :=
  foldl_numbered start fun e he _ => refusalAfter_quiet (hquiet e he)

/-- A row about a refusal replaces whatever stood. -/
theorem refusalAfter_refused {subject code detail : String} (hother : e.1 ∉ settlingRows)
    (hsubject : ∀ first, refusalSubject (e.row first now) = some subject)
    (hcode : e.2.get "code" = .str code) (hdetail : e.2.get "detail" = .str detail)
    (refusal : Option Rejection) (first : ℕ) :
    refusalAfter refusal (e.row first now) = some ⟨subject, code, detail⟩ := by
  have hcode' : e.2.text "code" = code := congrArg Value.text hcode
  have hdetail' : e.2.text "detail" = detail := congrArg Value.text hdetail
  have hrow : (e.row first now).recordType ∉ settlingRows := hother
  rw [refusalAfter, if_neg hrow, hsubject]
  exact congrArg some (congrArg₂ (Rejection.mk subject) hcode' hdetail')

namespace Tells

theorem same (h : Tells s) (hrefusal : t.lastRejection = s.lastRejection)
    (hledger : t.ledger = s.ledger) : Tells t := by
  rw [Tells, hrefusal, hledger]
  exact h

theorem quiet (h : Tells s) (hrefusal : t.lastRejection = s.lastRejection)
    (hledger : t.ledger = s.ledger.extend now es) (hes : ∀ e ∈ es, e.1 ∉ refusalRows) :
    Tells t := by
  rw [Tells, hrefusal, hledger, records_extend, standingRefusal_append, refusals_quiet hes]
  exact h

/-- What the first row of a page settles stands behind the page. -/
theorem settled {l : List Entry} (hledger : t.ledger = s.ledger.extend now (e :: l))
    (hfirst : ∀ refusal first, refusalAfter refusal (e.row first now) = t.lastRejection)
    (hrest : ∀ e ∈ l, e.1 ∉ refusalRows) : Tells t := by
  rw [Tells, hledger, records_extend, standingRefusal_append, numbered, List.foldl_cons,
    refusals_quiet hrest]
  exact (hfirst _ _).symm

/-- A refusal that is on record is told. -/
theorem refused {subject code detail : String} (hledger : t.ledger = s.ledger.extend now [e])
    (hrefusal : t.lastRejection = some ⟨subject, code, detail⟩) (hother : e.1 ∉ settlingRows)
    (hsubject : ∀ first, refusalSubject (e.row first now) = some subject)
    (hcode : e.2.get "code" = .str code) (hdetail : e.2.get "detail" = .str detail) : Tells t := by
  refine settled hledger (fun refusal first => ?_) (List.forall_mem_nil _)
  rw [hrefusal]
  exact refusalAfter_refused hother hsubject hcode hdetail refusal first

theorem refusing {proposal : ℕ} {actionType code detail : String} :
    Tells (refusing s proposal actionType code detail) := by
  have hsubject : (rejectedEntry proposal actionType code detail).2.text "action_type" =
      actionType :=
    congrArg Value.text (Fields.get_ofList (v := .str actionType) (by simp) (by simp))
  refine refused rfl rfl ?_ ?_ ?_ ?_
  · simp [rejectedEntry, entry, settlingRows]
  · intro first
    exact congrArg some hsubject
  · exact Fields.get_ofList (by simp) (by simp)
  · exact Fields.get_ofList (by simp) (by simp)

theorem denying {code detail : String} : Tells (denying s code detail) := by
  refine refused rfl rfl ?_ ?_ ?_ ?_
  · simp [deniedEntry, entry, settlingRows]
  · intro first
    rfl
  · exact Fields.get_ofList (by simp) (by simp)
  · exact Fields.get_ofList (by simp) (by simp)

theorem accepting {proposal : ℕ} {actionType : String} {verdict : Verdict} :
    Tells (accepting s proposal actionType verdict) := by
  refine settled (l := [invalidatedEntry s .effectAccepted s.turnIndex (some actionType)]) rfl
    ?_ ?_
  · intro refusal first
    exact if_pos (by simp [effectEntry, entry, Entry.row, settlingRows])
  · simp [invalidatedEntry, entry, refusalRows, settlingRows]

theorem fire (h : Tells s) {kind : TriggerKind} {typeName : String} {cycleId : Option String}
    {bindings : Bindings} (fired : s.fireConditionals kind typeName cycleId bindings = .ok s') :
    Tells s' := by
  obtain ⟨conditionals, queue, rfl⟩ := fireConditionals_ok fired
  exact h.same rfl rfl

end Tells

variable (spares : E.domain.Spares refusalRows)

include spares in
theorem standingRefusal_commit {call : OperateBench.Call} {state : σ} {reduction : Reduction σ}
    (reduced : E.domain.reduce call state = .ok reduction)
    (committed : s.commit reduction = .ok t) : t.lastRejection = s.lastRejection ∧
      standingRefusal t.ledger.records = standingRefusal s.ledger.records := by
  obtain ⟨queue, timerCounter, es, hes, rfl⟩ := commit_ok committed
  refine ⟨rfl, ?_⟩
  rw [records_write, standingRefusal_append, refusals_quiet]
  intro e he
  rcases hes.source he with hr | ht | ht
  · exact spares _ _ _ reduced _ _ hr
  · exact ht ▸ (by decide)
  · exact ht ▸ (by decide)

include spares in
theorem Tells.commit {call : OperateBench.Call} {state : σ} {reduction : Reduction σ}
    (h : Tells s) (reduced : E.domain.reduce call state = .ok reduction)
    (committed : s.commit reduction = .ok t) : Tells t := by
  obtain ⟨hrefusal, hstanding⟩ := standingRefusal_commit spares reduced committed
  rw [Tells, hrefusal, hstanding]
  exact h

theorem Proposed.tells {actionType : String} {payload : Fields} {evidenceRefs : List String}
    (proposed : E.Proposed s actionType payload evidenceRefs accepted s') : Tells s' := by
  cases proposed with
  | stopped | refused => exact .refusing
  | accepted _ _ _ _ fired => exact Tells.fire .accepting fired

include spares in
theorem Concluded.tells {outcome : Complete} (concluded : E.Concluded s outcome accepted s') :
    Tells s' := by
  cases concluded with
  | stopped | refused => exact .denying
  | accepted _ reduced committed _ fired =>
    obtain ⟨-, hstanding⟩ := standingRefusal_commit spares reduced committed
    refine Tells.fire ?_ fired
    rw [Tells, hstanding, concluding, records_write, standingRefusal_append]
    rfl

theorem Waited.tells {wait : Wait} (waited : E.Waited s wait accepted s') (h : Tells s) :
    Tells s' := by
  cases waited with
  | refused =>
    refine Tells.refused rfl rfl ?_ ?_ ?_ ?_
    · simp [entry, settlingRows]
    · intro first
      rfl
    · exact Fields.get_ofList (by simp) (by simp)
    · exact Fields.get_ofList (by simp) (by simp)
  | standing => exact h.quiet rfl rfl (by simp [entry, refusalRows, settlingRows])

include spares in
theorem Handled.tells {outcome : AgentOutcome} (handled : E.Handled s outcome accepted s')
    (h : Tells s) : Tells s' := by
  cases handled with
  | wait waited => exact waited.tells h
  | complete concluded => exact concluded.tells spares
  | act proposed => exact proposed.tells
  | ask proposed waited => exact waited.tells proposed.tells
  | unasked proposed => exact proposed.tells
  | escalate proposed waited => exact waited.tells proposed.tells
  | unescalated proposed => exact proposed.tells

theorem serving_refusal (results : List ToolResult) (s : EngineState σ) :
    (results.foldl serving s).lastRejection = s.lastRejection := by
  induction results generalizing s with
  | nil => rfl
  | cons result results ih =>
    rw [List.foldl_cons, ih]
    unfold serving
    split <;> rfl

theorem Batched.tells {batch : RawRequests} {turn : ℕ} (batched : E.Batched s batch turn s')
    (h : Tells s) : Tells s' := by
  cases batched with
  | refused =>
    refine Tells.refused rfl rfl ?_ ?_ ?_ ?_
    · simp [entry, settlingRows]
    · intro first
      rfl
    · exact Fields.get_ofList (by simp) (by simp)
    · exact Fields.get_ofList (by simp) (by simp)
  | served =>
    rename_i results _ _
    obtain ⟨_, _, hledger, _, _⟩ :=
      serving_frame results { s with retrievalBatches := s.retrievalBatches + 1 }
    have hserved : Tells
        (results.foldl serving { s with retrievalBatches := s.retrievalBatches + 1 }) :=
      h.same (serving_refusal results _) hledger
    refine hserved.quiet rfl rfl fun e he => ?_
    obtain ⟨result, -, rfl⟩ := List.mem_map.mp he
    simp [servedEntry, refusalRows, settlingRows]

theorem Summoned.tells {trigger : Option Event} (summoned : E.Summoned s trigger accepted s')
    (h : Tells s) : Tells s' := by
  cases summoned with
  | spent => exact h.quiet rfl rfl (by simp [violationEntry, entry, refusalRows, settlingRows])
  | invoked =>
    refine Tells.settled (l := [invalidatedEntry (waking E s trigger) .wake 0 none]) rfl ?_ ?_
    · intro refusal first
      exact if_pos (by simp [invokedEntry, entry, Entry.row, settlingRows])
    · simp [invalidatedEntry, entry, refusalRows, settlingRows]

include spares in
theorem Reported.tells {event : Event} (reported : E.Reported s event s') (h : Tells s) :
    Tells s' := by
  cases reported with
  | late => exact h.quiet rfl rfl (by simp [lateEntry, entry, refusalRows, settlingRows])
  | rejected _ reduced committed _ =>
    exact (h.commit spares reduced committed).quiet rfl rfl
      (by simp [unheededEntry, entry, refusalRows, settlingRows])
  | accepted _ reduced committed _ fired =>
    refine Tells.fire (s := observing _ _ _) ?_ fired
    refine (h.commit spares reduced committed).quiet rfl rfl ?_
    cases ht : event.triggersAgent <;>
      simp [observedEntry, acceptedType, entry, refusalRows, settlingRows, ht]

/-- A wake that no wait declared is on record, and the agent is not told of it. -/
theorem Tells.wake (h : Tells s) (event : Event) : Tells (s.write (wakeEntries s event)) := by
  rw [Tells, records_write, standingRefusal_append, foldl_numbered]
  · exact h
  · intro e he first
    unfold wakeEntries at he
    split at he
    · cases he
    · split at he
      · cases he
      · obtain rfl := List.mem_singleton.mp he
        rfl

include spares in
/-- One step keeps the agent told of the refusal that stands. -/
theorem step_tells (h : Tells s) (hs : E.step s = .ok s') : Tells s' := by
  unfold step at hs
  split at hs
  · rename_i hc
    cases headStep_passed hc hs with
    | stopped | horizon | empty => exact h.same rfl rfl
    | unresolved => exact h.quiet rfl rfl (by simp [entry, refusalRows, settlingRows])
    | fallback _ _ _ summoned =>
      refine Tells.same (summoned.tells (h.quiet rfl rfl ?_)) rfl rfl
      simp [entry, refusalRows, settlingRows]
    | delivery _ _ _ arrived =>
      cases arrived with
      | silent reported => exact reported.tells spares (h.same rfl rfl)
      | summons reported _ summoned =>
        exact summoned.tells ((reported.tells spares (h.same rfl rfl)).wake _)
  · cases turnStep_turned hs with
    | spent => exact h.quiet rfl rfl (by simp [violationEntry, entry, refusalRows, settlingRows])
    | read _ batched => exact (batched.tells (h.same rfl rfl)).same rfl rfl
    | malformed =>
      refine Tells.refused rfl rfl ?_ ?_ ?_ ?_
      · simp [entry, settlingRows]
      · intro first
        rfl
      · exact Fields.get_ofList (by simp) (by simp)
      · exact Fields.get_ofList (by simp) (by simp)
    | answered _ _ handled =>
      refine Tells.same (handled.tells spares (h.quiet rfl rfl ?_)) rfl rfl
      simp [outcomeEntry, entry, refusalRows, settlingRows]
  · exact Except.ok.inj hs ▸ h

theorem start_tells (h : E.start = .ok s) : Tells s := by
  obtain ⟨clock, _, h⟩ := bind_ok h
  obtain ⟨queue, _, h⟩ := bind_ok h
  rw [log_write h, Tells, records_write, standingRefusal_append, refusals_quiet]
  · rfl
  · simp [entry, refusalRows, settlingRows]

variable {s₀ : EngineState σ} {P : EngineState σ → Prop}

include spares in
/-- An observation tells of the last refusal in the record, and of none that came before an
accepted outcome or before the invocation. -/
theorem told_of_refusal (h₀ : E.start = .ok s₀) (h : E.RunsVia P s₀ s)
    {observation : AgentObservation} (hoffers : Offers E s observation) :
    observation.lastRejection = (standingRefusal s.ledger.records).map Rejection.asDict := by
  have htells : Tells s := Run.invariant h (start_tells h₀) fun s _ _ hs _ hstep =>
    step_tells spares hs hstep
  obtain ⟨trigger, business, turn, _, h⟩ := hoffers
  obtain ⟨schemas, _, h⟩ := bind_ok h
  obtain rfl := pure_ok h
  exact congrArg (Option.map Rejection.asDict) htells

theorem readThenClosed_told : ∃ s observation, Offers readThenClosed s observation ∧
    observation.lastRejection.isSome = true ∧ observation.lastRejection =
      (standingRefusal s.ledger.records).map Rejection.asDict := by
  obtain ⟨s₀, h₀, hc⟩ := ok_of_any (x := readThenClosed.start)
    (p := fun s₀ => (readThenClosed.runSteps 3 s₀).toOption.any fun s => match s.control with
      | .turn trigger _ turn => (readThenClosed.observation s trigger turn).toOption.any
          fun observation => observation.lastRejection.isSome
      | _ => false) (by decide +kernel)
  obtain ⟨s, hs, hc⟩ := ok_of_any hc
  split at hc
  · rename_i trigger business turn hcontrol
    obtain ⟨observation, hobservation, htold⟩ := ok_of_any hc
    have hoffers : Offers readThenClosed s observation :=
      ⟨trigger, business, turn, hcontrol, hobservation⟩
    exact ⟨s, observation, hoffers, htold,
      told_of_refusal gatedLatch_spares h₀ (runSteps_runs hs) hoffers⟩
  · cases hc

end Told

section Memory

variable {σ : Type} {E : Engine σ} {s s' t : EngineState σ} {accepted : Bool}

/-- What the read guard goes by apart from the reads in force: all that was ever read, and what the
event that woke the agent claimed under which authority. -/
structure Memory where
  read : Dict String String
  claims : Value
  authoritative : Value

def memoryAfter (memory : Memory) (row : Record) : Memory :=
  if row.recordType = "agent_invoked" then
    ⟨memory.read, row.get "trigger_claim_values", row.get "trigger_is_authoritative"⟩
  else if row.recordType = "retrieval_served" ∧ (row.get "ok").truthy = true then
    { memory with
      read := memory.read.set (row.payload.text "tool") (row.payload.text "record_version") }
  else memory

/-- What the record says of it. -/
def remembered (R : List Record) : Memory :=
  R.foldl memoryAfter ⟨Dict.empty, .ofTexts [], .bool false⟩

/-- What the engine keeps of it. -/
def memoryOf (s : EngineState σ) : Memory :=
  ⟨s.readHistory, .ofTexts (sortTexts s.claimValues), .bool s.triggerIsAuthoritative⟩

def Remembers (s : EngineState σ) : Prop := memoryOf s = remembered s.ledger.records

/-- The rows that it is remembered from. -/
def memoryRows : List String := ["agent_invoked", "retrieval_served"]

variable {row : Record} {memory : Memory} {now : String} {es : List Entry}

theorem memoryAfter_quiet (h : row.recordType ∉ memoryRows) : memoryAfter memory row = memory := by
  simp only [memoryRows, List.mem_cons, List.not_mem_nil, or_false, not_or] at h
  simp [memoryAfter, h]

theorem remembered_append (R R' : List Record) :
    remembered (R ++ R') = R'.foldl memoryAfter (remembered R) := List.foldl_append

theorem remembered_quiet {R : List Record} (hes : ∀ e ∈ es, e.1 ∉ memoryRows) (start : ℕ) :
    remembered (R ++ numbered start now es) = remembered R := by
  rw [remembered_append]
  exact foldl_numbered start fun e he _ => memoryAfter_quiet (hes e he)

namespace Remembers

theorem quiet (h : Remembers s) (hmemory : memoryOf t = memoryOf s)
    (hledger : t.ledger = s.ledger.extend now es) (hes : ∀ e ∈ es, e.1 ∉ memoryRows) :
    Remembers t := by
  rw [Remembers, hmemory, hledger, records_extend, remembered_quiet hes]
  exact h

theorem hushed (h : Remembers s) (hmemory : memoryOf t = memoryOf s)
    (hhushed : Hushed meteredRows s t) : Remembers t := by
  obtain ⟨l, hledger, hl⟩ := hhushed.page
  have hrows : memoryRows ⊆ meteredRows := by decide
  exact h.quiet hmemory hledger fun e he hrow => hl e he (hrows hrow)

theorem same (h : Remembers s) (hmemory : memoryOf t = memoryOf s) (hledger : t.ledger = s.ledger) :
    Remembers t := by
  rw [Remembers, hmemory, hledger]
  exact h

end Remembers

section Frames

theorem memoryOf_commit {reduction : Reduction σ} (h : s.commit reduction = .ok t) :
    memoryOf t = memoryOf s := by
  obtain ⟨queue, timerCounter, es, _, rfl⟩ := commit_ok h
  rfl

theorem memoryOf_fire {kind : TriggerKind} {typeName : String} {cycleId : Option String}
    {bindings : Bindings} (h : s.fireConditionals kind typeName cycleId bindings = .ok s') :
    memoryOf s' = memoryOf s := by
  obtain ⟨conditionals, queue, rfl⟩ := fireConditionals_ok h
  rfl

theorem Proposed.memoryOf {actionType : String} {payload : Fields} {evidenceRefs : List String}
    (h : E.Proposed s actionType payload evidenceRefs accepted s') :
    memoryOf s' = memoryOf s := by
  cases h with
  | stopped => rfl
  | refused _ _ committed _ =>
    have hkept := memoryOf_commit committed
    exact hkept
  | accepted _ _ committed _ fired =>
    have hkept := memoryOf_commit committed
    exact (memoryOf_fire fired).trans hkept

theorem Concluded.memoryOf {outcome : Complete} (h : E.Concluded s outcome accepted s') :
    memoryOf s' = memoryOf s := by
  cases h with
  | stopped => rfl
  | refused _ _ committed _ =>
    have hkept := memoryOf_commit committed
    exact hkept
  | accepted _ _ committed _ fired =>
    have hkept := memoryOf_commit committed
    exact (memoryOf_fire fired).trans hkept

theorem Waited.memoryOf {wait : Wait} (h : E.Waited s wait accepted s') :
    memoryOf s' = memoryOf s := by
  cases h <;> rfl

theorem Handled.memoryOf {outcome : AgentOutcome} (h : E.Handled s outcome accepted s') :
    memoryOf s' = memoryOf s := by
  cases h with
  | wait waited => exact waited.memoryOf
  | complete concluded => exact concluded.memoryOf
  | act proposed | unasked proposed | unescalated proposed => exact proposed.memoryOf
  | ask proposed waited => exact waited.memoryOf.trans proposed.memoryOf
  | escalate proposed waited => exact waited.memoryOf.trans proposed.memoryOf

theorem Reported.memoryOf {event : Event} (h : E.Reported s event s') :
    memoryOf s' = memoryOf s := by
  cases h with
  | late => rfl
  | rejected _ _ committed _ =>
    have hkept := memoryOf_commit committed
    exact hkept
  | accepted _ _ committed _ fired =>
    have hkept := memoryOf_commit committed
    exact (memoryOf_fire fired).trans hkept

end Frames

/-- A result that is recorded is remembered when it is a good one. -/
theorem memory_serve {u : EngineState σ} {turn batch index first : ℕ} (result : ToolResult)
    (s : EngineState σ) :
    memoryAfter (memoryOf s) (Entry.row (servedEntry u turn batch (result, index)) first now) =
      memoryOf (serving s result) := by
  obtain ⟨hok, htool, hversion⟩ :=
    servedEntry_tells u now turn batch first (result, index)
  have hother : (Entry.row (servedEntry u turn batch (result, index)) first now).recordType ≠
      "agent_invoked" := by
    simp [Entry.row, servedEntry]
  rw [memoryAfter, if_neg hother, hok, serving]
  cases result.ok with
  | false => exact if_neg fun hgood => Bool.false_ne_true hgood.2
  | true =>
    rw [if_pos rfl, memoryOf, ← htool, ← hversion]
    exact if_pos ⟨rfl, rfl⟩

/-- The results of a batch are remembered one after the other. -/
theorem memory_serves {u : EngineState σ} {turn batch : ℕ} (results : List ToolResult)
    (s : EngineState σ) (index first : ℕ) : memoryOf (results.foldl serving s) =
      (numbered first now ((results.zipIdx index).map (servedEntry u turn batch))).foldl memoryAfter
        (memoryOf s) := by
  induction results generalizing s index first with
  | nil => rfl
  | cons result results ih =>
    have hfirst : memoryAfter (memoryOf s) ⟨first, now,
        (servedEntry u turn batch (result, index)).1,
        (servedEntry u turn batch (result, index)).2⟩ = memoryOf (serving s result) :=
      memory_serve result s
    rw [List.zipIdx_cons, List.map_cons, numbered, List.foldl_cons, List.foldl_cons, hfirst]
    exact ih _ _ _

section Steps

variable (metered : E.domain.Spares meteredRows)

include metered in
theorem Handled.remembers {outcome : AgentOutcome} (handled : E.Handled s outcome accepted s')
    (h : Remembers s) : Remembers s' := h.hushed handled.memoryOf (handled.hushed metered)

include metered in
theorem Reported.remembers {event : Event} (reported : E.Reported s event s') (h : Remembers s) :
    Remembers s' := h.hushed reported.memoryOf (reported.hushed metered (by decide))

/-- An invocation is remembered with the claims of the event that opens it. -/
theorem Summoned.remembers {trigger : Option Event} (summoned : E.Summoned s trigger accepted s')
    (h : Remembers s) : Remembers s' := by
  cases summoned with
  | spent => exact h.quiet rfl rfl (by simp [violationEntry, entry, memoryRows])
  | invoked =>
    have hclaims : (invokedEntry E (waking E s trigger) trigger).2.get "trigger_claim_values" =
        .ofTexts (sortTexts (waking E s trigger).claimValues) :=
      Fields.get_ofList (by simp) (by simp)
    have hauthority : (invokedEntry E (waking E s trigger) trigger).2.get
        "trigger_is_authoritative" = .bool (waking E s trigger).triggerIsAuthoritative :=
      Fields.get_ofList (by simp) (by simp)
    have hrow : memoryAfter (memoryOf s) ⟨s.ledger.records.length, s.clock.now,
        (invokedEntry E (waking E s trigger) trigger).1,
        (invokedEntry E (waking E s trigger) trigger).2⟩ = memoryOf (invoking E s trigger) :=
      (if_pos rfl).trans (congrArg₂ (Memory.mk _) hclaims hauthority)
    have hpages : (invoking E s trigger).ledger.records = (s.ledger.records ++
        [⟨s.ledger.records.length, s.clock.now, (invokedEntry E (waking E s trigger) trigger).1,
          (invokedEntry E (waking E s trigger) trigger).2⟩]) ++
        numbered (s.ledger.records.length + 1) s.clock.now
          [invalidatedEntry (waking E s trigger) .wake 0 none] := by
      rw [invoking, records_write, List.append_assoc]
      rfl
    rw [Remembers, hpages, remembered_quiet, remembered_append, ← h]
    · exact hrow.symm
    · simp [invalidatedEntry, entry, memoryRows]

theorem Remembers.wake (h : Remembers s) (event : Event) :
    Remembers (s.write (wakeEntries s event)) :=
  h.hushed rfl (.write fun _ => wakeEntries_unmetered)

theorem Batched.remembers {batch : RawRequests} {turn : ℕ} (batched : E.Batched s batch turn s')
    (h : Remembers s) : Remembers s' := by
  cases batched with
  | refused => exact h.quiet rfl rfl (by simp [entry, memoryRows])
  | served =>
    rename_i results _ _
    obtain ⟨_, _, hledger, _, _⟩ :=
      serving_frame results { s with retrievalBatches := s.retrievalBatches + 1 }
    rw [Remembers, records_write, remembered_append, hledger, ← h]
    exact memory_serves results _ 0 _

include metered in
/-- One step keeps in mind what the record says. -/
theorem step_remembers (h : Remembers s) (hs : E.step s = .ok s') : Remembers s' := by
  unfold step at hs
  split at hs
  · rename_i hc
    cases headStep_passed hc hs with
    | stopped | horizon | empty => exact h.same rfl rfl
    | unresolved => exact h.quiet rfl rfl (by simp [entry, memoryRows])
    | fallback _ _ _ summoned =>
      refine Remembers.same (summoned.remembers (h.quiet rfl rfl ?_)) rfl rfl
      simp [entry, memoryRows]
    | delivery _ _ _ arrived =>
      cases arrived with
      | silent reported => exact reported.remembers metered (h.same rfl rfl)
      | summons reported _ summoned =>
        exact summoned.remembers ((reported.remembers metered (h.same rfl rfl)).wake _)
  · cases turnStep_turned hs with
    | spent => exact h.quiet rfl rfl (by simp [violationEntry, entry, memoryRows])
    | read _ batched => exact (batched.remembers (h.same rfl rfl)).same rfl rfl
    | malformed => exact h.quiet rfl rfl (by simp [entry, memoryRows])
    | answered _ _ handled =>
      refine Remembers.same (handled.remembers metered (h.quiet rfl rfl ?_)) rfl rfl
      simp [outcomeEntry, entry, memoryRows]
  · exact Except.ok.inj hs ▸ h

theorem start_remembers (h : E.start = .ok s) : Remembers s := by
  obtain ⟨clock, _, h⟩ := bind_ok h
  obtain ⟨queue, _, h⟩ := bind_ok h
  rw [log_write h, Remembers, records_write, remembered_quiet]
  · rfl
  · simp [entry, memoryRows]

end Steps

end Memory

section Blame

variable {σ : Type} {E : Engine σ} {s₀ s : EngineState σ} {P : EngineState σ → Prop}

/-- What a refusal of the read guard under each of its codes says about what was read and
claimed. -/
inductive Blames (E : Engine σ) (s : EngineState σ) (reads : Dict String String) (memory : Memory)
    (outcomeKey : String) (evidenceRefs : List String) : String → Prop
  | claimed {tool ref : String} {claims : List String}
      (required : tool ∈ E.domain.readRequirements.requiredToolsFor outcomeKey)
      (unread : reads.contains tool = false)
      (settles : (E.domain.retrievalCatalogue.get? tool).map CatalogueEntry.authority =
        some Authority.authoritativeVerification)
      (cited : ref ∈ evidenceRefs) (carried : memory.claims = .ofTexts claims)
      (claimed : ref ∈ claims) (asserted : memory.authoritative = .bool false) :
      Blames E s reads memory outcomeKey evidenceRefs "ACTED_ON_CLAIM_WITHOUT_RECORD"
  | lapsed {tool : String} (required : tool ∈ E.domain.readRequirements.requiredToolsFor outcomeKey)
      (unread : reads.contains tool = false) (before : memory.read.contains tool = true) :
      Blames E s reads memory outcomeKey evidenceRefs "STALE_RETRIEVED_RECORD"
  | moved {results : List ToolResult} {result : ToolResult}
      (complete : ∀ tool ∈ E.domain.readRequirements.requiredToolsFor outcomeKey,
        reads.contains tool = true)
      (served : E.domain.serveRetrieval s.state
        ((E.domain.readRequirements.requiredToolsFor outcomeKey).map fun tool =>
          ⟨tool, Dict.empty⟩) s.clock.now = .ok results)
      (found : result ∈ results)
      (differs : result.ok = true →
        ∃ version, reads.get? result.tool = some version ∧ version ≠ result.recordVersion) :
      Blames E s reads memory outcomeKey evidenceRefs "STALE_RETRIEVED_RECORD"
  | unread {tool : String} (required : tool ∈ E.domain.readRequirements.requiredToolsFor outcomeKey)
      (unread : reads.contains tool = false)
      (never : ∀ tool ∈ E.domain.readRequirements.requiredToolsFor outcomeKey,
        reads.contains tool = false → memory.read.contains tool = false) :
      Blames E s reads memory outcomeKey evidenceRefs "ACTION_WITHOUT_RETRIEVAL"

theorem movedReads_cons {served : Dict String ToolResult} {results : List ToolResult}
    {moved : List String} (h : movedReads served results = .ok moved) (hmoved : moved ≠ []) :
    ∃ result ∈ results, result.ok = true → ∃ read, served.get? result.tool = some read ∧
      read.recordVersion ≠ result.recordVersion := by
  induction results generalizing moved with
  | nil => exact absurd (Except.ok.inj h).symm hmoved
  | cons result results ih =>
    obtain ⟨changed, hchanged, h⟩ := bind_ok h
    obtain ⟨rest, hrest, h⟩ := bind_ok h
    have hsplit := pure_ok h
    cases changed with
    | false =>
      obtain rfl : rest = moved := hsplit
      obtain ⟨found, hfound, hdiffers⟩ := ih hrest hmoved
      exact ⟨found, List.mem_cons_of_mem _ hfound, hdiffers⟩
    | true =>
      refine ⟨result, List.mem_cons_self, fun hok => ?_⟩
      obtain ⟨hbad, -⟩ | ⟨-, read, hread, hdiffers⟩ := recordMoved_ok hchanged
      · rw [hok] at hbad
        cases hbad
      · exact ⟨read, hread, hdiffers.mp rfl⟩

/-- A refusal of the read guard is to blame on what its code says. -/
theorem blames_of_guard {reads : Dict String String} {outcomeKey code detail : String}
    {evidenceRefs : List String} (h : Tracks s.served reads)
    (hguard : E.readGuardProblem s outcomeKey evidenceRefs = .ok (some (code, detail))) :
    E.Blames s reads (memoryOf s) outcomeKey evidenceRefs code := by
  simp only [readGuardProblem] at hguard
  split at hguard
  · cases hguard
  have hunread : ∀ tool, tool ∈ (E.domain.readRequirements.requiredToolsFor outcomeKey).filter
      (fun tool => !s.served.contains tool) ↔
        tool ∈ E.domain.readRequirements.requiredToolsFor outcomeKey ∧
          reads.contains tool = false := fun tool => by
    rw [List.mem_filter, h.contains, Bool.not_eq_true']
  split at hguard
  · rename_i habsent
    split at hguard
    · rename_i hclaim
      obtain ⟨hcited, hunverified, hasserted⟩ := hclaim
      obtain ⟨rfl, -⟩ := Prod.mk.inj (Option.some.inj (Except.ok.inj hguard))
      obtain ⟨ref, href⟩ := List.exists_mem_of_ne_nil _ (mt sortedSet_eq_nil.mpr hcited)
      obtain ⟨tool, htool⟩ := List.exists_mem_of_ne_nil _ hunverified
      obtain ⟨hrefs, hclaims⟩ := List.mem_filter.mp href
      obtain ⟨hmissing, hsettles⟩ := List.mem_filter.mp htool
      obtain ⟨hrequired, hread⟩ := (hunread tool).mp hmissing
      refine .claimed hrequired hread (of_decide_eq_true hsettles) hrefs rfl ?_ ?_
      · rw [sortTexts, List.mem_insertionSort]
        exact of_decide_eq_true hclaims
      · exact congrArg Value.bool (by simpa using hasserted)
    split at hguard
    · rename_i hprior
      obtain ⟨rfl, -⟩ := Prod.mk.inj (Option.some.inj (Except.ok.inj hguard))
      obtain ⟨tool, htool⟩ := List.exists_mem_of_ne_nil _ hprior
      obtain ⟨hmissing, hbefore⟩ := List.mem_filter.mp htool
      obtain ⟨hrequired, hread⟩ := (hunread tool).mp hmissing
      exact .lapsed hrequired hread hbefore
    · rename_i hprior
      obtain ⟨rfl, -⟩ := Prod.mk.inj (Option.some.inj (Except.ok.inj hguard))
      obtain ⟨tool, htool⟩ := List.exists_mem_of_ne_nil _ habsent
      obtain ⟨hrequired, hread⟩ := (hunread tool).mp htool
      refine .unread hrequired hread fun other hother hmissing => ?_
      by_contra hbefore
      refine hprior fun hnone => List.not_mem_nil (hnone ▸ List.mem_filter.mpr
        ⟨(hunread other).mpr ⟨hother, hmissing⟩, ?_⟩)
      simpa [memoryOf] using hbefore
  · rename_i habsent
    obtain ⟨results, hresults, hguard⟩ := bind_ok hguard
    obtain ⟨moved, hmoved, hguard⟩ := bind_ok hguard
    have hrefused := pure_ok hguard
    split at hrefused
    · cases hrefused
    · rename_i hsome
      obtain ⟨rfl, -⟩ := Prod.mk.inj (Option.some.inj hrefused)
      obtain ⟨result, hresult, hdiffers⟩ := movedReads_cons hmoved hsome
      refine .moved (fun tool htool => ?_) hresults hresult fun hok => ?_
      · by_contra hmissing
        exact habsent fun hnone => List.not_mem_nil
          (hnone ▸ (hunread tool).mpr ⟨htool, by simpa using hmissing⟩)
      · obtain ⟨read, hread, hversion⟩ := hdiffers hok
        exact ⟨read.recordVersion, (h result.tool).1.trans (congrArg _ hread), hversion⟩

/-- In every run, the code under which the read guard refuses an outcome is borne out by the
record. -/
theorem guard_borne_out (spares : E.domain.Spares readingRows)
    (metered : E.domain.Spares meteredRows) (h₀ : E.start = .ok s₀) (h : E.RunsVia P s₀ s)
    {outcomeKey code detail : String} {evidenceRefs : List String}
    (hguard : E.readGuardProblem s outcomeKey evidenceRefs = .ok (some (code, detail))) :
    E.Blames s (readsInForce s.ledger.records) (remembered s.ledger.records) outcomeKey
      evidenceRefs code := by
  have hremembers : Remembers s := Run.invariant h (start_remembers h₀) fun s _ _ hs _ hstep =>
    step_remembers metered hs hstep
  rw [← show memoryOf s = remembered s.ledger.records from hremembers]
  exact blames_of_guard (rested_of_runs spares h₀ h).1 hguard

theorem readThenClosed_borne_out : ∃ (s : EngineState Bool) (code detail : String),
    readThenClosed.readGuardProblem s completeOutcomeKey [] = .ok (some (code, detail)) ∧
    code = "ACTION_WITHOUT_RETRIEVAL" ∧
    readThenClosed.Blames s (readsInForce s.ledger.records) (remembered s.ledger.records)
      completeOutcomeKey [] code := by
  obtain ⟨s₀, h₀, hc⟩ := ok_of_any (x := readThenClosed.start)
    (p := fun s₀ => (readThenClosed.runSteps 1 s₀).toOption.any fun s =>
      (readThenClosed.readGuardProblem s completeOutcomeKey []).toOption.any fun refusal =>
        refusal.any fun refusal => refusal.1 = "ACTION_WITHOUT_RETRIEVAL") (by decide +kernel)
  obtain ⟨s, hs, hc⟩ := ok_of_any hc
  obtain ⟨refusal, hguard, hc⟩ := ok_of_any hc
  cases refusal with
  | none => cases hc
  | some refusal =>
    exact ⟨s, refusal.1, refusal.2, hguard, of_decide_eq_true hc,
      guard_borne_out gatedLatch_spares gatedLatch_spares h₀ (runSteps_runs hs) hguard⟩

end Blame

end Engine

end OperateBench
