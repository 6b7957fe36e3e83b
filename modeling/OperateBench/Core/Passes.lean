import OperateBench.Core.Journal

/-! # What a pass writes, exactly

The calls of the agent inside an invocation, the summons that opens one, a delivery
with its verdict, and the passes of the loop, each taken apart like the proposals: the
fields that changed and the entries that were written.
-/

namespace OperateBench

open Foundation EngineState

variable {σ : Type} {E : Engine σ} {s s' t : EngineState σ}

namespace Engine

section Reads

/-- The result counts as served when it is a good one. -/
def serving (s : EngineState σ) (result : ToolResult) : EngineState σ :=
  if result.ok then { s with
    served := s.served.set result.tool result
    readHistory := s.readHistory.set result.tool result.recordVersion } else s

def servedEntry (s : EngineState σ) (turnIndex batchIndex : ℕ) (entry : ToolResult × ℕ) : Entry :=
  ("retrieval_served", .ofList [("invocation_index", .int s.invocations),
    ("turn_index", .int turnIndex), ("batch_index", .int batchIndex),
    ("request_index", .int entry.2), ("initiated_by", .str "agent"), ("tool", .str entry.1.tool),
    ("source", .str entry.1.source), ("authority", .str entry.1.authority),
    ("record_id", .str entry.1.recordId), ("record_version", .str entry.1.recordVersion),
    ("as_of", .str entry.1.asOf), ("schema_id", .str entry.1.schemaId),
    ("records", entry.1.records.asDict.plain), ("ok", .bool entry.1.ok)])

theorem recordResult_write {turnIndex batchIndex : ℕ} {entry : ToolResult × ℕ}
    (h : recordResult turnIndex batchIndex s entry = .ok s') :
    s' = (serving s entry.1).write [servedEntry s turnIndex batchIndex entry] := by
  unfold recordResult at h
  obtain ⟨_, h⟩ := unless_ok h
  rw [log_write h]
  unfold serving
  split <;> rfl

/-- The results of a batch one after the other. -/
theorem foldlM_recordResult_write {turnIndex batchIndex : ℕ} {entries : List (ToolResult × ℕ)}
    (h : entries.foldlM (recordResult turnIndex batchIndex) s = .ok s') :
    s' = ((entries.map Prod.fst).foldl serving s).write
      (entries.map (servedEntry s turnIndex batchIndex)) := by
  induction entries generalizing s with
  | nil => exact (pure_ok h).symm
  | cons entry entries ih =>
    rw [List.foldlM_cons] at h
    obtain ⟨t, ht, h⟩ := bind_ok h
    obtain rfl := recordResult_write ht
    rw [ih h]
    have hserving : ∀ (results : List ToolResult) (u : EngineState σ) (es : List Entry),
        results.foldl serving (u.write es) = (results.foldl serving u).write es := by
      intro results
      induction results with
      | nil => exact fun _ _ => rfl
      | cons result results ih =>
        intro u es
        rw [List.foldl_cons, List.foldl_cons, ← ih]
        unfold serving
        split <;> rfl
    have hentry : servedEntry ((serving s entry.1).write [servedEntry s turnIndex batchIndex entry])
        turnIndex batchIndex = servedEntry s turnIndex batchIndex := by
      funext e
      unfold serving
      split <;> rfl
    rw [hserving, write_write, hentry, List.map_cons, List.foldl_cons, List.map_cons,
      List.singleton_append]

/-- A batch was refused, or served as a whole. -/
inductive Batched (E : Engine σ) (s : EngineState σ) (batch : RawRequests) (turnIndex : ℕ) :
    EngineState σ → Prop
  | refused {code detail : String} :
      Batched E s batch turnIndex ({ s with lastRejection := some ⟨"retrieve", code, detail⟩ }.write
        [entry "retrieval_refused" [("invocation_index", .int s.invocations),
          ("turn_index", .int turnIndex), ("request_count", .int (requestCount batch)),
          ("requested_tools", .ofTexts (knownTools batch E.domain.retrievalCatalogue)),
          ("code", .str code), ("detail", .str detail)]])
  | served {requests : List RetrievalRequest} {results : List ToolResult}
      (checked : retrievalBatchProblem batch E.domain.retrievalCatalogue
        (E.plan.maxRetrievalBatchesPerInvocation - s.retrievalBatches) = .ok requests)
      (answered : E.domain.serveRetrieval s.state (canonicalRequests requests) s.clock.now =
        .ok results) :
      Batched E s batch turnIndex
        ((results.foldl serving { s with retrievalBatches := s.retrievalBatches + 1 }).write
          (results.zipIdx.map (servedEntry s turnIndex s.retrievalBatches)))

theorem serveBatch_batched {batch : RawRequests} {turnIndex : ℕ}
    (h : E.serveBatch s batch turnIndex = .ok s') : E.Batched s batch turnIndex s' := by
  unfold serveBatch at h
  dsimp only at h
  split at h
  · cases h
  · obtain ⟨t, ht, h⟩ := bind_ok h
    obtain rfl := log_write ht
    exact pure_ok h ▸ .refused
  · rename_i requests hb
    obtain ⟨results, hr, h⟩ := bind_ok h
    rw [foldlM_recordResult_write h, show results.zipIdx.map Prod.fst = results by simp]
    exact .served hb hr

end Reads

section Turns

/-- The agent is asked. -/
def asking (s : EngineState σ) (observation : AgentObservation) (turn : ℕ) : EngineState σ :=
  { s with turnIndex := turn, asked := s.asked ++ [observation] }

def outcomeEntry (s : EngineState σ) (turn : ℕ) (outcome : AgentOutcome) : Entry :=
  entry "agent_outcome" [("invocation_index", .int s.invocations), ("turn_index", .int turn),
    ("outcome", outcomeAsDict outcome)]

def violationEntry (code detail : String) : Entry :=
  entry "critical_violation" [("code", .str code), ("detail", .str detail)]

/-- One pass inside an invocation. -/
inductive Turned (E : Engine σ) (s : EngineState σ) (trigger : Option Event)
    (business turn : ℕ) : EngineState σ → Prop
  | spent {code detail : String} :
      Turned E s trigger business turn
        ({ s with halt := some .deadlock, control := .head }.write [violationEntry code detail])
  | read {observation : AgentObservation} {batch : RawRequests} {t : EngineState σ}
      (asked : E.agent (asking s observation turn).asked = .ok (.retrieve batch))
      (batched : E.Batched (asking s observation turn) batch turn t) :
      Turned E s trigger business turn { t with control := .turn trigger business (turn + 1) }
  | malformed {observation : AgentObservation} {detail : String} :
      Turned E s trigger business turn
        ({ asking s observation turn with
          lastRejection := some ⟨"<malformed outcome>", malformedOutcomeCode, detail⟩
          control := .turn trigger (business + 1) (turn + 1) }.write
          [entry "outcome_rejected" [("invocation_index", .int s.invocations),
            ("turn_index", .int turn), ("code", .str malformedOutcomeCode),
            ("detail", .str detail)]])
  | answered {observation : AgentObservation} {answer : Answer} {outcome : AgentOutcome}
      {ended : Bool} {t : EngineState σ}
      (asked : E.agent (asking s observation turn).asked = .ok answer)
      (contract : outcomeContract answer = .ok outcome)
      (handled : E.Handled ((asking s observation turn).write [outcomeEntry s turn outcome])
        outcome ended t) :
      Turned E s trigger business turn
        { t with control := if ended then .head else .turn trigger (business + 1) (turn + 1) }

theorem refuseInvocation_write {code detail : String}
    (h : s.refuseInvocation code detail = .ok s') :
    s' = { s with halt := some .deadlock }.write [violationEntry code detail] :=
  refuseInvocation_ok h

theorem turnStep_turned {trigger : Option Event} {business turn : ℕ}
    (h : E.turnStep s trigger business turn = .ok s') : E.Turned s trigger business turn s' := by
  unfold turnStep at h
  split at h
  · obtain ⟨t, ht, h⟩ := bind_ok h
    obtain rfl := refuseInvocation_write ht
    exact pure_ok h ▸ .spent
  split at h
  · obtain ⟨t, ht, h⟩ := bind_ok h
    obtain rfl := refuseInvocation_write ht
    exact pure_ok h ▸ .spent
  obtain ⟨observation, _, h⟩ := bind_ok h
  obtain ⟨answer, ha, h⟩ := bind_ok h
  split at h
  · obtain ⟨t, ht, h⟩ := bind_ok h
    exact pure_ok h ▸ .read ha (serveBatch_batched ht)
  · split at h
    · cases h
    · obtain ⟨t, ht, h⟩ := bind_ok h
      obtain ⟨u, hu, ht⟩ := bind_ok ht
      obtain rfl := log_write hu
      obtain rfl := pure_ok ht
      exact pure_ok h ▸ .malformed
    · rename_i hc
      obtain ⟨s₀, h₀, h⟩ := bind_ok h
      obtain rfl := log_write h₀
      obtain ⟨⟨ended, t⟩, ht, h⟩ := bind_ok h
      exact pure_ok h ▸ .answered ha hc (handle_handled ht)

end Turns

section Invocations

/-- A fresh invocation, before the agent is called for the first time. -/
def waking (E : Engine σ) (s : EngineState σ) (trigger : Option Event) : EngineState σ :=
  { s.clearWait with
    invocations := s.invocations + 1
    lastRejection := none
    triggerIsAuthoritative := trigger.any fun event =>
      E.eventAuthorityOf event = Authority.authoritativeVerification
    claimValues := claimValuesOf trigger }

def invokedEntry (E : Engine σ) (s : EngineState σ) (trigger : Option Event) : Entry :=
  entry "agent_invoked" [("invocation_index", .int s.invocations),
    ("trigger_event_id", .ofText? (trigger.map Event.eventId)),
    ("trigger_event_type", .ofText? (trigger.map Event.eventType)),
    ("trigger_event_authority", .ofText? (trigger.map E.eventAuthorityOf)),
    ("trigger_is_authoritative", .bool s.triggerIsAuthoritative),
    ("trigger_claim_values", .ofTexts (sortTexts s.claimValues))]

/-- The invocation is open, and whatever was read before it is stale. -/
def invoking (E : Engine σ) (s : EngineState σ) (trigger : Option Event) : EngineState σ :=
  { waking E s trigger with
    served := Dict.empty
    retrievalBatches := 0
    control := .turn trigger 0 0 }.write
      [invokedEntry E (waking E s trigger) trigger,
        invalidatedEntry (waking E s trigger) .wake 0 none]

theorem invoke_write {trigger : Option Event} (h : E.invoke s trigger = .ok s') :
    s' = invoking E s trigger := by
  obtain ⟨t, ht, h⟩ := bind_ok h
  obtain rfl := log_write ht
  obtain ⟨u, hu, h⟩ := bind_ok h
  obtain rfl := invalidateDerivedContext_write hu
  exact (pure_ok h).symm

/-- The agent is called for: the allowance is spent, or it is invoked. -/
inductive Summoned (E : Engine σ) (s : EngineState σ) (trigger : Option Event) :
    Bool → EngineState σ → Prop
  | spent {detail : String} (spent : ¬s.invocations < E.plan.maxInvocations) :
      Summoned E s trigger true ({ s with halt := some .deadlock }.write
        [violationEntry "INVOCATION_LIMIT_EXCEEDED" detail])
  | invoked (allowed : s.invocations < E.plan.maxInvocations) :
      Summoned E s trigger false (invoking E s trigger)

end Invocations

section Deliveries

def identityFields (event : Event) : List (String × Value) :=
  [("event_id", .str event.eventId), ("event_type", .str event.eventType),
    ("actor_id", .str event.actorId)]

def acceptedType (event : Event) : String :=
  if event.triggersAgent then "event_observed" else "event_audit_only"

def acceptedDisposition (event : Event) : Disposition :=
  if event.triggersAgent then .accepted else .audit

def observedEntry (event : Event) (verdict : Verdict) : Entry :=
  entry (acceptedType event) (identityFields event ++
    [("code", .str verdict.code), ("observational", .bool verdict.observational)])

def lateEntry (event : Event) : Entry :=
  entry "event_after_terminal" (identityFields event ++ [("mutating", .bool false)])

def unheededEntry (event : Event) (verdict : Verdict) : Entry :=
  entry "event_rejected" (identityFields event ++
    [("code", .str verdict.code), ("detail", .str verdict.detail)])

/-- The event had its effect, and its row says so. -/
def observing (s : EngineState σ) (event : Event) (verdict : Verdict) : EngineState σ :=
  (s.write [observedEntry event verdict]).noteDelivery event (acceptedDisposition event)
    verdict.code

/-- The row about a wake that the standing wait did not declare. -/
def wakeEntries (s : EngineState σ) (event : Event) : List Entry :=
  match s.activeWait with
  | none => []
  | some wait =>
    if wait.wakeOn = [] ∨ event.eventType ∈ wait.wakeOn then []
    else [entry "wait_rejected" [("code", .str "UNDECLARED_WAKE_EVENT"),
      ("detail", .str (s!"woken by {pyRepr event.eventType}, which the standing wait did not " ++
        s!"declare (declared: {reprList wait.wakeOn})")), ("event_id", .str event.eventId)]]

/-- The verdict on a delivery, with what it set off in the world. -/
inductive Reported (E : Engine σ) (s : EngineState σ) (event : Event) : EngineState σ → Prop
  | late (final : E.domain.isReplayFinal s.state = true) :
      Reported E s event ((s.write [lateEntry event]).noteDelivery event .postTerminal
        "AFTER_REPLAY_FINAL")
  | rejected {reduction : Reduction σ} {t : EngineState σ}
      (live : E.domain.isReplayFinal s.state = false)
      (reduced : E.domain.reduce ⟨E.context s, .event event⟩ s.state = .ok reduction)
      (committed : s.commit reduction = .ok t) (verdict : reduction.verdict.accepted = false) :
      Reported E s event ((t.write [unheededEntry event reduction.verdict]).noteDelivery event
        .rejected reduction.verdict.code)
  | accepted {reduction : Reduction σ} {t s' : EngineState σ} {cycleId : Option String}
      (live : E.domain.isReplayFinal s.state = false)
      (reduced : E.domain.reduce ⟨E.context s, .event event⟩ s.state = .ok reduction)
      (committed : s.commit reduction = .ok t) (verdict : reduction.verdict.accepted = true)
      (fired : (observing t event reduction.verdict).fireConditionals .event event.eventType cycleId
        reduction.verdict.bindings = .ok s') : Reported E s event s'

/-- The domain's verdict on the event. -/
def Judges (E : Engine σ) (s : EngineState σ) (event : Event) (accepted : Bool) : Prop :=
  ∃ reduction, E.domain.reduce ⟨E.context s, .event event⟩ s.state = .ok reduction ∧
    reduction.verdict.accepted = accepted

/-- A delivery is reported, and may summon the agent. -/
inductive Arrived (E : Engine σ) (s : EngineState σ) (event : Event) : EngineState σ → Prop
  | silent {s' : EngineState σ} (reported : E.Reported s event s')
      (unheard : event.triggersAgent = false ∨ E.domain.isReplayFinal s'.state = true ∨
        E.Judges s event false) : Arrived E s event s'
  | summons {t s' : EngineState σ} {spent : Bool} (reported : E.Reported s event t)
      (live : E.domain.isReplayFinal t.state = false)
      (summoned : E.Summoned (t.write (wakeEntries t event)) (some event) spent s')
      (triggers : event.triggersAgent = true) (heard : E.Judges s event true) :
      Arrived E s event s'

theorem checkDeclaredWake_write {event : Event} (h : s.checkDeclaredWake event = .ok s') :
    s' = s.write (wakeEntries s event) := by
  unfold checkDeclaredWake at h
  unfold wakeEntries
  cases hw : s.activeWait with
  | none =>
    simp only [hw] at h ⊢
    exact (Except.ok.inj h).symm
  | some wait =>
    simp only [hw] at h ⊢
    by_cases hd : wait.wakeOn = [] ∨ event.eventType ∈ wait.wakeOn
    · rw [if_pos hd] at h ⊢
      exact (Except.ok.inj h).symm
    · rw [if_neg hd] at h ⊢
      exact log_write h

theorem summoned_of_outOfInvocations {trigger : Option Event} {spent : Bool}
    (h : E.outOfInvocations s = .ok (spent, t))
    (hs : (if spent then pure t else E.invoke t trigger) = .ok s') :
    E.Summoned s trigger spent s' := by
  rcases outOfInvocations_ok h with ⟨rfl, rfl, hlt⟩ | ⟨rfl, hge, detail, hr⟩
  · exact invoke_write hs ▸ .invoked hlt
  · obtain rfl := refuseInvocation_write hr
    exact pure_ok hs ▸ .spent hge

theorem deliver_arrived {event : Event} (h : E.deliver s event = .ok s') :
    E.Arrived s event s' := by
  unfold deliver at h
  dsimp only at h
  split at h
  · rename_i hfinal
    obtain ⟨t, ht, h⟩ := bind_ok h
    obtain rfl := log_write ht
    exact pure_ok h ▸ .silent (.late hfinal) (Or.inr (Or.inl hfinal))
  · rename_i hlive
    have hlive : E.domain.isReplayFinal s.state = false := by simpa using hlive
    obtain ⟨reduction, hr, h⟩ := bind_ok h
    obtain ⟨t, hc, h⟩ := bind_ok h
    split at h
    · rename_i hv
      obtain ⟨u, hu, h⟩ := bind_ok h
      obtain rfl := log_write hu
      have hv : reduction.verdict.accepted = false := by simpa using hv
      exact pure_ok h ▸ .silent (.rejected hlive hr hc hv) (Or.inr (Or.inr ⟨_, hr, hv⟩))
    · rename_i hv
      have hv : reduction.verdict.accepted = true := by simpa using hv
      obtain ⟨u, hu, h⟩ := bind_ok h
      obtain rfl := log_write hu
      obtain ⟨v, hf, h⟩ := bind_ok h
      have hreported := Reported.accepted (E := E) hlive hr hc hv hf
      split at h
      · rename_i ht
        exact pure_ok h ▸ .silent hreported (Or.inl (by simpa using ht))
      rename_i ht
      split at h
      · exact pure_ok h ▸ .silent hreported (Or.inr (Or.inl ‹_›))
      · rename_i hfinal
        obtain ⟨w, hw, h⟩ := bind_ok h
        obtain rfl := checkDeclaredWake_write hw
        obtain ⟨⟨spent, x⟩, hx, h⟩ := bind_ok h
        exact .summons hreported (by simpa using hfinal) (summoned_of_outOfInvocations hx h)
          (by simpa using ht) ⟨_, hr, hv⟩

end Deliveries

section Passes

/-- The clock moved on to the instant. -/
structure Moved (clock clock' : SimulatedClock) (instant : String) : Prop where
  moment : strptime instant = .ok clock'.seconds
  later : clock.seconds ≤ clock'.seconds
  origin : clock'.startSeconds = clock.startSeconds

theorem moved_of_advanceTo {clock clock' : SimulatedClock} {instant context : String}
    (h : clock.advanceTo instant context = .ok clock') : Moved clock clock' instant := by
  obtain ⟨hm, hl, ho⟩ := SimulatedClock.advanceTo_ok h
  exact ⟨parseTimestamp_ok.mp hm, hl, ho⟩

/-- One pass of the delivery loop. -/
inductive Passed (E : Engine σ) (s : EngineState σ) : EngineState σ → Prop
  | stopped : Passed E s { s with control := .done }
  | horizon {queue : EventQueue} (sorted : s.queue.sort = .ok queue) :
      Passed E s { s with queue, halt := some .horizon, control := .done }
  | empty {queue : EventQueue} (sorted : s.queue.sort = .ok queue) :
      Passed E s { s with queue, control := .done }
  | unresolved {queue : EventQueue} {clock : SimulatedClock} {wait : Wait} {horizonAt : String}
      (sorted : s.queue.sort = .ok queue) (later : s.clock.seconds ≤ clock.seconds)
      (standing : s.activeWait = some wait) :
      Passed E s ({ s with queue, clock, halt := some .horizon, control := .done }.write
        [entry "wait_unresolved_at_horizon" [("reason", .str wait.reason),
          ("wake_on", .ofTexts wait.wakeOn), ("horizon_at", .str horizonAt)]])
  | fallback {queue : EventQueue} {clock : SimulatedClock} {instant : String} {spent : Bool}
      {t : EngineState σ} (sorted : s.queue.sort = .ok queue)
      (declared : s.fallbackAt = some instant) (moved : Moved s.clock clock instant)
      (summoned : E.Summoned (clearWait ({ s with queue, clock }.write
        [entry "wait_declared" [("fallback_fired", .bool true)]])) none spent t) :
      Passed E s { t with control := if spent then .done else t.control }
  | delivery {queue : EventQueue} {clock : SimulatedClock} {event : Event} {s' : EngineState σ}
      (due : E.Due s event) (sorted : s.queue.sort = .ok queue)
      (moved : Moved s.clock clock event.instant)
      (arrived : E.Arrived { s with queue := queue.tail, clock } event s') : Passed E s s'

theorem headStep_passed (hc : s.control = .head) (h : E.headStep s = .ok s') : E.Passed s s' := by
  unfold headStep at h
  split at h
  · exact Except.ok.inj h ▸ .stopped
  rename_i hh
  have halt : s.halt = none := by simpa using hh
  obtain ⟨⟨next, queue⟩, hp, h⟩ := bind_ok h
  obtain ⟨hs, hn⟩ := EventQueue.peekNext_ok hp
  obtain ⟨due, hd, h⟩ := bind_ok h
  split at h
  · rename_i _ instant
    have hm : s.fallbackAt = some instant := by
      rcases fallbackDueBefore_ok hd with ⟨m, hm, hf⟩ | hm
      · exact Option.some.inj hm ▸ hf
      · cases hm
    obtain ⟨beyond, _, h⟩ := bind_ok h
    cases beyond with
    | true => exact pure_ok h ▸ .horizon hs
    | false =>
      obtain ⟨clock, hk, h⟩ := bind_ok h
      obtain ⟨t, ht, h⟩ := bind_ok h
      obtain rfl := log_write ht
      obtain ⟨⟨spent, u⟩, hu, h⟩ := bind_ok h
      have hmoved : Moved s.clock clock instant := moved_of_advanceTo hk
      cases spent with
      | true =>
        exact pure_ok h ▸ .fallback hs hm hmoved (summoned_of_outOfInvocations hu rfl)
      | false => exact .fallback hs hm hmoved (summoned_of_outOfInvocations hu h)
  · unfold quiet at h
    split at h
    · exact Except.ok.inj h ▸ .empty hs
    · rename_i wait hw
      obtain ⟨t, hx, h⟩ := bind_ok h
      obtain ⟨horizonAt, _, hx⟩ := bind_ok hx
      obtain ⟨clock, hk, hx⟩ := bind_ok hx
      obtain ⟨u, hl, hx⟩ := bind_ok hx
      obtain rfl := log_write hl
      obtain rfl := pure_ok hx
      exact pure_ok h ▸ .unresolved hs (clockAtHorizon_le hk) hw
  · rename_i event _
    obtain ⟨beyond, hb, h⟩ := bind_ok h
    cases beyond with
    | true => exact pure_ok h ▸ .horizon hs
    | false =>
      obtain ⟨⟨popped, rest⟩, hpop, h⟩ := bind_ok h
      obtain ⟨rfl, rfl⟩ := Prod.mk.inj (Except.ok.inj
        ((EventQueue.popNext_of_peekNext hp).symm.trans hpop))
      obtain ⟨clock, hk, h⟩ := bind_ok h
      exact .delivery ⟨hc, halt, ⟨queue, hp⟩, hd, hb⟩ hs
        (moved_of_advanceTo hk) (deliver_arrived h)

/-- The event that is due is the one that the next pass delivers. -/
theorem Due.arrived {event : Event} (hd : E.Due s event) (h : E.step s = .ok s') :
    ∃ queue clock, s.queue.sort = .ok queue ∧ Moved s.clock clock event.instant ∧
      E.Arrived { s with queue := queue.tail, clock } event s' := by
  obtain ⟨queue, hp⟩ := hd.next
  obtain ⟨hs, _⟩ := EventQueue.peekNext_ok hp
  unfold step at h
  simp only [hd.control] at h
  unfold headStep at h
  rw [if_neg (by simp [hd.halt]), hp, ok_bind] at h
  dsimp only at h
  rw [show EngineState.fallbackDueBefore { s with queue } (some event) = .ok none from
    hd.noFallback, ok_bind] at h
  obtain ⟨beyond, hb, h⟩ := bind_ok h
  obtain rfl : beyond = false := Except.ok.inj (hb.symm.trans hd.within)
  obtain ⟨⟨popped, rest⟩, hpop, h⟩ := bind_ok h
  obtain ⟨rfl, rfl⟩ := Prod.mk.inj (Except.ok.inj
    ((EventQueue.popNext_of_peekNext hp).symm.trans hpop))
  obtain ⟨clock, hk, h⟩ := bind_ok h
  exact ⟨queue, clock, hs, moved_of_advanceTo hk, deliver_arrived h⟩

/-- The event that the next pass would deliver. -/
def dueEvent? (E : Engine σ) (s : EngineState σ) : Option Event :=
  match s.control, s.halt, s.queue.peekNext with
  | .head, none, .ok (some event, _) =>
    match s.fallbackDueBefore (some event), E.beyondHorizon s event.instant with
    | .ok none, .ok false => some event
    | _, _ => none
  | _, _, _ => none

theorem due_of_dueEvent? {event : Event} (h : E.dueEvent? s = some event) : E.Due s event := by
  unfold dueEvent? at h
  split at h
  · rename_i due queue hc hh hp
    split at h
    · rename_i hf hb
      obtain rfl := Option.some.inj h
      exact ⟨hc, hh, ⟨queue, hp⟩, hf, hb⟩
    · cases h
  · cases h

end Passes

end Engine

end OperateBench
