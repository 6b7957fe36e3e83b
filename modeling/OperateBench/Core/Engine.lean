import OperateBench.Core.EngineState

/-! # The episode engine

One step is one pass of the delivery loop or one call of the agent. An outcome is a
proposal: the read guard and then the domain decide, and proposal, refusal and
accepted effect are different records. Everything the source's methods raise ends
the run.
-/

namespace OperateBench

open Foundation

namespace Engine

variable {σ : Type} (E : Engine σ)

section Retrieval

/-- How many requests a batch carried, whatever shape they were in. -/
def requestCount : RawRequests → ℕ
  | .sequence items => items.length
  | .other _ => 0

/-- The catalogue members a refused batch named. -/
def knownTools (requests : RawRequests) (catalogue : Catalogue) : List String :=
  match requests with
  | .other _ => []
  | .sequence items => sortedSet <| items.filterMap fun
    | .request tool _ => tool.asStr?.filter catalogue.contains
    | .other _ => none

/-- Record one result of a batch. Only a good one counts as served. -/
def recordResult (turnIndex batchIndex : ℕ) (s : EngineState σ) (entry : ToolResult × ℕ) :
    Except PyError (EngineState σ) := do
  let (result, position) := entry
  let s := if result.ok then { s with
      served := s.served.set result.tool result
      readHistory := s.readHistory.set result.tool result.recordVersion } else s
  let records := result.records.asDict.plain
  if !records.jsonSafe Value.maxJsonDepth then
    .error (.jsonSafety s!"retrieval_served row for {pyRepr result.tool}")
  else
    s.log "retrieval_served"
      [("invocation_index", .int s.invocations), ("turn_index", .int turnIndex),
        ("batch_index", .int batchIndex), ("request_index", .int position),
        ("initiated_by", .str "agent"), ("tool", .str result.tool), ("source", .str result.source),
        ("authority", .str result.authority), ("record_id", .str result.recordId),
        ("record_version", .str result.recordVersion), ("as_of", .str result.asOf),
        ("schema_id", .str result.schemaId), ("records", records), ("ok", .bool result.ok)]

/-- Serve one batch atomically, or refuse it by name having served nothing. -/
def serveBatch (s : EngineState σ) (batch : RawRequests) (turnIndex : ℕ) :
    Except PyError (EngineState σ) :=
  let catalogue := E.domain.retrievalCatalogue
  let remaining := E.plan.maxRetrievalBatchesPerInvocation - s.retrievalBatches
  match retrievalBatchProblem batch catalogue remaining with
  | .error (.raises e) => .error e
  | .error (.refused code detail) => do
    let s ← s.log "retrieval_refused"
      [("invocation_index", .int s.invocations), ("turn_index", .int turnIndex),
        ("request_count", .int (requestCount batch)),
        ("requested_tools", .ofTexts (knownTools batch catalogue)), ("code", .str code),
        ("detail", .str detail)]
    return { s with lastRejection := some ⟨"retrieve", code, detail⟩ }
  | .ok requests => do
    let results ← E.domain.serveRetrieval s.state (canonicalRequests requests) s.clock.now
    results.zipIdx.foldlM (recordResult turnIndex s.retrievalBatches)
      { s with retrievalBatches := s.retrievalBatches + 1 }

def retrievalAffordance (s : EngineState σ) : Fields := .ofList
  [("catalogue", .ofFields (E.domain.retrievalCatalogue.entries.map fun e => (e.1, e.2.asDict))),
    ("record_contract", .list E.domain.retrievalRecordContract),
    ("served", .ofFields ((sortTexts s.served.keys).filterMap fun tool =>
      (s.served.get? tool).map fun result => (tool, result.asDict))),
    ("batch_budget_remaining",
      .int (E.plan.maxRetrievalBatchesPerInvocation - s.retrievalBatches)),
    ("max_requests_per_batch", .int maxRequestsPerBatch)]

end Retrieval

section Observation

def eventAuthorityOf (trigger : Event) : String :=
  E.domain.eventAuthority trigger.actorId trigger.eventType

/-- The waking event as a claim, not as a fact. -/
def eventEnvelope (trigger : Event) : Fields := .ofList
  [("event_id", .str trigger.eventId), ("event_type", .str trigger.eventType),
    ("actor_id", .str trigger.actorId), ("payload", trigger.payload.asDict),
    ("authority", .str (E.eventAuthorityOf trigger)),
    ("is_authoritative",
      .bool (E.eventAuthorityOf trigger = Authority.authoritativeVerification))]

def observation (s : EngineState σ) (trigger : Option Event) (turn : ℕ) :
    Except PyError AgentObservation := do
  let actionSchemas ← E.domain.actionSchemas
  return {
    now := s.clock.now
    operationId := E.operationId
    operationInstanceId := E.operationInstanceId
    invocationIndex := s.invocations
    turnIndex := turn
    policy := E.domain.policyView
    actors := E.domain.actorRoles
    messageFixtureIds := E.domain.messageFixtureIds
    actionSchemas
    wakeEventTypes := E.domain.wakeEventVocabulary
    lastRejection := s.lastRejection.map Rejection.asDict
    phase := E.domain.coarsePhase s.state
    event := trigger.map E.eventEnvelope
    retrieval := E.retrievalAffordance s }

end Observation

section Proposals

/-- Has the record of a required read moved since it was served? -/
def recordMoved (served : Dict String ToolResult) (result : ToolResult) : Except PyError Bool :=
  if !result.ok then .ok true
  else match served.get? result.tool with
    | none => .error (.key result.tool)
    | some read => .ok (read.recordVersion ≠ result.recordVersion)

/-- The required reads whose record has moved since it was served. -/
def movedReads (served : Dict String ToolResult) : List ToolResult → Except PyError (List String)
  | [] => .ok []
  | result :: results => do
    let moved ← recordMoved served result
    let rest ← movedReads served results
    return if moved then result.tool :: rest else rest

/-- Why this outcome may not be proposed on what has been read, as code and detail. -/
def readGuardProblem (s : EngineState σ) (outcomeKey : String) (evidenceRefs : List String) :
    Except PyError (Option (String × String)) :=
  let required := E.domain.readRequirements.requiredToolsFor outcomeKey
  if required = [] then .ok none
  else
    let absent := required.filter fun tool => !s.served.contains tool
    if absent ≠ [] then
      let cited := sortedSet (evidenceRefs.filter fun ref => ref ∈ s.claimValues)
      let unverified := absent.filter fun tool =>
        ((E.domain.retrievalCatalogue.get? tool).map CatalogueEntry.authority) =
          some Authority.authoritativeVerification
      let prior := absent.filter s.readHistory.contains
      if cited ≠ [] ∧ unverified ≠ [] ∧ !s.triggerIsAuthoritative then
        .ok (some ("ACTED_ON_CLAIM_WITHOUT_RECORD",
          s!"{outcomeKey} cites {reprList cited}, which is what the current " ++
            "non-authoritative event asserted, and the authoritative " ++
            s!"read(s) {reprList unverified} that would settle it were not served in " ++
            "this invocation; an event gives someone asserted this and only " ++
            "a retrieved authoritative record gives the record holds it"))
      else if prior ≠ [] then
        .ok (some ("STALE_RETRIEVED_RECORD",
          s!"{outcomeKey} rests on read(s) {reprList prior} that were served earlier " ++
            "and have since been invalidated by a wake or by this agent's own " ++
            "accepted effect; the record has moved and was not read again"))
      else
        .ok (some ("ACTION_WITHOUT_RETRIEVAL",
          s!"{outcomeKey} rests on read(s) {reprList absent}, which this invocation " ++
            s!"never asked for; the action schema publishes {reprList required} and " ++
            "an agent is told its read set rather than discovering it by refusal"))
    else do
      let results ← E.domain.serveRetrieval s.state
        (required.map fun tool => ⟨tool, Dict.empty⟩) s.clock.now
      let moved ← movedReads s.served results
      return if moved = [] then none else some ("STALE_RETRIEVED_RECORD",
        s!"{outcomeKey} rests on read(s) {reprList (sortTexts moved)} whose record version " ++
          "moved between the read and the proposal; the exact version the agent " ++
          "was served is what it is held to, not the tool name alone")

/-- What the guard refuses never reaches the domain. -/
def guarded (s : EngineState σ) (guard : Option (String × String))
    (reduce : Except PyError (Reduction σ)) : Except PyError (Reduction σ) :=
  match guard with
  | some (code, detail) => .ok (Reduction.refused s.state code detail)
  | none => reduce

/-- Propose one action, and say whether it was accepted. -/
def proposeAction (s : EngineState σ) (actionType : String) (payload : Fields)
    (evidenceRefs : List String) : Except PyError (Bool × EngineState σ) := do
  let s := { s with proposalCounter := s.proposalCounter + 1 }
  let proposalId := s!"proposal_{s.proposalCounter}"
  let s ← s.log "action_proposed"
    [("proposal_id", .str proposalId), ("action_type", .str actionType),
      ("payload", payload.asDict), ("evidence_refs", .ofTexts evidenceRefs)]
  let guard ← E.readGuardProblem s actionType evidenceRefs
  let reduction ← guarded s guard
    (E.domain.applyAction (E.context s) s.state actionType payload evidenceRefs)
  let verdict := reduction.verdict
  let s ← s.commit reduction
  if !verdict.accepted then
    let s ← s.log "action_rejected"
      [("proposal_id", .str proposalId), ("action_type", .str actionType),
        ("code", .str verdict.code), ("detail", .str verdict.detail)]
    return (false, { s with lastRejection := some ⟨actionType, verdict.code, verdict.detail⟩ })
  else
    let s ← { s with lastRejection := none }.log "effect_accepted"
      [("proposal_id", .str proposalId), ("action_type", .str actionType),
        ("code", .str verdict.code), ("cycle_id", .ofText? verdict.cycleId),
        ("bindings", .ofFields (verdict.bindings.entries.map fun (name, id) => (name, .str id)))]
    let s ← s.invalidateDerivedContext .effectAccepted s.turnIndex (some actionType)
    let s ← s.fireConditionals .action actionType verdict.cycleId verdict.bindings
    return (true, s)

/-- Propose the terminal, and say whether it was accepted. -/
def proposeTerminal (s : EngineState σ) (outcome : Complete) :
    Except PyError (Bool × EngineState σ) := do
  let s ← s.log "terminal_proposed"
    [("reason", .str outcome.reason), ("evidence_refs", .ofTexts outcome.evidenceRefs)]
  let guard ← E.readGuardProblem s completeOutcomeKey outcome.evidenceRefs
  let reduction ← guarded s guard
    (E.domain.applyTerminal (E.context s) s.state outcome.evidenceRefs)
  let verdict := reduction.verdict
  let s ← s.commit reduction
  if !verdict.accepted then
    let s ← s.log "terminal_rejected" [("code", .str verdict.code), ("detail", .str verdict.detail)]
    return (false, { s with lastRejection := some ⟨"complete", verdict.code, verdict.detail⟩ })
  else
    let s ← { s with lastRejection := none }.fireConditionals .action "complete" verdict.cycleId
      verdict.bindings
    return (true, s)

/-- The instant at which a wait gives up waiting, when it says so. -/
def fallbackInstant (s : EngineState σ) (wait : Wait) : Except PyError (Option String) :=
  match wait.fallbackAfterMinutes with
  | none => .ok none
  | some minutes => (shiftMinutes s.clock.now minutes "wait fallback").map some

/-- Accept a wait on the public contract alone. Returns whether the invocation is over. -/
def declareWait (s : EngineState σ) (wait : Wait) : Except PyError (Bool × EngineState σ) :=
  let vocabulary := E.domain.wakeEventVocabulary
  let unknown := sortedSet (wait.wakeOn.filter fun type => type ∉ vocabulary)
  if unknown ≠ [] then do
    let s ← s.refuseWait "UNKNOWN_WAKE_EVENT_TYPE"
      (s!"WAIT named wake event type(s) {reprList unknown}, which are not in this " ++
        s!"operation's published wake vocabulary {reprList vocabulary}; a wait " ++
        "is declared against the vocabulary the observation discloses, " ++
        "never against what this episode happens to have queued")
    return (false, s)
  else if E.domain.isReplayFinal s.state then do
    let s ← s.refuseWait "WAIT_AFTER_REPLAY_FINAL"
      ("WAIT was declared after the operation became replay-final; a " ++
        "finished operation has nothing left to wake for")
    return (true, s)
  else do
    let fallbackAt ← fallbackInstant s wait
    let s ← { s with activeWait := some wait, fallbackAt }.log "wait_declared"
      [("reason", .str wait.reason), ("wake_on", .ofTexts wait.wakeOn),
        ("fallback_at", .ofText? fallbackAt)]
    return (true, s)

/-- The wait an escalation is: its checkpoint wakes it, its deadline is the fallback. -/
def escalationWait (escalate : Escalate) : Wait where
  reason := "awaiting the exception checkpoint it just opened"
  wakeOn := ["operator_exception_resolved"]
  fallbackAfterMinutes := some escalate.deadlineAfterMinutes
  declares := Or.inl (by simp)
  positive := by simpa using escalate.positive

/-- Apply one outcome. Returns whether the invocation is over. -/
def handle (s : EngineState σ) : AgentOutcome → Except PyError (Bool × EngineState σ)
  | .wait wait => E.declareWait s wait
  | .complete outcome => E.proposeTerminal s outcome
  | .ask outcome => do
    let (accepted, s) ← E.proposeAction s "send_message" (.ofList
      [("recipient_actor_id", .str outcome.recipientActorId),
        ("message_fixture_id", .str outcome.messageFixtureId),
        ("correlation_id", .ofText? outcome.correlationId)]) []
    if accepted then E.declareWait s outcome.wait else return (false, s)
  | .escalate outcome => do
    let (accepted, s) ← E.proposeAction s "request_exception_resolution" (.ofList
      [("exception_type", .str outcome.exceptionType),
        ("approval_checkpoint_id", .str outcome.checkpointId),
        ("deadline_after_minutes", .int outcome.deadlineAfterMinutes)]) outcome.evidenceRefs
    if accepted then E.declareWait s (escalationWait outcome) else return (false, s)
  | .act outcome => do
    let (_, s) ← E.proposeAction s outcome.actionType outcome.payload outcome.evidenceRefs
    return (false, s)

end Proposals

section Loop

/-- Open an invocation. Its turns are the following steps. -/
def invoke (s : EngineState σ) (trigger : Option Event) : Except PyError (EngineState σ) := do
  let authoritative := trigger.any fun event =>
    E.eventAuthorityOf event = Authority.authoritativeVerification
  let s := { s.clearWait with
    invocations := s.invocations + 1
    lastRejection := none
    triggerIsAuthoritative := authoritative
    claimValues := claimValuesOf trigger }
  let s ← s.log "agent_invoked"
    [("invocation_index", .int s.invocations),
      ("trigger_event_id", .ofText? (trigger.map Event.eventId)),
      ("trigger_event_type", .ofText? (trigger.map Event.eventType)),
      ("trigger_event_authority", .ofText? (trigger.map E.eventAuthorityOf)),
      ("trigger_is_authoritative", .bool authoritative),
      ("trigger_claim_values", .ofTexts (sortTexts s.claimValues))]
  let s ← s.invalidateDerivedContext .wake 0 none
  return { s with control := .turn trigger 0 0 }

def callLimit : Int :=
  E.plan.maxTurnsPerInvocation + E.plan.maxRetrievalBatchesPerInvocation + 1

/-- One pass of the loop inside an invocation: at most one call of the agent. -/
def turnStep (s : EngineState σ) (trigger : Option Event) (business turn : ℕ) :
    Except PyError (EngineState σ) :=
  if ¬business < E.plan.maxTurnsPerInvocation then do
    let s ← s.refuseInvocation "INVOCATION_TURN_LIMIT_EXCEEDED"
      (s!"the agent produced {E.plan.maxTurnsPerInvocation} outcomes " ++
        "in one invocation without waiting, escalating or completing")
    return { s with control := .head }
  else if E.callLimit ≤ turn then do
    let s ← s.refuseInvocation "INVOCATION_CALL_LIMIT_EXCEEDED"
      (s!"the agent was called {turn} time(s) in one invocation — every " ++
        s!"business turn ({E.plan.maxTurnsPerInvocation}) plus every " ++
        s!"retrieval batch ({E.plan.maxRetrievalBatchesPerInvocation}) " ++
        "plus one — without waiting, escalating or completing")
    return { s with control := .head }
  else do
    let observation ← E.observation s trigger turn
    let s := { s with turnIndex := turn, asked := s.asked ++ [observation] }
    let answer ← E.agent s.asked
    match answer with
    | .retrieve batch =>
      let s ← E.serveBatch s batch turn
      return { s with control := .turn trigger business (turn + 1) }
    | answer =>
      match outcomeContract answer with
      | .error (.raises e) => .error e
      | .error (.problem detail) =>
        let s ← s.refuseOutcome turn detail
        return { s with control := .turn trigger (business + 1) (turn + 1) }
      | .ok outcome =>
        let s ← s.log "agent_outcome"
          [("invocation_index", .int s.invocations), ("turn_index", .int turn),
            ("outcome", outcomeAsDict outcome)]
        let (ended, s) ← E.handle s outcome
        return { s with control := if ended then .head else .turn trigger (business + 1) (turn + 1) }

/-- Deliver one event at its instant: to the record only, once the operation is final. -/
def deliver (s : EngineState σ) (event : Event) : Except PyError (EngineState σ) :=
  let identity := [("event_id", .str event.eventId), ("event_type", .str event.eventType),
    ("actor_id", .str event.actorId)]
  if E.domain.isReplayFinal s.state then do
    let s ← s.log "event_after_terminal" (identity ++ [("mutating", .bool false)])
    return s.noteDelivery event .postTerminal "AFTER_REPLAY_FINAL"
  else do
    let reduction ← E.domain.reduceEvent (E.context s) s.state event
    let verdict := reduction.verdict
    let s ← s.commit reduction
    if !verdict.accepted then
      let s ← s.log "event_rejected"
        (identity ++ [("code", .str verdict.code), ("detail", .str verdict.detail)])
      return s.noteDelivery event .rejected verdict.code
    else
      let s ← s.log (if event.triggersAgent then "event_observed" else "event_audit_only")
        (identity ++ [("code", .str verdict.code), ("observational", .bool verdict.observational)])
      let s := s.noteDelivery event (if event.triggersAgent then .accepted else .audit) verdict.code
      let cycleId := if verdict.cycleId.getD "" ≠ "" then verdict.cycleId else cycleOf event
      let s ← s.fireConditionals .event event.eventType cycleId verdict.bindings
      if !event.triggersAgent then return s
      else if E.domain.isReplayFinal s.state then return s
      else
        let s ← s.checkDeclaredWake event
        let (spent, s) ← E.outOfInvocations s
        if spent then return s else E.invoke s (some event)

/-- The clock at the horizon, or where it stands when that is past it. -/
def clockAtHorizon (s : EngineState σ) (horizonAt : String) : Except PyError SimulatedClock := do
  let horizon ← parseTimestamp horizonAt "operational horizon"
  let now ← parseTimestamp s.clock.now "operational horizon"
  if now < horizon then s.clock.advanceTo horizonAt "operational horizon" else .ok s.clock

/-- The world went quiet under a standing wait. Run out the horizon. -/
def exhaustHorizonUnderWait (s : EngineState σ) (wait : Wait) : Except PyError (EngineState σ) := do
  let horizonAt ← shiftMinutes E.plan.startsAt E.plan.horizonMinutes "operational horizon"
  let clock ← clockAtHorizon s horizonAt
  let s ← { s with clock }.log "wait_unresolved_at_horizon"
    [("reason", .str wait.reason), ("wake_on", .ofTexts wait.wakeOn),
      ("horizon_at", .str horizonAt)]
  return { s with halt := some .horizon }

/-- The declared fallback comes due before anything else happens. -/
def fireFallback (s : EngineState σ) (fallbackAt : String) : Except PyError (EngineState σ) := do
  let beyond ← E.beyondHorizon s fallbackAt
  if beyond then return { s with halt := some .horizon, control := .done }
  else
    let clock ← s.clock.advanceTo fallbackAt "wait fallback"
    let s ← { s with clock }.log "wait_declared" [("fallback_fired", .bool true)]
    let s := s.clearWait
    let (spent, s) ← E.outOfInvocations s
    if spent then return { s with control := .done } else E.invoke s none

/-- Nothing is pending and no fallback is due. -/
def quiet (s : EngineState σ) : Except PyError (EngineState σ) :=
  match s.activeWait with
  | none => .ok { s with control := .done }
  | some wait => do
    let s ← E.exhaustHorizonUnderWait s wait
    return { s with control := .done }

/-- The next event comes due. -/
def deliverNext (s : EngineState σ) (upcoming : Event) : Except PyError (EngineState σ) := do
  let beyond ← E.beyondHorizon s upcoming.instant
  if beyond then return { s with halt := some .horizon, control := .done }
  else
    let (popped, queue) ← s.queue.popNext
    match popped with
    | none => .error .assertion
    | some event =>
      let clock ← s.clock.advanceTo event.instant s!"event {event.eventId}"
      E.deliver { s with queue, clock } event

/-- One pass of the delivery loop. -/
def headStep (s : EngineState σ) : Except PyError (EngineState σ) :=
  if s.halt.isSome then .ok { s with control := .done }
  else do
    let (upcoming, queue) ← s.queue.peekNext
    let s := { s with queue }
    let due ← s.fallbackDueBefore upcoming
    match due, upcoming with
    | some fallbackAt, _ => E.fireFallback s fallbackAt
    | none, none => E.quiet s
    | none, some upcoming => E.deliverNext s upcoming

def step (s : EngineState σ) : Except PyError (EngineState σ) :=
  match s.control with
  | .head => E.headStep s
  | .turn trigger business turn => E.turnStep s trigger business turn
  | .done => .ok s

end Loop

section Episode

/-- The engine as constructed, at the start of `run`. -/
def start : Except PyError (EngineState σ) := do
  let clock ← SimulatedClock.start E.plan.startsAt "episode start"
  let queue ← E.plan.events.foldlM (fun queue planned =>
    match planned.instant with
    | none => .ok queue
    | some instant => queue.schedule (toEvent planned instant none Dict.empty)) EventQueue.empty
  EngineState.log {
    clock, queue
    ledger := TrajectoryLedger.empty
    state := E.domain.initialState
    conditionals := E.plan.events.filter fun planned => planned.trigger.isSome
    delivered := []
    timerCounter := 0
    proposalCounter := 0
    invocations := 0
    activeWait := none
    fallbackAt := none
    lastRejection := none
    halt := none
    served := Dict.empty
    retrievalBatches := 0
    readHistory := Dict.empty
    claimValues := []
    triggerIsAuthoritative := false
    turnIndex := 0
    control := .head
    asked := [] } "episode_ended" [("phase", .str "started")]

structure EpisodeOutcome where
  status : String
  terminalOutcome : Option String
  replayFinal : Bool
  startedAt : String
  endedAt : String
  simulatedMinutes : Int
  invocations : ℕ
  finalState : Fields
  finalStateDigest : String
  trajectory : List Record
  trajectoryDigest : String
  events : List Fields

def EpisodeOutcome.asDict (outcome : EpisodeOutcome) : Value := .ofFields
  [("status", .str outcome.status), ("terminal_outcome", .ofText? outcome.terminalOutcome),
    ("replay_final", .bool outcome.replayFinal), ("started_at", .str outcome.startedAt),
    ("ended_at", .str outcome.endedAt), ("simulated_minutes", .int outcome.simulatedMinutes),
    ("invocations", .int outcome.invocations), ("final_state", outcome.finalState.asDict),
    ("final_state_digest_sha256", .str outcome.finalStateDigest),
    ("trajectory", .list (outcome.trajectory.map Record.asDict)),
    ("trajectory_digest_sha256", .str outcome.trajectoryDigest),
    ("events", .list (outcome.events.map Fields.asDict))]

def status (s : EngineState σ) : String :=
  match s.halt, E.domain.terminalOutcome s.state with
  | some halt, _ => halt.text
  | none, some terminal =>
    if E.domain.isReplayFinal s.state then terminal
    else if s.queue.pending = [] then Halt.horizon.text else Halt.deadlock.text
  | none, none => if s.queue.pending = [] then Halt.horizon.text else Halt.deadlock.text

/-- Close the record and state the result. -/
def finish (s : EngineState σ) : Except PyError EpisodeOutcome := do
  let status := E.status s
  let s ← s.log "episode_ended"
    [("phase", .str "ended"), ("status", .str status), ("invocations", .int s.invocations)]
  let finalState := E.domain.canonicalState s.state
  if !finalState.asDict.jsonSafe Value.maxJsonDepth then
    .error (.jsonSafety "operatebench final state")
  else
    let outcome : EpisodeOutcome := {
      status
      terminalOutcome := E.domain.terminalOutcome s.state
      replayFinal := E.domain.isReplayFinal s.state
      startedAt := E.plan.startsAt
      endedAt := s.clock.now
      simulatedMinutes := s.clock.elapsedMinutes
      invocations := s.invocations
      finalState
      finalStateDigest := E.sha256 finalState.asDict
      trajectory := s.ledger.records
      trajectoryDigest := E.sha256 s.ledger.asList
      events := s.delivered }
    if !outcome.asDict.jsonSafe Value.maxJsonDepth then
      .error (.jsonSafety "operatebench episode outcome")
    else return outcome

/-- The state after the given number of steps. -/
def runSteps : ℕ → EngineState σ → Except PyError (EngineState σ)
  | 0, s => .ok s
  | n + 1, s => do
    let s ← E.step s
    runSteps n s

/-- A whole episode, given enough steps to get behind the loop. -/
def run (fuel : ℕ) : Except PyError (Option EpisodeOutcome) := do
  let s ← E.start
  let s ← E.runSteps fuel s
  match s.control with
  | .done => do
    let outcome ← E.finish s
    return some outcome
  | _ => return none

end Episode

end Engine

end OperateBench
