import OperateBench.Core.Stages
import OperateBench.Core.Evaluation

/-! # What proposals write, exactly

An entry is a row before the ledger numbers and dates it. A proposal, a terminal and a wait are
taken apart into the change of the engine's own fields and the entries written at the instant of
its clock; what a reduction leaves behind is taken over in between. A trajectory only grows: what
stands at a position stays there.
-/

namespace OperateBench

open Foundation EngineState Relation

/-- A row before the ledger numbers and dates it. -/
abbrev Entry := String × Fields

def entry (recordType : String) (payload : List (String × Value)) : Entry :=
  (recordType, .ofList payload)

/-- The entries as the rows that follow the first `start` ones. -/
def numbered (start : ℕ) (now : String) : List Entry → List Record
  | [] => []
  | e :: es => ⟨start, now, e.1, e.2⟩ :: numbered (start + 1) now es

def TrajectoryLedger.extend (ledger : TrajectoryLedger) (now : String) (entries : List Entry) :
    TrajectoryLedger :=
  entries.foldl (fun ledger e => ledger.write now e.1 e.2) ledger

variable {σ : Type} {E : Engine σ} {s s' s'' t : EngineState σ}

namespace EngineState

def write (s : EngineState σ) (entries : List Entry) : EngineState σ :=
  { s with ledger := s.ledger.extend s.clock.now entries }

section Entries

variable {ledger : TrajectoryLedger} {now : String} {a b : List Entry}

theorem length_numbered (start : ℕ) (now : String) (es : List Entry) :
    (numbered start now es).length = es.length := by
  induction es generalizing start with
  | nil => rfl
  | cons e es ih => simp [numbered, ih]

theorem numbered_append (start : ℕ) (now : String) (a b : List Entry) :
    numbered start now (a ++ b) = numbered start now a ++ numbered (start + a.length) now b := by
  induction a generalizing start with
  | nil => rfl
  | cons e a ih => simp [numbered, ih, Nat.add_comm, Nat.add_left_comm]

theorem records_extend (ledger : TrajectoryLedger) (now : String) (es : List Entry) :
    (ledger.extend now es).records = ledger.records ++ numbered ledger.records.length now es := by
  induction es generalizing ledger with
  | nil => simp [TrajectoryLedger.extend, numbered]
  | cons e es ih =>
    rw [TrajectoryLedger.extend, List.foldl_cons, ← TrajectoryLedger.extend, ih]
    simp [numbered]

theorem extend_append : ledger.extend now (a ++ b) = (ledger.extend now a).extend now b :=
  List.foldl_append

@[simp] theorem write_nil (s : EngineState σ) : s.write [] = s := rfl

@[simp] theorem write_write (s : EngineState σ) (a b : List Entry) :
    (s.write a).write b = s.write (a ++ b) := by
  simp only [write, extend_append]

theorem records_write (s : EngineState σ) (es : List Entry) : (s.write es).ledger.records =
    s.ledger.records ++ numbered s.ledger.records.length s.clock.now es :=
  records_extend _ _ _

theorem log_write {recordType : String} {payload : List (String × Value)}
    (h : s.log recordType payload = .ok s') : s' = s.write [entry recordType payload] := log_ok h

theorem mem_numbered {start : ℕ} {es : List Entry} {row : Record}
    (h : row ∈ numbered start now es) : row.instant = now ∧ (row.recordType, row.payload) ∈ es := by
  induction es generalizing start with
  | nil => cases h
  | cons e es ih =>
    rcases List.mem_cons.mp h with rfl | h
    · exact ⟨rfl, List.mem_cons_self⟩
    · exact (ih h).imp_right (List.mem_cons_of_mem _)

theorem numbered_mem {start : ℕ} {es : List Entry} {e : Entry} (h : e ∈ es) :
    ∃ index, (⟨index, now, e.1, e.2⟩ : Record) ∈ numbered start now es := by
  induction es generalizing start with
  | nil => cases h
  | cons e' es ih =>
    rcases List.mem_cons.mp h with rfl | h
    · exact ⟨start, List.mem_cons_self⟩
    · exact (ih h).imp fun _ => List.mem_cons_of_mem _

end Entries

section Effects

/-- The rows that the effects leave behind. A disarmed timer is recorded when it was pending. -/
inductive EffectEntries (now : String) : List Effect → List Entry → Prop
  | nil : EffectEntries now [] []
  | record {recordType : String} {payload : Fields} {effects : List Effect} {es : List Entry}
      (rest : EffectEntries now effects es) :
      EffectEntries now (.record recordType payload :: effects) ((recordType, payload) :: es)
  | armed {eventId eventType actorId dueAt : String} {delayMinutes : Int} {payload : Fields}
      {triggersAgent : Bool} {effects : List Effect} {es : List Entry}
      (due : shiftMinutes now delayMinutes s!"timer {eventId}" = .ok dueAt)
      (rest : EffectEntries now effects es) :
      EffectEntries now
        (.scheduleTimer eventId eventType actorId delayMinutes payload triggersAgent :: effects)
        (entry "timer_scheduled" [("event_id", .str eventId), ("event_type", .str eventType),
          ("due_at", .str dueAt)] :: es)
  | disarmed {eventId : String} {effects : List Effect} {es : List Entry}
      (rest : EffectEntries now effects es) :
      EffectEntries now (.cancelTimer eventId :: effects)
        (entry "timer_cancelled" [("event_id", .str eventId)] :: es)
  | absent {eventId : String} {effects : List Effect} {es : List Entry}
      (rest : EffectEntries now effects es) :
      EffectEntries now (.cancelTimer eventId :: effects) es

theorem foldlM_applyEffect_ok {effects : List Effect}
    (h : effects.foldlM applyEffect s = .ok s') : ∃ queue timerCounter es,
      EffectEntries s.clock.now effects es ∧ s' = { s with queue, timerCounter }.write es := by
  induction effects generalizing s with
  | nil =>
    obtain rfl := pure_ok h
    exact ⟨_, _, [], .nil, rfl⟩
  | cons effect effects ih =>
    rw [List.foldlM_cons] at h
    obtain ⟨t, ht, h⟩ := bind_ok h
    obtain ⟨queue, timerCounter, es, hes, rfl⟩ := ih h
    cases effect with
    | record recordType payload =>
      obtain ⟨ledger, hl, ht⟩ := bind_ok ht
      obtain rfl := pure_ok ht
      obtain rfl := TrajectoryLedger.append_ok hl
      exact ⟨queue, timerCounter, _, .record hes, rfl⟩
    | scheduleTimer eventId eventType actorId delayMinutes payload triggersAgent =>
      obtain ⟨instant, hi, ht⟩ := bind_ok ht
      obtain ⟨armed, _, ht⟩ := bind_ok ht
      obtain rfl := log_write ht
      exact ⟨queue, timerCounter, _, .armed hi hes, rfl⟩
    | cancelTimer eventId =>
      rw [applyEffect, cancelTimer] at ht
      split at ht
      split at ht
      · obtain rfl := log_write ht
        exact ⟨queue, timerCounter, _, .disarmed hes, rfl⟩
      · obtain rfl := Except.ok.inj ht
        exact ⟨queue, timerCounter, es, .absent hes, rfl⟩

theorem commit_ok {reduction : Reduction σ} (h : s.commit reduction = .ok s') :
    ∃ queue timerCounter es, EffectEntries s.clock.now reduction.effects es ∧
      s' = { s with state := reduction.state, queue, timerCounter }.write es :=
  foldlM_applyEffect_ok h

theorem fireConditionals_ok {kind : TriggerKind} {typeName : String} {cycleId : Option String}
    {bindings : Bindings} (h : s.fireConditionals kind typeName cycleId bindings = .ok s') :
    ∃ conditionals queue, s' = { s with conditionals, queue } := by
  obtain ⟨⟨conditionals, queue⟩, _, h⟩ := bind_ok h
  exact ⟨conditionals, queue, (pure_ok h).symm⟩

theorem EffectEntries.mem {now : String} {effects : List Effect} {es : List Entry}
    {recordType : String} {payload : Fields} (h : EffectEntries now effects es)
    (hm : Effect.record recordType payload ∈ effects) : (recordType, payload) ∈ es := by
  induction h with
  | nil => cases hm
  | record rest ih =>
    rcases List.mem_cons.mp hm with he | hm
    · obtain ⟨rfl, rfl⟩ := Effect.record.inj he
      exact List.mem_cons_self
    · exact List.mem_cons_of_mem _ (ih hm)
  | armed due rest ih => exact List.mem_cons_of_mem _ (ih ((List.mem_cons.mp hm).resolve_left nofun))
  | disarmed rest ih => exact List.mem_cons_of_mem _ (ih ((List.mem_cons.mp hm).resolve_left nofun))
  | absent rest ih => exact ih ((List.mem_cons.mp hm).resolve_left nofun)

/-- What an effect leaves behind is a row of the domain or a row about a timer. -/
theorem EffectEntries.source {now : String} {effects : List Effect} {es : List Entry} {e : Entry}
    (h : EffectEntries now effects es) (hm : e ∈ es) :
    Effect.record e.1 e.2 ∈ effects ∨ e.1 = "timer_scheduled" ∨ e.1 = "timer_cancelled" := by
  induction h with
  | nil => cases hm
  | record rest ih =>
    rcases List.mem_cons.mp hm with rfl | hm
    · exact Or.inl List.mem_cons_self
    · exact (ih hm).imp_left (List.mem_cons_of_mem _)
  | armed due rest ih =>
    rcases List.mem_cons.mp hm with rfl | hm
    · exact Or.inr (Or.inl rfl)
    · exact (ih hm).imp_left (List.mem_cons_of_mem _)
  | disarmed rest ih =>
    rcases List.mem_cons.mp hm with rfl | hm
    · exact Or.inr (Or.inr rfl)
    · exact (ih hm).imp_left (List.mem_cons_of_mem _)
  | absent rest ih => exact (ih hm).imp_left (List.mem_cons_of_mem _)

end Effects

end EngineState

namespace Engine

section Proposals

def proposalId (proposal : ℕ) : String := s!"proposal_{proposal}"

def proposedEntry (proposal : ℕ) (actionType : String) (payload : Fields)
    (evidenceRefs : List String) : Entry :=
  entry "action_proposed" [("proposal_id", .str (proposalId proposal)),
    ("action_type", .str actionType), ("payload", payload.asDict),
    ("evidence_refs", .ofTexts evidenceRefs)]

def rejectedEntry (proposal : ℕ) (actionType code detail : String) : Entry :=
  entry "action_rejected" [("proposal_id", .str (proposalId proposal)),
    ("action_type", .str actionType), ("code", .str code), ("detail", .str detail)]

/-- The proposal is on record and not answered yet. -/
def proposing (s : EngineState σ) (actionType : String) (payload : Fields)
    (evidenceRefs : List String) : EngineState σ :=
  { s with proposalCounter := s.proposalCounter + 1 }.write
    [proposedEntry (s.proposalCounter + 1) actionType payload evidenceRefs]

/-- The open proposal was refused. -/
def refusing (s : EngineState σ) (proposal : ℕ) (actionType code detail : String) :
    EngineState σ :=
  { s with lastRejection := some ⟨actionType, code, detail⟩ }.write
    [rejectedEntry proposal actionType code detail]

def effectEntry (proposal : ℕ) (actionType : String) (verdict : Verdict) : Entry :=
  entry "effect_accepted" [("proposal_id", .str (proposalId proposal)),
    ("action_type", .str actionType), ("code", .str verdict.code),
    ("cycle_id", .ofText? verdict.cycleId),
    ("bindings", .ofFields (verdict.bindings.entries.map fun (name, id) => (name, .str id)))]

def invalidatedEntry (s : EngineState σ) (cause : InvalidationCause) (turnIndex : ℕ)
    (actionType : Option String) : Entry :=
  entry "derived_context_invalidated" [("invocation_index", .int s.invocations),
    ("turn_index", .int turnIndex), ("cause", .str cause.text),
    ("action_type", .ofText? actionType), ("cleared_tools", .ofTexts (sortTexts s.served.keys))]

/-- The effect of the open proposal was accepted, and what was read before it is stale. -/
def accepting (s : EngineState σ) (proposal : ℕ) (actionType : String) (verdict : Verdict) :
    EngineState σ :=
  { s with lastRejection := none, served := Dict.empty }.write
    [effectEntry proposal actionType verdict,
      invalidatedEntry s .effectAccepted s.turnIndex (some actionType)]

/-- An action was proposed and answered: stopped by the guard, refused or accepted. -/
inductive Proposed (E : Engine σ) (s : EngineState σ) (actionType : String) (payload : Fields)
    (evidenceRefs : List String) : Bool → EngineState σ → Prop
  | stopped {code detail : String}
      (guard : E.readGuardProblem s actionType evidenceRefs = .ok (some (code, detail))) :
      Proposed E s actionType payload evidenceRefs false
        (refusing (proposing s actionType payload evidenceRefs) (s.proposalCounter + 1) actionType
          code detail)
  | refused {reduction : Reduction σ} {t : EngineState σ}
      (guard : E.readGuardProblem s actionType evidenceRefs = .ok none)
      (reduced : E.domain.reduce
        ⟨E.context s, .action actionType payload evidenceRefs⟩ s.state = .ok reduction)
      (committed : (proposing s actionType payload evidenceRefs).commit reduction = .ok t)
      (verdict : reduction.verdict.accepted = false) :
      Proposed E s actionType payload evidenceRefs false
        (refusing t (s.proposalCounter + 1) actionType reduction.verdict.code
          reduction.verdict.detail)
  | accepted {reduction : Reduction σ} {t s' : EngineState σ}
      (guard : E.readGuardProblem s actionType evidenceRefs = .ok none)
      (reduced : E.domain.reduce
        ⟨E.context s, .action actionType payload evidenceRefs⟩ s.state = .ok reduction)
      (committed : (proposing s actionType payload evidenceRefs).commit reduction = .ok t)
      (verdict : reduction.verdict.accepted = true)
      (fired : (accepting t (s.proposalCounter + 1) actionType reduction.verdict).fireConditionals
        .action actionType reduction.verdict.cycleId reduction.verdict.bindings = .ok s') :
      Proposed E s actionType payload evidenceRefs true s'

theorem invalidateDerivedContext_write {cause : InvalidationCause} {turnIndex : ℕ}
    {actionType : Option String}
    (h : s.invalidateDerivedContext cause turnIndex actionType = .ok s') :
    s' = { s with
      served := Dict.empty
      retrievalBatches := if cause = InvalidationCause.wake then 0 else s.retrievalBatches }.write
        [invalidatedEntry s cause turnIndex actionType] := by
  rw [log_write h]
  cases cause <;> rfl

theorem proposeAction_proposed {actionType : String} {payload : Fields}
    {evidenceRefs : List String} {accepted : Bool}
    (h : E.proposeAction s actionType payload evidenceRefs = .ok (accepted, s')) :
    E.Proposed s actionType payload evidenceRefs accepted s' := by
  obtain ⟨s₀, h₀, h⟩ := bind_ok h
  obtain rfl := log_write h₀
  obtain ⟨guard, hguard, h⟩ := bind_ok h
  rcases guard with _ | ⟨code, detail⟩
  · obtain ⟨reduction, hg, h⟩ := bind_ok h
    obtain ⟨t, hc, h⟩ := bind_ok h
    split at h
    · rename_i hv
      obtain ⟨u, hu, h⟩ := bind_ok h
      obtain rfl := log_write hu
      obtain ⟨rfl, rfl⟩ := Prod.mk.inj (pure_ok h)
      exact .refused hguard hg hc (by simpa using hv)
    · rename_i hv
      obtain ⟨u, hu, h⟩ := bind_ok h
      obtain rfl := log_write hu
      obtain ⟨v, hi, h⟩ := bind_ok h
      obtain rfl := invalidateDerivedContext_write hi
      obtain ⟨w, hf, h⟩ := bind_ok h
      obtain ⟨rfl, rfl⟩ := Prod.mk.inj (pure_ok h)
      exact .accepted hguard hg hc (by simpa using hv) hf
  · obtain ⟨reduction, hg, h⟩ := bind_ok h
    obtain ⟨t, hc, h⟩ := bind_ok h
    obtain rfl := Except.ok.inj hg
    obtain rfl := commit_refused hc
    obtain ⟨u, hu, h⟩ := bind_ok h
    obtain rfl := log_write hu
    obtain ⟨rfl, rfl⟩ := Prod.mk.inj (pure_ok h)
    exact .stopped hguard

def concludedEntry (outcome : Complete) : Entry := entry "terminal_proposed"
  [("reason", .str outcome.reason), ("evidence_refs", .ofTexts outcome.evidenceRefs)]

def deniedEntry (code detail : String) : Entry :=
  entry "terminal_rejected" [("code", .str code), ("detail", .str detail)]

/-- The terminal is on record as proposed. -/
def concluding (s : EngineState σ) (outcome : Complete) : EngineState σ :=
  s.write [concludedEntry outcome]

def denying (s : EngineState σ) (code detail : String) : EngineState σ :=
  { s with lastRejection := some ⟨"complete", code, detail⟩ }.write [deniedEntry code detail]

/-- The terminal was proposed and answered. -/
inductive Concluded (E : Engine σ) (s : EngineState σ) (outcome : Complete) :
    Bool → EngineState σ → Prop
  | stopped {code detail : String}
      (guard : E.readGuardProblem s completeOutcomeKey outcome.evidenceRefs =
        .ok (some (code, detail))) :
      Concluded E s outcome false (denying (concluding s outcome) code detail)
  | refused {reduction : Reduction σ} {t : EngineState σ}
      (guard : E.readGuardProblem s completeOutcomeKey outcome.evidenceRefs = .ok none)
      (reduced : E.domain.reduce ⟨E.context s, .terminal outcome.evidenceRefs⟩ s.state =
        .ok reduction)
      (committed : (concluding s outcome).commit reduction = .ok t)
      (verdict : reduction.verdict.accepted = false) :
      Concluded E s outcome false (denying t reduction.verdict.code reduction.verdict.detail)
  | accepted {reduction : Reduction σ} {t s' : EngineState σ}
      (guard : E.readGuardProblem s completeOutcomeKey outcome.evidenceRefs = .ok none)
      (reduced : E.domain.reduce ⟨E.context s, .terminal outcome.evidenceRefs⟩ s.state =
        .ok reduction)
      (committed : (concluding s outcome).commit reduction = .ok t)
      (verdict : reduction.verdict.accepted = true)
      (fired : { t with lastRejection := none }.fireConditionals .action "complete"
        reduction.verdict.cycleId reduction.verdict.bindings = .ok s') :
      Concluded E s outcome true s'

theorem proposeTerminal_concluded {outcome : Complete} {accepted : Bool}
    (h : E.proposeTerminal s outcome = .ok (accepted, s')) : E.Concluded s outcome accepted s' := by
  obtain ⟨s₀, h₀, h⟩ := bind_ok h
  obtain rfl := log_write h₀
  obtain ⟨guard, hguard, h⟩ := bind_ok h
  rcases guard with _ | ⟨code, detail⟩
  · obtain ⟨reduction, hg, h⟩ := bind_ok h
    obtain ⟨t, hc, h⟩ := bind_ok h
    split at h
    · rename_i hv
      obtain ⟨u, hu, h⟩ := bind_ok h
      obtain rfl := log_write hu
      obtain ⟨rfl, rfl⟩ := Prod.mk.inj (pure_ok h)
      exact .refused hguard hg hc (by simpa using hv)
    · rename_i hv
      obtain ⟨u, hf, h⟩ := bind_ok h
      obtain ⟨rfl, rfl⟩ := Prod.mk.inj (pure_ok h)
      exact .accepted hguard hg hc (by simpa using hv) hf
  · obtain ⟨reduction, hg, h⟩ := bind_ok h
    obtain ⟨t, hc, h⟩ := bind_ok h
    obtain rfl := Except.ok.inj hg
    obtain rfl := commit_refused hc
    obtain ⟨u, hu, h⟩ := bind_ok h
    obtain rfl := log_write hu
    obtain ⟨rfl, rfl⟩ := Prod.mk.inj (pure_ok h)
    exact .stopped hguard

/-- The codes under which a declared wait is refused. -/
def waitRefusals : List String := ["UNKNOWN_WAKE_EVENT_TYPE", "WAIT_AFTER_REPLAY_FINAL"]

/-- A wait was declared and stands, or was refused. -/
inductive Waited (E : Engine σ) (s : EngineState σ) (wait : Wait) : Bool → EngineState σ → Prop
  | refused {ended : Bool} {code detail : String} (named : code ∈ waitRefusals) :
      Waited E s wait ended ({ s with lastRejection := some ⟨"wait", code, detail⟩ }.write
        [entry "wait_rejected" [("code", .str code), ("detail", .str detail)]])
  | standing {fallbackAt : Option String} (live : E.domain.isReplayFinal s.state = false)
      (fallback : fallbackInstant s wait = .ok fallbackAt)
      (known : ∀ type ∈ wait.wakeOn, type ∈ E.domain.wakeEventVocabulary) :
      Waited E s wait true ({ s with activeWait := some wait, fallbackAt }.write
        [entry "wait_declared" [("reason", .str wait.reason), ("wake_on", .ofTexts wait.wakeOn),
          ("fallback_at", .ofText? fallbackAt)]])

theorem refuseWait_write {code detail : String} (h : s.refuseWait code detail = .ok s') :
    s' = { s with lastRejection := some ⟨"wait", code, detail⟩ }.write
      [entry "wait_rejected" [("code", .str code), ("detail", .str detail)]] := by
  obtain ⟨t, ht, h⟩ := bind_ok h
  obtain rfl := log_write ht
  exact (pure_ok h).symm

theorem declareWait_waited {wait : Wait} {ended : Bool}
    (h : E.declareWait s wait = .ok (ended, s')) : E.Waited s wait ended s' := by
  unfold declareWait at h
  dsimp only at h
  split at h
  · obtain ⟨t, ht, h⟩ := bind_ok h
    obtain ⟨rfl, rfl⟩ := Prod.mk.inj (pure_ok h)
    exact refuseWait_write ht ▸ .refused (by simp [waitRefusals])
  rename_i hknown
  split at h
  · obtain ⟨t, ht, h⟩ := bind_ok h
    obtain ⟨rfl, rfl⟩ := Prod.mk.inj (pure_ok h)
    exact refuseWait_write ht ▸ .refused (by simp [waitRefusals])
  · rename_i hlive
    obtain ⟨fallbackAt, hf, h⟩ := bind_ok h
    obtain ⟨t, ht, h⟩ := bind_ok h
    obtain ⟨rfl, rfl⟩ := Prod.mk.inj (pure_ok h)
    refine log_write ht ▸ .standing (by simpa using hlive) hf fun type htype => ?_
    by_contra hunknown
    have hmem : type ∈ sortedSet (wait.wakeOn.filter fun type =>
        type ∉ E.domain.wakeEventVocabulary) := by
      rw [sortedSet, sortTexts, List.mem_insertionSort, List.mem_dedup, List.mem_filter]
      exact ⟨htype, by simpa using hunknown⟩
    rw [not_not.mp hknown] at hmem
    cases hmem

def askPayload (outcome : Ask) : Fields := .ofList
  [("recipient_actor_id", .str outcome.recipientActorId),
    ("message_fixture_id", .str outcome.messageFixtureId),
    ("correlation_id", .ofText? outcome.correlationId)]

def escalatePayload (outcome : Escalate) : Fields := .ofList
  [("exception_type", .str outcome.exceptionType),
    ("approval_checkpoint_id", .str outcome.checkpointId),
    ("deadline_after_minutes", .int outcome.deadlineAfterMinutes)]

/-- One outcome was handled, and the invocation goes on or is over. -/
inductive Handled (E : Engine σ) (s : EngineState σ) : AgentOutcome → Bool → EngineState σ → Prop
  | wait {wait : Wait} {ended : Bool} {s' : EngineState σ} (waited : E.Waited s wait ended s') :
      Handled E s (.wait wait) ended s'
  | complete {outcome : Complete} {ended : Bool} {s' : EngineState σ}
      (concluded : E.Concluded s outcome ended s') : Handled E s (.complete outcome) ended s'
  | act {outcome : Act} {accepted : Bool} {s' : EngineState σ}
      (proposed : E.Proposed s outcome.actionType outcome.payload outcome.evidenceRefs accepted s') :
      Handled E s (.act outcome) false s'
  | ask {outcome : Ask} {ended : Bool} {t s' : EngineState σ}
      (proposed : E.Proposed s "send_message" (askPayload outcome) [] true t)
      (waited : E.Waited t outcome.wait ended s') : Handled E s (.ask outcome) ended s'
  | unasked {outcome : Ask} {s' : EngineState σ}
      (proposed : E.Proposed s "send_message" (askPayload outcome) [] false s') :
      Handled E s (.ask outcome) false s'
  | escalate {outcome : Escalate} {ended : Bool} {t s' : EngineState σ}
      (proposed : E.Proposed s "request_exception_resolution" (escalatePayload outcome)
        outcome.evidenceRefs true t)
      (waited : E.Waited t (escalationWait outcome) ended s') :
      Handled E s (.escalate outcome) ended s'
  | unescalated {outcome : Escalate} {s' : EngineState σ}
      (proposed : E.Proposed s "request_exception_resolution" (escalatePayload outcome)
        outcome.evidenceRefs false s') : Handled E s (.escalate outcome) false s'

theorem handle_handled {outcome : AgentOutcome} {ended : Bool}
    (h : E.handle s outcome = .ok (ended, s')) : E.Handled s outcome ended s' := by
  cases outcome with
  | wait wait => exact .wait (declareWait_waited h)
  | complete outcome => exact .complete (proposeTerminal_concluded h)
  | act outcome =>
    obtain ⟨⟨accepted, t⟩, ht, h⟩ := bind_ok h
    obtain ⟨rfl, rfl⟩ := Prod.mk.inj (pure_ok h)
    exact .act (proposeAction_proposed ht)
  | ask outcome =>
    obtain ⟨⟨accepted, t⟩, ht, h⟩ := bind_ok h
    cases accepted with
    | true => exact .ask (proposeAction_proposed ht) (declareWait_waited h)
    | false =>
      obtain ⟨rfl, rfl⟩ := Prod.mk.inj (pure_ok h)
      exact .unasked (proposeAction_proposed ht)
  | escalate outcome =>
    obtain ⟨⟨accepted, t⟩, ht, h⟩ := bind_ok h
    cases accepted with
    | true => exact .escalate (proposeAction_proposed ht) (declareWait_waited h)
    | false =>
      obtain ⟨rfl, rfl⟩ := Prod.mk.inj (pure_ok h)
      exact .unescalated (proposeAction_proposed ht)

end Proposals

end Engine

end OperateBench

namespace OperateBench

open Foundation EngineState

section Fields

variable {es : List (String × Value)} {name : String} {v : Value}

theorem Fields.get_ofList (hn : (es.map Prod.fst).Nodup) (hm : (name, v) ∈ es) :
    Fields.get (.ofList es) name = v := by
  rw [Fields.get, Dict.get?_ofList hn hm, Option.getD_some]

theorem Fields.get_ofList_of_notMem (h : name ∉ es.map Prod.fst) :
    Fields.get (.ofList es) name = .none := by
  rw [Fields.get, Dict.ofList, Dict.get?_foldl_set h]
  rfl

theorem Fields.get?_ofList_of_notMem (h : name ∉ es.map Prod.fst) :
    Dict.get? (Dict.ofList es) name = none := by
  rw [Dict.ofList, Dict.get?_foldl_set h]
  rfl

end Fields

section Growth

/-- The row that an entry becomes at a position. -/
def Entry.row (e : Entry) (index : ℕ) (now : String) : Record := ⟨index, now, e.1, e.2⟩

variable {R R' : List Record} {now : String} {l : List Entry} {row : Record} {i j start : ℕ}

theorem getElem?_numbered (start : ℕ) (now : String) (l : List Entry) (j : ℕ) :
    (numbered start now l)[j]? = l[j]?.map fun e => Entry.row e (start + j) now := by
  induction l generalizing start j with
  | nil => rfl
  | cons e l ih =>
    cases j with
    | zero => rfl
    | succ j =>
      simp only [numbered, List.getElem?_cons_succ, ih]
      congr 1
      funext e
      rw [Nat.add_assoc, Nat.add_comm 1 j]

/-- The trajectory grew by one page. -/
def Grown (R R' : List Record) (now : String) (l : List Entry) : Prop :=
  R' = R ++ numbered R.length now l

theorem grown_extend (ledger : TrajectoryLedger) (now : String) (l : List Entry) :
    Grown ledger.records (ledger.extend now l).records now l := records_extend ledger now l

namespace Grown

theorem keeps (h : Grown R R' now l) (hr : R[i]? = some row) : R'[i]? = some row := by
  rw [h, List.getElem?_append_left (List.getElem?_eq_some_iff.mp hr).1, hr]

theorem length (h : Grown R R' now l) : R'.length = R.length + l.length := by
  rw [h, List.length_append, length_numbered]

theorem adds (h : Grown R R' now l) {e : Entry} (he : l[j]? = some e) :
    R'[R.length + j]? = some (Entry.row e (R.length + j) now) := by
  rw [h, List.getElem?_append_right (Nat.le_add_right _ _), Nat.add_sub_cancel_left,
    getElem?_numbered, he]
  rfl

/-- What stands in the longer trajectory stood there before or is an entry of the page. -/
theorem source (h : Grown R R' now l) (hr : R'[i]? = some row) : R[i]? = some row ∨
    ∃ j e, i = R.length + j ∧ l[j]? = some e ∧ row = Entry.row e i now := by
  rcases Nat.lt_or_ge i R.length with hlt | hge
  · rw [h, List.getElem?_append_left hlt] at hr
    exact Or.inl hr
  · right
    rw [h, List.getElem?_append_right hge, getElem?_numbered] at hr
    obtain ⟨e, he, rfl⟩ := Option.map_eq_some_iff.mp hr
    refine ⟨i - R.length, e, (Nat.add_sub_cancel' hge).symm, he, ?_⟩
    rw [Nat.add_sub_cancel' hge]

theorem mem (h : Grown R R' now l) (hr : row ∈ R') :
    row ∈ R ∨ ∃ e index, e ∈ l ∧ row = Entry.row e index now := by
  obtain ⟨i, hi⟩ := List.mem_iff_getElem?.mp hr
  rcases h.source hi with hi | ⟨j, e, _, he, rfl⟩
  · exact Or.inl (List.mem_of_getElem? hi)
  · exact Or.inr ⟨e, i, List.mem_of_getElem? he, rfl⟩

theorem take (h : Grown R R' now l) (hi : i ≤ R.length) : R'.take i = R.take i := by
  rw [h, List.take_append_of_le_length hi]

end Grown

theorem lt_of_getElem? (h : R[i]? = some row) : i < R.length :=
  (List.getElem?_eq_some_iff.mp h).1

theorem mem_positions {p : ℕ → Record → Bool} :
    i ∈ positions R p ↔ ∃ row, R[i]? = some row ∧ p i row = true := by
  simp only [positions, List.mem_map, List.mem_filter]
  constructor
  · rintro ⟨⟨row, k⟩, ⟨hm, hp⟩, rfl⟩
    exact ⟨row, List.mk_mem_zipIdx_iff_getElem?.mp hm, hp⟩
  · rintro ⟨row, hr, hp⟩
    exact ⟨(row, i), ⟨List.mk_mem_zipIdx_iff_getElem?.mpr hr, hp⟩, rfl⟩

theorem mem_zipIdx_iff : (row, i) ∈ R.zipIdx ↔ R[i]? = some row :=
  List.mk_mem_zipIdx_iff_getElem?

end Growth

end OperateBench
