import OperateBench.Agents.Survival
import OperateBench.Core.Finality
import OperateBench.Core.Projection

/-! # Recording and playback

An agent is run behind a recorder that keeps a tape of its decisions. A tape is played back by an
agent that hands out one recorded decision after the other, each only on the observation that it
was made from.
-/

namespace OperateBench.Agents

open Foundation

section Tapes

/-- One call to the agent: what it was shown, and what it decided. -/
structure RecordedDecision where
  invocationIndex : ℤ
  turnIndex : ℤ
  observationDigestSha256 : String
  outcome : List (Value × Value)

def decisionFields : List String :=
  ["invocation_index", "turn_index", "observation_digest_sha256", "outcome"]

def RecordedDecision.asDict (decision : RecordedDecision) : Value := .ofFields
  [("invocation_index", .int decision.invocationIndex), ("turn_index", .int decision.turnIndex),
    ("observation_digest_sha256", .str decision.observationDigestSha256),
    ("outcome", .dict decision.outcome)]

/-- Every decision one episode's agent made, in the order it made them. -/
abbrev DecisionTape := List RecordedDecision

def DecisionTape.asList (tape : DecisionTape) : Value := .list (tape.map RecordedDecision.asDict)

/-- What ends an episode without an outcome. -/
inductive EpisodeError
  | missingFields (position : ℕ) (missing : List String)
  | tapeExhausted (cursor length : ℕ)
  | decisionOrder (cursor : ℕ) (invocationIndex turnIndex : ℤ) (offered : AgentObservation)
  | observationMismatch (cursor : ℕ) (recorded offered : String)
  | tapeUnconsumed (cursor length : ℕ)
  | providerFailure (detail : String)
  | playback (error : PlaybackError)
  | raised (error : PyError)

namespace EpisodeError

def message : EpisodeError → String
  | missingFields position missing =>
    s!"recorded decision {position} is missing required field(s) {reprList missing}"
  | tapeExhausted cursor length =>
    s!"the episode asked for decision {cursor} and the recorded tape holds {length}; a missing " ++
      "outcome is refused rather than improvised, because an improvised decision would be the " ++
      "benchmark's and not the agent's"
  | decisionOrder cursor invocationIndex turnIndex offered =>
    s!"recorded decision {cursor} was made on invocation {invocationIndex} turn {turnIndex} and " ++
      s!"is being replayed at invocation {offered.invocationIndex} turn {offered.turnIndex}; a " ++
      "tape whose order moved describes a different run"
  | observationMismatch cursor recorded offered =>
    s!"recorded decision {cursor} was made from an observation with digest {recorded}, and the " ++
      s!"episode is offering {offered}; a decision is bound to what produced it, so an " ++
      "index-only replay is not a replay"
  | tapeUnconsumed cursor length =>
    s!"the episode ended after {cursor} decision(s) and the recorded tape holds {length}; an " ++
      "extra outcome means the tape and the run it claims to describe are not the same run"
  | providerFailure detail => detail
  | playback (.notShaped kind typeName) =>
    "a recorded " ++ (if kind.isStr "RETRIEVE" then kind.text else kind.repr) ++
      s!" decision is not shaped like one this build writes ({typeName})"
  | playback (.unknownKind kind) =>
    s!"{kind.repr} is not a decision kind this build records; a tape carrying one describes a " ++
      "run this build cannot reproduce"
  | playback (.unknownCode code) =>
    s!"{pyRepr code} is not a model output classification this build writes; known codes are " ++
      reprList (sortTexts (Classification.classifications.map Classification.code))
  | playback (.raised typeName) => typeName
  | raised _ => ""

/-- The engine lets everything through that its agent raises. -/
def thrown : EpisodeError → PyError
  | raised error => error
  | error => .value error.message

end EpisodeError

/-- One entry of an artefact's decisions, which its validator has held to their shape. -/
def decisionFrom (position : ℕ) (record : Value) : Except EpisodeError RecordedDecision :=
  let missing := sortTexts (decisionFields.filter fun name => (record.lookup? name).isNone)
  if missing ≠ [] then .error (.missingFields position missing)
  else do
    let outcome ← (dictOf (record.member "outcome")).mapError .playback
    return ⟨(record.member "invocation_index").number, (record.member "turn_index").number,
      (record.member "observation_digest_sha256").text, outcome⟩

/-- Rebuild a tape from an artefact's decisions, counted from a position on. -/
def tapeFromRecords : ℕ → List Value → Except EpisodeError DecisionTape
  | _, [] => .ok []
  | position, record :: records => do
    let decision ← decisionFrom position record
    let rest ← tapeFromRecords (position + 1) records
    return decision :: rest

end Tapes

section Agents

/-- The class name of a classification. -/
def Classification.typeName : Classification → String
  | unclassified => "MalformedModelOutcome"
  | returnedNoToolCall => "ModelReturnedNoToolCall"
  | returnedMultipleToolCalls => "ModelReturnedMultipleToolCalls"
  | outputTruncated => "ModelOutputTruncated"
  | exceededOutputLimit => "ModelExceededOutputLimit"
  | namedAnUnknownTool => "ModelNamedAnUnknownTool"
  | toolArgumentsMalformed => "ModelToolArgumentsMalformed"

/-- The object that the engine is handed. -/
def Decision.handed : Decision → Answer
  | .answer given => given
  | .malformed outcome => .other outcome.classification.typeName

/-- An agent of one episode, with what it remembers between its calls. -/
structure EpisodeAgent (τ : Type) where
  beginEpisode : τ
  decide : τ → AgentObservation → Except EpisodeError (Decision × τ)

namespace EpisodeAgent

variable {τ : Type} (agent : EpisodeAgent τ)

/-- What the agent remembers after the observations. -/
def after (shown : List AgentObservation) : Except EpisodeError τ :=
  shown.foldlM (fun memory observation => Prod.snd <$> agent.decide memory observation)
    agent.beginEpisode

/-- The decision on the newest of the observations. -/
def decision (shown : List AgentObservation) (observation : AgentObservation) :
    Except EpisodeError Decision := do
  let memory ← agent.after shown
  Prod.fst <$> agent.decide memory observation

def operationAgent : OperationAgent := fun shown =>
  match shown.getLast? with
  | none => .error .assertion
  | some observation =>
    (Decision.handed <$> agent.decision shown.dropLast observation).mapError EpisodeError.thrown

end EpisodeAgent

variable {τ : Type} (sha256 : Value → String)

/-- The agent behind a recorder, which keeps the tape as the episode runs. -/
def recordingAgent (inner : EpisodeAgent τ) : EpisodeAgent (τ × DecisionTape) where
  beginEpisode := (inner.beginEpisode, [])
  decide memory observation := do
    let digest ← (observationDigest sha256 observation).mapError .raised
    let (outcome, remembered) ← inner.decide memory.1 observation
    let record ← (decisionRecord outcome).mapError .playback
    let entries ← (dictOf record).mapError .playback
    return (outcome, remembered, memory.2 ++
      [⟨observation.invocationIndex, observation.turnIndex, digest, entries⟩])

/-- The agent that plays a tape back. It remembers how many of its decisions are used. -/
def recordedOutcomeAgent (tape : DecisionTape) : EpisodeAgent ℕ where
  beginEpisode := 0
  decide cursor observation :=
    match tape[cursor]? with
    | none => .error (.tapeExhausted cursor tape.length)
    | some decision =>
      if (decision.invocationIndex, decision.turnIndex) ≠
          ((observation.invocationIndex : ℤ), (observation.turnIndex : ℤ)) then
        .error (.decisionOrder cursor decision.invocationIndex decision.turnIndex observation)
      else do
        let offered ← (observationDigest sha256 observation).mapError .raised
        if offered ≠ decision.observationDigestSha256 then
          .error (.observationMismatch cursor decision.observationDigestSha256 offered)
        else do
          let outcome ← (outcomeFromRecord decision.outcome).mapError .playback
          return (outcome, cursor + 1)

/-- Refuse a run that ended with recorded decisions left unused. -/
def checkExhausted (tape : DecisionTape) (cursor : ℕ) : Except EpisodeError Unit :=
  if cursor ≠ tape.length then .error (.tapeUnconsumed cursor tape.length) else .ok ()

end Agents

section Models

/-- What a transport hands back, as far as the parser reads it. -/
structure ModelResponse where
  model : String
  stopReason : String
  toolCalls : List ToolCall
  outputTokens : ℤ

def truncatedStopReason : String := "max_tokens"

/-- One response is one decision, or a classification of why it is none. -/
def parseResponse (maxOutputTokens : ℤ) (response : ModelResponse) : Except PyError Decision :=
  if response.stopReason = truncatedStopReason then
    .ok (.malformed ⟨.outputTruncated, "the provider stopped at the output ceiling, so what " ++
      "arrived is a fragment rather than a decision"⟩)
  else if maxOutputTokens < response.outputTokens then
    .ok (.malformed ⟨.exceededOutputLimit, s!"the response reports {response.outputTokens} " ++
      s!"output token(s) against a pinned ceiling of {maxOutputTokens}"⟩)
  else match response.toolCalls with
    | [] => .ok (.malformed ⟨.returnedNoToolCall, "the response carried no structured outcome; " ++
        "prose is not a decision this benchmark can execute"⟩)
    | [call] => parseToolCall call
    | calls => .ok (.malformed ⟨.returnedMultipleToolCalls,
        s!"the response carried {calls.length} structured outcomes; an invocation is one " ++
          "decision, and choosing among several would make the benchmark the thing that decided"⟩)

variable {τ : Type}

/-- The agent of a model. What a request to the provider comes to is a parameter, with whatever
the provider remembers of the ones before. -/
def modelAgent (model : String) (maxOutputTokens : ℤ)
    (send : τ → AgentObservation → Except EpisodeError (ModelResponse × τ)) (provider : τ) :
    EpisodeAgent τ where
  beginEpisode := provider
  decide memory observation := do
    let (response, memory) ← send memory observation
    if response.model ≠ model then
      .error (.providerFailure (s!"the response identifies a model {response.model.length} " ++
        s!"character(s) long that is not the {pyRepr model} this run requested; a run cannot " ++
          "record one model's identity over another model's answers"))
    else do
      let decision ← (parseResponse maxOutputTokens response).mapError .raised
      return (decision, memory)

end Models

section Episodes

open Engine

variable {σ τ : Type}

structure ExecutedEpisode (τ : Type) where
  outcome : Engine.EpisodeOutcome
  tape : DecisionTape
  memory : τ

/-- Run one episode once, recording every decision as it is made, with enough steps to get behind
the loop. -/
def execute (E : Engine σ) (agent : EpisodeAgent τ) (fuel : ℕ) :
    Except EpisodeError (Option (ExecutedEpisode τ)) := do
  let recorder := recordingAgent E.sha256 agent
  let engine := withAgent E recorder.operationAgent
  let s ← engine.start.mapError .raised
  let s ← (engine.runSteps fuel s).mapError .raised
  match s.control with
  | .done => do
    let outcome ← (engine.finish s).mapError .raised
    let (memory, tape) ← recorder.after s.asked
    return some ⟨outcome, tape, memory⟩
  | _ => return none

/-- Run one episode again from recorded decisions, all of which it has to use. -/
def playbackEpisode (E : Engine σ) (tape : DecisionTape) (fuel : ℕ) :
    Except EpisodeError (Option (ExecutedEpisode ℕ)) := do
  let episode ← execute E (recordedOutcomeAgent E.sha256 tape) fuel
  match episode with
  | none => return none
  | some episode => do
    checkExhausted tape episode.memory
    return some episode

end Episodes

section Reproduction

/-- The decision comes back from its record as one that the engine cannot tell from it, and that
is recorded alike. -/
def Reproduced (decision : Decision) : Prop :=
  ∃ record back decision', decisionRecord decision = .ok (.dict record) ∧
    jsonRoundTrip (.dict record) = .ok (.dict back) ∧
    outcomeFromRecord back = .ok decision' ∧ decision'.handed = decision.handed ∧
    decisionRecord decision' = .ok (.dict record)

theorem Survives.reproduced {decision : Decision} (h : Survives decision) :
    Reproduced decision := by
  obtain ⟨record, back, hrecord, hjson, hback⟩ := h
  exact ⟨record, back, decision, hrecord, hjson, hback, rfl, hrecord⟩

/-- A classification comes back from its code, and the engine sees nothing but its class. -/
theorem malformed_reproduced (outcome : MalformedModelOutcome) :
    Reproduced (.malformed outcome) := by
  obtain ⟨classification, detail⟩ := outcome
  have hcarried : Carried (malformedRecord classification.code) := by
    apply carried_fields
    · simp only [List.map_cons, List.map_nil]
      decide
    · simp only [List.forall_mem_cons]
      exact ⟨carried_str, carried_str, List.forall_mem_nil _⟩
  refine ⟨_, _, .malformed ⟨classification, ""⟩, rfl, jsonRoundTrip_eq hcarried.1 hcarried.2, ?_,
    rfl, rfl⟩
  cases classification <;> rfl

theorem parseResponse_reproduced {maxOutputTokens : ℤ} {response : ModelResponse}
    {decision : Decision} (hcarried : ∀ call ∈ response.toolCalls, Carried call.arguments)
    (h : parseResponse maxOutputTokens response = .ok decision) : Reproduced decision := by
  unfold parseResponse at h
  split at h
  · exact Except.ok.inj h ▸ malformed_reproduced _
  split at h
  · exact Except.ok.inj h ▸ malformed_reproduced _
  split at h
  · exact Except.ok.inj h ▸ malformed_reproduced _
  · rename_i call hcall
    rw [hcall, List.forall_mem_singleton] at hcarried
    cases decision with
    | malformed outcome => exact malformed_reproduced outcome
    | answer answer => exact (parsed_survives.2.2 call answer hcarried h).reproduced
  · exact Except.ok.inj h ▸ malformed_reproduced _

/-- Whatever the agent decides comes back from its record. -/
def EpisodeAgent.Reproducible {τ : Type} (agent : EpisodeAgent τ) : Prop :=
  ∀ memory observation decision memory',
    agent.decide memory observation = .ok (decision, memory') → Reproduced decision

theorem modelAgent_reproducible {τ : Type} {model : String} {maxOutputTokens : ℤ}
    {send : τ → AgentObservation → Except EpisodeError (ModelResponse × τ)} {provider : τ}
    (hcarried : ∀ memory observation response memory',
      send memory observation = .ok (response, memory') →
        ∀ call ∈ response.toolCalls, Carried call.arguments) :
    (modelAgent model maxOutputTokens send provider).Reproducible := by
  intro memory observation decision memory' h
  obtain ⟨⟨response, remembered⟩, hsend, h⟩ := bind_ok h
  obtain ⟨_, h⟩ := unless_ok h
  obtain ⟨parsed, hparsed, h⟩ := bind_ok h
  obtain ⟨rfl, -⟩ := Prod.mk.inj (pure_ok h)
  exact parseResponse_reproduced (hcarried _ _ _ _ hsend) (mapError_ok hparsed)

end Reproduction

section Loading

/-- The entry passes through a JSON text, and is read there as the other one. -/
def Loaded (decision decision' : RecordedDecision) : Prop :=
  ∃ record, jsonRoundTrip decision.asDict = .ok record ∧
    ∀ position, decisionFrom position record = .ok decision'

theorem loaded_of {decision : RecordedDecision} {back : List (Value × Value)}
    (hinvocation : decision.invocationIndex.natAbs < Value.maxJsonInteger)
    (hturn : decision.turnIndex.natAbs < Value.maxJsonInteger)
    (houtcome : jsonRoundTrip (.dict decision.outcome) = .ok (.dict back)) :
    Loaded decision { decision with outcome := back } := by
  refine ⟨RecordedDecision.asDict { decision with outcome := back }, ?_, fun position => rfl⟩
  have hkey (name : String) : keyText (.str name) = .ok name := rfl
  have htext : jsonRoundTrip (.str decision.observationDigestSha256) =
      .ok (.str decision.observationDigestSha256) := rfl
  have hint {n : ℤ} (hn : n.natAbs < Value.maxJsonInteger) :
      jsonRoundTrip (.int n) = .ok (.int n) := by
    rw [jsonRoundTrip, Value.renderable, if_pos (decide_eq_true hn)]
  simp only [RecordedDecision.asDict, Value.ofFields, List.map_cons, List.map_nil]
  rw [jsonRoundTrip]
  simp only [entriesRoundTrip, hkey, hint hinvocation, hint hturn, htext, houtcome, ok_bind]
  rfl

theorem tape_loaded {tape tape' : DecisionTape} (h : List.Forall₂ Loaded tape tape') :
    ∃ records, jsonRoundTrip tape.asList = .ok (.list records) ∧
      ∀ position, tapeFromRecords position records = .ok tape' := by
  have hitems : ∃ records, itemsRoundTrip (tape.map RecordedDecision.asDict) = .ok records ∧
      ∀ position, tapeFromRecords position records = .ok tape' := by
    induction h with
    | nil => exact ⟨[], rfl, fun _ => rfl⟩
    | cons hloaded _ ih =>
      obtain ⟨record, hrecord, hfrom⟩ := hloaded
      obtain ⟨records, hrecords, hrest⟩ := ih
      refine ⟨record :: records, ?_, fun position => ?_⟩
      · rw [List.map_cons, itemsRoundTrip, hrecord, ok_bind, hrecords]
        rfl
      · rw [tapeFromRecords, hfrom, ok_bind, hrest]
        rfl
  obtain ⟨records, hrecords, hfrom⟩ := hitems
  refine ⟨records, ?_, hfrom⟩
  rw [DecisionTape.asList, jsonRoundTrip, hrecords]
  rfl

end Loading

section Memories

variable {τ : Type} {agent : EpisodeAgent τ} {shown : List AgentObservation}
  {observation : AgentObservation} {sha256 : Value → String}

theorem after_append : agent.after (shown ++ [observation]) = agent.after shown >>= fun memory =>
    Prod.snd <$> agent.decide memory observation := by
  simp [EpisodeAgent.after, List.foldlM_append]

theorem after_append_ok {memory' : τ} (h : agent.after (shown ++ [observation]) = .ok memory') :
    ∃ memory decision, agent.after shown = .ok memory ∧
      agent.decide memory observation = .ok (decision, memory') := by
  rw [after_append] at h
  obtain ⟨memory, hmemory, h⟩ := bind_ok h
  obtain ⟨⟨decision, remembered⟩, hdecide, rfl⟩ := map_ok h
  exact ⟨memory, decision, hmemory, hdecide⟩

theorem after_append_of {memory memory' : τ} {decision : Decision}
    (hmemory : agent.after shown = .ok memory)
    (hdecide : agent.decide memory observation = .ok (decision, memory')) :
    agent.after (shown ++ [observation]) = .ok memory' := by
  rw [after_append, hmemory, ok_bind, hdecide]
  rfl

/-- The engine is handed the decision on the newest observation. -/
theorem operationAgent_append : agent.operationAgent (shown ++ [observation]) =
    (Decision.handed <$> agent.decision shown observation).mapError EpisodeError.thrown := by
  simp [EpisodeAgent.operationAgent]

theorem operationAgent_of {memory memory' : τ} {decision : Decision}
    (hmemory : agent.after shown = .ok memory)
    (hdecide : agent.decide memory observation = .ok (decision, memory')) :
    agent.operationAgent (shown ++ [observation]) = .ok decision.handed := by
  rw [operationAgent_append, EpisodeAgent.decision, hmemory, ok_bind, hdecide]
  rfl

theorem recording_ok {inner : EpisodeAgent τ} {memory : τ} {tape : DecisionTape}
    {decision : Decision} {remembered : τ × DecisionTape}
    (h : (recordingAgent sha256 inner).decide (memory, tape) observation =
      .ok (decision, remembered)) :
    ∃ digest record entries, observationDigest sha256 observation = .ok digest ∧
      inner.decide memory observation = .ok (decision, remembered.1) ∧
      decisionRecord decision = .ok record ∧ dictOf record = .ok entries ∧
      remembered.2 = tape ++
        [⟨observation.invocationIndex, observation.turnIndex, digest, entries⟩] := by
  obtain ⟨digest, hdigest, h⟩ := bind_ok h
  obtain ⟨⟨outcome, memory'⟩, hdecide, h⟩ := bind_ok h
  obtain ⟨record, hrecord, h⟩ := bind_ok h
  obtain ⟨entries, hentries, h⟩ := bind_ok h
  obtain ⟨rfl, rfl⟩ := Prod.mk.inj (pure_ok h)
  exact ⟨digest, record, entries, mapError_ok hdigest, hdecide, mapError_ok hrecord,
    mapError_ok hentries, rfl⟩

theorem recording_of {inner : EpisodeAgent τ} {memory memory' : τ} (tape : DecisionTape)
    {decision : Decision} {digest : String} {entries : List (Value × Value)}
    (hdigest : observationDigest sha256 observation = .ok digest)
    (hdecide : inner.decide memory observation = .ok (decision, memory'))
    (hrecord : decisionRecord decision = .ok (.dict entries)) :
    (recordingAgent sha256 inner).decide (memory, tape) observation =
      .ok (decision, memory', tape ++
        [⟨observation.invocationIndex, observation.turnIndex, digest, entries⟩]) := by
  simp only [recordingAgent, hdigest, hdecide]
  show ((decisionRecord decision).mapError EpisodeError.playback >>= _) = _
  rw [hrecord]
  rfl

theorem recorded_of {tape : DecisionTape} {entry : RecordedDecision} {cursor : ℕ} {digest : String}
    {decision : Decision} (hentry : tape[cursor]? = some entry)
    (hinvocation : entry.invocationIndex = observation.invocationIndex)
    (hturn : entry.turnIndex = observation.turnIndex)
    (hdigest : observationDigest sha256 observation = .ok digest)
    (hbound : entry.observationDigestSha256 = digest)
    (houtcome : outcomeFromRecord entry.outcome = .ok decision) :
    (recordedOutcomeAgent sha256 tape).decide cursor observation = .ok (decision, cursor + 1) := by
  simp only [recordedOutcomeAgent, hentry, hinvocation, hturn, ne_eq, not_true_eq_false, if_false,
    hdigest, hbound, houtcome]
  simp only [Except.mapError, ite_not]
  exact if_pos rfl

theorem recorded_ok {tape : DecisionTape} {cursor cursor' : ℕ} {decision : Decision}
    (h : (recordedOutcomeAgent sha256 tape).decide cursor observation = .ok (decision, cursor')) :
    ∃ entry, tape[cursor]? = some entry ∧ cursor' = cursor + 1 ∧
      entry.invocationIndex = observation.invocationIndex ∧
      entry.turnIndex = observation.turnIndex ∧
      observationDigest sha256 observation = .ok entry.observationDigestSha256 ∧
      outcomeFromRecord entry.outcome = .ok decision := by
  simp only [recordedOutcomeAgent] at h
  split at h
  · cases h
  · rename_i entry hentry
    obtain ⟨hplace, h⟩ := unless_ok h
    obtain ⟨digest, hdigest, h⟩ := bind_ok h
    obtain ⟨hbound, h⟩ := unless_ok h
    obtain ⟨outcome, houtcome, h⟩ := bind_ok h
    obtain ⟨rfl, rfl⟩ := Prod.mk.inj (pure_ok h)
    obtain ⟨hinvocation, hturn⟩ := Prod.mk.inj (not_not.mp hplace)
    refine ⟨entry, hentry, rfl, hinvocation, hturn, ?_, mapError_ok houtcome⟩
    rw [mapError_ok hdigest, not_not.mp hbound]

end Memories

section Replay

variable {τ : Type} {sha256 : Value → String} {inner : EpisodeAgent τ}

/-- What was loaded of a recording plays back to the same answers and the same tape, whatever
follows it on the tape. -/
theorem recording_replays (hinner : inner.Reproducible) {shown : List AgentObservation}
    {memory : τ} {tape : DecisionTape}
    (h : (recordingAgent sha256 inner).after shown = .ok (memory, tape)) :
    ∃ tape' : DecisionTape, tape'.length = shown.length ∧ List.Forall₂ Loaded tape tape' ∧
      ∀ rest, (recordingAgent sha256 (recordedOutcomeAgent sha256 (tape' ++ rest))).after shown =
          .ok (shown.length, tape) ∧
        ∀ before observation, before ++ [observation] <+: shown →
          (recordingAgent sha256 inner).operationAgent (before ++ [observation]) =
            (recordingAgent sha256
              (recordedOutcomeAgent sha256 (tape' ++ rest))).operationAgent
                (before ++ [observation]) := by
  induction shown using List.reverseRecOn generalizing memory tape with
  | nil =>
    obtain ⟨rfl, rfl⟩ := Prod.mk.inj (pure_ok h)
    refine ⟨[], rfl, .nil, fun rest => ⟨rfl, fun before observation hp => ?_⟩⟩
    simp at hp
  | append_singleton shown observation ih =>
    obtain ⟨⟨memory₀, tape₀⟩, decision, hafter, hdecide⟩ := after_append_ok h
    obtain ⟨digest, record, entries, hdigest, hinnerdecide, hrecord, hentries, htape⟩ :=
      recording_ok hdecide
    obtain ⟨record', back, decision', hrecord', hjson, hback, hhanded, hagain⟩ :=
      hinner _ _ _ _ hinnerdecide
    obtain rfl := Except.ok.inj (hrecord.symm.trans hrecord')
    obtain rfl : record' = entries := Except.ok.inj hentries
    obtain ⟨tape', hlength, hloaded, hreplay⟩ := ih hafter
    have hindexes := (observationDigest_ok hdigest).2
    have hlast : Loaded ⟨observation.invocationIndex, observation.turnIndex, digest, record'⟩
        ⟨observation.invocationIndex, observation.turnIndex, digest, back⟩ :=
      loaded_of (by simpa using hindexes.1) (by simpa using hindexes.2) hjson
    dsimp only at htape
    subst htape
    refine ⟨tape' ++ [⟨observation.invocationIndex, observation.turnIndex, digest, back⟩], ?_, ?_,
      fun rest => ?_⟩
    · simp [hlength]
    · exact List.rel_append hloaded (.cons hlast .nil)
    · rw [List.append_assoc, List.singleton_append]
      obtain ⟨hagrees, hanswers⟩ := hreplay
        (⟨observation.invocationIndex, observation.turnIndex, digest, back⟩ :: rest)
      have hnext : (tape' ++ ⟨observation.invocationIndex, observation.turnIndex, digest, back⟩ ::
          rest)[shown.length]? =
          some ⟨observation.invocationIndex, observation.turnIndex, digest, back⟩ := by
        rw [← hlength]
        simp
      have hplays := recording_of tape₀ hdigest
        (recorded_of hnext rfl rfl hdigest rfl hback) hagain
      refine ⟨?_, fun before observation' hp => ?_⟩
      · rw [List.length_append, List.length_singleton]
        exact after_append_of hagrees hplays
      · rcases List.prefix_concat_iff.mp hp with hp | hp
        · obtain ⟨rfl, hobs⟩ := List.append_inj' hp rfl
          obtain rfl := List.singleton_inj.mp hobs
          rw [operationAgent_of hafter hdecide, operationAgent_of hagrees hplays, hhanded]
        · exact hanswers before observation' hp

end Replay

section Runs

variable {σ τ : Type} {E : Engine σ} {agent : EpisodeAgent τ} {fuel : ℕ}
  {episode : ExecutedEpisode τ}

open Engine EngineState

/-- An executed episode is a run of the engine to its end, with the recorder as the agent. -/
theorem execute_ok (h : execute E agent fuel = .ok (some episode)) :
    ∃ s s', E.start = .ok s ∧
      (withAgent E (recordingAgent E.sha256 agent).operationAgent).runSteps fuel s = .ok s' ∧
      s'.control = .done ∧ E.finish s' = .ok episode.outcome ∧
      (recordingAgent E.sha256 agent).after s'.asked = .ok (episode.memory, episode.tape) := by
  obtain ⟨s, hstart, h⟩ := bind_ok h
  obtain ⟨s', hrun, h⟩ := bind_ok h
  split at h
  · rename_i hdone
    obtain ⟨outcome, hfinish, h⟩ := bind_ok h
    obtain ⟨⟨memory, tape⟩, hafter, h⟩ := bind_ok h
    obtain rfl := Option.some.inj (pure_ok h)
    exact ⟨s, s', mapError_ok hstart, mapError_ok hrun, hdone, mapError_ok hfinish, hafter⟩
  · cases pure_ok h

theorem execute_of {s s' : EngineState σ} {outcome : EpisodeOutcome} {memory : τ}
    {tape : DecisionTape} (hstart : E.start = .ok s)
    (hrun : (withAgent E (recordingAgent E.sha256 agent).operationAgent).runSteps fuel s = .ok s')
    (hdone : s'.control = .done) (hfinish : E.finish s' = .ok outcome)
    (hafter : (recordingAgent E.sha256 agent).after s'.asked = .ok (memory, tape)) :
    execute E agent fuel = .ok (some ⟨outcome, tape, memory⟩) := by
  have hstart' :
      (withAgent E (recordingAgent E.sha256 agent).operationAgent).start = .ok s := hstart
  have hfinish' : (withAgent E (recordingAgent E.sha256 agent).operationAgent).finish s' =
      .ok outcome := hfinish
  unfold execute
  simp only [hstart', Except.mapError, ok_bind, hrun, hdone, hfinish', hafter]
  rfl

/-- An executed episode plays back from what was loaded of its tape, to the same outcome and to
the same tape. -/
theorem execute_replays (hagent : agent.Reproducible)
    (h : execute E agent fuel = .ok (some episode)) :
    ∃ records tape, jsonRoundTrip episode.tape.asList = .ok (.list records) ∧
      tapeFromRecords 0 records = .ok tape ∧
      playbackEpisode E tape fuel = .ok (some ⟨episode.outcome, episode.tape, tape.length⟩) := by
  obtain ⟨s, s', hstart, hrun, hdone, hfinish, hafter⟩ := execute_ok h
  obtain ⟨tape, hlength, hloaded, hreplay⟩ := recording_replays hagent hafter
  obtain ⟨records, hrecords, hfrom⟩ := tape_loaded hloaded
  obtain ⟨hagrees, hanswers⟩ := hreplay []
  rw [List.append_nil] at hagrees hanswers
  refine ⟨records, tape, hrecords, hfrom 0, ?_⟩
  have hrun' := runSteps_withAgent (b := (recordingAgent E.sha256
    (recordedOutcomeAgent E.sha256 tape)).operationAgent) hrun
    fun before observation _ hp => hanswers before observation hp
  have hexecute := execute_of hstart hrun' hdone hfinish hagrees
  rw [playbackEpisode, hexecute, ok_bind]
  simp only [checkExhausted, hlength, ne_eq, not_true_eq_false, if_false, ok_bind]
  rfl

theorem playback_ok {tape : DecisionTape} {episode : ExecutedEpisode ℕ}
    (h : playbackEpisode E tape fuel = .ok (some episode)) :
    execute E (recordedOutcomeAgent E.sha256 tape) fuel = .ok (some episode) ∧
      episode.memory = tape.length := by
  obtain ⟨result, hexecute, h⟩ := bind_ok h
  cases result with
  | none => cases pure_ok h
  | some result =>
    obtain ⟨_, hcheck, h⟩ := bind_ok h
    obtain rfl := Option.some.inj (pure_ok h)
    refine ⟨hexecute, ?_⟩
    unfold checkExhausted at hcheck
    by_contra hne
    rw [if_pos hne] at hcheck
    cases hcheck

end Runs

section Accepted

open Engine

variable {σ : Type} {sha256 : Value → String} {tape : DecisionTape}

/-- The entry is the one that this build writes for the decision it plays back. -/
def Canonical (entry : RecordedDecision) : Prop :=
  ∀ decision, outcomeFromRecord entry.outcome = .ok decision →
    decisionRecord decision = .ok (.dict entry.outcome)

/-- Where the entry stands, and what it was made from. -/
def RecordedDecision.place (entry : RecordedDecision) : ℤ × ℤ × String :=
  (entry.invocationIndex, entry.turnIndex, entry.observationDigestSha256)

/-- The entry stands where the observation was made, and is bound to it. -/
def MadeOn (sha256 : Value → String) (entry : RecordedDecision) (observation : AgentObservation) :
    Prop :=
  entry.invocationIndex = observation.invocationIndex ∧
    entry.turnIndex = observation.turnIndex ∧
    observationDigest sha256 observation = .ok entry.observationDigestSha256

theorem MadeOn.place_eq {entry entry' : RecordedDecision} {observation : AgentObservation}
    (h : MadeOn sha256 entry observation) (h' : MadeOn sha256 entry' observation) :
    entry.place = entry'.place := by
  obtain ⟨hi, ht, hd⟩ := h
  obtain ⟨hi', ht', hd'⟩ := h'
  rw [RecordedDecision.place, RecordedDecision.place, hi, ht, hi', ht',
    Except.ok.inj (hd.symm.trans hd')]

/-- A playback uses the entries of the tape in their order, each on the observation that it was
made on, and records them again. -/
theorem playback_after {shown : List AgentObservation} {cursor : ℕ} {again : DecisionTape}
    (h : (recordingAgent sha256 (recordedOutcomeAgent sha256 tape)).after shown =
      .ok (cursor, again)) :
    cursor = shown.length ∧ List.Forall₂ (MadeOn sha256) (tape.take shown.length) shown ∧
      again.map RecordedDecision.place = (tape.take shown.length).map RecordedDecision.place ∧
      ((∀ entry ∈ tape, Canonical entry) → again = tape.take shown.length) := by
  induction shown using List.reverseRecOn generalizing cursor again with
  | nil =>
    obtain ⟨rfl, rfl⟩ := Prod.mk.inj (pure_ok h)
    exact ⟨rfl, .nil, rfl, fun _ => rfl⟩
  | append_singleton shown observation ih =>
    obtain ⟨⟨cursor₀, again₀⟩, decision, hafter, hdecide⟩ := after_append_ok h
    obtain ⟨digest, record, entries, hdigest, hplays, hrecord, hentries, hagain⟩ :=
      recording_ok hdecide
    obtain ⟨entry, hentry, hcursor, hinvocation, hturn, hbound, houtcome⟩ := recorded_ok hplays
    obtain ⟨rfl, hmade, hplaces, hcanonical⟩ := ih hafter
    obtain rfl := Except.ok.inj (hdigest.symm.trans hbound)
    have htake : tape.take (shown ++ [observation]).length =
        tape.take shown.length ++ [entry] := by
      rw [List.length_append, List.length_singleton, List.take_add_one, hentry]
      rfl
    dsimp only at hcursor hagain
    subst hcursor hagain
    refine ⟨by simp, ?_, ?_, fun hall => ?_⟩
    · rw [htake]
      exact List.rel_append hmade (.cons ⟨hinvocation, hturn, hbound⟩ .nil)
    · rw [htake, List.map_append, List.map_append, hplaces]
      simp [RecordedDecision.place, hinvocation, hturn]
    · have hkept := hall entry (List.mem_of_getElem? hentry) decision houtcome
      obtain rfl := Except.ok.inj (hrecord.symm.trans hkept)
      obtain rfl : entry.outcome = entries := Except.ok.inj hentries
      rw [htake, hcanonical hall]
      obtain ⟨invocationIndex, turnIndex, bound, outcome⟩ := entry
      dsimp only at hinvocation hturn
      rw [hinvocation, hturn]

/-- The tape of an accepted playback is used up, entry by entry on the observations of the run. -/
theorem accepted_ok {E : Engine σ} {fuel : ℕ} {episode : ExecutedEpisode ℕ}
    (h : playbackEpisode E tape fuel = .ok (some episode)) :
    ∃ s s', E.start = .ok s ∧
      (withAgent E (recordingAgent E.sha256
        (recordedOutcomeAgent E.sha256 tape)).operationAgent).runSteps fuel s = .ok s' ∧
      s'.control = .done ∧ List.Forall₂ (MadeOn E.sha256) tape s'.asked ∧
      episode.tape.map RecordedDecision.place = tape.map RecordedDecision.place ∧
      ((∀ entry ∈ tape, Canonical entry) → episode.tape = tape) := by
  obtain ⟨hexecute, hmemory⟩ := playback_ok h
  obtain ⟨s, s', hstart, hrun, hdone, _, hafter⟩ := execute_ok hexecute
  obtain ⟨hcursor, hmade, hplaces, hcanonical⟩ := playback_after hafter
  rw [← hcursor, hmemory, List.take_length] at hmade hplaces hcanonical
  exact ⟨s, s', hstart, hrun, hdone, hmade, hplaces, hcanonical⟩

end Accepted

section Apart

variable {σ : Type} {E : Engine σ} {sha256 : Value → String} {tape tape' : DecisionTape}
  {fuel fuel' : ℕ} {episode episode' : ExecutedEpisode ℕ}

open Engine

/-- One list goes on where the other ends, or they differ at some position for the first time. -/
theorem prefix_or_apart {α : Type} (l l' : List α) : l <+: l' ∨ l' <+: l ∨
    ∃ k a a', l.take k = l'.take k ∧ l[k]? = some a ∧ l'[k]? = some a' ∧ a ≠ a' := by
  induction l generalizing l' with
  | nil => exact .inl List.nil_prefix
  | cons a l ih =>
    cases l' with
    | nil => exact .inr (.inl List.nil_prefix)
    | cons a' l' =>
      by_cases heq : a = a'
      · subst heq
        rcases ih l' with h | h | ⟨k, b, b', htake, hb, hb', hne⟩
        · exact .inl ((List.prefix_cons_inj a).mpr h)
        · exact .inr (.inl ((List.prefix_cons_inj a).mpr h))
        · exact .inr (.inr ⟨k + 1, b, b', by rw [List.take_succ_cons, List.take_succ_cons, htake],
            hb, hb', hne⟩)
      · exact .inr (.inr ⟨0, a, a', rfl, rfl, rfl, heq⟩)

/-- What stands at a position of two paired lists is paired. -/
theorem paired_at {α β : Type} {R : α → β → Prop} {l : List α} {l' : List β}
    (h : List.Forall₂ R l l') {k : ℕ} {a : α} (ha : l[k]? = some a) :
    ∃ b, l'[k]? = some b ∧ R a b := by
  induction h generalizing k with
  | nil => cases ha
  | cons hr _ ih =>
    cases k with
    | zero => exact ⟨_, rfl, Option.some.inj ha ▸ hr⟩
    | succ k => exact ih ha

theorem error_bind {ε α β : Type} (e : ε) (f : α → Except ε β) : (.error e >>= f) = .error e := rfl

/-- Tapes with a common beginning are played back alike for that long. -/
theorem playback_agree {k : ℕ} (hk : k ≤ tape.length) (htake : tape.take k = tape'.take k)
    {shown : List AgentObservation} {observation : AgentObservation} (hshown : shown.length < k) :
    (recordingAgent sha256 (recordedOutcomeAgent sha256 tape)).operationAgent
        (shown ++ [observation]) =
      (recordingAgent sha256 (recordedOutcomeAgent sha256 tape')).operationAgent
        (shown ++ [observation]) := by
  have hnext {cursor : ℕ} (hc : cursor < k) : tape'[cursor]? = tape[cursor]? := by
    rw [← List.getElem?_take_of_lt hc, ← htake, List.getElem?_take_of_lt hc]
  have hdecide {shown : List AgentObservation} (observation : AgentObservation)
      {memory : ℕ × DecisionTape} (hs : shown.length < k)
      (hafter : (recordingAgent sha256 (recordedOutcomeAgent sha256 tape)).after shown =
        .ok memory) :
      (recordingAgent sha256 (recordedOutcomeAgent sha256 tape)).decide memory observation =
        (recordingAgent sha256 (recordedOutcomeAgent sha256 tape')).decide memory observation := by
    obtain ⟨cursor, again⟩ := memory
    obtain rfl := (playback_after hafter).1
    have hsome : tape[shown.length]? = some (tape.get ⟨shown.length, by omega⟩) :=
      List.getElem?_eq_getElem (by omega)
    simp only [recordingAgent, recordedOutcomeAgent, hnext hs, hsome]
  have hafter {shown : List AgentObservation} (hs : shown.length ≤ k) :
      (recordingAgent sha256 (recordedOutcomeAgent sha256 tape)).after shown =
        (recordingAgent sha256 (recordedOutcomeAgent sha256 tape')).after shown := by
    have hnil (tape : DecisionTape) :
        (recordingAgent sha256 (recordedOutcomeAgent sha256 tape)).after [] = .ok (0, []) := rfl
    induction shown using List.reverseRecOn with
    | nil => rw [hnil, hnil]
    | append_singleton shown observation ih =>
      rw [List.length_append, List.length_singleton] at hs
      simp only [after_append]
      rw [← ih (by omega)]
      cases hmemory : (recordingAgent sha256 (recordedOutcomeAgent sha256 tape)).after shown with
      | error e => rw [error_bind, error_bind]
      | ok memory => rw [ok_bind, ok_bind, hdecide observation (by omega) hmemory]
  rw [operationAgent_append, operationAgent_append, EpisodeAgent.decision, EpisodeAgent.decision,
    ← hafter hshown.le]
  cases hmemory : (recordingAgent sha256 (recordedOutcomeAgent sha256 tape)).after shown with
  | error e => rw [error_bind, error_bind]
  | ok memory => rw [ok_bind, ok_bind, hdecide observation hshown hmemory]

/-- An accepted tape does not go on where another one ends. -/
theorem accepted_not_longer (h : playbackEpisode E tape fuel = .ok (some episode))
    (h' : playbackEpisode E tape' fuel' = .ok (some episode')) (hbefore : tape <+: tape') :
    tape = tape' := by
  obtain ⟨s, t, hstart, hrun, hdone, hmade, _⟩ := accepted_ok h
  obtain ⟨s', t', hstart', hrun', hdone', hmade', _⟩ := accepted_ok h'
  obtain rfl := Except.ok.inj (hstart.symm.trans hstart')
  have htake : tape.take tape.length = tape'.take tape.length := by
    rw [List.take_length]
    exact List.prefix_iff_eq_take.mp hbefore
  have hsame := runSteps_withAgent (b := (recordingAgent E.sha256
    (recordedOutcomeAgent E.sha256 tape')).operationAgent) hrun
    fun shown observation _ hp => playback_agree le_rfl htake (by
      have hlength := hp.length_le
      rw [List.length_append, List.length_singleton, ← hmade.length_eq] at hlength
      omega)
  obtain rfl := runSteps_done_inj hsame hrun' hdone hdone'
  exact hbefore.eq_of_length (hmade.length_eq.trans hmade'.length_eq.symm)

end Apart

section Results

/-- A model that says something first, and completes the operation then. -/
def muttering (_ : Unit) (observation : AgentObservation) :
    Except EpisodeError (ModelResponse × Unit) :=
  .ok (⟨"model", "tool_use",
    if observation.turnIndex = 0 then [] else [⟨.str "complete", .dict []⟩], 1⟩, ())

theorem muttering_carried {memory memory' : Unit} {observation : AgentObservation}
    {response : ModelResponse} (h : muttering memory observation = .ok (response, memory')) :
    ∀ call ∈ response.toolCalls, Carried call.arguments := by
  obtain ⟨rfl, -⟩ := Prod.mk.inj (Except.ok.inj h)
  dsimp only
  split
  · exact List.forall_mem_nil _
  · rw [List.forall_mem_singleton]
    exact ⟨rfl, List.nodup_nil, trivial⟩

def completed (turnIndex : ℤ) : RecordedDecision :=
  ⟨1, turnIndex, "", [(.str "kind", .str "COMPLETE"), (.str "reason", .str ""),
    (.str "evidence_refs", .list [])]⟩

/-- The tape of the model on the latch. -/
def mutteredTape : DecisionTape :=
  [⟨1, 0, "", [(.str "kind", .str "MALFORMED"), (.str "code", .str "MODEL_NO_TOOL_CALL")]⟩,
    completed 1]

theorem completed_canonical (turnIndex : ℤ) : Canonical (completed turnIndex) := by
  intro decision h
  obtain rfl := Except.ok.inj h
  rfl

theorem mutteredTape_canonical : ∀ entry ∈ mutteredTape, Canonical entry := by
  simp only [mutteredTape, List.forall_mem_cons]
  refine ⟨fun decision h => ?_, completed_canonical 1, List.forall_mem_nil _⟩
  obtain rfl := Except.ok.inj h
  rfl

theorem mutteredTape_accepted : ∃ episode,
    playbackEpisode (closedUnderWait 30) mutteredTape 8 = .ok (some episode) := by
  obtain ⟨result, h, hsome⟩ := ok_of_any (x := playbackEpisode (closedUnderWait 30) mutteredTape 8)
    (p := Option.isSome) (by decide +kernel)
  obtain ⟨episode, rfl⟩ := Option.isSome_iff_exists.mp hsome
  exact ⟨episode, h⟩

variable {σ σ' τ : Type} {E : Engine σ} {E' : Engine σ'} {tape tape' : DecisionTape}
  {fuel fuel' : ℕ}

open Engine

/-- The decisions of a model, whatever its responses are, play back from the JSON text of their
tape: to the same outcome, using all of the tape, and recorded on the same tape again. -/
theorem model_run_replays {model : String} {maxOutputTokens : ℤ} {provider : τ}
    {send : τ → AgentObservation → Except EpisodeError (ModelResponse × τ)}
    {episode : ExecutedEpisode τ}
    (hcarried : ∀ memory observation response memory',
      send memory observation = .ok (response, memory') →
        ∀ call ∈ response.toolCalls, Carried call.arguments)
    (h : execute E (modelAgent model maxOutputTokens send provider) fuel = .ok (some episode)) :
    ∃ records tape, jsonRoundTrip episode.tape.asList = .ok (.list records) ∧
      tapeFromRecords 0 records = .ok tape ∧
      playbackEpisode E tape fuel = .ok (some ⟨episode.outcome, episode.tape, tape.length⟩) :=
  execute_replays (modelAgent_reproducible hcarried) h

theorem muttering_replays : ∃ episode records tape,
    execute (closedUnderWait 30) (modelAgent "model" 100 muttering ()) 8 = .ok (some episode) ∧
      episode.tape.length = 2 ∧ jsonRoundTrip episode.tape.asList = .ok (.list records) ∧
      tapeFromRecords 0 records = .ok tape ∧ playbackEpisode (closedUnderWait 30) tape 8 =
        .ok (some ⟨episode.outcome, episode.tape, tape.length⟩) := by
  obtain ⟨result, h, hlength⟩ := ok_of_any
    (x := execute (closedUnderWait 30) (modelAgent "model" 100 muttering ()) 8)
    (p := fun result => result.any fun episode => episode.tape.length = 2) (by decide +kernel)
  cases result with
  | none => cases hlength
  | some episode =>
    obtain ⟨records, tape, hrecords, htape, hplayback⟩ :=
      model_run_replays (fun _ _ _ _ hsend => muttering_carried hsend) h
    exact ⟨episode, records, tape, h, by simpa using hlength, hrecords, htape, hplayback⟩

/-- A tape of entries that this build writes is, once accepted, the tape of its own run. -/
theorem accepted_own_tape {episode : ExecutedEpisode ℕ}
    (hcanonical : ∀ entry ∈ tape, Canonical entry)
    (h : playbackEpisode E tape fuel = .ok (some episode)) : episode.tape = tape := by
  obtain ⟨_, _, _, _, _, _, _, htape⟩ := accepted_ok h
  exact htape hcanonical

theorem mutteredTape_own : ∃ episode,
    playbackEpisode (closedUnderWait 30) mutteredTape 8 = .ok (some episode) ∧
      episode.tape = mutteredTape := by
  obtain ⟨episode, h⟩ := mutteredTape_accepted
  exact ⟨episode, h, accepted_own_tape mutteredTape_canonical h⟩

/-- Two accepted tapes are one, or differ first in what was decided on one and the same
observation. -/
theorem accepted_apart {episode episode' : ExecutedEpisode ℕ}
    (h : playbackEpisode E tape fuel = .ok (some episode))
    (h' : playbackEpisode E tape' fuel' = .ok (some episode')) :
    tape = tape' ∨ ∃ k entry entry', tape.take k = tape'.take k ∧ tape[k]? = some entry ∧
      tape'[k]? = some entry' ∧ entry.place = entry'.place ∧ entry.outcome ≠ entry'.outcome := by
  rcases prefix_or_apart tape tape' with hp | hp | ⟨k, entry, entry', htake, hentry, hentry', hne⟩
  · exact .inl (accepted_not_longer h h' hp)
  · exact .inl (accepted_not_longer h' h hp).symm
  · right
    obtain ⟨s, t, hstart, hrun, _, hmade, _⟩ := accepted_ok h
    obtain ⟨s', t', hstart', hrun', _, hmade', _⟩ := accepted_ok h'
    obtain rfl := Except.ok.inj (hstart.symm.trans hstart')
    obtain ⟨observation, hshown, hon⟩ := paired_at hmade hentry
    obtain ⟨observation', hshown', hon'⟩ := paired_at hmade' hentry'
    obtain ⟨hk, -⟩ := List.getElem?_eq_some_iff.mp hentry
    obtain ⟨hasked, -⟩ := List.getElem?_eq_some_iff.mp hshown
    obtain ⟨hasked', -⟩ := List.getElem?_eq_some_iff.mp hshown'
    have hnone : s.asked.length ≤ k := by
      rw [start_asked hstart]
      exact Nat.zero_le k
    have hfork := runSteps_fork (fun shown observation => playback_agree hk.le htake) hrun hrun'
      hnone hasked hasked'
    obtain rfl := Option.some.inj ((hshown.symm.trans hfork).trans hshown')
    have hplace := hon.place_eq hon'
    refine ⟨k, entry, entry', htake, hentry, hentry', hplace, fun houtcome => hne ?_⟩
    cases entry
    cases entry'
    simp_all [RecordedDecision.place]

theorem muttered_completed_apart : mutteredTape = [completed 0] ∨ ∃ k entry entry',
    mutteredTape.take k = [completed 0].take k ∧ mutteredTape[k]? = some entry ∧
      [completed 0][k]? = some entry' ∧ entry.place = entry'.place ∧
      entry.outcome ≠ entry'.outcome := by
  obtain ⟨episode, h⟩ := mutteredTape_accepted
  obtain ⟨result, h', hsome⟩ := ok_of_any
    (x := playbackEpisode (closedUnderWait 30) [completed 0] 8) (p := Option.isSome)
    (by decide +kernel)
  obtain ⟨episode', rfl⟩ := Option.isSome_iff_exists.mp hsome
  exact accepted_apart h h'

end Results

end OperateBench.Agents
