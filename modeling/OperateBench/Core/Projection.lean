import OperateBench.Core.Finality
import OperateBench.Core.Termination

/-! # What an agent is shown

The view of an observation that a model is sent is built field by field. Of an action it shows the
reads that are still to be asked for, and the payload only when no required read is missing. A
decision is bound to the digest of this view. The engine depends on its agent only through the
answers to what it shows, so agents that agree on these lead it to the same states. The reads that
are shown are the ones that the trajectory gives as in force, and what is accepted rests on them.
-/

namespace OperateBench

open Foundation

section Served

def publicRecordVersionAlgorithm : String := "canonical-json-sha256-prefix-v1"

/-- The version a projection carries: a prefix of the digest of exactly what it says. -/
def publicRecordVersion (sha256 : Value → String) (records : Value) (context : String)
    (length : ℤ) : Except PyError String :=
  if records.jsonSafe Value.maxJsonDepth then
    .ok (String.ofList ((sha256 records).toList.take length.toNat))
  else .error (.jsonSafety context)

namespace Value

/-- `mapping.get(name)` -/
def member (mapping : Value) (name : String) : Value := (mapping.lookup? name).getD none

/-- `type(value) is str and bool(value)` -/
def isName (value : Value) : Bool := value.asStr?.any fun text => text ≠ ""

/-- `set(mapping) == set(names)` -/
def hasKeys (mapping : Value) (names : List String) : Bool :=
  match mapping with
  | dict entries => entries.all (fun e => names.any e.1.isStr) &&
      names.all fun name => (mapping.lookup? name).isSome
  | _ => false

def isFlag : Value → Bool
  | bool _ => true
  | _ => false

end Value

/-- The mechanics behind every record of one operation: how a record is named and versioned. -/
structure RecordContract where
  identitySuffix : String
  versionContext : String
  versionLength : ℤ

def recordContractOf : Value → Option RecordContract
  | .list [.str suffix, .str context, .str algorithm, .int length]
  | .tuple [.str suffix, .str context, .str algorithm, .int length] =>
    if suffix ≠ "" ∧ context ≠ "" ∧ algorithm = publicRecordVersionAlgorithm ∧
        1 ≤ length ∧ length ≤ 64 then some ⟨suffix, context, length⟩ else none
  | _ => none

def catalogueFields : List String := ["source", "authority", "schema_id", "arguments"]

def envelopeFields : List String :=
  ["tool", "source", "authority", "record_id", "record_version", "as_of", "schema_id", "records",
    "ok", "error_code"]

def catalogueEntryBound (tool entry : Value) : Bool :=
  tool.isName && entry.hasKeys catalogueFields &&
    ["source", "authority", "schema_id"].all (fun name => (entry.member name).isName) &&
    match entry.member "arguments" with
    | .dict arguments => arguments.all fun e => e.1.asStr?.isSome && e.2.asStr?.isSome
    | _ => false

/-- The envelope is one that the catalogue's entry and the contract of the records allow. -/
def envelopeBound (sha256 : Value → String) (contract : RecordContract) (tool : String)
    (entry envelope : Value) : Bool :=
  envelope.hasKeys envelopeFields && (envelope.member "tool").isStr tool &&
    ["source", "authority", "schema_id"].all (fun name =>
      (entry.member name).asStr?.any (envelope.member name).isStr) &&
    ["tool", "source", "authority", "record_id", "record_version", "as_of", "schema_id"].all
      (fun name => (envelope.member name).isName) &&
    (envelope.member "records").isMapping && (envelope.member "ok").isFlag &&
    ((envelope.member "error_code").isNone || (envelope.member "error_code").isName) &&
    (parseTimestamp (envelope.member "as_of").text s!"served.{tool}.as_of").toOption.isSome &&
    (envelope.member "record_id").isStr
      ((entry.member "source").text ++ ":" ++ contract.identitySuffix) &&
    (publicRecordVersion sha256 (envelope.member "records") contract.versionContext
      contract.versionLength).toOption.any (envelope.member "record_version").isStr

/-- The successful tools of the catalogue. Malformed input fails closed. -/
def successfulServedTools (sha256 : Value → String) (served catalogue recordContract : Value) :
    List String :=
  match served, catalogue, recordContractOf recordContract with
  | .dict envelopes, .dict entries, some contract =>
    if entries.all (fun e => catalogueEntryBound e.1 e.2) && envelopes.all fun e =>
        e.1.asStr?.any fun tool => (catalogue.lookup? tool).any fun entry =>
          envelopeBound sha256 contract tool entry e.2 then
      envelopes.filterMap fun e => e.1.asStr?.filter fun _ =>
        (e.2.member "ok").truthy && (e.2.member "error_code").isNone
    else []
  | _, _, _ => []

end Served

section Schemas

/-- The declared reads of a schema with their strengths, in the order of their tools. -/
def declaredReads (schema : Value) : List (String × Value) :=
  match schema.member "reads" with
  | .dict entries =>
    (entries.filterMap fun e => e.1.asStr?.map fun tool => (tool, e.2)).insertionSort fun a b =>
      a.1 ≤ b.1
  | _ => []

def optionalReads (schema : Value) : List (String × Value) :=
  (declaredReads schema).filter fun e => e.2.isStr ReadStrength.optional.text

def unmetReads (successful : List String) (schema : Value) : List (String × Value) :=
  (declaredReads schema).filter fun e =>
    !e.2.isStr ReadStrength.optional.text && e.1 ∉ successful

/-- A declaration of exactly one empty form, which carries no contract. -/
def emptyPart (name : String) (part : Value) : Bool :=
  match part with
  | .dict [] => name = "optional"
  | .dict [(.str inner, .dict [])] => name = "evidence_refs" && inner = "required"
  | _ => false

def payloadHalf (schema : Value) : List (String × Value) :=
  (["required", "optional", "evidence_refs", "field_guidance"].filterMap fun name =>
    ((schema.lookup? name).filter fun part => !emptyPart name part).map fun part => (name, part)) ++
  if optionalReads schema = [] then [] else [("reads", .ofFields (optionalReads schema))]

/-- The static part of a contract that is needed next: reads before the payload. -/
def actionProjection (successful : List String) (schema : Value) : Value := .ofFields <|
  let unmet := unmetReads successful schema
  if unmet ≠ [] then [("reads", .ofFields (unmet ++ optionalReads schema))] else payloadHalf schema

/-- The tools of an observation that have been served successfully. -/
def AgentObservation.successful (observation : AgentObservation) (sha256 : Value → String) :
    List String :=
  successfulServedTools sha256 (observation.retrieval.get "served")
    (observation.retrieval.get "catalogue") (observation.retrieval.get "record_contract")

def actionSchemaProjection (sha256 : Value → String) (observation : AgentObservation) : Value :=
  let successful := observation.successful sha256
  .ofFields ((sortTexts observation.actionSchemas.keys).map fun action =>
    (action, actionProjection successful (observation.actionSchemas.get action)))

end Schemas

section Projection

/-- The read affordance, with its contract as JSON has it. -/
def retrievalProjection (retrieval : Fields) : Value :=
  match retrieval.get "record_contract" with
  | .tuple items => Fields.asDict (retrieval.set "record_contract" (.list items))
  | _ => retrieval.asDict

/-- The model-visible view of one observation. -/
def modelProjection (sha256 : Value → String) (observation : AgentObservation) : Value := .ofFields
  [("operation_instance_id", .str observation.operationInstanceId),
    ("operation_id", .str observation.operationId), ("now", .str observation.now),
    ("invocation_index", .int observation.invocationIndex),
    ("turn_index", .int observation.turnIndex), ("policy", observation.policy.asDict),
    ("actors", .ofFields (observation.actors.entries.map fun e => (e.1, .str e.2))),
    ("message_fixture_ids", .ofTexts observation.messageFixtureIds),
    ("action_schemas", actionSchemaProjection sha256 observation),
    ("wake_event_types", .ofTexts observation.wakeEventTypes),
    ("last_rejection", (observation.lastRejection.map Fields.asDict).getD .none),
    ("phase", .str observation.phase),
    ("event", (observation.event.map Fields.asDict).getD .none),
    ("retrieval", retrievalProjection observation.retrieval)]

/-- The digest of the exact public observation an agent was handed. -/
def observationDigest (sha256 : Value → String) (observation : AgentObservation) :
    Except PyError String :=
  let shown := modelProjection sha256 observation
  if shown.jsonSafe Value.maxJsonDepth then .ok (sha256 shown)
  else .error (.jsonSafety "operatebench model boundary")

variable {sha256 : Value → String} {observation observation' : AgentObservation}

/-- An observation with a digest has indexes that JSON carries. -/
theorem observationDigest_ok {digest : String}
    (h : observationDigest sha256 observation = .ok digest) :
    sha256 (modelProjection sha256 observation) = digest ∧
      observation.invocationIndex < Value.maxJsonInteger ∧
      observation.turnIndex < Value.maxJsonInteger := by
  simp only [observationDigest] at h
  split at h
  · rename_i hsafe
    refine ⟨Except.ok.inj h, ?_⟩
    simp only [modelProjection, Value.ofFields, List.map_cons, Value.jsonSafe,
      Value.entriesJsonSafe, Bool.and_eq_true, decide_eq_true_eq, Int.natAbs_natCast] at hsafe
    exact ⟨hsafe.2.2.2.2.1.2, hsafe.2.2.2.2.2.1.2⟩
  · cases h

end Projection

namespace Engine

open EngineState

section Histories

variable {σ : Type} {E : Engine σ} {s s' : EngineState σ} {a b : OperationAgent}

/-- The engine with another agent. -/
def withAgent (E : Engine σ) (agent : OperationAgent) : Engine σ := { E with agent }

theorem handled_asked {outcome : AgentOutcome} {ended : Bool}
    (h : E.Handled s outcome ended s') : s'.asked = s.asked := by
  have spares : E.domain.Spares [] := fun _ _ _ _ _ _ _ => List.not_mem_nil
  have apart : ∀ t ∈ proposalRows, t ∉ ([] : List String) := fun _ _ => List.not_mem_nil
  cases h with
  | wait waited => exact waited.hushed.asked
  | complete concluded => exact (concluded.hushed spares apart).asked
  | act proposed => exact (proposed.hushed spares apart).asked
  | ask proposed waited => exact waited.hushed.asked.trans (proposed.hushed spares apart).asked
  | unasked proposed => exact (proposed.hushed spares apart).asked
  | escalate proposed waited =>
    exact waited.hushed.asked.trans (proposed.hushed spares apart).asked
  | unescalated proposed => exact (proposed.hushed spares apart).asked

theorem batched_asked {batch : RawRequests} {turn : ℕ} (h : E.Batched s batch turn s') :
    s'.asked = s.asked := by
  cases h with
  | refused => rfl
  | served _ _ =>
    exact congrArg Account.asked (serving_account _
      { s with retrievalBatches := s.retrievalBatches + 1 })

theorem summoned_asked {trigger : Option Event} {spent : Bool}
    (h : E.Summoned s trigger spent s') : s'.asked = s.asked := by
  cases h <;> rfl

theorem headStep_asked (hc : s.control = .head) (h : E.headStep s = .ok s') :
    s'.asked = s.asked := by
  have spares : E.domain.Spares [] := fun _ _ _ _ _ _ _ => List.not_mem_nil
  have apart : ∀ t ∈ dealingRows, t ∉ ([] : List String) := fun _ _ => List.not_mem_nil
  cases headStep_passed hc h with
  | stopped | horizon | empty | unresolved => rfl
  | fallback _ _ _ summoned =>
    have hs := summoned_asked summoned
    exact hs
  | delivery _ _ _ arrived =>
    cases arrived with
    | silent reported => exact (reported.hushed spares apart).asked
    | summons reported _ summoned =>
      exact (summoned_asked summoned).trans (reported.hushed spares apart).asked

/-- A turn inside its limits shows the agent one more observation. -/
theorem turnStep_asked {trigger : Option Event} {business turn : ℕ}
    (h : E.turnStep s trigger business turn = .ok s') :
    ((¬(business : ℤ) < E.plan.maxTurnsPerInvocation ∨ E.callLimit ≤ turn) ∧
        s'.asked = s.asked) ∨
      ∃ observation answer, E.observation s trigger turn = .ok observation ∧
        E.agent (s.asked ++ [observation]) = .ok answer ∧
        s'.asked = s.asked ++ [observation] := by
  unfold turnStep at h
  split at h
  · obtain ⟨t, ht, h⟩ := bind_ok h
    obtain rfl := refuseInvocation_write ht
    exact .inl ⟨.inl ‹_›, pure_ok h ▸ rfl⟩
  split at h
  · obtain ⟨t, ht, h⟩ := bind_ok h
    obtain rfl := refuseInvocation_write ht
    exact .inl ⟨.inr ‹_›, pure_ok h ▸ rfl⟩
  right
  obtain ⟨observation, ho, h⟩ := bind_ok h
  obtain ⟨answer, ha, h⟩ := bind_ok h
  refine ⟨observation, answer, ho, ha, ?_⟩
  split at h
  · obtain ⟨t, ht, h⟩ := bind_ok h
    obtain rfl := pure_ok h
    exact batched_asked (serveBatch_batched ht)
  · split at h
    · cases h
    · obtain ⟨t, ht, h⟩ := bind_ok h
      obtain ⟨u, hu, ht⟩ := bind_ok ht
      obtain rfl := log_write hu
      obtain rfl := pure_ok ht
      exact pure_ok h ▸ rfl
    · obtain ⟨s₀, h₀, h⟩ := bind_ok h
      obtain rfl := log_write h₀
      obtain ⟨⟨ended, t⟩, ht, h⟩ := bind_ok h
      obtain rfl := pure_ok h
      exact handled_asked (handle_handled ht)

/-- The turn depends on the agent only through its answer to what it is shown. -/
theorem turnStep_congr {trigger : Option Event} {business turn : ℕ}
    (hab : ((business : ℤ) < E.plan.maxTurnsPerInvocation ∧ ¬E.callLimit ≤ turn) →
      ∀ observation, E.observation s trigger turn = .ok observation →
        a (s.asked ++ [observation]) = b (s.asked ++ [observation])) :
    (withAgent E a).turnStep s trigger business turn =
      (withAgent E b).turnStep s trigger business turn := by
  unfold turnStep
  refine ite_congr rfl (fun _ => rfl) fun hbusiness => ite_congr rfl (fun _ => rfl) fun hcalls => ?_
  show (E.observation s trigger turn >>= _) = (E.observation s trigger turn >>= _)
  cases ho : E.observation s trigger turn with
  | error e => rfl
  | ok observation =>
    show (a (s.asked ++ [observation]) >>= _) = (b (s.asked ++ [observation]) >>= _)
    rw [hab ⟨not_not.mp hbusiness, hcalls⟩ observation ho]
    rfl

/-- The observation that the agent is shown next. -/
def Offers (E : Engine σ) (s : EngineState σ) (observation : AgentObservation) : Prop :=
  ∃ trigger business turn, s.control = .turn trigger business turn ∧
    E.observation s trigger turn = .ok observation

theorem Offers.inj {observation observation' : AgentObservation} (h : Offers E s observation)
    (h' : Offers E s observation') : observation = observation' := by
  obtain ⟨trigger, business, turn, hc, ho⟩ := h
  obtain ⟨trigger', business', turn', hc', ho'⟩ := h'
  rw [hc] at hc'
  cases hc'
  exact Except.ok.inj (ho.symm.trans ho')

theorem Offers.identity {observation : AgentObservation} (h : Offers E s observation) :
    observation.operationInstanceId = E.operationInstanceId := by
  obtain ⟨trigger, business, turn, _, h⟩ := h
  obtain ⟨schemas, _, h⟩ := bind_ok h
  rw [← pure_ok h]

/-- What one step shows the agent is answered. -/
theorem step_asked (h : E.step s = .ok s') : s'.asked = s.asked ∨
    ∃ observation answer, Offers E s observation ∧ s'.asked = s.asked ++ [observation] ∧
      E.agent s'.asked = .ok answer := by
  unfold step at h
  split at h
  · exact .inl (headStep_asked ‹_› h)
  · rename_i trigger business turn hc
    rcases turnStep_asked h with ⟨_, hs⟩ | ⟨observation, answer, ho, ha, hs⟩
    · exact .inl hs
    · exact .inr ⟨observation, answer, ⟨trigger, business, turn, hc, ho⟩, hs, hs ▸ ha⟩
  · exact .inl (Except.ok.inj h ▸ rfl)

/-- Two agents that agree on what a step shows are led to the same state by it. -/
theorem step_withAgent (h : (withAgent E a).step s = .ok s')
    (hab : s'.asked ≠ s.asked → a s'.asked = b s'.asked) :
    (withAgent E b).step s = .ok s' := by
  unfold step at h ⊢
  split at h
  · exact h
  · rename_i trigger business turn hc
    rw [← turnStep_congr (a := a), ← h]
    rintro ⟨hbusiness, hcalls⟩ observation ho
    rcases turnStep_asked h with ⟨hlimit, _⟩ | ⟨_, _, ho', _, hs⟩
    · exact absurd hlimit (not_or.mpr ⟨not_not.mpr hbusiness, hcalls⟩)
    · obtain rfl := Except.ok.inj (ho.symm.trans ho')
      rw [← hs]
      apply hab
      rw [hs]
      simp
  · exact h

theorem runSteps_asked {n : ℕ} (h : E.runSteps n s = .ok s') : s.asked <+: s'.asked := by
  induction n generalizing s with
  | zero => exact Except.ok.inj h ▸ List.prefix_rfl
  | succ n ih =>
    rw [runSteps] at h
    obtain ⟨t, ht, h⟩ := bind_ok h
    rcases step_asked ht with hs | ⟨observation, _, _, hs, _⟩
    · exact hs ▸ ih h
    · exact (hs ▸ List.prefix_append s.asked [observation]).trans (ih h)

/-- A run is the run of any agent that agrees on all it has shown. -/
theorem runSteps_withAgent {n : ℕ} (h : (withAgent E a).runSteps n s = .ok s')
    (hab : ∀ shown observation, s.asked <+: shown → shown ++ [observation] <+: s'.asked →
      a (shown ++ [observation]) = b (shown ++ [observation])) :
    (withAgent E b).runSteps n s = .ok s' := by
  induction n generalizing s with
  | zero => exact h
  | succ n ih =>
    rw [runSteps] at h ⊢
    obtain ⟨t, ht, h⟩ := bind_ok h
    have hprefix := runSteps_asked h
    have hstep : (withAgent E b).step s = .ok t := by
      apply step_withAgent ht
      intro hgrown
      rcases step_asked ht with hs | ⟨observation, _, _, hs, _⟩
      · exact absurd hs hgrown
      · rw [hs]
        exact hab s.asked observation List.prefix_rfl (hs ▸ hprefix)
    rw [hstep, ok_bind]
    apply ih h
    intro shown observation hshown
    apply hab shown observation
    rcases step_asked ht with hs | ⟨_, _, _, hs, _⟩
    · exact hs ▸ hshown
    · exact (hs ▸ List.prefix_append s.asked _).trans hshown

/-- Two agents that agree up to a call make the same step before it, and are shown the same
there. -/
theorem step_fork {k : ℕ} {t t' : EngineState σ}
    (hab : ∀ shown observation, shown.length < k →
      a (shown ++ [observation]) = b (shown ++ [observation]))
    (ha : (withAgent E a).step s = .ok t) (hb : (withAgent E b).step s = .ok t')
    (hs : s.asked.length ≤ k) :
    t = t' ∧ t.asked.length ≤ k ∨ ∃ observation, s.asked.length = k ∧
      t.asked = s.asked ++ [observation] ∧ t'.asked = s.asked ++ [observation] := by
  rcases step_asked ha with hkept | ⟨observation, _, hoffers, hgrown, _⟩
  · left
    have hsame := step_withAgent (b := b) ha fun hne => absurd hkept hne
    exact ⟨Except.ok.inj (hsame.symm.trans hb), hkept ▸ hs⟩
  · rcases hs.lt_or_eq with hlt | heq
    · left
      have hsame := step_withAgent (b := b) ha fun _ => hgrown ▸ hab s.asked observation hlt
      refine ⟨Except.ok.inj (hsame.symm.trans hb), ?_⟩
      rw [hgrown, List.length_append, List.length_singleton]
      omega
    · right
      refine ⟨observation, heq, hgrown, ?_⟩
      rcases step_asked hb with hkept | ⟨observation', _, hoffers', hgrown', _⟩
      · have hsame := step_withAgent (b := a) hb fun hne => absurd hkept hne
        rw [← Except.ok.inj (ha.symm.trans hsame), hgrown] at hkept
        simp at hkept
      · rw [hgrown', Offers.inj (E := E) hoffers' hoffers]

/-- Up to the first call that they answer apart, two agents are shown the same. -/
theorem runSteps_fork {k n m : ℕ} {t t' : EngineState σ}
    (hab : ∀ shown observation, shown.length < k →
      a (shown ++ [observation]) = b (shown ++ [observation]))
    (ha : (withAgent E a).runSteps n s = .ok t) (hb : (withAgent E b).runSteps m s = .ok t')
    (hs : s.asked.length ≤ k) (ht : k < t.asked.length) (ht' : k < t'.asked.length) :
    t.asked[k]? = t'.asked[k]? := by
  induction n generalizing s m with
  | zero =>
    obtain rfl := Except.ok.inj ha
    omega
  | succ n ih =>
    cases m with
    | zero =>
      obtain rfl := Except.ok.inj hb
      omega
    | succ m =>
      rw [runSteps] at ha hb
      obtain ⟨u, hu, ha⟩ := bind_ok ha
      obtain ⟨u', hu', hb⟩ := bind_ok hb
      rcases step_fork hab hu hu' hs with ⟨rfl, hlength⟩ | ⟨observation, rfl, hgrown, hgrown'⟩
      · exact ih ha hb hlength
      · obtain ⟨rest, hrest⟩ := runSteps_asked ha
        obtain ⟨rest', hrest'⟩ := runSteps_asked hb
        rw [← hrest, ← hrest', hgrown, hgrown']
        simp

/-- Behind the loop two runs have come to the same state. -/
theorem runSteps_done_inj {n m : ℕ} {t t' : EngineState σ} (h : E.runSteps n s = .ok t)
    (h' : E.runSteps m s = .ok t') (hdone : t.control = .done) (hdone' : t'.control = .done) :
    t = t' := by
  rcases Nat.le_total n m with hle | hle
  · obtain ⟨d, rfl⟩ := Nat.exists_eq_add_of_le hle
    rw [runSteps_add, h, ok_bind, runSteps_done hdone] at h'
    exact Except.ok.inj h'
  · obtain ⟨d, rfl⟩ := Nat.exists_eq_add_of_le hle
    rw [runSteps_add, h', ok_bind, runSteps_done hdone'] at h
    exact (Except.ok.inj h).symm

theorem start_asked (h : E.start = .ok s) : s.asked = [] := by
  obtain ⟨clock, _, h⟩ := bind_ok h
  obtain ⟨queue, _, h⟩ := bind_ok h
  rw [log_ok h]

end Histories

section Reads

variable {σ : Type} {E : Engine σ} {b s s' t : EngineState σ}

/-- What one row does to the reads that are in force. -/
def readsAfter (reads : Dict String String) (row : Record) : Dict String String :=
  if row.recordType = "agent_invoked" ∨ row.recordType = "derived_context_invalidated" then
    Dict.empty
  else if row.recordType = "retrieval_served" ∧ (row.get "ok").truthy = true then
    reads.set (row.payload.text "tool") (row.payload.text "record_version")
  else reads

/-- The tools with a good result since the context was last invalidated, each with the version that
was served last. -/
def readsInForce (R : List Record) : Dict String String := R.foldl readsAfter Dict.empty

/-- The reads that the outcome requires were made, and show the records as they are in the state. -/
def Current (E : Engine σ) (s : EngineState σ) (reads : Dict String String)
    (outcomeKey : String) : Prop :=
  let required := E.domain.readRequirements.requiredToolsFor outcomeKey
  required = [] ∨ (∀ tool ∈ required, reads.contains tool = true) ∧
    ∃ results, E.domain.serveRetrieval s.state (required.map fun tool => ⟨tool, Dict.empty⟩)
        s.clock.now = .ok results ∧
      ∀ result ∈ results, result.ok = true ∧
        reads.get? result.tool = some result.recordVersion

/-- Whatever is accepted from the row on rests on reads that show the state, and so does every
terminal that is not refused at once. -/
def Founded (E : Engine σ) (s : EngineState σ) (start : ℕ) (R : List Record) : Prop :=
  ∀ i row, start ≤ i → R[i]? = some row →
    (row.recordType = "effect_accepted" →
      E.Current s (readsInForce (R.take i)) (row.payload.text "action_type")) ∧
    (row.recordType = "terminal_proposed" →
      E.Current s (readsInForce (R.take i)) completeOutcomeKey ∨
        ∃ next, R[i + 1]? = some next ∧ next.recordType = "terminal_rejected")

/-- The results that are served are the reads in force. -/
def Tracks (served : Dict String ToolResult) (reads : Dict String String) : Prop :=
  ∀ tool, reads.get? tool = (served.get? tool).map ToolResult.recordVersion ∧
    ∀ result, served.get? tool = some result → result.tool = tool ∧ result.ok = true

/-- Inside a step the record tells what is served, and what it has accepted is founded on
that. -/
structure ReadsKept (E : Engine σ) (b s : EngineState σ) : Prop where
  tracked : Tracks s.served (readsInForce s.ledger.records)
  founded : E.Founded b b.ledger.records.length s.ledger.records
  grown : b.ledger.records <+: s.ledger.records

/-- The rows about what was read. -/
def contextRows : List String :=
  ["agent_invoked", "derived_context_invalidated", "retrieval_served"]

/-- The rows about what rests on it. -/
def restingRows : List String := ["effect_accepted", "terminal_proposed"]

def readingRows : List String := contextRows ++ restingRows

variable {R : List Record} {row : Record} {now : String} {es : List Entry} {start : ℕ}
  {served : Dict String ToolResult} {reads : Dict String String}

theorem readsInForce_append (R R' : List Record) :
    readsInForce (R ++ R') = R'.foldl readsAfter (readsInForce R) := List.foldl_append

theorem readsAfter_quiet (h : row.recordType ∉ contextRows) : readsAfter reads row = reads := by
  simp only [contextRows, List.mem_cons, List.not_mem_nil, or_false, not_or] at h
  simp [readsAfter, h]

/-- A fold over rows that it passes over ends where it began. -/
theorem foldl_numbered {β : Type} {f : β → Record → β} {b : β} (start : ℕ)
    (hkept : ∀ e ∈ es, ∀ first, f b (e.row first now) = b) :
    (numbered start now es).foldl f b = b := by
  induction es generalizing start with
  | nil => rfl
  | cons e es ih =>
    rw [List.forall_mem_cons] at hkept
    have hfirst : f b ⟨start, now, e.1, e.2⟩ = b := hkept.1 start
    rw [numbered, List.foldl_cons, hfirst, ih _ hkept.2]

/-- Rows about something else leave the reads in force. -/
theorem readsInForce_quiet (hquiet : ∀ e ∈ es, e.1 ∉ contextRows) (start : ℕ) :
    readsInForce (R ++ numbered start now es) = readsInForce R := by
  rw [readsInForce_append]
  exact foldl_numbered start fun e he _ => readsAfter_quiet (hquiet e he)

/-- A page is founded when each of its own rows is. -/
theorem Founded.page (h : E.Founded b start R) {page : List Record}
    (hpage : ∀ i row, page[i]? = some row →
      (row.recordType = "effect_accepted" →
        E.Current b (readsInForce (R ++ page.take i)) (row.payload.text "action_type")) ∧
      (row.recordType = "terminal_proposed" →
        E.Current b (readsInForce (R ++ page.take i)) completeOutcomeKey ∨
          ∃ next, page[i + 1]? = some next ∧ next.recordType = "terminal_rejected")) :
    E.Founded b start (R ++ page) := by
  intro i row hi hrow
  rcases Nat.lt_or_ge i R.length with hlt | hge
  · rw [List.getElem?_append_left hlt] at hrow
    rw [List.take_append_of_le_length hlt.le]
    obtain ⟨heffect, hterminal⟩ := h i row hi hrow
    refine ⟨heffect, fun ht => (hterminal ht).imp_right ?_⟩
    rintro ⟨next, hnext, htype⟩
    refine ⟨next, ?_, htype⟩
    rw [List.getElem?_append_left (List.getElem?_eq_some_iff.mp hnext).1, hnext]
  · obtain ⟨j, rfl⟩ := Nat.exists_eq_add_of_le hge
    rw [List.getElem?_append_right hge, Nat.add_sub_cancel_left] at hrow
    obtain ⟨heffect, hterminal⟩ := hpage j row hrow
    rw [List.take_length_add_append]
    refine ⟨heffect, fun ht => (hterminal ht).imp_right ?_⟩
    rintro ⟨next, hnext, htype⟩
    refine ⟨next, ?_, htype⟩
    rw [Nat.add_assoc, List.getElem?_append_right (Nat.le_add_right _ _), Nat.add_sub_cancel_left,
      hnext]

theorem Founded.idle (h : E.Founded b start R) {first : ℕ}
    (hidle : ∀ e ∈ es, e.1 ∉ restingRows) :
    E.Founded b start (R ++ numbered first now es) := by
  apply h.page
  intro i row hrow
  have hnone : row.recordType ∉ restingRows :=
    hidle _ (mem_numbered (List.mem_of_getElem? hrow)).2
  constructor <;> intro ht <;> rw [ht] at hnone <;> exact absurd (by decide) hnone

theorem Tracks.none : Tracks Dict.empty Dict.empty := by
  intro tool
  simp

/-- The row of a result tells of which tool it is, under which version, and whether it is a good
one. -/
theorem servedEntry_tells (u : EngineState σ) (now : String) (turn batch first : ℕ)
    (read : ToolResult × ℕ) :
    (Entry.row (servedEntry u turn batch read) first now).get "ok" = .bool read.1.ok ∧
      (Entry.row (servedEntry u turn batch read) first now).payload.text "tool" = read.1.tool ∧
      (Entry.row (servedEntry u turn batch read) first now).payload.text "record_version" =
        read.1.recordVersion := by
  refine ⟨Fields.get_ofList (by simp) (by simp), ?_, ?_⟩
  · exact congrArg Value.text (Fields.get_ofList (v := .str read.1.tool) (by simp) (by simp))
  · exact congrArg Value.text
      (Fields.get_ofList (v := .str read.1.recordVersion) (by simp) (by simp))

/-- A result that is recorded is in force when it is a good one. -/
theorem Tracks.serve (h : Tracks served reads) {u : EngineState σ} {turn batch index first : ℕ}
    (result : ToolResult) :
    Tracks (if result.ok then served.set result.tool result else served)
      (readsAfter reads (Entry.row (servedEntry u turn batch (result, index)) first now)) := by
  obtain ⟨hok, htool, hversion⟩ :=
    servedEntry_tells u now turn batch first (result, index)
  have hrow : readsAfter reads (Entry.row (servedEntry u turn batch (result, index)) first now) =
      if result.ok then reads.set result.tool result.recordVersion else reads := by
    have hother : ¬((Entry.row (servedEntry u turn batch (result, index)) first now).recordType =
        "agent_invoked" ∨ (Entry.row (servedEntry u turn batch (result, index)) first
          now).recordType = "derived_context_invalidated") := by
      simp [Entry.row, servedEntry]
    rw [readsAfter, if_neg hother, hok, ← htool, ← hversion]
    cases result.ok with
    | false => exact if_neg fun hgood => Bool.false_ne_true hgood.2
    | true => exact if_pos ⟨rfl, rfl⟩
  rw [hrow]
  cases hr : result.ok with
  | false => exact h
  | true =>
    intro tool
    rw [if_pos rfl, if_pos rfl, Dict.get?_set, Dict.get?_set]
    split
    · rename_i heq
      refine ⟨rfl, ?_⟩
      rintro _ ⟨⟩
      exact ⟨heq, hr⟩
    · exact h tool

theorem serving_served (results : List ToolResult) (s : EngineState σ) :
    (results.foldl serving s).served = results.foldl
      (fun served result => if result.ok then served.set result.tool result else served)
      s.served := by
  induction results generalizing s with
  | nil => rfl
  | cons result results ih =>
    rw [List.foldl_cons, List.foldl_cons, ih]
    unfold serving
    split <;> rfl

/-- The results of a batch come into force one after the other. -/
theorem Tracks.serves (h : Tracks served reads) {u : EngineState σ} {turn batch first index : ℕ}
    (results : List ToolResult) :
    Tracks (results.foldl (fun served result =>
        if result.ok then served.set result.tool result else served) served)
      ((numbered first now ((results.zipIdx index).map (servedEntry u turn batch))).foldl readsAfter
        reads) := by
  induction results generalizing served reads index first with
  | nil => exact h
  | cons result results ih =>
    rw [List.zipIdx_cons, List.map_cons, numbered, List.foldl_cons, List.foldl_cons]
    apply ih
    exact h.serve result

end Reads

section Guards

variable {σ : Type} {E : Engine σ} {b s s' t : EngineState σ} {outcomeKey now : String}
  {es : List Entry}

/-- A record has moved when it cannot be served well, or is served under another version. -/
theorem recordMoved_ok {served : Dict String ToolResult} {result : ToolResult} {moved : Bool}
    (h : recordMoved served result = .ok moved) : result.ok = false ∧ moved = true ∨
      result.ok = true ∧ ∃ read, served.get? result.tool = some read ∧
        (moved = true ↔ read.recordVersion ≠ result.recordVersion) := by
  unfold recordMoved at h
  split at h
  · rename_i hbad
    exact .inl ⟨by simpa using hbad, (Except.ok.inj h).symm⟩
  · rename_i hgood
    split at h
    · cases h
    · rename_i read hread
      refine .inr ⟨by simpa using hgood, read, hread, ?_⟩
      rw [← Except.ok.inj h, decide_eq_true_eq]

theorem movedReads_nil {served : Dict String ToolResult} {results : List ToolResult}
    (h : movedReads served results = .ok []) : ∀ result ∈ results, result.ok = true ∧
      (served.get? result.tool).map ToolResult.recordVersion = some result.recordVersion := by
  induction results with
  | nil => exact List.forall_mem_nil _
  | cons result results ih =>
    obtain ⟨moved, hmoved, h⟩ := bind_ok h
    obtain ⟨rest, hrest, h⟩ := bind_ok h
    have hsplit := pure_ok h
    cases moved with
    | true => cases hsplit
    | false =>
      rw [List.forall_mem_cons]
      refine ⟨?_, ih (hrest.trans (congrArg Except.ok hsplit))⟩
      obtain ⟨-, hbad⟩ | ⟨hok, read, hread, hdiffers⟩ := recordMoved_ok hmoved
      · cases hbad
      · rw [hread]
        exact ⟨hok, congrArg some (by simpa using hdiffers)⟩

theorem Tracks.contains {served : Dict String ToolResult} {reads : Dict String String}
    (h : Tracks served reads) {tool : String} : reads.contains tool = served.contains tool := by
  rw [Bool.eq_iff_iff, Dict.contains_iff, Dict.contains_iff, (h tool).1]
  constructor
  · rintro ⟨version, hversion⟩
    obtain ⟨result, hresult, -⟩ := Option.map_eq_some_iff.mp hversion
    exact ⟨result, hresult⟩
  · rintro ⟨result, hresult⟩
    exact ⟨result.recordVersion, by rw [hresult]; rfl⟩

/-- What the read guard lets pass rests on current reads. -/
theorem current_of_guard {evidenceRefs : List String}
    {reads : Dict String String} (h : Tracks s.served reads)
    (hguard : E.readGuardProblem s outcomeKey evidenceRefs = .ok none) :
    E.Current s reads outcomeKey := by
  simp only [readGuardProblem] at hguard
  split at hguard
  · exact .inl ‹_›
  split at hguard
  · split at hguard
    · cases hguard
    split at hguard <;> cases hguard
  · rename_i habsent
    right
    obtain ⟨results, hresults, hguard⟩ := bind_ok hguard
    obtain ⟨moved, hmoved, hguard⟩ := bind_ok hguard
    have hnone := pure_ok hguard
    split at hnone
    · rename_i hnil
      refine ⟨fun tool htool => ?_, results, hresults, fun result hresult => ?_⟩
      · rw [h.contains]
        by_contra hmissing
        exact habsent fun hempty => List.not_mem_nil
          (hempty ▸ List.mem_filter.mpr ⟨htool, by simpa using hmissing⟩)
      · obtain ⟨hok, hversion⟩ := movedReads_nil (hnil ▸ hmoved) result hresult
        exact ⟨hok, (h result.tool).1.trans hversion⟩
    · cases hnone

theorem Current.at {reads : Dict String String} (h : E.Current s reads outcomeKey)
    (hstate : s.state = b.state) (hclock : s.clock = b.clock) : E.Current b reads outcomeKey := by
  unfold Current at h ⊢
  rwa [← hstate, ← hclock]

namespace ReadsKept

theorem refl (h : Tracks s.served (readsInForce s.ledger.records)) : E.ReadsKept s s := by
  refine ⟨h, fun i row hi hrow => ?_, List.prefix_rfl⟩
  have hlt := lt_of_getElem? hrow
  omega

theorem same (h : E.ReadsKept b s) (hserved : t.served = s.served) (hledger : t.ledger = s.ledger) :
    E.ReadsKept b t := by
  constructor
  · rw [hserved, hledger]
    exact h.tracked
  · rw [hledger]
    exact h.founded
  · rw [hledger]
    exact h.grown

/-- Rows about something else change nothing about the reads. -/
theorem quiet (h : E.ReadsKept b s) (hserved : t.served = s.served)
    (hledger : t.ledger = s.ledger.extend now es) (hes : ∀ e ∈ es, e.1 ∉ readingRows) :
    E.ReadsKept b t := by
  have hrecords := congrArg TrajectoryLedger.records hledger
  rw [records_extend] at hrecords
  constructor
  · rw [hserved, hrecords, readsInForce_quiet fun e he hreads => hes e he
      (List.mem_append_left _ hreads)]
    exact h.tracked
  · rw [hrecords]
    exact h.founded.idle fun e he hrests => hes e he (List.mem_append_right _ hrests)
  · rw [hrecords]
    exact h.grown.trans (List.prefix_append _ _)

/-- The last row of a page that is founded invalidates the context. -/
theorem cleared {l : List Entry} {e : Entry} (h : E.ReadsKept b s) (hserved : t.served = Dict.empty)
    (hledger : t.ledger = s.ledger.extend now (l ++ [e]))
    (hclears : e.1 = "derived_context_invalidated")
    (hpage : E.Founded b b.ledger.records.length (s.ledger.extend now (l ++ [e])).records) :
    E.ReadsKept b t := by
  constructor
  · have hrow : ∀ reads first, [(⟨first, now, e.1, e.2⟩ : Record)].foldl readsAfter reads =
        Dict.empty := fun _ _ => if_pos (.inr hclears)
    rw [hserved, hledger, records_extend, numbered_append, ← List.append_assoc,
      readsInForce_append]
    exact (hrow _ _).symm ▸ Tracks.none
  · rw [hledger]
    exact hpage
  · rw [hledger, records_extend]
    exact h.grown.trans (List.prefix_append _ _)

end ReadsKept

end Guards

section Steps

variable {σ : Type} {E : Engine σ} {b s s' t : EngineState σ} {accepted : Bool}
  (spares : E.domain.Spares readingRows)

include spares in
theorem ReadsKept.commit {call : OperateBench.Call} {state : σ} {reduction : Reduction σ}
    (h : E.ReadsKept b s) (reduced : E.domain.reduce call state = .ok reduction)
    (committed : s.commit reduction = .ok t) : E.ReadsKept b t ∧ t.served = s.served := by
  obtain ⟨queue, timerCounter, es, hes, rfl⟩ := commit_ok committed
  refine ⟨h.quiet rfl rfl fun e he => ?_, rfl⟩
  rcases hes.source he with hr | ht | ht
  · exact spares _ _ _ reduced _ _ hr
  · exact ht ▸ (by decide)
  · exact ht ▸ (by decide)

theorem readsKept_fire {kind : TriggerKind} {typeName : String} {cycleId : Option String}
    {bindings : Bindings} (fired : s.fireConditionals kind typeName cycleId bindings = .ok s')
    (h : E.ReadsKept b s) : E.ReadsKept b s' := by
  obtain ⟨conditionals, queue, rfl⟩ := fireConditionals_ok fired
  exact h.same rfl rfl

theorem ReadsKept.refusing (h : E.ReadsKept b s) {proposal : ℕ}
    {actionType code detail : String} :
    E.ReadsKept b (refusing s proposal actionType code detail) := by
  refine h.quiet rfl rfl ?_
  simp [rejectedEntry, entry, readingRows, contextRows, restingRows]

theorem ReadsKept.proposing (h : E.ReadsKept b s) {actionType : String} {payload : Fields}
    {evidenceRefs : List String} :
    E.ReadsKept b (proposing s actionType payload evidenceRefs) := by
  refine h.quiet rfl rfl ?_
  simp [proposedEntry, entry, readingRows, contextRows, restingRows]

/-- An accepted effect rests on the reads that were in force, and ends them. -/
theorem ReadsKept.accepting (h : E.ReadsKept b s) {proposal : ℕ} {actionType : String}
    {verdict : Verdict} (hcurrent : E.Current b (readsInForce s.ledger.records) actionType) :
    E.ReadsKept b (accepting s proposal actionType verdict) := by
  have htext : (effectEntry proposal actionType verdict).2.text "action_type" = actionType :=
    congrArg Value.text (Fields.get_ofList (v := .str actionType) (by simp) (by simp))
  refine h.cleared (l := [effectEntry proposal actionType verdict]) rfl rfl rfl ?_
  rw [records_extend]
  apply h.founded.page
  intro i row hrow
  rcases i with - | - | i
  · obtain rfl := Option.some.inj hrow
    constructor
    · intro _
      rw [List.take_zero, List.append_nil]
      exact htext.symm ▸ hcurrent
    · intro ht
      simp [effectEntry, entry] at ht
  · obtain rfl := Option.some.inj hrow
    constructor <;> intro ht <;> simp [invalidatedEntry, entry] at ht
  · cases hrow

include spares in
theorem Proposed.readsKept {actionType : String} {payload : Fields} {evidenceRefs : List String}
    (proposed : E.Proposed s actionType payload evidenceRefs accepted s') (h : E.ReadsKept b s)
    (hstate : s.state = b.state) (hclock : s.clock = b.clock) : E.ReadsKept b s' := by
  cases proposed with
  | stopped => exact h.proposing.refusing
  | refused _ reduced committed _ => exact (h.proposing.commit spares reduced committed).1.refusing
  | accepted guard reduced committed _ fired =>
    obtain ⟨ht, hserved⟩ := h.proposing.commit spares reduced committed
    have hcurrent := current_of_guard (hserved ▸ ht.tracked) guard
    exact readsKept_fire fired (ht.accepting (hcurrent.at hstate hclock))

theorem terminal_quiet {outcome : Complete} {code detail : String} :
    ∀ e ∈ [concludedEntry outcome, deniedEntry code detail], e.1 ∉ contextRows := by
  simp [concludedEntry, deniedEntry, entry, contextRows]

/-- A terminal that passes the read guard rests on the reads in force. -/
theorem ReadsKept.concluding (h : E.ReadsKept b s) {outcome : Complete}
    (hcurrent : E.Current b (readsInForce s.ledger.records) completeOutcomeKey) :
    E.ReadsKept b (concluding s outcome) := by
  constructor
  · rw [Engine.concluding, records_write, readsInForce_quiet]
    · exact h.tracked
    · simp [concludedEntry, entry, contextRows]
  · rw [Engine.concluding, records_write]
    apply h.founded.page
    intro i row hrow
    rcases i with - | i
    · obtain rfl := Option.some.inj hrow
      constructor
      · intro ht
        simp [concludedEntry, entry] at ht
      · intro _
        rw [List.take_zero, List.append_nil]
        exact .inl hcurrent
    · cases hrow
  · rw [Engine.concluding, records_write]
    exact h.grown.trans (List.prefix_append _ _)

/-- A terminal that the read guard stops is refused in the next row. -/
theorem ReadsKept.denied (h : E.ReadsKept b s) {outcome : Complete} {code detail : String} :
    E.ReadsKept b (denying (Engine.concluding s outcome) code detail) := by
  have hrecords : (denying (Engine.concluding s outcome) code detail).ledger.records =
      s.ledger.records ++ numbered s.ledger.records.length s.clock.now
        [concludedEntry outcome, deniedEntry code detail] := by
    have hpages : (denying (Engine.concluding s outcome) code detail).ledger =
        s.ledger.extend s.clock.now [concludedEntry outcome, deniedEntry code detail] :=
      extend_extended (rfl : (Engine.concluding s outcome).ledger =
        s.ledger.extend s.clock.now [concludedEntry outcome])
    rw [hpages, records_extend]
  constructor
  · rw [hrecords, readsInForce_quiet]
    · exact h.tracked
    · simp [concludedEntry, deniedEntry, entry, contextRows]
  · rw [hrecords]
    apply h.founded.page
    intro i row hrow
    rcases i with - | - | i
    · obtain rfl := Option.some.inj hrow
      constructor
      · intro ht
        simp [concludedEntry, entry] at ht
      · intro _
        exact .inr ⟨_, rfl, rfl⟩
    · obtain rfl := Option.some.inj hrow
      constructor <;> intro ht <;> simp [deniedEntry, entry] at ht
    · cases hrow
  · rw [hrecords]
    exact h.grown.trans (List.prefix_append _ _)

theorem ReadsKept.denying (h : E.ReadsKept b s) {code detail : String} :
    E.ReadsKept b (denying s code detail) := by
  refine h.quiet rfl rfl ?_
  simp [deniedEntry, entry, readingRows, contextRows, restingRows]

include spares in
theorem Concluded.readsKept {outcome : Complete} (concluded : E.Concluded s outcome accepted s')
    (h : E.ReadsKept b s) (hstate : s.state = b.state) (hclock : s.clock = b.clock) :
    E.ReadsKept b s' := by
  cases concluded with
  | stopped => exact h.denied
  | refused guard reduced committed _ =>
    have hcurrent := (current_of_guard h.tracked guard).at hstate hclock
    exact ((h.concluding hcurrent).commit spares reduced committed).1.denying
  | accepted guard reduced committed _ fired =>
    have hcurrent := (current_of_guard h.tracked guard).at hstate hclock
    obtain ⟨ht, _⟩ := (h.concluding hcurrent).commit spares reduced committed
    exact readsKept_fire fired (ht.same rfl rfl)

theorem Waited.readsKept {wait : Wait} (waited : E.Waited s wait accepted s')
    (h : E.ReadsKept b s) : E.ReadsKept b s' := by
  cases waited with
  | refused => exact h.quiet rfl rfl (by simp [entry, readingRows, contextRows, restingRows])
  | standing => exact h.quiet rfl rfl (by simp [entry, readingRows, contextRows, restingRows])

include spares in
theorem Handled.readsKept {outcome : AgentOutcome} (handled : E.Handled s outcome accepted s')
    (h : E.ReadsKept b s) (hstate : s.state = b.state) (hclock : s.clock = b.clock) :
    E.ReadsKept b s' := by
  cases handled with
  | wait waited => exact waited.readsKept h
  | complete concluded => exact concluded.readsKept spares h hstate hclock
  | act proposed => exact proposed.readsKept spares h hstate hclock
  | ask proposed waited => exact waited.readsKept (proposed.readsKept spares h hstate hclock)
  | unasked proposed => exact proposed.readsKept spares h hstate hclock
  | escalate proposed waited => exact waited.readsKept (proposed.readsKept spares h hstate hclock)
  | unescalated proposed => exact proposed.readsKept spares h hstate hclock

theorem Batched.readsKept {batch : RawRequests} {turn : ℕ} (batched : E.Batched s batch turn s')
    (h : E.ReadsKept b s) : E.ReadsKept b s' := by
  cases batched with
  | refused => exact h.quiet rfl rfl (by simp [entry, readingRows, contextRows, restingRows])
  | served _ _ =>
    rename_i results _ _
    obtain ⟨_, hclock, hledger, _, _⟩ :=
      serving_frame results { s with retrievalBatches := s.retrievalBatches + 1 }
    constructor
    · rw [records_write, readsInForce_append]
      show Tracks (results.foldl serving _).served _
      rw [serving_served, hledger]
      exact h.tracked.serves results
    · rw [records_write, hledger]
      apply h.founded.idle
      rintro e he
      obtain ⟨result, -, rfl⟩ := List.mem_map.mp he
      simp [servedEntry, restingRows]
    · rw [records_write, hledger]
      exact h.grown.trans (List.prefix_append _ _)

theorem Summoned.readsKept {trigger : Option Event} (summoned : E.Summoned s trigger accepted s')
    (h : E.ReadsKept b s) : E.ReadsKept b s' := by
  cases summoned with
  | spent =>
    exact h.quiet rfl rfl (by simp [violationEntry, entry, readingRows, contextRows, restingRows])
  | invoked =>
    refine h.cleared (l := [invokedEntry E (waking E s trigger) trigger]) rfl rfl rfl ?_
    rw [records_extend]
    apply h.founded.idle
    simp [invokedEntry, invalidatedEntry, entry, restingRows]

include spares in
theorem Reported.readsKept {event : Event} (reported : E.Reported s event s')
    (h : E.ReadsKept b s) : E.ReadsKept b s' := by
  cases reported with
  | late =>
    exact h.quiet rfl rfl (by simp [lateEntry, entry, readingRows, contextRows, restingRows])
  | rejected _ reduced committed _ =>
    exact (h.commit spares reduced committed).1.quiet rfl rfl
      (by simp [unheededEntry, entry, readingRows, contextRows, restingRows])
  | accepted _ reduced committed _ fired =>
    refine readsKept_fire fired ((h.commit spares reduced committed).1.quiet rfl rfl ?_)
    cases ht : event.triggersAgent <;>
      simp [observedEntry, acceptedType, entry, readingRows, contextRows, restingRows, ht]

theorem ReadsKept.wake (h : E.ReadsKept b s) (event : Event) :
    E.ReadsKept b (s.write (wakeEntries s event)) := by
  refine h.quiet rfl rfl fun e he => ?_
  unfold wakeEntries at he
  split at he
  · cases he
  · split at he
    · cases he
    · obtain rfl := List.mem_singleton.mp he
      simp [entry, readingRows, contextRows, restingRows]

include spares in
/-- One step keeps the record of the reads, and founds on them what it accepts. -/
theorem step_readsKept (h : Tracks s.served (readsInForce s.ledger.records))
    (hs : E.step s = .ok s') : E.ReadsKept s s' := by
  have hrefl : E.ReadsKept s s := .refl h
  unfold step at hs
  split at hs
  · rename_i hc
    cases headStep_passed hc hs with
    | stopped | horizon | empty => exact hrefl.same rfl rfl
    | unresolved =>
      exact hrefl.quiet rfl rfl (by simp [entry, readingRows, contextRows, restingRows])
    | fallback _ _ _ summoned =>
      refine ReadsKept.same (summoned.readsKept (hrefl.quiet rfl rfl ?_)) rfl rfl
      simp [entry, readingRows, contextRows, restingRows]
    | delivery _ _ _ arrived =>
      cases arrived with
      | silent reported => exact reported.readsKept spares (hrefl.same rfl rfl)
      | summons reported _ summoned =>
        exact summoned.readsKept ((reported.readsKept spares (hrefl.same rfl rfl)).wake _)
  · cases turnStep_turned hs with
    | spent =>
      exact hrefl.quiet rfl rfl
        (by simp [violationEntry, entry, readingRows, contextRows, restingRows])
    | read _ batched =>
      exact (batched.readsKept (hrefl.same rfl rfl)).same rfl rfl
    | malformed =>
      exact hrefl.quiet rfl rfl (by simp [entry, readingRows, contextRows, restingRows])
    | answered _ _ handled =>
      refine ReadsKept.same (handled.readsKept spares (hrefl.quiet rfl rfl ?_) rfl rfl) rfl rfl
      simp [outcomeEntry, entry, readingRows, contextRows, restingRows]
  · exact Except.ok.inj hs ▸ hrefl

end Steps

section Reliance

variable {σ : Type} {E : Engine σ} {s₀ s s' : EngineState σ} {P : EngineState σ → Prop}

/-- The step out of a state of the run wrote the row, and what was read shows that state. -/
def RestsOnReads (E : Engine σ) (s₀ : EngineState σ) (R : List Record) (i : ℕ)
    (outcomeKey : String) : Prop :=
  ∃ s s', E.RunsVia (fun _ => True) s₀ s ∧ E.step s = .ok s' ∧
    s.ledger.records.length ≤ i ∧ i < s'.ledger.records.length ∧ s'.ledger.records <+: R ∧
    E.Current s (readsInForce (R.take i)) outcomeKey

/-- Whatever was accepted rests on reads, and so does every terminal that was not refused at
once. -/
def Rested (E : Engine σ) (s₀ : EngineState σ) (R : List Record) : Prop :=
  ∀ i row, R[i]? = some row →
    (row.recordType = "effect_accepted" →
      E.RestsOnReads s₀ R i (row.payload.text "action_type")) ∧
    (row.recordType = "terminal_proposed" → E.RestsOnReads s₀ R i completeOutcomeKey ∨
      ∃ next, R[i + 1]? = some next ∧ next.recordType = "terminal_rejected")

theorem RestsOnReads.later {R R' : List Record} {i : ℕ} {outcomeKey : String}
    (h : E.RestsOnReads s₀ R i outcomeKey) (hR : R <+: R') :
    E.RestsOnReads s₀ R' i outcomeKey := by
  obtain ⟨s, s', hrun, hstep, hle, hlt, hprefix, hcurrent⟩ := h
  obtain ⟨rest, rfl⟩ := hR
  have hi : i ≤ R.length := (hlt.trans_le hprefix.length_le).le
  refine ⟨s, s', hrun, hstep, hle, hlt, hprefix.trans (List.prefix_append R rest), ?_⟩
  rwa [List.take_append_of_le_length hi]

theorem start_tracks (h : E.start = .ok s) :
    Tracks s.served (readsInForce s.ledger.records) := by
  obtain ⟨clock, _, h⟩ := bind_ok h
  obtain ⟨queue, _, h⟩ := bind_ok h
  rw [log_write h, records_write, readsInForce_quiet]
  · exact Tracks.none
  · simp [entry, contextRows]

theorem start_rested (h : E.start = .ok s) : E.Rested s₀ s.ledger.records := by
  obtain ⟨clock, _, h⟩ := bind_ok h
  obtain ⟨queue, _, h⟩ := bind_ok h
  rw [log_write h, records_write]
  intro i row hrow
  have htype : row.recordType = "episode_ended" := congrArg Prod.fst
    (List.mem_singleton.mp (mem_numbered (List.mem_of_getElem? hrow)).2)
  constructor <;> intro ht <;> simp [htype] at ht

/-- A step that leads on from a rested record leaves a rested record. -/
theorem Rested.step (h : E.Rested s₀ s.ledger.records) (hrun : E.RunsVia (fun _ => True) s₀ s)
    (hs : E.step s = .ok s') (hkept : E.ReadsKept s s') : E.Rested s₀ s'.ledger.records := by
  intro i row hrow
  rcases Nat.lt_or_ge i s.ledger.records.length with hlt | hge
  · obtain ⟨rest, hrest⟩ := hkept.grown
    have hbefore : s.ledger.records[i]? = some row := by
      rwa [← hrest, List.getElem?_append_left hlt] at hrow
    obtain ⟨heffect, hterminal⟩ := h i row hbefore
    have hgrown : s.ledger.records <+: s'.ledger.records := ⟨rest, hrest⟩
    refine ⟨fun ht => (heffect ht).later hgrown, fun ht => (hterminal ht).imp ?_ ?_⟩
    · exact fun hrests => hrests.later hgrown
    · rintro ⟨next, hnext, htype⟩
      refine ⟨next, ?_, htype⟩
      rw [← hrest, List.getElem?_append_left (lt_of_getElem? hnext), hnext]
  · obtain ⟨heffect, hterminal⟩ := hkept.founded i row hge hrow
    have hrests : ∀ outcomeKey,
        E.Current s (readsInForce (s'.ledger.records.take i)) outcomeKey →
        E.RestsOnReads s₀ s'.ledger.records i outcomeKey := fun outcomeKey hcurrent =>
      ⟨s, s', hrun, hs, hge, lt_of_getElem? hrow, List.prefix_rfl, hcurrent⟩
    exact ⟨fun ht => hrests _ (heffect ht), fun ht => (hterminal ht).imp_left (hrests _)⟩

theorem rested_of_runs (spares : E.domain.Spares readingRows) (h₀ : E.start = .ok s₀)
    (h : E.RunsVia P s₀ s) :
    Tracks s.served (readsInForce s.ledger.records) ∧ E.Rested s₀ s.ledger.records := by
  have hreached := Run.invariant (I := fun s => E.RunsVia (fun _ => True) s₀ s ∧
    Tracks s.served (readsInForce s.ledger.records) ∧ E.Rested s₀ s.ledger.records) h
    ⟨.refl s₀, start_tracks h₀, start_rested h₀⟩ ?_
  · exact hreached.2
  · rintro s a s' ⟨hrun, htracks, hrested⟩ - hs
    have hkept := step_readsKept spares htracks hs
    exact ⟨hrun.tail (a := a) trivial hs, hkept.tracked, hrested.step hrun hs hkept⟩

end Reliance

section Shown

variable {σ : Type} {E : Engine σ} {s₀ s : EngineState σ} {P : EngineState σ → Prop}

/-- The version under which an observation shows what was read with the tool. -/
def shownVersion (observation : AgentObservation) (tool : String) : Option Value :=
  ((observation.retrieval.get "served").lookup? tool).map fun shown => shown.member "record_version"

theorem find?_keyed {α β : Type} {f : String → Option α} {g : α → β} {name : String}
    {names : List String} (h : ∀ a, f name = some a → name ∈ names) :
    (names.filterMap fun k => (f k).map fun a => (k, g a)).find? (fun e => e.1 = name) =
      (f name).map fun a => (name, g a) := by
  induction names with
  | nil =>
    cases hf : f name with
    | none => rfl
    | some a => exact absurd (h a hf) List.not_mem_nil
  | cons k names ih =>
    rcases eq_or_ne k name with rfl | hne
    · cases hf : f k with
      | none =>
        have habsent : ∀ a, f k = some a → k ∈ names := fun a ha => by
          rw [hf] at ha
          cases ha
        rw [List.filterMap_cons_none (by rw [hf]; rfl), ih habsent, hf]
      | some a =>
        rw [List.filterMap_cons_some (b := (k, g a)) (by rw [hf]; rfl),
          List.find?_cons_of_pos (by simp)]
        rfl
    · have hrest : ∀ a, f name = some a → name ∈ names := fun a ha =>
        (List.mem_cons.mp (h a ha)).resolve_left hne.symm
      cases hf : f k with
      | none => rw [List.filterMap_cons_none (by rw [hf]; rfl), ih hrest]
      | some a =>
        rw [List.filterMap_cons_some (b := (k, g a)) (by rw [hf]; rfl),
          List.find?_cons_of_neg (by simpa using hne), ih hrest]

theorem shownVersion_of {observation : AgentObservation} (h : Offers E s observation)
    (tool : String) : shownVersion observation tool =
      (s.served.get? tool).map fun result => .str result.recordVersion := by
  obtain ⟨trigger, business, turn, _, h⟩ := h
  obtain ⟨schemas, _, h⟩ := bind_ok h
  obtain rfl := pure_ok h
  have hserved : (E.retrievalAffordance s).get "served" = .ofFields
      ((sortTexts s.served.keys).filterMap fun tool =>
        (s.served.get? tool).map fun result => (tool, result.asDict)) :=
    Fields.get_ofList (by simp) (by simp)
  rw [shownVersion, hserved, Value.lookup?_ofFields, find?_keyed]
  · cases s.served.get? tool <;> rfl
  · intro result hresult
    rw [sortTexts, List.mem_insertionSort]
    exact List.mem_map_of_mem (Dict.get?_eq_some_iff.mp hresult)

end Shown

section Gate

/-- The one record of the gate. -/
def gateReading (closed : Bool) (asOf : String) : ToolResult where
  tool := "gate"
  source := "register"
  authority := Authority.systemOfRecord
  recordId := "register:gate"
  recordVersion := if closed then "closed" else "open"
  asOf
  schemaId := "gate_v1"
  records := Dict.empty
  ok := true
  errorCode := none

/-- The latch, which the agent may only close on what it has read of the gate. -/
def gatedLatch (plan : EpisodePlan) : OperationDomain Bool := { latch plan with
  retrievalCatalogue :=
    .ofList [("gate", ⟨"register", Authority.systemOfRecord, "gate_v1", Dict.empty⟩)]
  readRequirements := .ofList [(completeOutcomeKey, ⟨.ofList [("gate", .required)], []⟩)]
  serveRetrieval closed requests asOf := .ok (requests.map fun _ => gateReading closed asOf) }

def gatePlan : EpisodePlan where
  startsAt := "2031-03-03T09:00:00Z"
  events := [latchEvent "event_1" "knock" "2031-03-03T09:00:00Z" 1 true]
  horizonMinutes := 600
  maxTurnsPerInvocation := 2

def closesLatch : Answer := .complete (.str "done") (.list [])

def readsGate : Answer := .retrieve (.sequence [.request (.str "gate") (.dict [])])

/-- The agent tries to close the latch before it has read of the gate, and again after it. -/
def readThenClosed : Engine Bool :=
  { latchEngine gatePlan [closesLatch, readsGate, closesLatch] with domain := gatedLatch gatePlan }

theorem gatedLatch_spares {plan : EpisodePlan} {types : List String} :
    (gatedLatch plan).Spares types := by
  rintro ⟨context, cause⟩ state reduction h recordType payload hm
  cases cause <;> obtain rfl := Except.ok.inj h <;> cases hm

end Gate

section Results

variable {σ : Type} {E : Engine σ} {s₀ s : EngineState σ} {P : EngineState σ → Prop}

/-- In every run, whatever was accepted was decided on reads that were in force, of the tools that
its outcome requires, and these still showed the state out of which it was accepted. -/
theorem accepted_on_reads (spares : E.domain.Spares readingRows) (h₀ : E.start = .ok s₀)
    (h : E.RunsVia P s₀ s) : E.Rested s₀ s.ledger.records := (rested_of_runs spares h₀ h).2

theorem readThenClosed_rested : ∃ s₀ s : EngineState Bool,
    readThenClosed.start = .ok s₀ ∧ s.state = true ∧
    (∃ row ∈ s.ledger.records, row.recordType = "terminal_rejected") ∧
    readThenClosed.Rested s₀ s.ledger.records := by
  obtain ⟨s₀, h₀, hc⟩ := ok_of_any (x := readThenClosed.start)
    (p := fun s₀ => (readThenClosed.runSteps 4 s₀).toOption.any fun s => s.state &&
      s.ledger.records.any fun row => row.recordType = "terminal_rejected") (by decide +kernel)
  obtain ⟨s, hs, hc⟩ := ok_of_any hc
  obtain ⟨hclosed, hrejected⟩ := Bool.and_eq_true_iff.mp hc
  obtain ⟨row, hrow, htype⟩ := List.any_eq_true.mp hrejected
  exact ⟨s₀, s, h₀, hclosed, ⟨row, hrow, of_decide_eq_true htype⟩,
    accepted_on_reads gatedLatch_spares h₀ (runSteps_runs hs)⟩

/-- Every observation shows the reads that the record gives as in force, and no others. -/
theorem shown_in_force (spares : E.domain.Spares readingRows) (h₀ : E.start = .ok s₀)
    (h : E.RunsVia P s₀ s) {observation : AgentObservation} (hoffers : Offers E s observation)
    (tool : String) : shownVersion observation tool =
      ((readsInForce s.ledger.records).get? tool).map Value.str := by
  rw [shownVersion_of hoffers, ((rested_of_runs spares h₀ h).1 tool).1, Option.map_map]
  rfl

theorem readThenClosed_shown : ∃ s observation, Offers readThenClosed s observation ∧
    (shownVersion observation "gate").isSome = true ∧ shownVersion observation "gate" =
      ((readsInForce s.ledger.records).get? "gate").map Value.str := by
  obtain ⟨s₀, h₀, hc⟩ := ok_of_any (x := readThenClosed.start)
    (p := fun s₀ => (readThenClosed.runSteps 3 s₀).toOption.any fun s => match s.control with
      | .turn trigger _ turn => (readThenClosed.observation s trigger turn).toOption.any
          fun observation => (shownVersion observation "gate").isSome
      | _ => false) (by decide +kernel)
  obtain ⟨s, hs, hc⟩ := ok_of_any hc
  split at hc
  · rename_i trigger business turn hcontrol
    obtain ⟨observation, hobservation, hshown⟩ := ok_of_any hc
    have hoffers : Offers readThenClosed s observation :=
      ⟨trigger, business, turn, hcontrol, hobservation⟩
    exact ⟨s, observation, hoffers, hshown,
      shown_in_force gatedLatch_spares h₀ (runSteps_runs hs) hoffers "gate"⟩
  · cases hc

end Results

end Engine

end OperateBench
