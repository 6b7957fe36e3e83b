import OperateBench.Core.Value
import OperateBench.Foundation.Dict
import OperateBench.Foundation.Transition

/-! # The budget of generated audits

A declaration allows each source of audits a number of occurrences with a bounded fan-out. A
transition stages batches under reservations, consumes their intents in order and commits them
together; whatever breaks the contract halts the runtime for good.
-/

namespace OperateBench

open Foundation

namespace AuditBudget

def int64Max : ℕ := 9223372036854775807

def v1Capacity : ℕ := 99998

def currentContract : String := "operatebench.domain-generated-audit-budget.v1"

def intentDigestDomain : String := "operatebench.digest.domain-generated-audit-intent.v1"

inductive AuditError
  | value (message : String)
  | overflow (message : String)
  | key (name : String)
  | runtime (message : String)
  deriving DecidableEq, Repr

section Checks

def exactInt (value : ℕ) (name : String) (minimum maximum : ℕ) : Except AuditError ℕ :=
  if minimum ≤ value ∧ value ≤ maximum then .ok value
  else .error (.value s!"{name} is outside {minimum}..{maximum}")

def isWordChar (c : Char) : Bool := 'a' ≤ c && c ≤ 'z' || '0' ≤ c && c ≤ '9'

/-- The rest of a portable identifier: words, with one separator between them. -/
def portableFrom (separated : Bool) : List Char → Bool
  | [] => !separated
  | c :: cs =>
    if isWordChar c then portableFrom false cs
    else (c = '.' || c = '_' || c = '-') && !separated && portableFrom true cs

def isPortable (value : String) : Bool :=
  decide (value.length ≤ 255) &&
    match value.toList with
    | [] => false
    | c :: cs => 'a' ≤ c && c ≤ 'z' && portableFrom false cs

def isLetter (c : Char) : Bool := 'A' ≤ c && c ≤ 'Z' || 'a' ≤ c && c ≤ 'z'

def isInstanceId (value : String) : Bool :=
  decide (value.length ≤ 255) &&
    match value.toList with
    | [] => false
    | c :: cs => isLetter c && cs.all fun c =>
        isLetter c || '0' ≤ c && c ≤ '9' || c = '.' || c = '_' || c = ':' || c = '-'

def isDigest (value : String) : Bool :=
  decide (value.length = 64) &&
    value.toList.all fun c => '0' ≤ c && c ≤ '9' || 'a' ≤ c && c ≤ 'f'

def portableId (value name : String) : Except AuditError Unit :=
  if isPortable value then .ok () else .error (.value s!"{name} is not a portable identifier")

def checkedAdd (left right : ℕ) : Except AuditError ℕ := do
  let lhs ← exactInt left "left" 0 int64Max
  let rhs ← exactInt right "right" 0 int64Max
  if int64Max - rhs < lhs then .error (.overflow "checked signed int64 addition overflow")
  else .ok (lhs + rhs)

def checkedMultiply (left right : ℕ) : Except AuditError ℕ := do
  let lhs ← exactInt left "left" 0 int64Max
  let rhs ← exactInt right "right" 0 int64Max
  if lhs ≠ 0 ∧ int64Max / lhs < rhs then
    .error (.overflow "checked signed int64 multiplication overflow")
  else .ok (lhs * rhs)

/-- `except OverflowError`, with the error raised in its place. -/
def overflowAs {α : Type} (error : AuditError) : Except AuditError α → Except AuditError α
  | .error (.overflow _) => .error error
  | x => x

end Checks

section Declarations

inductive CountedKind
  | scheduledAuditEventIntent
  | immediateAuditEventIntent
  deriving DecidableEq, Repr

def CountedKind.text : CountedKind → String
  | scheduledAuditEventIntent => "scheduled_audit_event_intent"
  | immediateAuditEventIntent => "immediate_audit_event_intent"

structure AuditBudgetSource where
  sourceId : String
  countedKind : CountedKind
  maxAcceptedOccurrences : ℕ
  maxEventsPerTransition : ℕ
  deriving DecidableEq, Repr

def AuditBudgetSource.postInit (source : AuditBudgetSource) : Except AuditError Unit := do
  portableId source.sourceId "source_id"
  let occurrences ← exactInt source.maxAcceptedOccurrences "max_accepted_occurrences" 0 int64Max
  let fanout ← exactInt source.maxEventsPerTransition "max_events_per_transition" 1 int64Max
  let _ ← overflowAs (.value "source maximum product exceeds signed int64")
    (checkedMultiply occurrences fanout)
  if v1Capacity < occurrences ∨ v1Capacity < fanout then
    .error (.value "source maximum exceeds protocol v1 capacity")
  else .ok ()

structure AuditBudgetDeclaration where
  contractId : String
  operationCoreContentDigestSha256 : String
  operationInstanceId : String
  declaredMaxEvents : ℕ
  sources : List AuditBudgetSource

/-- The aggregate of the sources, checked one at a time. -/
def addSource (total : ℕ) (source : AuditBudgetSource) : Except AuditError ℕ := do
  source.postInit
  let total ← overflowAs (.value "declaration aggregate exceeds signed int64") do
    let product ← checkedMultiply source.maxAcceptedOccurrences source.maxEventsPerTransition
    checkedAdd total product
  if v1Capacity < total then
    .error (.value "declaration aggregate exceeds protocol v1 capacity")
  else .ok total

def AuditBudgetDeclaration.postInit (d : AuditBudgetDeclaration) : Except AuditError Unit :=
  let sourceIds := d.sources.map AuditBudgetSource.sourceId
  if d.contractId ≠ currentContract then
    .error (.value "unsupported or wrong audit-budget contract")
  else if !isDigest d.operationCoreContentDigestSha256 then
    .error (.value "operation Core content digest must be lowercase SHA-256")
  else if !isInstanceId d.operationInstanceId then
    .error (.value "operation_instance_id is not a portable identifier")
  else do
    let declared ← exactInt d.declaredMaxEvents "declared_max_events" 0 v1Capacity
    if 4096 < d.sources.length then
      .error (.value "sources must contain at most 4096 exact source rows")
    else if ¬(sourceIds.Pairwise (· ≤ ·) ∧ sourceIds.Nodup) then
      .error (.value "source IDs must be sorted and unique")
    else do
      let total ← d.sources.foldlM addSource 0
      if total ≠ declared then
        .error (.value "declared maximum does not equal checked source aggregate")
      else .ok ()

end Declarations

section States

structure CommittedAuditIntent where
  intentDigestSha256 : String
  intentId : String
  sourceId : String
  countedKind : CountedKind
  transitionId : String
  batchOrdinal : ℕ
  operationCommittedCount : ℕ

structure AuditTransitionScope where
  transitionId : String
  invocationIndex : ℕ
  identity : String
  deriving DecidableEq

structure AuditReservation where
  transitionIdentity : String
  nonce : String
  deriving DecidableEq

structure BatchState where
  source : AuditBudgetSource
  reservation : AuditReservation
  nonce : String
  intents : List String
  digests : List String
  nextIndex : ℕ

structure TransitionState where
  scope : AuditTransitionScope
  transitionId : String
  invocationIndex : ℕ
  identity : String
  batches : List BatchState
  reexecution : Bool

inductive RefusalClass
  | unknownSourceOrKind
  | invalidBatchOrIdentity
  | reservationLifecycleViolation
  | postFinalityAttempt
  | checkedSignedInt64ArithmeticOverflow
  | validReservationAboveDeclaredAggregate
  | validReservationAboveDeclaredSource
  deriving DecidableEq, Repr

def RefusalClass.integrityCode : RefusalClass → String
  | unknownSourceOrKind | invalidBatchOrIdentity | reservationLifecycleViolation
  | postFinalityAttempt => "DOMAIN_AUDIT_CONTRACT_VIOLATION"
  | checkedSignedInt64ArithmeticOverflow => "DOMAIN_AUDIT_COUNTER_INTEGRITY"
  | validReservationAboveDeclaredAggregate | validReservationAboveDeclaredSource =>
    "DOMAIN_AUDIT_BUDGET_EXCEEDED"

structure HaltWitness where
  cause : String
  facts : List Value

structure HaltRecord where
  refusalClass : RefusalClass
  sourceId : Option String
  requestedCount : ℕ
  operationCommittedBefore : ℕ
  sourceCommittedBefore : Option ℕ
  transitionId : Option String
  invocationIndex : Option ℕ
  witness : HaltWitness

structure RuntimeState where
  committed : List CommittedAuditIntent
  committedCount : ℕ
  committedIds : Dict String Bool
  committedDigests : Dict String Bool
  committedTransitions : Dict String Bool
  sourceCounts : Dict String ℕ
  sourceOccurrences : Dict String ℕ
  final : Bool
  halt : Option HaltRecord
  active : Option TransitionState

/-- A call that raised left the state as it was; one that stopped the runtime left its record. -/
inductive Refusal
  | raised (error : AuditError)
  | halted (record : HaltRecord)

end States

/-- A runtime of an accepted declaration. The digest of a text is a parameter. -/
structure AuditBudgetRuntime where
  declaration : AuditBudgetDeclaration
  accepted : declaration.postInit = .ok ()
  sha256 : Value → String

namespace AuditBudgetRuntime

variable (r : AuditBudgetRuntime) (state : RuntimeState)

def initialState : RuntimeState where
  committed := []
  committedCount := 0
  committedIds := .empty
  committedDigests := .empty
  committedTransitions := .empty
  sourceCounts := .ofList (r.declaration.sources.map fun source => (source.sourceId, 0))
  sourceOccurrences := .ofList (r.declaration.sources.map fun source => (source.sourceId, 0))
  final := false
  halt := none
  active := none

section Digests

/-- What the digest of an intent is taken of. -/
def intentContent (intentId sourceId transitionId : String) (batchOrdinal : ℕ) : Value :=
  .ofFields
    [("content", .ofFields
      [("batch_ordinal", .int batchOrdinal), ("contract_id", .str currentContract),
        ("intent_id", .str intentId),
        ("operation_core_content_digest_sha256",
          .str r.declaration.operationCoreContentDigestSha256),
        ("operation_instance_id", .str r.declaration.operationInstanceId),
        ("source_id", .str sourceId), ("transition_id", .str transitionId)]),
      ("domain", .str intentDigestDomain)]

def intentDigest (intentId sourceId transitionId : String) (batchOrdinal : ℕ) : String :=
  r.sha256 (r.intentContent intentId sourceId transitionId batchOrdinal)

def batchDigests (intents : List String) (sourceId transitionId : String) : List String :=
  intents.zipIdx.map fun e => r.intentDigest e.1 sourceId transitionId e.2

end Digests

section Stops

def raise {α : Type} (error : AuditError) : Except Refusal α := .error (.raised error)

def lift {α : Type} : Except AuditError α → Except Refusal α
  | .ok a => .ok a
  | .error error => raise error

/-- Of the checks that a halt passes before it is published, those that depend on what was asked:
the others hold of the record of every reachable state. -/
def publishesHalt (record : HaltRecord) : Bool :=
  decide (record.requestedCount ≤ v1Capacity) &&
    (decide (record.refusalClass = .postFinalityAttempt) ||
      decide (record.refusalClass = .unknownSourceOrKind) ||
        r.declaration.sources.any fun source => record.sourceId = some source.sourceId)

def stop {α : Type} (refusalClass : RefusalClass) (sourceId : Option String) (requestedCount : ℕ)
    (transitionId : Option String) (invocationIndex : Option ℕ) (witness : HaltWitness) :
    Except Refusal α :=
  let record : HaltRecord := {
    refusalClass, sourceId, requestedCount
    operationCommittedBefore := state.committedCount
    sourceCommittedBefore := sourceId.bind state.sourceCounts.get?
    transitionId, invocationIndex, witness }
  if r.publishesHalt record then .error (.halted record)
  else raise (.value "invalid halted runtime-state successor")

def stopPostFinality {α : Type} : Except Refusal α :=
  r.stop state .postFinalityAttempt none 0 none none ⟨"post_finality", [.bool true]⟩

def stopInvalidBatch {α : Type} (active : TransitionState) (sourceId fact : String) :
    Except Refusal α :=
  r.stop state .invalidBatchOrIdentity (some sourceId) 0 (some active.transitionId)
    (some active.invocationIndex) ⟨"invalid_batch",
      [.str fact, .str sourceId, .str active.transitionId, .int active.invocationIndex, .int 0]⟩

def stopLifecycle {α : Type} (active : TransitionState) (batch : BatchState) (fact : String) :
    Except Refusal α :=
  r.stop state .reservationLifecycleViolation (some batch.source.sourceId) batch.intents.length
    (some active.transitionId) (some active.invocationIndex) ⟨"reservation_lifecycle",
      [.str fact, .str batch.nonce, .str active.identity, .str batch.source.sourceId,
        .int batch.intents.length, .str active.transitionId, .int active.invocationIndex]⟩

def lifecycleOrProgrammer {α : Type} (active : TransitionState) : Except Refusal α :=
  match active.batches with
  | [] => raise (.runtime "reservation lifecycle refusal requires a real reservation")
  | batch :: _ => r.stopLifecycle state active batch "active_overlap"

def raiseIfHalted : Except Refusal Unit :=
  match state.halt with
  | some record => .error (.halted record)
  | none => .ok ()

def requireScope (scope : AuditTransitionScope) : Except Refusal TransitionState :=
  match state.active with
  | none => raise (.runtime "audit transition scope is not active")
  | some active =>
    if active.scope ≠ scope then r.lifecycleOrProgrammer state active else .ok active

end Stops

section Transitions

/-- The identity of the scope is a token that the environment draws. -/
def beginTransition (transitionId : String) (invocationIndex : ℕ) (identity : String) :
    Except Refusal (AuditTransitionScope × RuntimeState) := do
  raiseIfHalted state
  lift (portableId transitionId "transition_id")
  let _ ← lift (exactInt invocationIndex "invocation_index" 0 v1Capacity)
  if state.final then r.stopPostFinality state
  else match state.active with
  | some active => r.lifecycleOrProgrammer state active
  | none =>
    let scope : AuditTransitionScope := ⟨transitionId, invocationIndex, identity⟩
    let reexecution := state.committedTransitions.contains transitionId
    .ok (scope, { state with
      active := some ⟨scope, transitionId, invocationIndex, identity, [], reexecution⟩ })

/-- A batch that may stand behind the sources, intents and digests staged so far. -/
def batchValid (active : TransitionState) (batch : BatchState)
    (sourceIds stagedIds stagedDigests : List String) : Bool :=
  decide (r.declaration.sources.find? (fun source => source.sourceId = batch.source.sourceId) =
      some batch.source) &&
    decide (batch.source.sourceId ∉ sourceIds) &&
    decide (batch.reservation = ⟨active.identity, batch.nonce⟩) &&
    decide (batch.nonce.length = 64) &&
    decide (0 < batch.intents.length ∧
      batch.intents.length ≤ batch.source.maxEventsPerTransition) &&
    batch.intents.all isPortable &&
    decide batch.intents.Nodup &&
    decide (batch.digests = r.batchDigests batch.intents batch.source.sourceId
      active.transitionId) &&
    decide (batch.nextIndex ≤ batch.intents.length) &&
    (batch.intents.all fun id => id ∉ stagedIds && !state.committedIds.contains id) &&
    batch.digests.all fun digest =>
      digest ∉ stagedDigests && !state.committedDigests.contains digest

def batchesValid (active : TransitionState) :
    List BatchState → List String → List String → List String → Bool
  | [], _, _, _ => true
  | batch :: batches, sourceIds, stagedIds, stagedDigests =>
    r.batchValid state active batch sourceIds stagedIds stagedDigests &&
      batchesValid active batches (sourceIds ++ [batch.source.sourceId])
        (stagedIds ++ batch.intents) (stagedDigests ++ batch.digests)

/-- The check of a transition with one more batch before it is published. -/
def activeValid (active : TransitionState) : Bool :=
  r.batchesValid state active active.batches [] [] []

def stagedCount (active : TransitionState) : ℕ :=
  (active.batches.map fun batch => batch.intents.length).sum

def countOf (counts : Dict String ℕ) (sourceId : String) : Except AuditError ℕ :=
  match counts.get? sourceId with
  | none => .error (.key sourceId)
  | some count => .ok count

/-- The aggregate after the batch, the limit of its source, and the source's count after it. -/
def attempt (active : TransitionState) (source : AuditBudgetSource) (requested : ℕ) :
    Except AuditError (ℕ × ℕ × ℕ) := do
  let attempted ← checkedAdd (stagedCount active) requested
  let aggregate ← checkedAdd state.committedCount attempted
  let sourceLimit ← checkedMultiply source.maxAcceptedOccurrences source.maxEventsPerTransition
  let sourceAfter ← checkedAdd (← countOf state.sourceCounts source.sourceId) requested
  return (aggregate, sourceLimit, sourceAfter)

/-- The batch is staged under a reservation whose nonce the environment draws. -/
def stage (active : TransitionState) (source : AuditBudgetSource) (intentIds : List String)
    (nonce : String) : Except Refusal (AuditReservation × RuntimeState) :=
  let digests := r.batchDigests intentIds source.sourceId active.transitionId
  if ¬digests.Nodup ∨ digests.any state.committedDigests.contains then
    r.stopInvalidBatch state active source.sourceId "batch_shape"
  else
    let reservation : AuditReservation := ⟨active.identity, nonce⟩
    let batch : BatchState := ⟨source, reservation, nonce, intentIds, digests, 0⟩
    let newActive := { active with batches := active.batches ++ [batch] }
    if !isDigest nonce then raise (.value "invalid internal reservation nonce")
    else if ¬(newActive.batches.map BatchState.nonce).Nodup then
      raise (.value "duplicate internal reservation nonce")
    else if !r.activeValid state newActive then
      raise (.value "invalid runtime-state successor")
    else .ok (reservation, { state with active := some newActive })

/-- A batch of a known source, against the declared maxima. -/
def reserveKnown (active : TransitionState) (source : AuditBudgetSource) (intentIds : List String)
    (nonce : String) : Except Refusal (AuditReservation × RuntimeState) := do
  let requested := intentIds.length
  let staged := stagedCount active
  let position := [.str source.sourceId, .str active.transitionId, .int active.invocationIndex]
  let stopped (refusalClass : RefusalClass) (cause : String) (facts : List Value) :
      Except Refusal (AuditReservation × RuntimeState) :=
    r.stop state refusalClass (some source.sourceId) requested (some active.transitionId)
      (some active.invocationIndex) ⟨cause, facts ++ position⟩
  match attempt state active source requested with
  | .error (.overflow _) =>
    stopped .checkedSignedInt64ArithmeticOverflow "checked_overflow"
      [.str "add", .int staged, .int requested]
  | .error error => raise error
  | .ok (aggregate, sourceLimit, sourceAfter) =>
    if r.declaration.declaredMaxEvents < aggregate then
      stopped .validReservationAboveDeclaredAggregate "aggregate_limit"
        [.int state.committedCount, .int staged, .int requested,
          .int r.declaration.declaredMaxEvents]
    else do
      let occurrences ← lift (countOf state.sourceOccurrences source.sourceId)
      let count ← lift (countOf state.sourceCounts source.sourceId)
      if source.maxAcceptedOccurrences ≤ occurrences ∨ sourceLimit < sourceAfter then
        stopped .validReservationAboveDeclaredSource "source_limit"
          [.int state.committedCount, .int staged, .int requested, .int count, .int occurrences,
            .int sourceLimit, .int r.declaration.declaredMaxEvents]
      else r.stage state active source intentIds nonce

def reserve (scope : AuditTransitionScope) (sourceId countedKind : String)
    (intentIds : List String) (nonce : String) :
    Except Refusal (AuditReservation × RuntimeState) := do
  raiseIfHalted state
  let active ← r.requireScope state scope
  lift (portableId sourceId "source_id")
  lift (portableId countedKind "counted_kind")
  lift (intentIds.forM (portableId · "intent_id"))
  let source? := r.declaration.sources.find? fun source => source.sourceId = sourceId
  let requested := intentIds.length
  let unknown : Except Refusal (AuditReservation × RuntimeState) :=
    if requested = 0 then r.stopInvalidBatch state active sourceId "empty_or_unknown_batch"
    else r.stop state .unknownSourceOrKind (some sourceId) requested (some active.transitionId)
      (some active.invocationIndex) ⟨"unknown_source_or_kind",
        [.str countedKind, .bool source?.isSome, .str sourceId, .str active.transitionId,
          .int active.invocationIndex]⟩
  if active.reexecution then
    r.stopInvalidBatch state active sourceId "duplicate_transition_reexecution"
  else match source? with
  | none => unknown
  | some source =>
    if source.countedKind.text ≠ countedKind then unknown
    else if ¬(0 < requested ∧ requested ≤ source.maxEventsPerTransition) ∨
        active.batches.any (fun batch => batch.source.sourceId = sourceId) ∨
        ¬intentIds.Nodup ∨
        intentIds.any (fun id => active.batches.any fun batch => id ∈ batch.intents) ∨
        intentIds.any state.committedIds.contains then
      r.stopInvalidBatch state active sourceId "batch_shape"
    else r.reserveKnown state active source intentIds nonce

/-- The first batch that the reservation is for takes its next intent. -/
def consumeLocked (active : TransitionState) (reservation : AuditReservation) (intentId : String) :
    Except Refusal (Unit × RuntimeState) := do
  lift (portableId intentId "intent_id")
  match active.batches.findIdx? fun batch =>
      batch.reservation = reservation && batch.nonce = reservation.nonce &&
        reservation.transitionIdentity = active.identity with
  | none => r.lifecycleOrProgrammer state active
  | some index =>
    match active.batches[index]? with
    | none => raise (.key "batch_index")
    | some batch =>
      if batch.intents[batch.nextIndex]? ≠ some intentId then
        r.stopLifecycle state active batch "consume_order"
      else
        let batches := active.batches.set index { batch with nextIndex := batch.nextIndex + 1 }
        .ok ((), { state with active := some { active with batches } })

def consume (reservation : AuditReservation) (intentId : String) :
    Except Refusal (Unit × RuntimeState) := do
  raiseIfHalted state
  match state.active with
  | none => raise (.runtime "audit transition scope is not active")
  | some active => r.consumeLocked state active reservation intentId

def consumeFromScope (scope : AuditTransitionScope) (reservation : AuditReservation)
    (intentId : String) : Except Refusal (Unit × RuntimeState) := do
  raiseIfHalted state
  let active ← r.requireScope state scope
  r.consumeLocked state active reservation intentId

/-- The rows of the staged intents, numbered from the count there was. -/
def commitRows (active : TransitionState) (start : ℕ) : List CommittedAuditIntent :=
  let staged := active.batches.flatMap fun batch => batch.intents.zipIdx.map fun e => (batch, e)
  staged.zipIdx.map fun e =>
    let (batch, intentId, ordinal) := e.1
    { intentDigestSha256 :=
        r.intentDigest intentId batch.source.sourceId active.transitionId ordinal
      intentId
      sourceId := batch.source.sourceId
      countedKind := batch.source.countedKind
      transitionId := active.transitionId
      batchOrdinal := ordinal
      operationCommittedCount := start + e.2 + 1 }

/-- The counts with the units of one more use for each batch. -/
def addCounts (units : BatchState → ℕ) (counts : Dict String ℕ) (batches : List BatchState) :
    Except AuditError (Dict String ℕ) :=
  batches.foldlM (fun counts batch => do
    let count ← countOf counts batch.source.sourceId
    return counts.set batch.source.sourceId (count + units batch)) counts

def commit (scope : AuditTransitionScope) : Except Refusal (Unit × RuntimeState) := do
  raiseIfHalted state
  let active ← r.requireScope state scope
  if state.final then r.stopPostFinality state
  else if active.batches.isEmpty ∧ !active.reexecution then
    raise (.runtime "commit requires at least one real reservation")
  else if active.reexecution then .ok ((), { state with active := none })
  else match active.batches.find? fun batch => batch.nextIndex ≠ batch.intents.length with
  | some incomplete => r.stopLifecycle state active incomplete "incomplete_commit"
  | none => do
    let rows := r.commitRows active state.committedCount
    let sourceCounts ←
      lift (addCounts (fun batch => batch.intents.length) state.sourceCounts active.batches)
    let sourceOccurrences ← lift (addCounts (fun _ => 1) state.sourceOccurrences active.batches)
    .ok ((), { state with
      committed := state.committed ++ rows
      committedCount := state.committedCount + rows.length
      committedIds := rows.foldl (fun ids row => ids.set row.intentId true) state.committedIds
      committedDigests := rows.foldl (fun digests row => digests.set row.intentDigestSha256 true)
        state.committedDigests
      committedTransitions := state.committedTransitions.set active.transitionId true
      sourceCounts
      sourceOccurrences
      active := none })

def abort (scope : AuditTransitionScope) : Except Refusal (Unit × RuntimeState) := do
  raiseIfHalted state
  let _ ← r.requireScope state scope
  .ok ((), { state with active := none })

/-- Leaving the scope aborts it where it is still open. -/
def abortIfActive (scope : AuditTransitionScope) : Except Refusal (Unit × RuntimeState) :=
  if state.halt.isNone ∧ state.active.any (fun active => active.scope = scope) then
    .ok ((), { state with active := none })
  else .ok ((), state)

def markFinality : Except Refusal (Unit × RuntimeState) := do
  raiseIfHalted state
  if state.final then r.stopPostFinality state
  else match state.active with
  | some active => r.lifecycleOrProgrammer state active
  | none => .ok ((), { state with final := true })

end Transitions

section Runs

inductive AuditCall
  | beginTransition (transitionId : String) (invocationIndex : ℕ) (identity : String)
  | reserve (scope : AuditTransitionScope) (sourceId countedKind : String)
      (intentIds : List String) (nonce : String)
  | consume (reservation : AuditReservation) (intentId : String)
  | consumeFromScope (scope : AuditTransitionScope) (reservation : AuditReservation)
      (intentId : String)
  | commit (scope : AuditTransitionScope)
  | abort (scope : AuditTransitionScope)
  | abortIfActive (scope : AuditTransitionScope)
  | markFinality

/-- The state that a call leaves: the first halt stays. -/
def after {α : Type} : Except Refusal (α × RuntimeState) → RuntimeState
  | .ok (_, next) => next
  | .error (.raised _) => state
  | .error (.halted record) =>
    if state.halt.isSome then state else { state with halt := some record, active := none }

def respond : AuditCall → RuntimeState
  | .beginTransition transitionId invocationIndex identity =>
    after state (r.beginTransition state transitionId invocationIndex identity)
  | .reserve scope sourceId countedKind intentIds nonce =>
    after state (r.reserve state scope sourceId countedKind intentIds nonce)
  | .consume reservation intentId => after state (r.consume state reservation intentId)
  | .consumeFromScope scope reservation intentId =>
    after state (r.consumeFromScope state scope reservation intentId)
  | .commit scope => after state (r.commit state scope)
  | .abort scope => after state (r.abort state scope)
  | .abortIfActive scope => after state (abortIfActive state scope)
  | .markFinality => after state (r.markFinality state)

def Step (r : AuditBudgetRuntime) (s : RuntimeState) (call : AuditCall) (s' : RuntimeState) :
    Prop :=
  r.respond s call = s'

end Runs

end AuditBudgetRuntime

end AuditBudget

end OperateBench
