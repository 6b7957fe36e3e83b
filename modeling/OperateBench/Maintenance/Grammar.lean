import OperateBench.Core.Evaluation
import OperateBench.Foundation.Checker
import OperateBench.Maintenance.Spec

/-! # The retrieval grammar of a trajectory

What the grader holds the retrieval rows of a record to: invalidations stand right behind their
causes, a row names the invocation and the call it was part of, a batch is canonical and is
served at one instant, and a served row is what the catalogue publishes. The text of the exception
that refuses a body of records is left out of its finding.
-/

namespace OperateBench.Maintenance

open Foundation

namespace Evaluator

section Rows

def invalidationWake : String := "wake"

def invalidationEffectAccepted : String := "effect_accepted"

def invalidationCauses : List String := [invalidationEffectAccepted, invalidationWake]

def retrievalInitiators : List String := ["agent"]

def retrievalAuthorities : List String :=
  [Authority.actorClaim, Authority.authoritativeVerification, Authority.communication,
    Authority.systemEvent, Authority.systemOfRecord]

def callRecordTypes : List String :=
  ["retrieval_served", "retrieval_refused", "agent_outcome", "outcome_rejected"]

def invocationBoundTypes : List String :=
  ["retrieval_served", "retrieval_refused", "derived_context_invalidated"]

/-- `row.get("record_type") == record_type`. -/
def typed (recordType : String) (row : Fields) : Bool := (row.get "record_type").isStr recordType

/-- `value in texts`, for a tuple of texts. -/
def among (texts : List String) (v : Value) : Bool := texts.any v.isStr

/-- The non-negative integer that a field states. -/
def counterValue : Value → Option ℕ
  | .int (.ofNat n) => some n
  | _ => none

end Rows

section Invalidations

/-- The row drops what was read before the invocation that the other row opened. -/
def wakes (opened row : Fields) : Bool :=
  typed "derived_context_invalidated" row && (row.get "cause").isStr invalidationWake &&
    (row.get "invocation_index").equals (opened.get "invocation_index")

/-- The row drops what the effect accepted in the other row moved. -/
def moves (accepted row : Fields) : Bool :=
  typed "derived_context_invalidated" row && (row.get "cause").isStr invalidationEffectAccepted &&
    (row.get "action_type").equals (accepted.get "action_type")

def notBound (detail : String) : Finding :=
  { code := "RETRIEVAL_INVALIDATION_NOT_BOUND_TO_ITS_CAUSE", detail }

/-- The findings about one row, between the rows that precede and follow it. -/
def invalidationBinding (position : ℕ) (preceding following : Option Fields) (row : Fields) :
    List Finding :=
  let actionType := (row.get "action_type").repr
  if typed "agent_invoked" row then
    if following.any (wakes row) then [] else [notBound
      (s!"the invocation opened at row {position} is not immediately " ++
        "followed by the wake invalidation that drops what the agent " ++
        "read before it; a wake stales every derived fact, and an " ++
        "invocation with no such row describes an agent still holding " ++
        "a view of a document the world has moved")]
  else if typed "effect_accepted" row then
    if following.any (moves row) then [] else [notBound
      (s!"the effect accepted at row {position} for " ++
        s!"{actionType} is not immediately followed by the " ++
        "invalidation that drops the reads it moved; the record it was " ++
        "looking at changed because of what it just did")]
  else if typed "derived_context_invalidated" row then
    let cause := row.get "cause"
    if cause.isStr invalidationWake && !preceding.any fun opened =>
        typed "agent_invoked" opened &&
          (opened.get "invocation_index").equals (row.get "invocation_index") then [notBound
      (s!"row {position} invalidates derived context for a wake that " ++
        "did not immediately precede it; a wake invalidation belongs " ++
        "to the invocation it opens, and one standing anywhere else " ++
        "is a wake no agent_invoked row records")]
    else if cause.isStr invalidationEffectAccepted && !preceding.any fun accepted =>
        typed "effect_accepted" accepted &&
          (accepted.get "action_type").equals (row.get "action_type") then [notBound
      (s!"row {position} invalidates derived context for an accepted " ++
        s!"{actionType} effect that does not immediately " ++
        "precede it; an invalidation cannot come before the effect it " ++
        "describes, and one naming another action describes an effect " ++
        "this position did not commit")]
    else []
  else []

/-- `row_at(position - 1)`. -/
def rowBefore (trajectory : List Fields) : ℕ → Option Fields
  | 0 => none
  | position + 1 => trajectory[position]?

/-- Bind every invalidation to the row that caused it, in both directions. -/
def invalidationBindingProblems (trajectory : List Fields) : List Finding :=
  trajectory.zipIdx.flatMap fun (row, position) =>
    invalidationBinding position (rowBefore trajectory position) trajectory[position + 1]? row

end Invalidations

section Turns

structure TurnState where
  invocation : Value
  expectedTurn : ℕ
  currentTurn : Option ℕ
  openBatch : Value

namespace TurnState

/-- Before the first call of an invocation. -/
def opening (invocation : Value) : TurnState :=
  { invocation, expectedTurn := 0, currentTurn := none, openBatch := .none }

def callTurn (s : TurnState) (position : ℕ) (row : Fields) : TurnState × List Finding :=
  let recordType := (row.get "record_type").repr
  let turnIndex := (row.get "turn_index").repr
  let invocation := s.invocation.repr
  let expectedTurn := s.expectedTurn
  ({ s with currentTurn := some expectedTurn, expectedTurn := expectedTurn + 1 },
    if counterValue (row.get "turn_index") = some expectedTurn then [] else [{
      code := "RETRIEVAL_TURN_BINDING_BROKEN"
      detail := s!"row {position} attributes a {recordType} to turn " ++
        s!"{turnIndex} of invocation {invocation}, where " ++
        s!"turn {expectedTurn} was the call being answered; turns are the " ++
        "consecutive calls the engine made, so a turn index moved to " ++
        "another turn this invocation really had still names a call that " ++
        "produced something else" }])

/-- The row is one more result of the batch that is open. -/
def continues (s : TurnState) (row : Fields) : Bool :=
  !s.openBatch.isNone && (row.get "batch_index").equals s.openBatch

/-- A row that belongs to an invocation names the one that is open. -/
def invocationBinding (s : TurnState) (position : ℕ) (row : Fields) : List Finding :=
  let recordType := (row.get "record_type").repr
  let stated := (row.get "invocation_index").repr
  let invocation := s.invocation.repr
  if s.invocation.isNone || !(row.get "invocation_index").equals s.invocation then [{
    code := "RETRIEVAL_INVOCATION_BINDING_BROKEN"
    detail := s!"row {position} attributes a {recordType} to invocation " ++
      s!"{stated} while invocation {invocation} " ++
      "is the one open at that position; a read is answered to the agent " ++
      "that was asked, and an invocation index that names another real " ++
      "invocation is a read moved to a turn it was never served in" }]
  else []

/-- The turn an invalidation is due at, for the causes that this build has. -/
def due? (s : TurnState) (cause : Value) : Option (Option ℕ) :=
  if cause.isStr invalidationWake then some (some 0)
  else if cause.isStr invalidationEffectAccepted then some s.currentTurn
  else none

def invalidationTurn (s : TurnState) (position : ℕ) (row : Fields) : List Finding :=
  match s.due? (row.get "cause") with
  | none => []
  | some due =>
    let turnIndex := (row.get "turn_index").repr
    let dueText := ((due.map fun turn => Value.int turn).getD .none).repr
    if counterValue (row.get "turn_index") = due then [] else [{
      code := "RETRIEVAL_TURN_BINDING_BROKEN"
      detail := s!"row {position} invalidates derived context at turn " ++
        s!"{turnIndex} where turn {dueText} is the call it " ++
        "belongs to; a wake invalidation precedes the first call of " ++
        "its invocation and an effect invalidation is written inside " ++
        "the call whose outcome committed the effect" }]

def step (position : ℕ) (s : TurnState) (row : Fields) :
    Except PyError (TurnState × List Finding) :=
  if typed "agent_invoked" row then .ok (opening (row.get "invocation_index"), [])
  else do
    let bound ← (row.get "record_type").isIn (invocationBoundTypes.map .str)
    let misplaced := if bound then s.invocationBinding position row else []
    if typed "retrieval_served" row then
      if s.continues row then return (s, misplaced)
      else
        let (t, found) := { s with openBatch := row.get "batch_index" }.callTurn position row
        return (t, misplaced ++ found)
    else
      let s := { s with openBatch := .none }
      if ← (row.get "record_type").isIn (callRecordTypes.map .str) then
        let (t, found) := s.callTurn position row
        return (t, misplaced ++ found)
      else if typed "derived_context_invalidated" row then
        return (s, misplaced ++ s.invalidationTurn position row)
      else return (s, misplaced)

end TurnState

/-- Bind every retrieval row to the call and the invocation it was part of. -/
def invocationAndTurnProblems (trajectory : List Fields) : Except PyError (List Finding) :=
  Prod.snd <$> Checker.run TurnState.step 0 (.opening .none) trajectory

end Turns

section Served

inductive RootShape where
  | text
  | optionalText
  | object
  | optionalObject
  | list
  | flag
  | counter
  deriving DecidableEq

namespace RootShape

def name : RootShape → String
  | text => "text"
  | optionalText => "optional_text"
  | object => "object"
  | optionalObject => "optional_object"
  | list => "list"
  | flag => "flag"
  | counter => "counter"

def fits : RootShape → Value → Bool
  | text, .str _ => true
  | optionalText, v => v.isNone || v.asStr?.isSome
  | object, v => v.isMapping
  | optionalObject, v => v.isNone || v.isMapping
  | list, .list _ => true
  | flag, .bool _ => true
  | counter, v => (counterValue v).isSome
  | _, _ => false

end RootShape

def observableRootShapes : List (String × RootShape) :=
  [("approvals", .object), ("assertions", .list), ("authoritative_records", .object),
    ("classification", .optionalText), ("communications", .list),
    ("current_cycle_id", .optionalText), ("customer_resolution", .text), ("cycles", .object),
    ("exceptions", .object), ("invoices", .object), ("issue_id", .optionalText),
    ("issue_reporting_actor_id", .optionalText), ("obligations", .object),
    ("ownership_transferred_to", .optionalText), ("payment", .object), ("phase", .text),
    ("provisional_close", .object), ("quotes", .object), ("reopen_count", .counter),
    ("replay_final", .flag), ("terminal", .optionalObject), ("transfer_notice_sent", .flag)]

/-- Why the value is not in the shape that the root is published in. -/
def rootShapeProblem (root : String) (value : Value) : Option String :=
  let rootText := pyRepr root
  match observableRootShapes.lookup root with
  | none => some s!"{rootText} is not a root any published read projects"
  | some shape =>
    let shapeName := shape.name
    let typeName := value.typeName
    if shape.fits value then none
    else some s!"{rootText} is published as {shapeName}, and this row carries a {typeName}"

/-- Why the body of a served row is not the projection that the tool is published with. -/
def projectionProblems (tool : String) (spec : RetrievalToolSpec) (records : Value) :
    List String :=
  if records.isMapping then
    let stated := records.fields.map Prod.fst
    let missing := sortedSet (spec.roots.filter fun root => root ∉ stated)
    let extra := sortedSet (stated.filter fun root => root ∉ spec.roots)
    let toolText := pyRepr tool
    let roots := reprList (sortTexts spec.roots)
    let missingText := reprList missing
    let extraText := reprList extra
    (if missing = [] ∧ extra = [] then []
      else [s!"the {toolText} read projects exactly {roots}; this row " ++
        s!"omits {missingText} and adds {extraText}"]) ++
    (sortedSet (stated.filter fun root => root ∈ spec.roots)).filterMap fun root =>
      rootShapeProblem root (records.field root)
  else
    let typeName := records.typeName
    [s!"a served row carries the records it returned as an object, got {typeName}"]

def semicolonSeparated (texts : List String) : String := String.intercalate "; " texts

variable (sha256 : Value → String)

/-- Hold one served row to the catalogue, and its version to its own records. -/
def servedRowProblems (position : ℕ) (row : Fields) : List Finding :=
  let tool := (row.get "tool").text
  let toolText := pyRepr tool
  let unknown : Finding := {
    code := "RETRIEVAL_RESULT_VOCABULARY_UNKNOWN"
    detail := s!"row {position} states a source, authority or schema identity that " ++
      "is not the one the published catalogue gives this read; a result " ++
      "whose provenance is not the catalogue's is not a retrieval this " ++
      "operation performed" }
  match retrievalTool? tool with
  | none => [unknown]
  | some spec =>
    let records := row.get "records"
    let provenance := if among retrievalAuthorities (row.get "authority") &&
        (row.get "authority").isStr spec.authority && (row.get "schema_id").isStr spec.schemaId &&
        (row.get "source").isStr spec.source then [] else [unknown]
    let recordId := (row.get "record_id").repr
    let source := pyRepr spec.source
    let identity := if (row.get "record_id").isStr (recordIdentity spec.source) then [] else [{
      code := "RETRIEVAL_RECORD_IDENTITY_UNKNOWN"
      detail := s!"row {position} says the {toolText} read is about record " ++
        s!"{recordId}; the identity a read of " ++
        s!"{source} is about is derived from the service the catalogue " ++
        "publishes for the tool, and a record identity borrowed from another " ++
        "published read attributes this answer to a record it did not come " ++
        "from" }]
    let problems := projectionProblems tool spec records
    let problemText := semicolonSeparated problems
    let recomputed := recordVersion sha256 (.ofList records.fields)
    let version := (row.get "record_version").repr
    let recomputedText := pyRepr recomputed
    let body : List Finding := if problems ≠ [] then [{
        code := "RETRIEVAL_RECORDS_NOT_THE_PUBLISHED_PROJECTION"
        detail := s!"row {position} carries a records body that is not the projection " ++
          s!"the catalogue publishes for {toolText}: {problemText}. A body " ++
          "of arbitrary roots would make its own version a digest of itself and " ++
          "nothing else" }]
      else if !records.jsonSafe Value.maxJsonDepth then [{
        code := "RETRIEVAL_RECORDS_NOT_THE_PUBLISHED_PROJECTION"
        detail := s!"row {position} carries a records body canonical JSON cannot carry, " ++
          "so no version can be computed over it" }]
      else if !(row.get "record_version").isStr recomputed then [{
        code := "RETRIEVAL_RECORD_VERSION_MISMATCH"
        detail := s!"row {position} states version {version} for the " ++
          s!"{toolText} read and the records it carries digest to {recomputedText}; " ++
          "the version is recomputed from the row's own body through the helper " ++
          "the broker answered through, so a version the row was handed is a " ++
          "value to check rather than a value to believe" }]
      else []
    provenance ++ identity ++ body

end Served

section Batches

structure GrammarState where
  invocation : Int
  batchesSeen : Int
  currentBatch : List Fields
  invalidatedAt : Option ℕ

/-- What is found about the rows of a batch that ends. -/
def closeBatch : List Fields → Except PyError (List Finding)
  | [] => .ok []
  | first :: rest => do
    let batch := first :: rest
    let tools := batch.map fun row => (row.get "tool").text
    let batchIndex := (first.get "batch_index").repr
    let invocation := (first.get "invocation_index").repr
    let count := tools.length
    let canonical : List Finding := if tools = sortTexts tools ∧ tools.dedup.length = count then []
      else [{
        code := "RETRIEVAL_BATCH_NOT_CANONICAL"
        detail := s!"batch {batchIndex} of invocation " ++
          s!"{invocation} served {count} " ++
          "result(s) that are not the canonical, duplicate-free request " ++
          "order; a batch that was not canonicalised cannot be compared " ++
          "with the tape row that describes it" }]
    let positions := batch.map fun row => row.get "request_index"
    let positionText := (Value.list positions).repr
    let order : List Finding := if positions.zipIdx.all fun e => e.1.equals (.int e.2) then []
      else [{
        code := "RETRIEVAL_BATCH_ORDER_BROKEN"
        detail := s!"a batch's results are indexed {positionText}, not contiguously from " ++
          "zero; a result nobody can place in its batch is a result nothing " ++
          "binds to a request" }]
    let instants ← Value.asSet (batch.map fun row => (row.get "as_of").counted)
    let instantCount := instants.length
    let instant : List Finding := if instantCount = 1 then [] else [{
      code := "RETRIEVAL_AS_OF_NOT_ONE_INSTANT"
      detail := s!"a batch's results state {instantCount} different instants; a " ++
        "batch is served atomically, so its results cannot disagree about " ++
        "when they were true" }]
    return canonical ++ order ++ instant

namespace GrammarState

/-- Before the first batch of an invocation. -/
def opening (invocation : Int) : GrammarState :=
  { invocation, batchesSeen := -1, currentBatch := [], invalidatedAt := none }

/-- The row is one more result of the batch that is open. -/
def continues (s : GrammarState) (row : Fields) : Bool :=
  s.currentBatch.head?.any fun first =>
    (row.get "batch_index").equals (first.get "batch_index")

/-- The row opens a batch, behind the one that was open. -/
def openBatch (s : GrammarState) (position : ℕ) (row : Fields) :
    Except PyError (GrammarState × List Finding) := do
  let closing ← closeBatch s.currentBatch
  let batchIndex := row.get "batch_index"
  let batchText := batchIndex.repr
  let due := s.batchesSeen + 1
  let numbering : List Finding := if batchIndex.integer? = some due then [] else [{
    code := "RETRIEVAL_TURN_ORDER_BROKEN"
    detail := s!"row {position} opens batch {batchText} where " ++
      s!"{due} was due; batches are numbered from zero " ++
      "within an invocation and a gap is a batch nobody recorded" }]
  return ({ s with
    batchesSeen := batchIndex.integer?.getD s.batchesSeen, currentBatch := [row] },
    closing ++ numbering)

/-- A served row joins the batch that is open, or opens one. -/
def placeServed (s : GrammarState) (position : ℕ) (row : Fields) :
    Except PyError (GrammarState × List Finding) :=
  if s.continues row then .ok ({ s with currentBatch := s.currentBatch ++ [row] }, [])
  else s.openBatch position row

def step (sha256 : Value → String) (position : ℕ) (s : GrammarState) (row : Fields) :
    Except PyError (GrammarState × List Finding) :=
  if typed "agent_invoked" row then do
    let closing ← closeBatch s.currentBatch
    let invocation := match row.get "invocation_index" with
      | .int i => i
      | _ => 0
    return (opening invocation, closing)
  else if typed "derived_context_invalidated" row then do
    let closing ← closeBatch s.currentBatch
    let causes := reprList invalidationCauses
    let order : List Finding := if among invalidationCauses (row.get "cause") then [] else [{
      code := "RETRIEVAL_INVALIDATION_ORDER_BROKEN"
      detail := s!"row {position} invalidates derived context for a reason this " ++
        "build does not have; the causes are " ++
        s!"{causes}" }]
    return ({ s with currentBatch := [], invalidatedAt := some position }, closing ++ order)
  else if typed "agent_outcome" row && s.invalidatedAt.isSome then
    .ok ({ s with invalidatedAt := none }, [])
  else if !typed "retrieval_served" row then .ok (s, [])
  else do
    let outside : List Finding := if s.invocation ≠ 0 then [] else [{
      code := "RETRIEVAL_SERVED_WITHOUT_A_BATCH"
      detail := s!"row {position} serves a result outside any invocation; a read is " ++
        "answered to an agent that was asked something" }]
    let initiators := reprList retrievalInitiators
    let initiator : List Finding := if among retrievalInitiators (row.get "initiated_by") then []
      else [{
        code := "RETRIEVAL_INITIATOR_UNKNOWN"
        detail := s!"row {position} attributes a read to an initiator this build has " ++
          s!"no path to produce; it produces {initiators}" }]
    let served := servedRowProblems sha256 position row
    let (t, opened) ← s.placeServed position row
    return ({ t with invalidatedAt := none }, outside ++ initiator ++ served ++ opened)

end GrammarState

/-- Hold the retrieval rows to the grammar the runtime writes them under. -/
def retrievalGrammarProblems (sha256 : Value → String) (trajectory : List Fields) :
    Except PyError (List Finding) := do
  let turns ← invocationAndTurnProblems trajectory
  let (s, found) ← Checker.run (GrammarState.step sha256) 0 (.opening 0) trajectory
  let closing ← closeBatch s.currentBatch
  return invalidationBindingProblems trajectory ++ turns ++ found ++ closing

end Batches

end Evaluator

end OperateBench.Maintenance
