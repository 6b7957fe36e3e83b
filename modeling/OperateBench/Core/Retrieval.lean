import OperateBench.Core.Outcomes

/-! # Retrieval batches

A batch asks for one to eight reads of the published catalogue. The batch contract
refuses a batch by name, its checks in a fixed order, or reads it into requests whose
canonical form is sorted by tool with duplicates collapsed.
-/

namespace OperateBench

open Foundation

namespace Authority

def actorClaim : String := "actor_claim"

def authoritativeVerification : String := "authoritative_verification"

def communication : String := "communication"

def systemEvent : String := "system_event"

def systemOfRecord : String := "system_of_record"

end Authority

def minRequestsPerBatch : ℕ := 1

def maxRequestsPerBatch : ℕ := 8

inductive InvalidationCause where
  | effectAccepted
  | wake
  deriving DecidableEq

def InvalidationCause.text : InvalidationCause → String
  | effectAccepted => "effect_accepted"
  | wake => "wake"

structure CatalogueEntry where
  source : String
  authority : String
  schemaId : String
  arguments : Dict String String

def CatalogueEntry.asDict (entry : CatalogueEntry) : Value := .ofFields
  [("source", .str entry.source), ("authority", .str entry.authority),
    ("schema_id", .str entry.schemaId),
    ("arguments", .ofFields (entry.arguments.entries.map fun e => (e.1, .str e.2)))]

abbrev Catalogue := Dict String CatalogueEntry

structure RetrievalRequest where
  tool : String
  arguments : Fields

structure ToolResult where
  tool : String
  source : String
  authority : String
  recordId : String
  recordVersion : String
  asOf : String
  schemaId : String
  records : Fields
  ok : Bool
  errorCode : Option String

def ToolResult.asDict (result : ToolResult) : Value := .ofFields
  [("tool", .str result.tool), ("source", .str result.source),
    ("authority", .str result.authority), ("record_id", .str result.recordId),
    ("record_version", .str result.recordVersion), ("as_of", .str result.asOf),
    ("schema_id", .str result.schemaId), ("records", result.records.asDict),
    ("ok", .bool result.ok), ("error_code", .ofText? result.errorCode)]

/-- A batch that is not served: it is refused by name, or naming the refusal raises. -/
inductive Unserved where
  | refused (code detail : String)
  | raises (error : PyError)

namespace Batch

def malformed {α : Type} (detail : String) : Except Unserved α :=
  .error (.refused "MALFORMED_RETRIEVAL_REQUEST" detail)

def argumentNames : List (Value × Value) → Option (List (String × Value))
  | [] => some []
  | (key, value) :: entries =>
    match key.asStr? with
    | some name => if name = "" then none else (argumentNames entries).map ((name, value) :: ·)
    | none => none

/-- Read one member of the batch as a request. -/
def readRequest (position : ℕ) : RawRequest → Except Unserved RetrievalRequest
  | .other typeName => malformed
    s!"request {position}: a retrieval request must be a RetrievalRequest, got {typeName}"
  | .request tool arguments =>
    match tool.asStr? with
    | none => malformed s!"request {position}: a retrieval request must name a non-empty tool"
    | some name =>
      if name = "" then
        malformed s!"request {position}: a retrieval request must name a non-empty tool"
      else match arguments with
        | .dict entries =>
          match argumentNames entries with
          | some fields => .ok ⟨name, .ofList fields⟩
          | none => malformed
            s!"request {position}: a retrieval argument name must be a non-empty string"
        | _ => malformed (s!"request {position}: a retrieval request's arguments must be a " ++
            s!"mapping, got {arguments.typeName}")

def readRequests : ℕ → List RawRequest → Except Unserved (List RetrievalRequest)
  | _, [] => .ok []
  | position, raw :: raws => do
    let request ← readRequest position raw
    let rest ← readRequests (position + 1) raws
    return request :: rest

abbrev ArgumentKey := List (String × String)

def shownArguments : List (String × Value) → Except Unserved ArgumentKey
  | [] => .ok []
  | (name, value) :: fields =>
    match value.reprText with
    | .error e => .error (.raises e)
    | .ok shown => do
      let rest ← shownArguments fields
      return (name, shown) :: rest

/-- The identity of a request's arguments: their names and shown values, by name. -/
def argumentKey (request : RetrievalRequest) : Except Unserved ArgumentKey := do
  let shown ← shownArguments request.arguments.entries
  return shown.insertionSort fun a b => a.1 ≤ b.1

def withArgumentKeys :
    List RetrievalRequest → Except Unserved (List (RetrievalRequest × ArgumentKey))
  | [] => .ok []
  | request :: requests => do
    let key ← argumentKey request
    let rest ← withArgumentKeys requests
    return (request, key) :: rest

def distinctQuestions (keyed : List (RetrievalRequest × ArgumentKey)) : ℕ :=
  (keyed.map fun r => (r.1.tool, r.2)).dedup.length

def conflicting (keyed : List (RetrievalRequest × ArgumentKey)) (catalogue : Catalogue) :
    List String :=
  sortedSet <| (keyed.filter fun r =>
    catalogue.contains r.1.tool &&
      keyed.any fun o => o.1.tool == r.1.tool && o.2 != r.2).map fun r => r.1.tool

def unknownTools (requests : List RetrievalRequest) (catalogue : Catalogue) : ℕ :=
  ((requests.map RetrievalRequest.tool).dedup.filter fun tool => !catalogue.contains tool).length

/-- The arguments of a request that the catalogue does not publish for its tool. -/
def invented (request : RetrievalRequest) (entry : CatalogueEntry) : List String :=
  sortTexts (request.arguments.keys.filter fun name => !entry.arguments.contains name)

def checkArguments (catalogue : Catalogue) : List RetrievalRequest → Except Unserved Unit
  | [] => .ok ()
  | request :: requests =>
    match catalogue.get? request.tool with
    | none => .error (.raises (.key request.tool))
    | some entry =>
      if invented request entry ≠ [] then
        malformed (s!"the {pyRepr request.tool} request carries argument name(s) " ++
          s!"{reprList (invented request entry)} the catalogue does not publish; it publishes " ++
          reprList (sortTexts entry.arguments.keys))
      else checkArguments catalogue requests

end Batch

/-- The batch contract, with the batch it accepts read into its requests. -/
def retrievalBatchProblem (requests : RawRequests) (catalogue : Catalogue)
    (batchBudgetRemaining : Int) : Except Unserved (List RetrievalRequest) :=
  match requests with
  | .other typeName => Batch.malformed
    s!"a retrieval batch carries a sequence of requests, got {typeName}"
  | .sequence items => do
    let requests ← Batch.readRequests 0 items
    if requests.length < minRequestsPerBatch then
      .error (.refused "EMPTY_RETRIEVAL_BATCH" ("a retrieval batch carries at least one " ++
        "request; an empty one asks the environment for nothing and would be a turn spent on " ++
        "silence"))
    else do
    let keyed ← Batch.withArgumentKeys requests
    let distinct := Batch.distinctQuestions keyed
    if maxRequestsPerBatch < distinct then
      .error (.refused "RETRIEVAL_BATCH_TOO_LARGE" ("a retrieval batch carries at most " ++
        s!"{maxRequestsPerBatch} distinct requests and this one carries {distinct}"))
    else if Batch.conflicting keyed catalogue ≠ [] then
      .error (.refused "CONFLICTING_RETRIEVAL_ARGUMENTS" ("the batch names " ++
        s!"{reprList (Batch.conflicting keyed catalogue)} more than once with different " ++
        "arguments; a duplicate collapses, but two argument sets under one tool name are two " ++
        "questions and the environment does not choose between them"))
    else if 0 < Batch.unknownTools requests catalogue then
      .error (.refused "UNKNOWN_RETRIEVAL_TOOL" ("the batch names " ++
        s!"{Batch.unknownTools requests catalogue} tool(s) outside the published catalogue; it " ++
        s!"publishes {reprList (sortTexts catalogue.keys)}"))
    else do
    Batch.checkArguments catalogue requests
    if batchBudgetRemaining ≤ 0 then
      .error (.refused "RETRIEVAL_BUDGET_EXHAUSTED" ("the retrieval batch budget for this " ++
        "invocation is spent; the bound is published on every observation and this is a " ++
        "refusal rather than a silently truncated read"))
    else return requests

/-- The first request of each tool, sorted by tool. -/
def canonicalRequests (requests : List RetrievalRequest) : List RetrievalRequest :=
  let first := requests.foldl (fun seen r =>
    if seen.contains r.tool then seen else seen.set r.tool r) (Dict.empty : Dict String _)
  (sortTexts first.keys).filterMap first.get?

end OperateBench
