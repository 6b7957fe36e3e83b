import OperateBench.Core.Retrieval

/-! # Tool calls

One structured call of a model is parsed into one answer, or into a named classification. The
names of its arguments are checked first, then the classes of answers are constructed, and what
is not a retrieval is held to the outcome contract.
-/

namespace OperateBench.Agents

open Foundation

/-- What a model asked for, as untyped as a provider sends it. -/
structure ToolCall where
  name : Value
  arguments : Value

section Classifications

/-- The classes of model responses that are not decisions. -/
inductive Classification
  | unclassified
  | returnedNoToolCall
  | returnedMultipleToolCalls
  | outputTruncated
  | exceededOutputLimit
  | namedAnUnknownTool
  | toolArgumentsMalformed
deriving DecidableEq

namespace Classification

def code : Classification → String
  | unclassified => "MODEL_OUTPUT_UNCLASSIFIED"
  | returnedNoToolCall => "MODEL_NO_TOOL_CALL"
  | returnedMultipleToolCalls => "MODEL_MULTIPLE_TOOL_CALLS"
  | outputTruncated => "MODEL_OUTPUT_TRUNCATED"
  | exceededOutputLimit => "MODEL_OUTPUT_LIMIT_EXCEEDED"
  | namedAnUnknownTool => "MODEL_UNKNOWN_TOOL"
  | toolArgumentsMalformed => "MODEL_MALFORMED_ARGUMENTS"

/-- The classifications that a code is looked up among. -/
def classifications : List Classification :=
  [returnedNoToolCall, returnedMultipleToolCalls, outputTruncated, exceededOutputLimit,
    namedAnUnknownTool, toolArgumentsMalformed]

end Classification

structure MalformedModelOutcome where
  classification : Classification
  detail : String

end Classifications

/-- What an agent of a model decides: an answer, or a classification. -/
inductive Decision
  | answer (answer : Answer)
  | malformed (outcome : MalformedModelOutcome)

section Fields

inductive Tool
  | act
  | wait
  | ask
  | escalate
  | complete
  | retrieve
deriving DecidableEq

namespace Tool

def name : Tool → String
  | act => "act"
  | wait => "wait"
  | ask => "ask"
  | escalate => "escalate"
  | complete => "complete"
  | retrieve => "retrieve"

def agentTools : List Tool := [act, wait, ask, escalate, complete, retrieve]

/-- The tool that a text names. -/
def named (text : String) : Option Tool := agentTools.find? fun tool => tool.name == text

def requiredFieldNames : Tool → List String
  | act => ["action_type"]
  | wait => ["reason"]
  | ask => ["recipient_actor_id", "message_fixture_id", "wait"]
  | escalate => ["checkpoint_id", "exception_type"]
  | complete => []
  | retrieve => ["requests"]

def optionalFieldNames : Tool → List String
  | act => ["payload", "evidence_refs", "rationale"]
  | wait => ["wake_on", "fallback_after_minutes"]
  | ask => ["correlation_id"]
  | escalate => ["evidence_refs", "deadline_after_minutes", "rationale"]
  | complete => ["reason", "evidence_refs"]
  | retrieve => []

end Tool

/-- `mapping.get(name)`, where the name is present. -/
def item? (entries : List (Value × Value)) (name : String) : Option Value :=
  (entries.find? fun e => e.1.isStr name).map Prod.snd

/-- `mapping.get(name, default)` -/
def entryOr (entries : List (Value × Value)) (name : String) (default : Value) : Value :=
  (item? entries name).getD default

/-- Missing and unknown argument names. -/
def argumentNamesProblem (tool : Tool) (entries : List (Value × Value)) : Option String :=
  let missing := sortTexts (tool.requiredFieldNames.filter fun name => (item? entries name).isNone)
  let known := tool.requiredFieldNames ++ tool.optionalFieldNames
  let unknown := (entries.filter fun e => !known.any e.1.isStr).length
  if missing ≠ [] then some s!"the {pyRepr tool.name} arguments are missing {reprList missing}"
  else if unknown ≠ 0 then
    some (s!"the {pyRepr tool.name} arguments carry {unknown} field(s) this build does not " ++
      s!"accept; it accepts {reprList (sortedSet known)}")
  else none

end Fields

section Construction

/-- An exception that the parser classifies: one of this build's, or one of the language's. -/
inductive Refusal
  | operateBench (typeName : String)
  | language (typeName : String)

def outcomeError : Refusal := .operateBench "OutcomeError"

def waitContractError : Refusal := .operateBench "WaitContractError"

namespace Construct

/-- The fallback of a wait is absent or ahead. A text has no order with zero, and a refusal shows
the fallback. -/
def checkFallback (fallback : Value) : Except Refusal Unit :=
  match fallback with
  | .none => .ok ()
  | .int n =>
    if 0 < n then .ok ()
    else if fallback.renderable then .error waitContractError
    else .error (.language "ValueError")
  | .bool b => if b then .ok () else .error waitContractError
  | .float text =>
    if text = "0.0" ∨ text.toList.head? = some '-' then .error waitContractError else .ok ()
  | _ => .error (.language "TypeError")

theorem checkFallback_positive {fallback : Value} (h : checkFallback fallback = .ok ()) :
    ∀ n, fallback = .int n → 0 < n := by
  rintro n rfl
  by_contra hn
  simp only [checkFallback, if_neg hn] at h
  split at h <;> cases h

theorem ne_none {v : Value} (h : v.isNone = false) : v ≠ .none := by
  rintro rfl
  cases h

def wait (reason wakeOn fallbackAfterMinutes : Value) : Except Refusal RawWait :=
  if hd : wakeOn.truthy = true ∨ fallbackAfterMinutes.isNone = false then
    match hf : checkFallback fallbackAfterMinutes with
    | .ok () => .ok ⟨reason, wakeOn, fallbackAfterMinutes, hd.imp id ne_none,
        checkFallback_positive hf⟩
    | .error e => .error e
  else .error waitContractError

def act (actionType payload evidenceRefs rationale : Value) : Except Refusal Answer :=
  if actionType.truthy then .ok (.act actionType payload evidenceRefs rationale)
  else .error outcomeError

def ask (recipientActorId messageFixtureId : Value) (wait : RawWait) (correlationId : Value) :
    Except Refusal Answer :=
  if recipientActorId.truthy then
    .ok (.ask recipientActorId messageFixtureId (.inl wait) correlationId)
  else .error outcomeError

def escalate (checkpointId exceptionType evidenceRefs deadlineAfterMinutes rationale : Value) :
    Except Refusal Answer :=
  if checkpointId.truthy && exceptionType.truthy then
    .ok (.escalate checkpointId exceptionType evidenceRefs deadlineAfterMinutes rationale)
  else .error outcomeError

end Construct

end Construction

section Parser

def malformedArguments (detail : String) : Decision :=
  .malformed ⟨.toolArgumentsMalformed, detail⟩

/-- An array becomes a tuple; anything else is handed on to be refused. -/
def refs : Value → Value
  | .list items => .tuple items
  | value => value

def waitOf (entries : List (Value × Value)) : Except Refusal RawWait :=
  Construct.wait (entryOr entries "reason" .none) (refs (entryOr entries "wake_on" (.tuple [])))
    (entryOr entries "fallback_after_minutes" .none)

/-- One member of the requests: a tool, and its arguments where it states any. -/
def requestOf (position : ℕ) : Value → Except String RawRequest
  | .dict entries =>
    let unknown := (entries.filter fun e => !(["tool", "arguments"].any e.1.isStr)).length
    match unknown, item? entries "tool" with
    | 0, some tool =>
      match tool.asStr? with
      | none | some "" => .error
        s!"retrieve request {position} names a tool that is not a non-empty string"
      | some _ =>
        match entryOr entries "arguments" .none with
        | .none => .ok (.request tool (.dict []))
        | .dict given => .ok (.request tool (.dict given))
        | given => .error (s!"retrieve request {position} carries arguments that are a " ++
            s!"{given.typeName}, not an object")
    | _, _ => .error (s!"retrieve request {position} states {entries.length} field(s); a " ++
        "request names a tool and, optionally, that tool's arguments")
  | value => .error s!"retrieve request {position} is a {value.typeName}, not an object"

def requestsOf : ℕ → List Value → Except String (List RawRequest)
  | _, [] => .ok []
  | position, value :: values => do
    let request ← requestOf position value
    let rest ← requestsOf (position + 1) values
    return request :: rest

def retrieve (entries : List (Value × Value)) : Decision :=
  match entryOr entries "requests" .none with
  | .list values =>
    match requestsOf 0 values with
    | .ok requests => .answer (.retrieve (.sequence requests))
    | .error detail => malformedArguments detail
  | value => malformedArguments s!"the retrieve requests are a {value.typeName}, not an array"

/-- Build the answer that the tool stands for out of its arguments. -/
def build (tool : Tool) (entries : List (Value × Value)) : Except Refusal Decision :=
  match tool with
  | .retrieve => .ok (retrieve entries)
  | .act => .answer <$> Construct.act (entryOr entries "action_type" .none)
      (entryOr entries "payload" (.dict []))
      (refs (entryOr entries "evidence_refs" (.tuple []))) (entryOr entries "rationale" (.str ""))
  | .wait => (fun raw => .answer (.wait raw)) <$> waitOf entries
  | .ask =>
    match entryOr entries "wait" .none with
    | .dict nested =>
      match argumentNamesProblem .wait nested with
      | some problem => .ok (malformedArguments problem)
      | none => do
        let raw ← waitOf nested
        .answer <$> Construct.ask (entryOr entries "recipient_actor_id" .none)
          (entryOr entries "message_fixture_id" .none) raw (entryOr entries "correlation_id" .none)
    | value => .ok (malformedArguments s!"the ASK wait is a {value.typeName}, not a mapping")
  | .escalate => .answer <$> Construct.escalate (entryOr entries "checkpoint_id" .none)
      (entryOr entries "exception_type" .none)
      (refs (entryOr entries "evidence_refs" (.tuple [])))
      (entryOr entries "deadline_after_minutes" (.int 1440)) (entryOr entries "rationale" (.str ""))
  | .complete => .ok (.answer (.complete (entryOr entries "reason" (.str ""))
      (refs (entryOr entries "evidence_refs" (.tuple [])))))

/-- What was built, held to the contract that the engine holds it to. A retrieval is no outcome. -/
def contracted (tool : Tool) : Decision → Except PyError Decision
  | .answer (.retrieve requests) => .ok (.answer (.retrieve requests))
  | .answer answer =>
    match outcomeContract answer with
    | .ok _ => .ok (.answer answer)
    | .error (.problem detail) => .ok (malformedArguments (s!"the {pyRepr tool.name} arguments " ++
        s!"build an outcome the contract refuses: {detail}"))
    | .error (.raises e) => .error e
  | .malformed outcome => .ok (.malformed outcome)

def parseToolCall (call : ToolCall) : Except PyError Decision :=
  match call.name.asStr?.bind Tool.named with
  | none =>
    let length : ℤ := (call.name.asStr?.map fun text => (text.length : ℤ)).getD (-1)
    .ok (.malformed ⟨.namedAnUnknownTool, s!"the response named a structured outcome of " ++
      s!"{length} character(s) that is not one of {reprList (Tool.agentTools.map Tool.name)}"⟩)
  | some tool =>
    match call.arguments with
    | .dict entries =>
      match argumentNamesProblem tool entries with
      | some problem => .ok (malformedArguments problem)
      | none =>
        match build tool entries with
        | .ok built => contracted tool built
        | .error (.operateBench typeName) => .ok (malformedArguments
            (s!"the {pyRepr tool.name} arguments do not satisfy the outcome contract " ++
              s!"({typeName})"))
        | .error (.language typeName) => .ok (malformedArguments
            (s!"the {pyRepr tool.name} arguments could not be read as an outcome ({typeName})"))
    | arguments => .ok (malformedArguments
        s!"the {pyRepr tool.name} arguments are a {arguments.typeName}, not a mapping")

end Parser

end OperateBench.Agents
