import OperateBench.Foundation.Fallible
import OperateBench.Core.Value

/-! # Agent outcomes

What an agent returns is an object whose class is known and whose fields are not.
The outcome contract reads such an answer into one of five typed outcomes or says
why it cannot. A WAIT carries what its constructor checked: it declares a wake
condition or a fallback, and a fallback lies ahead.
-/

namespace OperateBench

open Foundation

/-- A constructed `Wait`, its fields as untyped as the constructor leaves them. -/
structure RawWait where
  reason : Value
  wakeOn : Value
  fallbackAfterMinutes : Value
  declares : wakeOn.truthy = true ∨ fallbackAfterMinutes ≠ .none
  positive : ∀ n, fallbackAfterMinutes = .int n → 0 < n

theorem fallback_declared (minutes : Int) :
    (Value.list []).truthy = true ∨ Value.int minutes ≠ Value.none :=
  Or.inr (by simp)

theorem fallback_positive {minutes : Int} (h : 0 < minutes) :
    ∀ n, Value.int minutes = Value.int n → 0 < n := by
  rintro n ⟨⟩
  exact h

/-- A member of a retrieval batch: a request object, or an object of another class. -/
inductive RawRequest where
  | request (tool arguments : Value)
  | other (typeName : String)

/-- What a batch carries as its requests. -/
inductive RawRequests where
  | sequence (items : List RawRequest)
  | other (typeName : String)

/-- An object that `decide` returned. -/
inductive Answer where
  | act (actionType payload evidenceRefs rationale : Value)
  | wait (wait : RawWait)
  | ask (recipientActorId messageFixtureId : Value) (wait : RawWait ⊕ Value)
      (correlationId : Value)
  | escalate (checkpointId exceptionType evidenceRefs deadlineAfterMinutes rationale : Value)
  | complete (reason evidenceRefs : Value)
  | retrieve (requests : RawRequests)
  | other (typeName : String)

structure Act where
  actionType : String
  payload : Fields
  evidenceRefs : List String
  rationale : String

structure Wait where
  reason : String
  wakeOn : List String
  fallbackAfterMinutes : Option Int
  declares : wakeOn ≠ [] ∨ fallbackAfterMinutes ≠ none
  positive : ∀ n ∈ fallbackAfterMinutes, 0 < n

structure Ask where
  recipientActorId : String
  messageFixtureId : String
  wait : Wait
  correlationId : Option String

structure Escalate where
  checkpointId : String
  exceptionType : String
  evidenceRefs : List String
  deadlineAfterMinutes : Int
  rationale : String
  positive : 0 < deadlineAfterMinutes

structure Complete where
  reason : String
  evidenceRefs : List String

inductive AgentOutcome where
  | act (act : Act)
  | wait (wait : Wait)
  | ask (ask : Ask)
  | escalate (escalate : Escalate)
  | complete (complete : Complete)

def malformedOutcomeCode : String := "MALFORMED_AGENT_OUTCOME"

/-- An answer that is not read: the contract names the problem, or naming it raises. -/
inductive Unreadable where
  | problem (detail : String)
  | raises (error : PyError)

namespace Contract

def problem {α : Type} (detail : String) : Except Unreadable α := .error (.problem detail)

/-- The `repr` of the offending value inside a problem's text. -/
def problemShowing {α : Type} (pre : String) (v : Value) : Except Unreadable α :=
  match v.reprText with
  | .ok text => problem (pre ++ text)
  | .error e => .error (.raises e)

def refItems (what : String) : ℕ → List Value → Except Unreadable (List String)
  | _, [] => .ok []
  | position, item :: items =>
    match item.asStr? with
    | some (ref) =>
      if ref = "" then
        problemShowing s!"{what}[{position}] must be a non-empty reference string, got " item
      else do
        let rest ← refItems what (position + 1) items
        return ref :: rest
    | none => problemShowing s!"{what}[{position}] must be a non-empty reference string, got " item

def refs (value : Value) (what : String) : Except Unreadable (List String) :=
  match value with
  | .list items | .tuple items => refItems what 0 items
  | _ => problem s!"{what} must be a sequence of reference strings, got {value.typeName}"

def text (value : Value) (what : String) : Except Unreadable String :=
  match value.asStr? with
  | some s => if s = "" then problem s!"{what} must be a non-empty string, got str" else .ok s
  | none => problem s!"{what} must be a non-empty string, got {value.typeName}"

def string (value : Value) (complaint : String) : Except Unreadable String :=
  match value.asStr? with
  | some s => .ok s
  | none => problem complaint

/-- The field names of a payload, each a non-empty string. -/
def payloadFields : List (Value × Value) → Except Unreadable (List (String × Value))
  | [] => .ok []
  | (key, value) :: entries =>
    match key.asStr? with
    | some name =>
      if name = "" then
        problem s!"ACT payload field name {key.repr} must be a non-empty string"
      else do
        let rest ← payloadFields entries
        return (name, value) :: rest
    | none =>
      match key.reprText with
      | .ok shown => problem s!"ACT payload field name {shown} must be a non-empty string"
      | .error e => .error (.raises e)

def payload : Value → Except Unreadable Fields
  | .dict entries => do
    let fields ← payloadFields entries
    return .ofList fields
  | value => problem s!"ACT payload must be a mapping, got {value.typeName}"

theorem refItems_length {what : String} {position : ℕ} {items : List Value} {ss : List String}
    (h : refItems what position items = .ok ss) : ss.length = items.length := by
  induction items generalizing position ss with
  | nil => obtain rfl := pure_ok h; rfl
  | cons item items ih =>
    rw [refItems] at h
    split at h
    · split at h
      · unfold problemShowing at h; split at h <;> cases h
      · obtain ⟨rest, hr, h⟩ := bind_ok h
        obtain rfl := pure_ok h
        rw [List.length_cons, List.length_cons, ih hr]
    · unfold problemShowing at h; split at h <;> cases h

theorem refs_ne_nil {value : Value} {what : String} {ss : List String}
    (h : refs value what = .ok ss) (ht : value.truthy = true) : ss ≠ [] := by
  rintro rfl
  unfold refs at h
  split at h
  · rw [List.eq_nil_of_length_eq_zero (refItems_length h).symm] at ht; cases ht
  · rw [List.eq_nil_of_length_eq_zero (refItems_length h).symm] at ht; cases ht
  · cases h

def fallback : Value → Except Unreadable (Option Int)
  | .none => .ok none
  | .int n => .ok (some n)
  | _ => problem "WAIT fallback_after_minutes must be a whole number of minutes or None"

theorem fallback_ok {value : Value} {minutes : Option Int} (h : fallback value = .ok minutes) :
    value = (minutes.map Value.int).getD .none := by
  unfold fallback at h
  split at h
  · obtain rfl := Except.ok.inj h; rfl
  · obtain rfl := Except.ok.inj h; rfl
  · cases h

def wait (raw : RawWait) : Except Unreadable Wait := do
  let reason ← string raw.reason "WAIT reason must be a string"
  match hw : refs raw.wakeOn "WAIT wake_on" with
  | .error e => .error e
  | .ok wakeOn =>
    match hf : fallback raw.fallbackAfterMinutes with
    | .error e => .error e
    | .ok minutes => .ok {
        reason, wakeOn
        fallbackAfterMinutes := minutes
        declares := by
          refine raw.declares.imp (refs_ne_nil hw) ?_
          rintro h rfl
          exact h (fallback_ok hf)
        positive := by
          rintro n rfl
          exact raw.positive n (fallback_ok hf) }

def askedWait : RawWait ⊕ Value → Except Unreadable Wait
  | .inl raw => wait raw
  | .inr value => problem s!"the wait it carries is a {value.typeName}, not a WAIT"

def correlation : Value → Except Unreadable (Option String)
  | .none => .ok none
  | value =>
    match value.asStr? with
    | some s =>
      if s = "" then problem "ASK correlation_id must be a non-empty string or None"
      else .ok (some s)
    | none => problem "ASK correlation_id must be a non-empty string or None"

def deadline (value : Value) : Except Unreadable {n : Int // 0 < n} :=
  match value with
  | .int n =>
    if h : 0 < n then .ok ⟨n, h⟩
    else problemShowing
      "ESCALATE deadline_after_minutes must be a positive whole number of minutes, got " value
  | _ => problemShowing
      "ESCALATE deadline_after_minutes must be a positive whole number of minutes, got " value

def guidance : String → String
  | "ModelNamedAnUnknownTool" => "Use a declared tool name, not an inner retrieval name."
  | "ModelToolArgumentsMalformed" =>
    "Check the selected tool's declared argument types and required " ++
      "fields. For act, evidence_refs must be an array of non-empty " ++
      "strings, not an object; payload must be an object. For retrieve, " ++
      "requests must be an array of objects, each naming a tool and " ++
      "optionally its arguments object."
  | _ => "Return one structured decision with all required fields."

end Contract

/-- The outcome contract, with the answer it accepts read into its typed form. -/
def outcomeContract : Answer → Except Unreadable AgentOutcome
  | .act actionType payload evidenceRefs rationale => do
    let actionType ← Contract.text actionType "ACT action_type"
    let payload ← Contract.payload payload
    let evidenceRefs ← Contract.refs evidenceRefs "ACT evidence_refs"
    let rationale ← Contract.string rationale "ACT rationale must be a string"
    return .act ⟨actionType, payload, evidenceRefs, rationale⟩
  | .wait raw => do
    let wait ← Contract.wait raw
    return .wait wait
  | .ask recipientActorId messageFixtureId wait correlationId => do
    let recipientActorId ← Contract.text recipientActorId "ASK recipient_actor_id"
    let messageFixtureId ← Contract.text messageFixtureId "ASK message_fixture_id"
    let correlationId ← Contract.correlation correlationId
    let wait ← Contract.askedWait wait
    return .ask ⟨recipientActorId, messageFixtureId, wait, correlationId⟩
  | .escalate checkpointId exceptionType evidenceRefs deadlineAfterMinutes rationale => do
    let checkpointId ← Contract.text checkpointId "ESCALATE checkpoint_id"
    let exceptionType ← Contract.text exceptionType "ESCALATE exception_type"
    let evidenceRefs ← Contract.refs evidenceRefs "ESCALATE evidence_refs"
    let deadline ← Contract.deadline deadlineAfterMinutes
    let rationale ← Contract.string rationale "ESCALATE rationale must be a string"
    return .escalate ⟨checkpointId, exceptionType, evidenceRefs, deadline.1, rationale, deadline.2⟩
  | .complete reason evidenceRefs => do
    let reason ← Contract.string reason "COMPLETE reason must be a string"
    let evidenceRefs ← Contract.refs evidenceRefs "COMPLETE evidence_refs"
    return .complete ⟨reason, evidenceRefs⟩
  | .retrieve _ => Contract.problem (notOne "RetrieveBatch")
  | .other typeName => Contract.problem (notOne typeName)
where
  notOne (name : String) : String :=
    "an agent must return exactly one decision using " ++
      reprList ["act", "wait", "ask", "escalate", "complete", "retrieve"] ++
      s!", got {name}. {Contract.guidance name}"

namespace Wait

def asDict (wait : Wait) : Value := .ofFields
  [("kind", .str "WAIT"), ("reason", .str wait.reason), ("wake_on", .ofTexts wait.wakeOn),
    ("fallback_after_minutes", (wait.fallbackAfterMinutes.map Value.int).getD .none)]

end Wait

/-- The projection of an outcome that the ledger records. -/
def outcomeAsDict : AgentOutcome → Value
  | .act act => .ofFields
    [("kind", .str "ACT"), ("action_type", .str act.actionType), ("payload", act.payload.asDict),
      ("evidence_refs", .ofTexts act.evidenceRefs), ("rationale", .str act.rationale)]
  | .wait wait => wait.asDict
  | .ask ask => .ofFields
    [("kind", .str "ASK"), ("recipient_actor_id", .str ask.recipientActorId),
      ("message_fixture_id", .str ask.messageFixtureId),
      ("correlation_id", .ofText? ask.correlationId), ("wait", ask.wait.asDict)]
  | .escalate escalate => .ofFields
    [("kind", .str "ESCALATE"), ("checkpoint_id", .str escalate.checkpointId),
      ("exception_type", .str escalate.exceptionType),
      ("evidence_refs", .ofTexts escalate.evidenceRefs),
      ("deadline_after_minutes", .int escalate.deadlineAfterMinutes),
      ("rationale", .str escalate.rationale)]
  | .complete complete => .ofFields
    [("kind", .str "COMPLETE"), ("reason", .str complete.reason),
      ("evidence_refs", .ofTexts complete.evidenceRefs)]

end OperateBench
