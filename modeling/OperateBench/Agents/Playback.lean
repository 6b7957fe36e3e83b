import OperateBench.Agents.ToolCalls

/-! # The record of a decision

The durable projection of what an agent returned, its passage through a JSON text, and the object
that is rebuilt from it.
-/

namespace OperateBench.Agents

open Foundation

/-- What leaves the functions of a tape: a record that this build does not write, or another
exception by its class. -/
inductive PlaybackError
  | notShaped (kind : Value) (typeName : String)
  | unknownKind (kind : Value)
  | unknownCode (code : String)
  | raised (typeName : String)

section Language

/-- `dict(value)` of a mapping, or of an empty sequence. A sequence of pairs is not modelled. -/
def dictOf : Value → Except PlaybackError (List (Value × Value))
  | .dict entries => .ok entries
  | .list [] | .tuple [] | .str "" => .ok []
  | _ => .error (.raised "TypeError")

/-- `list(value)` -/
def listOf : Value → Except PlaybackError (List Value)
  | .list items | .tuple items => .ok items
  | .dict entries => .ok (entries.map Prod.fst)
  | .str text => .ok (text.toList.map fun c => .str (String.singleton c))
  | _ => .error (.raised "TypeError")

/-- The text of a key in a JSON object. -/
def keyText : Value → Except PlaybackError String
  | .str text => .ok text
  | .int n => if (Value.int n).renderable then .ok (toString n) else .error (.raised "ValueError")
  | .float "nan" => .ok "NaN"
  | .float "inf" => .ok "Infinity"
  | .float "-inf" => .ok "-Infinity"
  | .float text => .ok text
  | .bool b => .ok (if b then "true" else "false")
  | .none => .ok "null"
  | _ => .error (.raised "TypeError")

mutual

/-- `json.loads(json.dumps(value))`: a tuple comes back as a list, a key as a text, and of two keys
with one text the last. -/
def jsonRoundTrip : Value → Except PlaybackError Value
  | .list items | .tuple items => .list <$> itemsRoundTrip items
  | .dict entries => do
    let members ← entriesRoundTrip entries
    return .ofFields (Dict.ofList members).entries
  | .int n => if (Value.int n).renderable then .ok (.int n) else .error (.raised "ValueError")
  | .other _ => .error (.raised "TypeError")
  | value => .ok value

def itemsRoundTrip : List Value → Except PlaybackError (List Value)
  | [] => .ok []
  | value :: values => do
    let first ← jsonRoundTrip value
    let rest ← itemsRoundTrip values
    return first :: rest

def entriesRoundTrip : List (Value × Value) → Except PlaybackError (List (String × Value))
  | [] => .ok []
  | (key, value) :: entries => do
    let name ← keyText key
    let first ← jsonRoundTrip value
    let rest ← entriesRoundTrip entries
    return (name, first) :: rest

end

end Language

section Recording

def malformedRecord (code : String) : Value :=
  .ofFields [("kind", .str "MALFORMED"), ("code", .str code)]

def waitRecord (raw : RawWait) : Except PlaybackError Value := do
  let wakeOn ← listOf raw.wakeOn
  return .ofFields [("kind", .str "WAIT"), ("reason", raw.reason), ("wake_on", .list wakeOn),
    ("fallback_after_minutes", raw.fallbackAfterMinutes)]

def requestRecord : RawRequest → Except PlaybackError Value
  | .request tool arguments => do
    let entries ← dictOf arguments
    return .ofFields [("tool", tool), ("arguments", .dict entries)]
  | .other _ => .error (.raised "AttributeError")

def tapeRequests : RawRequests → Except PlaybackError (List Value)
  | .sequence items => items.mapM requestRecord
  | .other _ => .error (.raised "TypeError")

/-- The durable projection of whatever the agent returned. -/
def decisionRecord : Decision → Except PlaybackError Value
  | .malformed outcome => .ok (malformedRecord outcome.classification.code)
  | .answer (.retrieve requests) => do
    let requests ← tapeRequests requests
    return .ofFields [("kind", .str "RETRIEVE"), ("requests", .list requests)]
  | .answer (.act actionType payload evidenceRefs rationale) => do
    let payload ← dictOf payload
    let evidenceRefs ← listOf evidenceRefs
    return .ofFields [("kind", .str "ACT"), ("action_type", actionType),
      ("payload", .dict payload), ("evidence_refs", .list evidenceRefs), ("rationale", rationale)]
  | .answer (.wait raw) => waitRecord raw
  | .answer (.ask recipientActorId messageFixtureId (.inl raw) correlationId) => do
    let wait ← waitRecord raw
    return .ofFields [("kind", .str "ASK"), ("recipient_actor_id", recipientActorId),
      ("message_fixture_id", messageFixtureId), ("correlation_id", correlationId), ("wait", wait)]
  | .answer (.ask _ _ (.inr _) _) => .error (.raised "AttributeError")
  | .answer (.escalate checkpointId exceptionType evidenceRefs deadlineAfterMinutes rationale) => do
    let evidenceRefs ← listOf evidenceRefs
    return .ofFields [("kind", .str "ESCALATE"), ("checkpoint_id", checkpointId),
      ("exception_type", exceptionType), ("evidence_refs", .list evidenceRefs),
      ("deadline_after_minutes", deadlineAfterMinutes), ("rationale", rationale)]
  | .answer (.complete reason evidenceRefs) => do
    let evidenceRefs ← listOf evidenceRefs
    return .ofFields [("kind", .str "COMPLETE"), ("reason", reason),
      ("evidence_refs", .list evidenceRefs)]
  | .answer (.other _) => .ok (malformedRecord Classification.unclassified.code)

end Recording

section Rebuilding

/-- `record[name]` -/
def item (record : List (Value × Value)) (name : String) : Except PlaybackError Value :=
  match item? record name with
  | some value => .ok value
  | none => .error (.raised "KeyError")

/-- `record[name]` of a value that may be no mapping. -/
def itemOf (record : Value) (name : String) : Except PlaybackError Value :=
  match record with
  | .dict entries => item entries name
  | _ => .error (.raised "TypeError")

/-- A missing field or one of another type becomes a refusal of the record. -/
def shaped {α : Type} (kind : Value) : Except PlaybackError α → Except PlaybackError α
  | .error (.raised "KeyError") => .error (.notShaped kind "KeyError")
  | .error (.raised "TypeError") => .error (.notShaped kind "TypeError")
  | result => result

def constructed {α : Type} : Except Refusal α → Except PlaybackError α
  | .ok a => .ok a
  | .error (.operateBench typeName) => .error (.raised typeName)
  | .error (.language typeName) => .error (.raised typeName)

def tupleOf (value : Value) : Except PlaybackError Value := .tuple <$> listOf value

def waitFrom (record : Value) : Except PlaybackError RawWait := do
  let reason ← itemOf record "reason"
  let wakeOn ← itemOf record "wake_on"
  let wakeOn ← tupleOf wakeOn
  let fallback ← itemOf record "fallback_after_minutes"
  constructed (Construct.wait reason wakeOn fallback)

def requestFrom (entry : Value) : Except PlaybackError RawRequest := do
  let tool ← itemOf entry "tool"
  match entry with
  | .dict entries =>
    let given := entryOr entries "arguments" .none
    let arguments ← dictOf (if given.truthy then given else .dict [])
    return .request tool (.dict arguments)
  | _ => .error (.raised "TypeError")

def batchFrom (record : List (Value × Value)) : Except PlaybackError Answer := do
  let requests ← item record "requests"
  let entries ← listOf requests
  let requests ← entries.mapM requestFrom
  return .retrieve (.sequence requests)

def actFrom (record : List (Value × Value)) : Except PlaybackError Answer := do
  let actionType ← item record "action_type"
  let payload ← item record "payload"
  let evidenceRefs ← item record "evidence_refs"
  let evidenceRefs ← tupleOf evidenceRefs
  let rationale ← item record "rationale"
  constructed (Construct.act actionType payload evidenceRefs rationale)

def askFrom (record : List (Value × Value)) : Except PlaybackError Answer := do
  let recipientActorId ← item record "recipient_actor_id"
  let messageFixtureId ← item record "message_fixture_id"
  let wait ← item record "wait"
  let wait ← waitFrom wait
  let correlationId ← item record "correlation_id"
  constructed (Construct.ask recipientActorId messageFixtureId wait correlationId)

def escalateFrom (record : List (Value × Value)) : Except PlaybackError Answer := do
  let checkpointId ← item record "checkpoint_id"
  let exceptionType ← item record "exception_type"
  let evidenceRefs ← item record "evidence_refs"
  let evidenceRefs ← tupleOf evidenceRefs
  let deadlineAfterMinutes ← item record "deadline_after_minutes"
  let rationale ← item record "rationale"
  constructed (Construct.escalate checkpointId exceptionType evidenceRefs deadlineAfterMinutes
    rationale)

def completeFrom (record : List (Value × Value)) : Except PlaybackError Answer := do
  let reason ← item record "reason"
  let evidenceRefs ← item record "evidence_refs"
  let evidenceRefs ← tupleOf evidenceRefs
  return .complete reason evidenceRefs

/-- Rebuild a classification from its stable code. -/
def classificationFrom (code : String) : Except PlaybackError MalformedModelOutcome :=
  match Classification.classifications.find? fun c => c.code == code with
  | some c => .ok ⟨c, ""⟩
  | none => .error (.unknownCode code)

/-- Rebuild one decision from its recorded projection. -/
def outcomeFromRecord (record : List (Value × Value)) : Except PlaybackError Decision :=
  let kind := entryOr record "kind" .none
  if kind.isStr "RETRIEVE" then .answer <$> shaped kind (batchFrom record)
  else if kind.isStr "MALFORMED" then
    let code := entryOr record "code" .none
    if code.isStr Classification.unclassified.code then .ok (.malformed ⟨.unclassified, ""⟩)
    else .malformed <$> classificationFrom code.text
  else if kind.isStr "ACT" then .answer <$> shaped kind (actFrom record)
  else if kind.isStr "WAIT" then
    (fun raw => .answer (.wait raw)) <$> shaped kind (waitFrom (.dict record))
  else if kind.isStr "ASK" then .answer <$> shaped kind (askFrom record)
  else if kind.isStr "ESCALATE" then .answer <$> shaped kind (escalateFrom record)
  else if kind.isStr "COMPLETE" then .answer <$> shaped kind (completeFrom record)
  else .error (.unknownKind kind)

end Rebuilding

end OperateBench.Agents
