import OperateBench.Cubes.Environment
import OperateBench.Cubes.Solvers

/-! # The released fake

An in-process agent that applies the policy it was shown. It sees one turn request at a time,
and works out from the transcript how far it has got. Its calls are dispatched to the
environment until one of them decides the case.
-/

namespace OperateBench.Cubes

open Foundation

section Requests

/-- An observation as the agent sees it. -/
structure ObservedFact where
  observationId : String
  source : Source
  key : String
  fact : FactValues

structure TranscriptEntry where
  action : String
  arguments : Arguments

/-- An action on offer, with the keys that its `fact` argument may name. -/
structure ActionSchema where
  name : String
  facts : Option (List String)

structure TurnRequest where
  actions : List ActionSchema
  observations : List ObservedFact
  transcript : List TranscriptEntry

def TurnRequest.availableActions (request : TurnRequest) : List String :=
  request.actions.map ActionSchema.name

/-- One call, as an adapter answers it. -/
structure AdapterCall where
  action : String
  arguments : Arguments

/-- Why an episode of the fake ends without a decision. -/
inductive EpisodeFailure where
  | nothingToAsk (action : String)
  | incomparable (fact : String)
  | malformed
  | wrongChannel (action fact expected : String)
  | refused (refusal : Refusal)

/-- The keys that may be asked on the channel, in the order of the registry. -/
def QueryRegistry.affordances (registry : QueryRegistry) (channel : Channel) : List String :=
  (registry.entries.filter fun entry => entry.action = channel).map QueryEntry.queryKey

/-- A channel is offered with the keys that it takes, and not at all without any. -/
def projectAction (registry : QueryRegistry) (name : String) :
    Except EpisodeFailure ActionSchema :=
  match Channel.ofAction? name with
  | none => .ok ⟨name, none⟩
  | some channel =>
    match registry.affordances channel with
    | [] => .error (.nothingToAsk name)
    | keys => .ok ⟨name, some keys⟩

/-- What the agent may see: `build_turn_request`. -/
def buildTurnRequest (env : Environment) : Except EpisodeFailure TurnRequest := do
  let actions ← env.variant.allowedActions.mapM (projectAction env.variant.queryRegistry)
  return ⟨actions, env.observations.map fun o => ⟨o.observationId, o.source, o.key, o.fact⟩,
    env.steps.map fun step => ⟨step.action, step.arguments⟩⟩

end Requests

section Comparisons

/-- `type(a) is type(b)` -/
def Datum.sameType : Datum → Datum → Bool
  | .null, .null | .bool _, .bool _ | .int _, .int _ | .float _, .float _ | .str _, .str _
  | .seq _, .seq _ | .map _, .map _ => true
  | _, _ => false

/-- `isinstance(a, (int, float))`, and no truth value. -/
def Datum.isNumber : Datum → Bool
  | .int _ | .float _ => true
  | _ => false

/-- A condition as the record spells it. -/
structure ShownCondition where
  fact : String
  op : String
  value : Datum

structure ShownRule where
  conditions : List ShownCondition
  decision : String
  primaryReason : String

/-- `_matches` -/
def ShownCondition.matches (condition : ShownCondition) (facts : FactValues) :
    Except EpisodeFailure Bool :=
  match facts.get? condition.fact with
  | none => .ok false
  | some actual =>
    let ordered : Option Bool → Except EpisodeFailure Bool
      | some b => .ok b
      | none => .error (.incomparable condition.fact)
    if condition.op = "eq" then
      .ok (actual.sameType condition.value && actual.same condition.value)
    else if !actual.isNumber then .ok false
    else if condition.op = "gt" then ordered (condition.value.less? actual)
    else if condition.op = "lt" then ordered (actual.less? condition.value)
    else if condition.op = "gte" then
      ordered ((condition.value.less? actual).map (· || actual.same condition.value))
    else ordered ((actual.less? condition.value).map (· || actual.same condition.value))

/-- `all(matches)`, which stops at the first condition that does not match. -/
def allMatch (facts : FactValues) : List ShownCondition → Except EpisodeFailure Bool
  | [] => .ok true
  | condition :: conditions => do
    if ← condition.matches facts then allMatch facts conditions else .ok false

/-- A condition under the fields that the fake reads. -/
def ShownCondition.ofDatum? : Datum → Option ShownCondition
  | .map raw => do
    let fact ← (Dict.findEntry "fact" raw).bind Datum.asStr?
    let op ← (Dict.findEntry "op" raw).bind Datum.asStr?
    return ⟨fact, op, ← Dict.findEntry "value" raw⟩
  | _ => none

def ShownRule.ofDatum? : Datum → Option ShownRule
  | .map raw => do
    let items ← (Dict.findEntry "when" raw).bind Datum.iterate?
    let conditions ← items.mapM ShownCondition.ofDatum?
    let decision ← (Dict.findEntry "decision" raw).bind Datum.asStr?
    return ⟨conditions, decision, ← (Dict.findEntry "primary_reason" raw).bind Datum.asStr?⟩
  | _ => none

end Comparisons

section Script

variable (request : TurnRequest)

def taken (action : String) : Bool := request.transcript.any fun entry => entry.action = action

def requestedFacts : List String :=
  request.transcript.filterMap fun entry => (entry.arguments.get? "fact").bind Datum.asStr?

/-- The offered action that retrieves the key, or else the first channel on offer. -/
def elicitationChannel (key : String) : Option String :=
  let candidates := [Channel.askUser.action, Channel.callTool.action]
  (candidates.find? fun candidate => request.actions.any fun action =>
    action.name = candidate && (action.facts.getD []).contains key).or
  (candidates.find? fun candidate => candidate ∈ request.availableActions)

def terminalCall (disposition reason : String) (cited : List String) : AdapterCall :=
  ⟨terminalAction, Environment.terminalArguments ⟨disposition, reason, [], cited⟩⟩

/-- The handles that were cited, and those of what is known under one of the keys. -/
def cite (needed cited : List String) : List String :=
  Environment.addNew cited ((request.observations.filter fun o => o.key ∈ needed).map
    ObservedFact.observationId)

/-- Act first when the rule says so, then close the case. -/
def decideCase (rule : ShownRule) (cited : List String) : AdapterCall :=
  let pending := request.availableActions.filter fun action =>
    action ∉ protocolActions && !taken request action
  match pending with
  | action :: _ =>
    if rule.decision = "ACT" then ⟨action, Dict.empty⟩
    else terminalCall rule.decision rule.primaryReason cited
  | [] => terminalCall rule.decision rule.primaryReason cited

/-- Obtain what the next rule refers to, and take the first rule that matches. -/
def followRules (known : FactValues) (cited : List String) :
    List ShownRule → Except EpisodeFailure AdapterCall
  | [] => .ok (terminalCall "STOP" "NO_APPLICABLE_RULE" [])
  | rule :: rules =>
    let needed := rule.conditions.map ShownCondition.fact
    let unknown := needed.find? fun key => !known.contains key && key ∉ requestedFacts request
    match unknown.bind fun key => (elicitationChannel request key).map fun c => (key, c) with
    | some (key, channel) => .ok ⟨channel, Environment.factArgument key⟩
    | none => do
      let cited := cite request needed cited
      if ← allMatch known rule.conditions then .ok (decideCase request rule cited)
      else followRules known cited rules

/-- Apply the policy that the case presents. -/
def policyFollowingScript : Except EpisodeFailure AdapterCall :=
  if !taken request readAction then .ok ⟨readAction, Dict.empty⟩
  else
    match request.observations.find? fun o => o.source = .activePolicy with
    | none => .ok (terminalCall "STOP" "UNKNOWN" [])
    | some policy =>
      let known := request.observations.foldl (fun facts o =>
        o.fact.entries.foldl (fun facts e => facts.set e.1 e.2) facts) Dict.empty
      match ((policy.fact.get? "rules").bind Datum.iterate?).bind
          (List.mapM ShownRule.ofDatum?) with
      | none => .error .malformed
      | some rules => followRules request known [policy.observationId] rules

end Script

section Episodes

variable (str : Datum → String)

def inEpisode {α : Type} : Except Refusal α → Except EpisodeFailure α
  | .ok a => .ok a
  | .error refusal => .error (.refused refusal)

/-- Perform one call against the environment: `_dispatch`. -/
def dispatch (env : Environment) (call : AdapterCall) : Except EpisodeFailure Environment :=
  if call.action = readAction then inEpisode (env.readRecords.map Prod.snd)
  else if call.action = terminalAction then
    match decisionOf? str call.arguments with
    | none => .error .malformed
    | some decision => inEpisode (env.completeCase decision)
  else
    match Channel.ofAction? call.action with
    | some channel =>
      match (call.arguments.get? "fact").map (Datum.textWith str) with
      | none => .error .malformed
      | some fact =>
        let expected := env.variant.queryRegistry.channelFor fact
        if expected.any fun c => c ≠ channel then
          .error (.wrongChannel call.action fact ((expected.map Channel.action).getD ""))
        else inEpisode ((env.obtain fact).map Prod.snd)
    | none => inEpisode (env.act call.action)

/-- One turn: the request is built, the fake answers, and the answer is dispatched. -/
def fakeTurn (env : Environment) : Except EpisodeFailure Environment := do
  let request ← buildTurnRequest env
  let call ← policyFollowingScript request
  dispatch str env call

end Episodes

end OperateBench.Cubes
