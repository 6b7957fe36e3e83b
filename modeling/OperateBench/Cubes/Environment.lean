import OperateBench.Cubes.Compiler

/-! # The environment of one variant

The environment hands out observations and records every step. A call that it refuses
leaves it as it was. A stored trajectory is replayed through the same calls.
-/

namespace OperateBench.Cubes

open Foundation

section Trajectories

structure TerminalDecision where
  disposition : String
  primaryReasonCode : String
  secondaryReasonCodes : List String
  evidenceRefs : List String
  deriving DecidableEq

abbrev Arguments := Dict String Datum

/-- One action and what the environment returned for it. -/
structure Step where
  index : ℤ
  action : String
  arguments : Arguments
  revealedObservationIds : List String
  mutations : List String

structure Trajectory where
  variantId : String
  steps : List Step
  terminalDecision : Option TerminalDecision
  observedIds : List String
  mutationHistory : List (ℤ × String)

end Trajectories

/-- Why the environment refuses a call. -/
inductive Refusal where
  | notPermitted (action : String)
  | terminated (action : String)
  | noObservation (queryKey : String)
  | notRead (fact : String)
  | unresolved (queryKey : String)
  | notIrreversible (action : String)
  | malformed (index : ℤ) (action : String)
  | wrongChannel (index : ℤ) (action fact expected : String)
  deriving DecidableEq

structure Environment where
  variant : Variant
  steps : List Step := []
  observed : List String := []
  mutations : List (ℤ × String) := []
  terminal : Option TerminalDecision := none

namespace Environment

variable (env : Environment)

section Introspection

def observations : List Observation :=
  env.variant.observations.filter fun o => o.observationId ∈ env.observed

/-- Every fact that was seen so far; a later observation overwrites an earlier one. -/
def knownFacts : FactValues :=
  env.observations.foldl (fun facts o =>
    o.fact.entries.foldl (fun facts e => facts.set e.1 e.2) facts) Dict.empty

def trajectory : Trajectory where
  variantId := env.variant.variantId
  steps := env.steps
  terminalDecision := env.terminal
  observedIds := env.observed
  mutationHistory := env.mutations

end Introspection

section Actions

/-- `ids` with the handles that are new behind them. -/
def addNew (ids : List String) : List String → List String
  | [] => ids
  | id :: fresh => addNew (if id ∈ ids then ids else ids ++ [id]) fresh

/-- The case has reached its terminal decision. -/
def terminated : Bool := env.steps.getLast?.any fun step => step.action = terminalAction

/-- File one action, if the card permits it and the case is still open. -/
def record (action : String) (arguments : Arguments) (revealed : List Observation)
    (mutations : List String) : Except Refusal Environment :=
  if action ∉ env.variant.allowedActions then .error (.notPermitted action)
  else if env.terminated then .error (.terminated action)
  else
    let index : ℤ := env.steps.length + 1
    let ids := revealed.map Observation.observationId
    .ok { env with
      observed := addNew env.observed ids
      steps := env.steps ++ [⟨index, action, arguments, ids, mutations⟩] }

def readRecords : Except Refusal (List Observation × Environment) := do
  let revealed := env.variant.initialObservations
  let env ← env.record readAction Dict.empty revealed []
  return (revealed, env)

/-- The observation that answers the query. -/
def resolutionObservation (queryKey : String) : Option Observation :=
  env.variant.observations.find? fun o => o.availability = .onRequest && o.key = queryKey

def factArgument (queryKey : String) : Arguments := .ofList [("fact", .str queryKey)]

/-- Resolve one query through the channel that the registry assigns it. Asking again reveals
nothing, and is a step all the same. -/
def obtain (queryKey : String) : Except Refusal (Observation × Environment) :=
  match env.variant.queryRegistry.entry queryKey with
  | some entry =>
    match env.resolutionObservation queryKey with
    | none => .error (.unresolved queryKey)
    | some target => do
      let revealed := if target.observationId ∈ env.observed then [] else [target]
      let env ← env.record entry.action.action (factArgument queryKey) revealed []
      return (target, env)
  | none =>
    match env.variant.observations.find? fun o =>
      o.evidenceRelevant && o.fact.contains queryKey with
    | none => .error (.noObservation queryKey)
    | some target =>
      if target.observationId ∈ env.observed then .ok (target, env)
      else .error (.notRead queryKey)

/-- Perform an irreversible action. -/
def act (action : String) : Except Refusal Environment :=
  if action ∉ env.variant.irreversibleActions then .error (.notIrreversible action)
  else do
    let index : ℤ := env.steps.length + 1
    let env ← env.record action Dict.empty [] [action]
    return { env with mutations := env.mutations ++ [(index, action)] }

def terminalArguments (decision : TerminalDecision) : Arguments := .ofList
  [("disposition", .str decision.disposition),
    ("primary_reason_code", .str decision.primaryReasonCode),
    ("secondary_reason_codes", .seq (decision.secondaryReasonCodes.map .str)),
    ("evidence_refs", .seq (decision.evidenceRefs.map .str))]

/-- Issue the terminal decision. -/
def completeCase (decision : TerminalDecision) : Except Refusal Environment := do
  let env ← env.record terminalAction (terminalArguments decision) [] []
  return { env with terminal := some decision }

end Actions

end Environment

section Calls

/-- What can be asked of an environment. -/
inductive EnvCall where
  | readRecords
  | obtain (queryKey : String)
  | act (action : String)
  | completeCase (decision : TerminalDecision)

/-- What an accepted call hands back. -/
inductive Reply where
  | records (observations : List Observation)
  | answer (observation : Observation)
  | done

namespace Environment

def call (env : Environment) : EnvCall → Except Refusal (Reply × Environment)
  | .readRecords => env.readRecords.map fun r => (.records r.1, r.2)
  | .obtain queryKey => (env.obtain queryKey).map fun r => (.answer r.1, r.2)
  | .act action => (env.act action).map fun env => (.done, env)
  | .completeCase decision => (env.completeCase decision).map fun env => (.done, env)

/-- Make the calls one after the other; a refused one changes nothing. -/
def play (env : Environment) : List EnvCall → List (Except Refusal Reply) × Environment
  | [] => ([], env)
  | call :: calls =>
    match env.call call with
    | .error refusal =>
      let (replies, last) := env.play calls
      (.error refusal :: replies, last)
    | .ok (reply, env) =>
      let (replies, last) := env.play calls
      (.ok reply :: replies, last)

end Environment

end Calls

section Replay

/-- `tuple(value)` -/
def Datum.iterate? : Datum → Option (List Datum)
  | .str s => some (s.toList.map fun c => .str (String.singleton c))
  | .seq items => some items
  | .map entries => some (entries.map fun e => .str e.1)
  | _ => none

variable (str : Datum → String)

/-- `str(value)`: a string is itself, and `str` renders every other value. -/
def Datum.textWith : Datum → String
  | .str s => s
  | d => str d

/-- The decision that the arguments of a terminal step state. -/
def decisionOf? (arguments : Arguments) : Option TerminalDecision := do
  let disposition ← arguments.get? "disposition"
  let primaryReasonCode ← arguments.get? "primary_reason_code"
  let secondaryReasonCodes ← (← arguments.get? "secondary_reason_codes").iterate?
  let evidenceRefs ← (← arguments.get? "evidence_refs").iterate?
  return ⟨disposition.textWith str, primaryReasonCode.textWith str,
    secondaryReasonCodes.map (Datum.textWith str), evidenceRefs.map (Datum.textWith str)⟩

def replayStep (env : Environment) (step : Step) : Except Refusal Environment :=
  if step.action = readAction then env.readRecords.map Prod.snd
  else
    match Channel.ofAction? step.action with
    | some channel =>
      match (step.arguments.get? "fact").bind Datum.asStr? with
      | none => .error (.malformed step.index step.action)
      | some fact =>
        let expected := env.variant.queryRegistry.channelFor fact
        if expected.any fun c => c ≠ channel then
          .error (.wrongChannel step.index step.action fact ((expected.map Channel.action).getD ""))
        else (env.obtain fact).map Prod.snd
    | none =>
      if step.action = terminalAction then
        match decisionOf? str step.arguments with
        | none => .error (.malformed step.index step.action)
        | some decision => env.completeCase decision
      else env.act step.action

def replaySteps (env : Environment) (steps : List Step) : Except Refusal Environment :=
  steps.foldlM (replayStep str) env

/-- What a fresh environment makes of the recorded steps. -/
def replayTrajectory (variant : Variant) (trajectory : Trajectory) :
    Except Refusal Trajectory :=
  (replaySteps str { variant } trajectory.steps).map Environment.trajectory

end Replay

end OperateBench.Cubes
