import Mathlib.Data.List.Basic
import OperateBench.Cubes.Card

/-! # The cube compiler

A card becomes six variants: the four cells, and two of them again under pressure. The
compiler settles every cell by the first rule that matches, and refuses a card whose table,
rules or edges do not agree. The digest that pins a variant is not part of the model.
-/

namespace OperateBench.Cubes

open Foundation

section Observations

inductive Source where
  | activePolicy
  | initialRecord
  | userAnswer
  | toolOutput
  | userStatement
  deriving DecidableEq

def Source.text : Source → String
  | activePolicy => "active_policy"
  | initialRecord => "initial_record"
  | userAnswer => "user_answer"
  | toolOutput => "tool_output"
  | userStatement => "user_statement"

/-- The source that a channel delivers through. -/
def Channel.source : Channel → Source
  | askUser => .userAnswer
  | callTool => .toolOutput

inductive Availability where
  | initial
  | onRequest
  deriving DecidableEq

/-- What an observation says, before it has a handle. -/
structure Draft where
  source : Source
  key : String
  fact : FactValues
  availability : Availability
  evidenceRelevant : Bool
  outcome : Option QueryOutcome

/-- A handle over one piece of information. -/
structure Observation extends Draft where
  observationId : String

/-- The position of a draft, padded to two digits. -/
def padded (index : ℕ) : String := (if index < 10 then "0" else "") ++ toString index

def Draft.mint (draft : Draft) (index : ℕ) : Observation where
  toDraft := draft
  observationId := s!"obs:{draft.source.text}:{draft.key}:{padded index}"

/-- Number the drafts from one on. -/
def mintFrom (index : ℕ) : List Draft → List Observation
  | [] => []
  | draft :: drafts => draft.mint index :: mintFrom (index + 1) drafts

end Observations

section Drafts

def Condition.asDatum (condition : Condition) : Datum := .map
  [("fact", .str condition.fact), ("op", .str condition.op.text), ("value", condition.value)]

def Rule.asDatum (rule : Rule) : Datum := .map
  [("id", .str rule.id), ("when", .seq (rule.conditions.map Condition.asDatum)),
    ("decision", .str rule.decision.text), ("primary_reason", .str rule.primaryReason)]

/-- The policy as the record shows it. Its handle does not tell which arm it is. -/
def policyDraft (policy : PolicyKey) (arm : PolicyArm) : Draft where
  source := .activePolicy
  key := "applicable_policy"
  fact := .ofList [("active_policy", .str policy.text), ("policy_label", .str arm.label),
    ("policy_description", .str arm.description), ("rules", .seq (arm.rules.map Rule.asDatum))]
  availability := .initial
  evidenceRelevant := true
  outcome := none

def recordDraft (key : String) (value : Datum) (evidenceRelevant : Bool) : Draft where
  source := .initialRecord
  key
  fact := .ofList [(key, value)]
  availability := .initial
  evidenceRelevant
  outcome := none

/-- The value that a state gives a fact; the parser holds every state to the same facts. -/
def FactValues.value (facts : FactValues) (key : String) : Datum := (facts.get? key).getD .null

def queryDraft (facts : FactValues) (entry : QueryEntry) : Draft where
  source := entry.action.source
  key := entry.queryKey
  fact := match entry.outcome with
    | .reveal factKey => .ofList [(factKey, facts.value factKey)]
    | _ => Dict.empty
  availability := .onRequest
  evidenceRelevant := match entry.outcome with
    | .reveal _ => true
    | _ => false
  outcome := some entry.outcome

def pressureDraft (cues : List String) : Draft where
  source := .userStatement
  key := "irrelevant_pressure"
  fact := .ofList [("statements", .seq (cues.map .str))]
  availability := .initial
  evidenceRelevant := false
  outcome := none

namespace ConstructCard

variable (card : ConstructCard)

/-- The facts of the card that are in the record from the start. -/
def initialFacts : List String :=
  (card.facts.keys.insertionSort fun a b => a ≤ b).filter fun key =>
    card.facts.get? key = some .initial

/-- What the record and the registry say of a cell, in the one order. -/
def drafts (state : StateKey) (policy : PolicyKey) (cues : List String) : List Draft :=
  let facts := card.factsFor state
  policyDraft policy (card.policyAxis policy) ::
    (card.distractors.map fun (key, value) => recordDraft key value false) ++
    (card.initialFacts.map fun key => recordDraft key (facts.value key) true) ++
    card.queryRegistry.entries.map (queryDraft facts) ++
    if cues = [] then [] else [pressureDraft cues]

def buildObservations (state : StateKey) (policy : PolicyKey) (cues : List String) :
    List Observation :=
  mintFrom 1 (card.drafts state policy cues)

end ConstructCard

end Drafts

section Resolution

inductive CompileError where
  | schema (error : SchemaError)
  | uncovered (state : StateKey) (policy : PolicyKey)
  | outranked (state : StateKey) (policy : PolicyKey) (matched best : String)
  | disagrees (state : StateKey) (policy : PolicyKey) (matched : String)
  | noLiveStateEdge
  | noLivePolicyEdge
  | noPreserveStateEdge
  | noPreservePolicyEdge
  | unbalanced (actCells : ℕ)
  | nothingElicited
  | notInitial

/-- The rules that first-match evaluation walks, up to and including the winner. -/
def attemptedRules (facts : FactValues) : List Rule → Except SchemaError (List Rule)
  | [] => .ok []
  | rule :: rules => do
    if ← rule.holds facts then .ok [rule]
    else
      let walked ← attemptedRules facts rules
      return rule :: walked

/-- `[rule for rule in rules if rule.matches(facts)]` -/
def matching (facts : FactValues) : List Rule → Except SchemaError (List Rule)
  | [] => .ok []
  | rule :: rules => do
    let matched ← rule.holds facts
    let rest ← matching facts rules
    return if matched then rule :: rest else rest

/-- `min(rules, key=rank)`: the first of the least rank. -/
def minByRank (rank : Rule → ℕ) (first : Rule) : List Rule → Rule
  | [] => first
  | rule :: rules =>
    let best := minByRank rank rule rules
    if rank first ≤ rank best then first else best

def inSchema {α : Type} : Except SchemaError α → Except CompileError α
  | .ok a => .ok a
  | .error e => .error (.schema e)

/-- The rule that settles a cell. -/
def resolveCell (card : ConstructCard) (state : StateKey) (policy : PolicyKey) :
    Except CompileError Rule := do
  match ← inSchema (matching (card.factsFor state) (card.policyAxis policy).rules) with
  | [] => .error (.uncovered state policy)
  | matched :: others =>
    let best := minByRank (fun rule => card.reasonRank rule.primaryReason) matched others
    if best.primaryReason ≠ matched.primaryReason then
      .error (.outranked state policy matched.id best.id)
    else if matched.decision ≠ card.disposition state policy then
      .error (.disagrees state policy matched.id)
    else .ok matched

end Resolution

section Variants

inductive VariantKind where
  | cell
  | probe
  deriving DecidableEq

def VariantKind.text : VariantKind → String
  | cell => "cell"
  | probe => "probe"

/-- One executable task. -/
structure Variant where
  variantId : String
  kind : VariantKind
  state : StateKey
  policy : PolicyKey
  pressureDirection : Option Direction
  pressureCues : List String
  expectedDisposition : Disposition
  expectedPrimaryReason : String
  matchedRuleId : String
  queryRegistry : QueryRegistry
  observations : List Observation
  requiredEvidenceIds : List String
  expectedMutations : List String
  allowedActions : List String
  irreversibleActions : List String
  criticalInvariants : List Invariant

namespace Variant

variable (variant : Variant)

def observation (observationId : String) : Option Observation :=
  variant.observations.find? fun o => o.observationId = observationId

def initialObservations : List Observation :=
  variant.observations.filter fun o => o.availability = .initial

end Variant

/-- The policy, and every fact that first-match evaluation had to look at. -/
def requiredEvidence (observations : List Observation) (attempted : List Rule) : List String :=
  let needed := attempted.flatMap Rule.referencedFacts
  ((observations.filter fun o => o.source = .activePolicy) ++
    observations.filter fun o => o.evidenceRelevant && o.key ∈ needed).map
      Observation.observationId

def cellText (state : StateKey) (policy : PolicyKey) : String := s!"{state.text}_{policy.text}"

/-- A cell or a probe, on the rule that settles it and the rules that were tried. -/
def buildVariant (card : ConstructCard) (kind : VariantKind) (suffix : String) (state : StateKey)
    (policy : PolicyKey) (matched : Rule) (attempted : List Rule) (direction : Option Direction)
    (cues : List String) : Variant where
  variantId := s!"{card.cubeId}::{kind.text}::{suffix}"
  kind
  state
  policy
  pressureDirection := direction
  pressureCues := cues
  expectedDisposition := matched.decision
  expectedPrimaryReason := matched.primaryReason
  matchedRuleId := matched.id
  queryRegistry := card.queryRegistry
  observations := card.buildObservations state policy cues
  requiredEvidenceIds := requiredEvidence (card.buildObservations state policy cues) attempted
  expectedMutations := if matched.decision = .act then card.irreversibleActions else []
  allowedActions := card.allowedActions
  irreversibleActions := card.irreversibleActions
  criticalInvariants := card.criticalInvariants

def buildCell (card : ConstructCard) (state : StateKey) (policy : PolicyKey) :
    Except CompileError Variant := do
  let matched ← resolveCell card state policy
  let attempted ← inSchema (attemptedRules (card.factsFor state) (card.policyAxis policy).rules)
  return buildVariant card .cell (cellText state policy) state policy matched attempted none []

def buildProbe (card : ConstructCard) (direction : Direction) : Except CompileError Variant := do
  let (state, policy) := (card.pressureProbes direction).baseCell
  let matched ← resolveCell card state policy
  let attempted ← inSchema (attemptedRules (card.factsFor state) (card.policyAxis policy).rules)
  return buildVariant card .probe direction.text state policy matched attempted (some direction)
    (card.pressureProbes direction).cues

end Variants

section Cubes

/-- A compiled cube. -/
structure Cube where
  card : ConstructCard
  variants : List Variant

/-- Both axes move the decision somewhere, and leave it somewhere. -/
def validateEdges (card : ConstructCard) : Except CompileError Unit :=
  let liveState := fun policy => card.disposition .s0 policy ≠ card.disposition .s1 policy
  let livePolicy := fun state => card.disposition state .p0 ≠ card.disposition state .p1
  if ¬liveState .p0 ∧ ¬liveState .p1 then .error .noLiveStateEdge
  else if ¬livePolicy .s0 ∧ ¬livePolicy .s1 then .error .noLivePolicyEdge
  else if liveState .p0 ∧ liveState .p1 then .error .noPreserveStateEdge
  else if livePolicy .s0 ∧ livePolicy .s1 then .error .noPreservePolicyEdge
  else .ok ()

def cells : List (StateKey × PolicyKey) := [(.s0, .p0), (.s0, .p1), (.s1, .p0), (.s1, .p1)]

def validateBalance (card : ConstructCard) : Except CompileError Unit :=
  let actCells := (cells.filter fun (state, policy) => card.disposition state policy = .act).length
  if actCells ≠ card.cubeType.expectedActCells then .error (.unbalanced actCells) else .ok ()

def validateFactLocation (card : ConstructCard) : Except CompileError Unit :=
  if card.factLocation = .elicited ∧ card.facts.values.all (· = .initial) then
    .error .nothingElicited
  else if card.factLocation = .initialState ∧ ¬card.facts.values.all (· = .initial) then
    .error .notInitial
  else .ok ()

/-- Compile a card into its six variants. -/
def compileCube (card : ConstructCard) : Except CompileError Cube := do
  let cellVariants ← cells.mapM fun (state, policy) => buildCell card state policy
  validateEdges card
  validateBalance card
  validateFactLocation card
  let probes ← [Direction.alarmist, .reassurance].mapM (buildProbe card)
  return ⟨card, cellVariants ++ probes⟩

end Cubes

end OperateBench.Cubes
