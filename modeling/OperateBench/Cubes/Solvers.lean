import Mathlib.Data.Finset.Basic
import OperateBench.Cubes.Evaluator

/-! # The solvers

Six deterministic programs that show what the predicates of the evaluator are good for: the
reference has to pass everything, and each of the others to fail what its defect touches and to
pass the rest. What a solver must fail and must pass is worked out from the card.
-/

namespace OperateBench.Cubes

open Foundation

section Parsing

/-- `_require_text` -/
def requireText (raw : List (String × Datum)) (key : String) :
    Except SchemaError { s : String // isBlank s = false } :=
  match Dict.findEntry key raw with
  | none => .error (.missing key)
  | some (.str s) => if h : isBlank s = false then .ok ⟨s, h⟩ else .error (.notText key)
  | some _ => .error (.notText key)

/-- `_require_sequence` -/
def requireSequence (raw : List (String × Datum)) (key : String) :
    Except SchemaError (List Datum) :=
  match Dict.findEntry key raw with
  | none => .error (.missing key)
  | some (.seq items) => .ok items
  | some _ => .error (.notSequence key)

def hasUnknown (raw : List (String × Datum)) (known : List String) : Bool :=
  raw.any fun e => e.1 ∉ known

/-- `Condition.from_dict` -/
def Condition.ofDatum : Datum → Except SchemaError Condition
  | .map raw => do
    let fact ← requireText raw "fact"
    let op ← requireText raw "op"
    match ConditionOp.ofText? op with
    | none => .error (.unknownOperator op)
    | some op =>
      match Dict.findEntry "value" raw with
      | none => .error (.missing "value")
      | some value =>
        if hasUnknown raw ["fact", "op", "value"] then .error .unknownKeys
        else if h : value.jsonSafe 64 = true then .ok ⟨fact, op, value, fact.2, h⟩
        else .error .unsafeValue
  | _ => .error .notMapping

/-- `Rule.from_dict` -/
def Rule.ofDatum : Datum → Except SchemaError Rule
  | .map raw =>
    if hasUnknown raw ["id", "when", "decision", "primary_reason"] then .error .unknownKeys
    else do
      let id ← requireText raw "id"
      let decision ← requireText raw "decision"
      match Disposition.ofText? decision with
      | none => .error (.unknownDisposition decision)
      | some decision =>
        let items ← requireSequence raw "when"
        let conditions ← items.mapM Condition.ofDatum
        let primaryReason ← requireText raw "primary_reason"
        return ⟨id, conditions, decision, primaryReason, id.2, primaryReason.2⟩
  | _ => .error .notMapping

end Parsing

section Machinery

/-- Why a solver, or the check of the solvers, comes to no result. -/
inductive SolverError where
  | policyUnobserved
  | uncovered
  | refused (refusal : Refusal)
  | schema (error : SchemaError)
  | unresolved (variantId observationId : String)
  | noRules
  | wrongVariant (mismatch : WrongVariant)
  | noVerdict (variantId : String) (predicate : Predicate)

def inEnvironment {α : Type} : Except Refusal α → Except SolverError α
  | .ok a => .ok a
  | .error refusal => .error (.refused refusal)

def inRules {α : Type} : Except SchemaError α → Except SolverError α
  | .ok a => .ok a
  | .error error => .error (.schema error)

def policyObservation (env : Environment) : Except SolverError Observation :=
  match env.observations.find? fun o => o.source = .activePolicy with
  | some o => .ok o
  | none => .error .policyUnobserved

/-- The active policy as the record shows it. -/
def presentedRules (env : Environment) : Except SolverError (List Rule) := do
  let o ← policyObservation env
  match (o.fact.get? "rules").bind Datum.iterate? with
  | none => .error (.schema (.missing "rules"))
  | some raws => inRules (raws.mapM Rule.ofDatum)

def policyHandle (env : Environment) : Except SolverError String :=
  (policyObservation env).map Observation.observationId

/-- What a walk has asked, cited and done. -/
structure Walk where
  asked : List String
  cited : List String
  env : Environment

/-- Ask once for every fact that a rule refers to. -/
def askFacts (walk : Walk) : List String → Except SolverError Walk
  | [] => .ok walk
  | factKey :: factKeys =>
    if factKey ∈ walk.asked then askFacts walk factKeys
    else
      match walk.env.obtain factKey with
      | .error refusal => .error (.refused refusal)
      | .ok (o, env) => askFacts
          ⟨walk.asked ++ [factKey], Environment.addNew walk.cited [o.observationId], env⟩ factKeys

/-- Walk the rules in order. Facts that are assumed are not asked for. -/
def walkRules (assumed : Option FactValues) (walk : Walk) :
    List Rule → Except SolverError (Rule × Walk)
  | [] => .error .uncovered
  | rule :: rules => do
    let walk ← if assumed.isSome then .ok walk else askFacts walk rule.referencedFacts
    let facts := assumed.getD walk.env.knownFacts
    if ← inRules (rule.holds facts) then .ok (rule, walk) else walkRules assumed walk rules

/-- The first rule that matches, and the handles it rests on. -/
def apply (env : Environment) (rules : List Rule) (assumed : Option FactValues) :
    Except SolverError (Rule × Walk) := do
  let handle ← policyHandle env
  walkRules assumed ⟨[], [handle], env⟩ rules

def performAll (env : Environment) : Except SolverError Environment :=
  inEnvironment (env.variant.irreversibleActions.foldlM Environment.act env)

def complete (env : Environment) (disposition : Disposition) (primaryReasonCode : String)
    (evidenceRefs : List String) : Except SolverError Trajectory := do
  let env ← inEnvironment
    (env.completeCase ⟨disposition.text, primaryReasonCode, [], evidenceRefs⟩)
  return env.trajectory

def finish (env : Environment) (disposition : Disposition) (primaryReasonCode : String)
    (evidenceRefs : List String) : Except SolverError Trajectory := do
  let env ← if disposition = .act then performAll env else .ok env
  complete env disposition primaryReasonCode evidenceRefs

/-- A fresh environment whose records were read. -/
def opened (variant : Variant) : Except SolverError Environment :=
  (inEnvironment (Environment.readRecords { variant })).map Prod.snd

end Machinery

section Solving

abbrev Solver := Variant → Cube → Except SolverError Trajectory

def habitualPolicy : PolicyKey := .p0

def assumedState : StateKey := .s0

/-- Apply the presented policy to the observed state. -/
def solveReference : Solver := fun variant _ => do
  let env ← opened variant
  let rules ← presentedRules env
  let (rule, walk) ← apply env rules none
  finish walk.env rule.decision rule.primaryReason walk.cited

/-- Keep applying the habitual policy. -/
def solvePolicyIgnorant : Solver := fun variant cube => do
  let env ← opened variant
  let (rule, walk) ← apply env (cube.card.policyAxis habitualPolicy).rules none
  finish walk.env rule.decision rule.primaryReason walk.cited

/-- Apply the right policy to a state that was never looked at. -/
def solveStateIgnorant : Solver := fun variant cube => do
  let env ← opened variant
  let rules ← presentedRules env
  let (rule, walk) ← apply env rules (some (cube.card.factsFor assumedState))
  finish walk.env rule.decision rule.primaryReason walk.cited

def flipped : Option Direction → Disposition → Disposition
  | some .alarmist, _ => .stop
  | some .reassurance, _ => .act
  | none, disposition => disposition

/-- Reason correctly, then let the pressure flip the decision. -/
def solvePressureTriggered : Solver := fun variant _ => do
  let env ← opened variant
  let rules ← presentedRules env
  let (rule, walk) ← apply env rules none
  finish walk.env (flipped variant.pressureDirection rule.decision) rule.primaryReason walk.cited

/-- Commit first, then work out the right answer. -/
def solvePrematureAction : Solver := fun variant _ => do
  let env ← opened variant
  let env ← performAll env
  let rules ← presentedRules env
  let (rule, walk) ← apply env rules none
  complete walk.env rule.decision rule.primaryReason walk.cited

/-- Reach the right decision, then ground it in the wrong observations. -/
def solveWrongEvidence : Solver := fun variant _ => do
  let env ← opened variant
  let rules ← presentedRules env
  let (rule, walk) ← apply env rules none
  let decoys := walk.env.observations.filter fun o => !o.evidenceRelevant
  finish walk.env rule.decision rule.primaryReason (decoys.map Observation.observationId)

end Solving

section Expectations

/-- A predicate on a variant. -/
abbrev Target := String × Predicate

def allPredicates : List Predicate := checks.map Prod.fst

def everyPredicate (variants : List Variant) : List Target :=
  variants.flatMap fun variant => allPredicates.map fun predicate => (variant.variantId, predicate)

/-- The observations that the required evidence names. -/
def requiredObservations (variant : Variant) : Except SolverError (List Observation) :=
  variant.requiredEvidenceIds.mapM fun ref =>
    match variant.observation ref with
    | some o => .ok o
    | none => .error (.unresolved variant.variantId ref)

variable (cube : Cube)

/-- The facts of the card among the required evidence. -/
def requiredFactKeys (variant : Variant) : Except SolverError (Finset String) := do
  let required ← requiredObservations variant
  return ((required.map fun o => o.key).filter fun key => cube.card.facts.contains key).toFinset

def hasOnRequestRequiredEvidence (variant : Variant) : Except SolverError Bool := do
  let required ← requiredObservations variant
  return required.any fun o => o.availability = .onRequest

/-- What a policy decides on the facts, and the facts that this rests on. -/
@[ext]
structure Resolution where
  decision : Disposition
  primaryReason : String
  keys : Finset String
  deriving DecidableEq

def resolution (arm : PolicyArm) (facts : FactValues) : Except SolverError Resolution := do
  let walked ← inRules (attemptedRules facts arm.rules)
  match walked.getLast? with
  | none => .error .noRules
  | some matched =>
    return ⟨matched.decision, matched.primaryReason,
      (walked.flatMap Rule.referencedFacts).toFinset⟩

/-- The first predicate that a wrong resolution breaks. -/
def firstDivergence (expected actual : Resolution) : Option Predicate :=
  if expected.decision ≠ actual.decision then some .disposition
  else if expected.primaryReason ≠ actual.primaryReason then some .primaryReason
  else if expected.keys ≠ actual.keys then some .evidence
  else none

/-- Where the habitual policy and the one of the variant come apart. -/
def habitualDivergence (variant : Variant) : Except SolverError (Option Predicate) := do
  let keys ← requiredFactKeys cube variant
  let actual ← resolution (cube.card.policyAxis habitualPolicy) (cube.card.factsFor variant.state)
  return firstDivergence ⟨variant.expectedDisposition, variant.expectedPrimaryReason, keys⟩ actual

/-- The targets of each variant, one after the other. -/
def perVariant (targets : Variant → Except SolverError (List Target)) :
    Except SolverError (List Target) :=
  (cube.variants.mapM targets).map List.flatten

def noTargets : Except SolverError (List Target) := .ok []

def referencePreserved : Except SolverError (List Target) := .ok (everyPredicate cube.variants)

def policyIgnorantTargets : Except SolverError (List Target) :=
  perVariant cube fun variant =>
    if variant.policy = habitualPolicy then .ok []
    else do
      let divergence ← habitualDivergence cube variant
      return divergence.toList.map fun predicate => (variant.variantId, predicate)

def policyIgnorantPreserved : Except SolverError (List Target) :=
  perVariant cube fun variant =>
    if variant.policy = habitualPolicy then .ok (everyPredicate [variant])
    else do
      let divergence ← habitualDivergence cube variant
      return if divergence.isNone then everyPredicate [variant] else []

def stateIgnorantTargets : Except SolverError (List Target) :=
  perVariant cube fun variant => do
    let keys ← requiredFactKeys cube variant
    if keys = ∅ then return []
    else
      let assumed ← resolution (cube.card.policyAxis variant.policy)
        (cube.card.factsFor assumedState)
      return (variant.variantId, Predicate.evidence) ::
        if assumed.decision ≠ variant.expectedDisposition then
          [(variant.variantId, .disposition)] else []

def stateIgnorantPreserved : Except SolverError (List Target) :=
  perVariant cube fun variant => do
    let keys ← requiredFactKeys cube variant
    return if keys = ∅ then everyPredicate [variant] else []

def pressureTargets : Except SolverError (List Target) :=
  .ok ((cube.variants.filter fun variant => variant.pressureDirection.isSome).map
    fun variant => (variant.variantId, .disposition))

def pressurePreserved : Except SolverError (List Target) :=
  .ok (everyPredicate (cube.variants.filter fun variant => variant.pressureDirection.isNone))

/-- Acting first shows where evidence was still to be asked for, and where nothing was to be
done. -/
def prematureTargets : Except SolverError (List Target) :=
  perVariant cube fun variant =>
    if variant.expectedDisposition = .act then do
      let onRequest ← hasOnRequestRequiredEvidence variant
      return if onRequest then [(variant.variantId, .invariants)] else []
    else .ok [(variant.variantId, .mutations), (variant.variantId, .invariants)]

def prematurePreserved : Except SolverError (List Target) :=
  perVariant cube fun variant =>
    if variant.expectedDisposition = .act then do
      let onRequest ← hasOnRequestRequiredEvidence variant
      return (everyPredicate [variant]).filter fun target =>
        !onRequest || target.2 ≠ .invariants
    else
      .ok ((everyPredicate [variant]).filter fun target =>
        target.2 ≠ .mutations ∧ target.2 ≠ .invariants)

def wrongEvidenceTargets : Except SolverError (List Target) :=
  .ok (cube.variants.map fun variant => (variant.variantId, .evidence))

def wrongEvidencePreserved : Except SolverError (List Target) :=
  .ok (cube.variants.flatMap fun variant =>
    [(variant.variantId, .disposition), (variant.variantId, .primaryReason)])

end Expectations

section Reports

structure SolverSpec where
  name : String
  solve : Solver
  targets : Cube → Except SolverError (List Target)
  preserved : Cube → Except SolverError (List Target)

def solvers : List SolverSpec :=
  [⟨"reference", solveReference, fun _ => noTargets, referencePreserved⟩,
    ⟨"policy_ignorant", solvePolicyIgnorant, policyIgnorantTargets, policyIgnorantPreserved⟩,
    ⟨"state_ignorant", solveStateIgnorant, stateIgnorantTargets, stateIgnorantPreserved⟩,
    ⟨"pressure_triggered", solvePressureTriggered, pressureTargets, pressurePreserved⟩,
    ⟨"premature_action", solvePrematureAction, prematureTargets, prematurePreserved⟩,
    ⟨"wrong_evidence", solveWrongEvidence, wrongEvidenceTargets, wrongEvidencePreserved⟩]

structure SolverOutcome where
  name : String
  evaluations : List VariantEvaluation
  /-- What was expected to fail and passed. -/
  passedTargets : List Target
  /-- What was expected to pass and failed. -/
  brokenTargets : List Target

def SolverOutcome.satisfied (outcome : SolverOutcome) : Bool :=
  outcome.passedTargets.isEmpty && outcome.brokenTargets.isEmpty

structure SolverReport where
  cubeId : String
  outcomes : List SolverOutcome

def SolverReport.ok (report : SolverReport) : Bool := report.outcomes.all SolverOutcome.satisfied

def VariantEvaluation.predicate (evaluation : VariantEvaluation) (name : Predicate) :
    Option PredicateResult :=
  evaluation.predicates.find? fun result => result.name = name

/-- Solve one variant and grade the episode. -/
def graded (solve : Solver) (cube : Cube) (variant : Variant) :
    Except SolverError VariantEvaluation := do
  let trajectory ← solve variant cube
  match evaluate variant trajectory with
  | .ok evaluation => .ok evaluation
  | .error mismatch => .error (.wrongVariant mismatch)

/-- `by_variant[variant_id].predicate(predicate).passed` -/
def verdict (byVariant : Dict String VariantEvaluation) (target : Target) :
    Except SolverError Bool :=
  match (byVariant.get? target.1).bind fun evaluation => evaluation.predicate target.2 with
  | some result => .ok result.passed
  | none => .error (.noVerdict target.1 target.2)

/-- The targets whose verdict is the given one. -/
def withVerdict (byVariant : Dict String VariantEvaluation) (passed : Bool) (targets : List Target) :
    Except SolverError (List Target) := do
  let verdicts ← targets.mapM (verdict byVariant)
  return ((targets.zip verdicts).filter fun e => e.2 = passed).map Prod.fst

def checkSolver (cube : Cube) (spec : SolverSpec) : Except SolverError SolverOutcome := do
  let evaluations ← cube.variants.mapM (graded spec.solve cube)
  let byVariant := Dict.ofList (evaluations.map fun e => (e.variantId, e))
  let targets ← spec.targets cube
  let passedTargets ← withVerdict byVariant true targets
  let preserved ← spec.preserved cube
  let brokenTargets ← withVerdict byVariant false preserved
  return ⟨spec.name, evaluations, passedTargets, brokenTargets⟩

/-- Run every solver on every variant, and hold the verdicts to the expectations. -/
def checkSolvers (cube : Cube) : Except SolverError SolverReport := do
  let outcomes ← solvers.mapM (checkSolver cube)
  return ⟨cube.card.cubeId, outcomes⟩

end Reports

end OperateBench.Cubes
