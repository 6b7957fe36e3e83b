import Mathlib.Data.List.Sort
import Mathlib.Data.Rat.Defs
import OperateBench.Foundation.Dict
import OperateBench.Foundation.Fallible
import OperateBench.Foundation.Text

/-! # Construct cards

A card is the authored ground truth of one cube: the facts of two states, the rules of
two policies and the decision for each pair of them. What the parser holds a card to is
part of its type.
-/

namespace OperateBench.Cubes

open Foundation

section Data

/-- An authored value, frozen. A float is the rational number it stands for. -/
inductive Datum where
  | null
  | bool (b : Bool)
  | int (i : ℤ)
  | float (q : ℚ)
  | str (s : String)
  | seq (items : List Datum)
  | map (entries : List (String × Datum))
  deriving Inhabited

namespace Datum

/-- The number that the value compares as. -/
def number? : Datum → Option ℚ
  | bool b => some (if b then 1 else 0)
  | int i => some i
  | float q => some q
  | _ => none

mutual

/-- `a == b` -/
def same : Datum → Datum → Bool
  | null, null => true
  | str s, str t => s = t
  | seq items, seq items' => sameItems items items'
  | map entries, map entries' =>
    entries.length = entries'.length && sameEntries entries entries'
  | a, b => match a.number?, b.number? with
    | some x, some y => x = y
    | _, _ => false

def sameItems : List Datum → List Datum → Bool
  | [], [] => true
  | a :: as, b :: bs => a.same b && sameItems as bs
  | _, _ => false

def sameEntries : List (String × Datum) → List (String × Datum) → Bool
  | [], _ => true
  | (key, a) :: entries, others =>
    (Dict.findEntry key others).any (fun b => a.same b) && sameEntries entries others

end

mutual

/-- `a < b`, where the two compare at all. -/
def less? : Datum → Datum → Option Bool
  | str s, str t => some (s < t)
  | seq items, seq items' => lessItems? items items'
  | a, b => match a.number?, b.number? with
    | some x, some y => some (x < y)
    | _, _ => none

def lessItems? : List Datum → List Datum → Option Bool
  | [], others => some !others.isEmpty
  | _ :: _, [] => some false
  | a :: as, b :: bs => if a.same b then lessItems? as bs else a.less? b

end

def asStr? : Datum → Option String
  | str s => some s
  | _ => none

mutual

/-- Whether JSON carries the value, with `room` more containers to open. -/
def jsonSafe : ℕ → Datum → Bool
  | _, int i => i.natAbs < 10 ^ 4300
  | room, seq items => room != 0 && itemsJsonSafe (room - 1) items
  | room, map entries => room != 0 && entriesJsonSafe (room - 1) entries
  | _, _ => true

def itemsJsonSafe : ℕ → List Datum → Bool
  | _, [] => true
  | room, a :: as => a.jsonSafe room && itemsJsonSafe room as

def entriesJsonSafe : ℕ → List (String × Datum) → Bool
  | _, [] => true
  | room, (_, a) :: entries => a.jsonSafe room && entriesJsonSafe room entries

end

end Datum

end Data

section Vocabulary

inductive StateKey where
  | s0
  | s1
  deriving DecidableEq

def StateKey.text : StateKey → String
  | s0 => "S0"
  | s1 => "S1"

inductive PolicyKey where
  | p0
  | p1
  deriving DecidableEq

def PolicyKey.text : PolicyKey → String
  | p0 => "P0"
  | p1 => "P1"

inductive Disposition where
  | act
  | stop
  deriving DecidableEq

namespace Disposition

def text : Disposition → String
  | act => "ACT"
  | stop => "STOP"

def ofText? (s : String) : Option Disposition :=
  [act, stop].find? fun disposition => disposition.text == s

end Disposition

inductive CubeType where
  | oneAct
  | threeAct
  deriving DecidableEq

/-- How many of the four cells the type calls ACT. -/
def CubeType.expectedActCells : CubeType → ℕ
  | oneAct => 1
  | threeAct => 3

inductive FactLocation where
  | initialState
  | elicited
  deriving DecidableEq

/-- The two channels a question may be asked on. -/
inductive Channel where
  | askUser
  | callTool
  deriving DecidableEq

def Channel.action : Channel → String
  | askUser => "ask_user"
  | callTool => "call_tool"

def Channel.ofAction? (action : String) : Option Channel :=
  [Channel.askUser, .callTool].find? fun channel => channel.action == action

def readAction : String := "read_records"

def terminalAction : String := "complete_case"

def protocolActions : List String :=
  [readAction, terminalAction, Channel.askUser.action, Channel.callTool.action]

inductive Direction where
  | alarmist
  | reassurance
  deriving DecidableEq

def Direction.text : Direction → String
  | alarmist => "alarmist"
  | reassurance => "reassurance"

/-- The correct answer that a probe of the direction presses against. -/
def Direction.requiredDisposition : Direction → Disposition
  | alarmist => .act
  | reassurance => .stop

inductive Invariant where
  | noIrreversibleBeforeRequiredEvidence
  | noIrreversibleActionWhenStop
  | noFabricatedEvidenceReference
  deriving DecidableEq

end Vocabulary

section Rules

inductive ConditionOp where
  | eq
  | ne
  | lte
  | lt
  | gte
  | gt
  deriving DecidableEq

namespace ConditionOp

def text : ConditionOp → String
  | eq => "eq"
  | ne => "ne"
  | lte => "lte"
  | lt => "lt"
  | gte => "gte"
  | gt => "gt"

def ofText? (s : String) : Option ConditionOp :=
  [eq, ne, lte, lt, gte, gt].find? fun op => op.text == s

end ConditionOp

/-- What the parser or a comparison of a card refuses. -/
inductive SchemaError where
  | notMapping
  | missing (field : String)
  | notText (field : String)
  | notSequence (field : String)
  | unknownOperator (op : String)
  | unknownDisposition (decision : String)
  | unknownKeys
  | unsafeValue
  | incomparable (fact : String) (op : ConditionOp)
  deriving DecidableEq

/-- One test of an operational fact. -/
structure Condition where
  fact : String
  op : ConditionOp
  value : Datum
  named : isBlank fact = false
  safe : value.jsonSafe 64 = true

/-- The values of facts, by their names. -/
abbrev FactValues := Dict String Datum

def Condition.holds (condition : Condition) (facts : FactValues) : Except SchemaError Bool :=
  match facts.get? condition.fact with
  | none => .ok false
  | some observed =>
    let ordered : Option Bool → Except SchemaError Bool
      | some b => .ok b
      | none => .error (.incomparable condition.fact condition.op)
    match condition.op with
    | .eq => .ok (observed.same condition.value)
    | .ne => .ok (!observed.same condition.value)
    | .lt => ordered (observed.less? condition.value)
    | .lte => ordered ((observed.less? condition.value).map (· || observed.same condition.value))
    | .gt => ordered (condition.value.less? observed)
    | .gte => ordered ((condition.value.less? observed).map (· || observed.same condition.value))

/-- One clause of a policy. The first that matches wins. -/
structure Rule where
  id : String
  conditions : List Condition
  decision : Disposition
  primaryReason : String
  identified : isBlank id = false
  reasoned : isBlank primaryReason = false

/-- `all(holds)`, which stops at the first condition that does not hold. -/
def allHold (facts : FactValues) : List Condition → Except SchemaError Bool
  | [] => .ok true
  | condition :: conditions => do
    if ← condition.holds facts then allHold facts conditions else .ok false

namespace Rule

def holds (rule : Rule) (facts : FactValues) : Except SchemaError Bool :=
  allHold facts rule.conditions

def referencedFacts (rule : Rule) : List String := rule.conditions.map Condition.fact

end Rule

end Rules

section Arms

structure StateArm where
  label : String
  description : String
  facts : FactValues

structure PolicyArm where
  label : String
  description : String
  rules : List Rule

/-- Where a deciding fact lives: in the record from the start, or behind a channel. -/
inductive FactSpec where
  | initial
  | onRequest (channel : Channel)
  deriving DecidableEq

def FactSpec.channel? : FactSpec → Option Channel
  | initial => none
  | onRequest channel => some channel

structure PressureProbeSpec where
  baseCell : StateKey × PolicyKey
  cues : List String

end Arms

section Queries

/-- What a query returns. Only a reveal carries a fact. -/
inductive QueryOutcome where
  | notRecorded
  | outOfScope
  | reveal (factKey : String)
  | unknown
  deriving DecidableEq

def QueryOutcome.text : QueryOutcome → String
  | notRecorded => "not_recorded"
  | outOfScope => "out_of_scope"
  | reveal _ => "reveal"
  | unknown => "unknown"

/-- Who wrote an entry: the author, or the projection of a fact that is asked for. -/
inductive QueryOrigin where
  | authored
  | projectedFact
  deriving DecidableEq

/-- One resolution: a key, its channel and its outcome. -/
structure QueryEntry where
  queryKey : String
  action : Channel
  outcome : QueryOutcome
  origin : QueryOrigin
  deriving DecidableEq

/-- Every query of a cube, in the order of the keys. -/
structure QueryRegistry where
  entries : List QueryEntry
  distinct : (entries.map QueryEntry.queryKey).Nodup
  ordered : (entries.map QueryEntry.queryKey).Pairwise (· ≤ ·)

namespace QueryRegistry

/-- A registry of entries whose order is not the caller's. -/
def ofEntries (entries : List QueryEntry) (h : (entries.map QueryEntry.queryKey).Nodup) :
    QueryRegistry where
  entries := entries.insertionSort fun a b => a.queryKey ≤ b.queryKey
  distinct := ((List.perm_insertionSort _ entries).map _).nodup_iff.mpr h
  ordered := by
    rw [List.pairwise_map]
    have htotal : Std.Total fun a b : QueryEntry => a.queryKey ≤ b.queryKey :=
      ⟨fun a b => String.le_total a.queryKey b.queryKey⟩
    have htrans : IsTrans QueryEntry fun a b => a.queryKey ≤ b.queryKey :=
      ⟨fun _ _ _ => String.le_trans⟩
    exact List.pairwise_insertionSort _ entries

def entry (registry : QueryRegistry) (queryKey : String) : Option QueryEntry :=
  registry.entries.find? fun entry => entry.queryKey = queryKey

def channelFor (registry : QueryRegistry) (queryKey : String) : Option Channel :=
  (registry.entry queryKey).map QueryEntry.action

end QueryRegistry

end Queries

section Cards

/-- An entry of a card's own query section. -/
structure Authored (facts : Dict String FactSpec) (distractors : List (String × Datum))
    (allowedActions : List String) (entry : QueryEntry) : Prop where
  named : isBlank entry.queryKey = false
  offered : entry.action.action ∈ allowedActions
  unclaimed : facts.contains entry.queryKey = false
  unreserved : entry.queryKey ∉ distractors.map Prod.fst
  /-- A reveal names a fact of the card that arrives on its channel. -/
  reveals : ∀ factKey, entry.outcome = .reveal factKey →
    facts.get? factKey = some (.onRequest entry.action)
  origin : entry.origin = .authored

/-- The implicit reveal of every fact that is asked for. -/
def projected (facts : Dict String FactSpec) : List QueryEntry :=
  facts.entries.filterMap fun (key, spec) => spec.channel?.map fun channel =>
    ⟨key, channel, .reveal key, .projectedFact⟩

/-- The authored ground truth of a cube. -/
structure ConstructCard where
  cubeId : String
  cubeType : CubeType
  factLocation : FactLocation
  reasonCodePrecedence : List String
  stateAxis : StateKey → StateArm
  policyAxis : PolicyKey → PolicyArm
  dispositionTable : StateKey → PolicyKey → Disposition
  facts : Dict String FactSpec
  distractors : List (String × Datum)
  pressureProbes : Direction → PressureProbeSpec
  queryResolution : List QueryEntry
  allowedActions : List String
  irreversibleActions : List String
  criticalInvariants : List Invariant
  described : ∀ state key, (stateAxis state).facts.contains key = facts.contains key
  factsNamed : ∀ key ∈ facts.keys, isBlank key = false
  reasonsRanked : ∀ policy, ∀ rule ∈ (policyAxis policy).rules,
    rule.primaryReason ∈ reasonCodePrecedence
  factsKnown : ∀ policy, ∀ rule ∈ (policyAxis policy).rules, ∀ key ∈ rule.referencedFacts,
    facts.contains key = true
  distractorsDistinct : (distractors.map Prod.fst).Nodup
  distractorsNamed : ∀ entry ∈ distractors,
    isBlank entry.1 = false ∧ facts.contains entry.1 = false
  probesPress : ∀ direction, dispositionTable (pressureProbes direction).baseCell.1
    (pressureProbes direction).baseCell.2 = direction.requiredDisposition
  cuesGiven : ∀ direction, (pressureProbes direction).cues ≠ []
  irreversibleGiven : irreversibleActions ≠ []
  irreversibleNamed : ∀ action ∈ irreversibleActions, isBlank action = false
  irreversibleAllowed : ∀ action ∈ irreversibleActions,
    action ∈ allowedActions ∧ action ∉ protocolActions
  readAllowed : readAction ∈ allowedActions
  terminalAllowed : terminalAction ∈ allowedActions
  channelsAllowed : ∀ key channel, facts.get? key = some (.onRequest channel) →
    channel.action ∈ allowedActions
  queriesAuthored : ∀ entry ∈ queryResolution, Authored facts distractors allowedActions entry
  queriesDistinct : (queryResolution.map QueryEntry.queryKey).Nodup

theorem mem_projected {facts : Dict String FactSpec} {entry : QueryEntry} :
    entry ∈ projected facts ↔ ∃ channel,
      facts.get? entry.queryKey = some (.onRequest channel) ∧
      entry = ⟨entry.queryKey, channel, .reveal entry.queryKey, .projectedFact⟩ := by
  simp only [projected, List.mem_filterMap, Prod.exists, Option.map_eq_some_iff]
  constructor
  · rintro ⟨key, spec, hmem, channel, hspec, rfl⟩
    cases spec with
    | initial => cases hspec
    | onRequest _ =>
      obtain rfl := Option.some.inj hspec
      exact ⟨_, Dict.get?_eq_some_iff.mpr hmem, rfl⟩
  · rintro ⟨channel, hspec, heq⟩
    exact ⟨entry.queryKey, _, Dict.get?_eq_some_iff.mp hspec, channel, rfl, heq.symm⟩

theorem nodup_projected (facts : Dict String FactSpec) :
    ((projected facts).map QueryEntry.queryKey).Nodup := by
  have hsub : ((projected facts).map QueryEntry.queryKey).Sublist facts.keys := by
    unfold projected Dict.keys
    induction facts.entries with
    | nil => exact List.Sublist.refl _
    | cons e es ih =>
      obtain ⟨key, spec⟩ := e
      cases spec with
      | initial => exact ih.cons key
      | onRequest channel => exact ih.cons_cons key
  exact facts.nodup.sublist hsub

namespace ConstructCard

variable (card : ConstructCard)

def disposition (state : StateKey) (policy : PolicyKey) : Disposition :=
  card.dispositionTable state policy

def factsFor (state : StateKey) : FactValues := (card.stateAxis state).facts

def reasonRank (reasonCode : String) : ℕ := card.reasonCodePrecedence.idxOf reasonCode

theorem queries_nodup :
    ((projected card.facts ++ card.queryResolution).map QueryEntry.queryKey).Nodup := by
  rw [List.map_append, List.nodup_append]
  refine ⟨nodup_projected card.facts, card.queriesDistinct, ?_⟩
  rintro key hprojected _ hauthored rfl
  obtain ⟨entry, hentry, rfl⟩ := List.mem_map.mp hprojected
  obtain ⟨authored, hmem, heq⟩ := List.mem_map.mp hauthored
  obtain ⟨channel, hspec, -⟩ := mem_projected.mp hentry
  have hunclaimed := (card.queriesAuthored authored hmem).unclaimed
  rw [heq, Dict.contains, hspec] at hunclaimed
  cases hunclaimed

/-- Every query of the cube: the reveals of its facts, and what the author added. -/
def queryRegistry : QueryRegistry :=
  .ofEntries (projected card.facts ++ card.queryResolution) card.queries_nodup

theorem mem_queryRegistry {entry : QueryEntry} : entry ∈ card.queryRegistry.entries ↔
    entry ∈ projected card.facts ∨ entry ∈ card.queryResolution :=
  (List.mem_insertionSort _).trans List.mem_append

end ConstructCard

end Cards

end OperateBench.Cubes
