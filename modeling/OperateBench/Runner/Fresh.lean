import OperateBench.Foundation.Frames
import OperateBench.Foundation.Naming
import Mathlib.Data.List.Lex
import Mathlib.Data.List.Sort

/-! # Fresh values

The values held across the boundary of grading, and their fingerprints: bytes behind a tag for a
scalar, a frame for a container, with the members of unordered containers in the order of their
bytes. The traversal is bounded in nodes, bytes and depth.
-/

namespace OperateBench

open Foundation Utf8

/-- A double, in which all values that are not numbers are one. -/
inductive Double
  | nan
  | infinite (negative : Bool)
  | finite (negative : Bool) (exponent : Fin 2047) (fraction : Fin (2 ^ 52))
deriving DecidableEq

namespace Double

def signText (negative : Bool) : List Char := if negative then ['-'] else []

/-- An exponent with its sign. -/
def exponentText (n : Int) : List Char :=
  match n with
  | .ofNat m => '+' :: (toString m).toList
  | .negSucc m => '-' :: (toString (m + 1)).toList

/-- What `hex` writes of a magnitude behind its sign and `0x`. -/
def magnitudeText (exponent : Fin 2047) (fraction : Fin (2 ^ 52)) : List Char :=
  if exponent = 0 ∧ fraction = 0 then "0.0p+0".toList
  else
    (if exponent = 0 then '0' else '1') :: '.' :: ((fixedDigits 16 13 fraction).map Nat.digitChar ++
      'p' :: exponentText (if exponent = 0 then -1022 else exponent.val - 1023))

def hex : Double → List Char
  | nan => "nan".toList
  | infinite negative => signText negative ++ "inf".toList
  | finite negative exponent fraction =>
    signText negative ++ ('0' :: 'x' :: magnitudeText exponent fraction)

end Double

/-- The dataclasses that a fresh value may be of. -/
inductive FreshClass
  | outcomeSnapshot
  | scenarioSpec
  | authoredEvent
  | conditionalTrigger
  | expectedEventRejection
deriving DecidableEq

def FreshClass.name : FreshClass → String
  | outcomeSnapshot => "operatebench.runner._FreshOutcomeSnapshot"
  | scenarioSpec => "operatebench.domains.lettings.maintenance.spec.ScenarioSpec"
  | authoredEvent => "operatebench.domains.lettings.maintenance.spec.AuthoredEvent"
  | conditionalTrigger => "operatebench.domains.lettings.maintenance.spec.ConditionalTrigger"
  | expectedEventRejection =>
    "operatebench.domains.lettings.maintenance.spec.ExpectedEventRejection"

/-- The names of the fields and their annotations. -/
def FreshClass.fields : FreshClass → List (String × String)
  | outcomeSnapshot => [("status", "str"), ("replay_final", "bool"), ("simulated_minutes", "int"),
      ("invocations", "int"), ("final_state", "Mapping[str, Any]"),
      ("trajectory", "tuple[Mapping[str, Any], ...]"), ("events", "tuple[Mapping[str, Any], ...]")]
  | scenarioSpec => [("scenario_id", "str"), ("semantic_scenario_id", "str"), ("label", "str"),
      ("starts_at", "str"), ("expected_terminal", "str"), ("human_checkpoint_budget", "int"),
      ("required_checkpoint_types", "tuple[str, ...]"), ("dispatch_failures", "frozenset[str]"),
      ("expected_event_rejections", "tuple[ExpectedEventRejection, ...]"),
      ("events", "tuple[AuthoredEvent, ...]")]
  | authoredEvent => [("event_id", "str"), ("event_type", "str"), ("actor_id", "str"),
      ("sequence", "int"), ("payload", "Mapping[str, Any]"), ("triggers_agent", "bool"),
      ("at", "str | None"), ("trigger", "ConditionalTrigger | None"), ("delay_minutes", "int")]
  | conditionalTrigger => [("kind", "str"), ("type_name", "str"), ("cycle_id", "str | None")]
  | expectedEventRejection => [("event_id", "str"), ("code", "str"), ("reason", "str")]

inductive FreshValue
  | none
  | bool (b : Bool)
  | int (n : Int)
  | float (x : Double)
  | str (s : Text)
  | bytes (bs : List Byte)
  | list (items : List FreshValue)
  | tuple (items : List FreshValue)
  | dict (entries : List (FreshValue × FreshValue))
  | proxy (entries : List (FreshValue × FreshValue))
  | set (members : List FreshValue)
  | frozenset (members : List FreshValue)
  | record (cls : FreshClass) (values : List FreshValue)
  | other (typeName : String)

inductive FreshError
  | oversized
  | unsupported
  | tooDeep
  | unicode
  | digits
  | lengthOverflow
  | attribute
deriving DecidableEq

/-- What is left of the bounds of a traversal. -/
structure FreshState where
  remainingBytes : Int
  remainingNodes : Int

def FreshState.initial : FreshState := ⟨8 * 1024 * 1024, 100000⟩

abbrev FreshM := StateT FreshState (Except FreshError)

namespace Fresh

def ascii (s : List Char) : List Byte := s.map fun c => byte c.toNat

def tag (c : Char) : Byte := byte c.toNat

/-- The most binary digits of an integer that has a fingerprint. -/
def maxBits : ℕ := 16384

/-- The most decimal digits that the interpreter converts. -/
def maxDigits : ℕ := 4300

def sortBytes (parts : List (List Byte)) : List (List Byte) := parts.insertionSort (· ≤ ·)

/-- The frame of a dataclass: its name, and for each field its name, annotation and value. -/
def recordParts (cls : FreshClass) (values : List (List Byte)) : List (List Byte) :=
  ascii cls.name.toList :: (cls.fields.zip values).flatMap fun field =>
    [ascii field.1.1.toList, ascii field.1.2.toList, field.2]

section Bounds

def takeNode : FreshM Unit := do
  let s ← get
  if s.remainingNodes - 1 < 0 then throw .oversized
  else StateT.set { s with remainingNodes := s.remainingNodes - 1 }

def takeBytes (size : ℕ) : FreshM Unit := do
  let s ← get
  if s.remainingBytes - size < 0 then throw .oversized
  else StateT.set { s with remainingBytes := s.remainingBytes - size }

/-- The value below so many containers is one itself. -/
def enter (depth : ℕ) : FreshM Unit := if 64 ≤ depth then throw .tooDeep else pure ()

def framed (tag : Byte) (parts : List (List Byte)) : FreshM (List Byte) :=
  match frame tag parts with
  | some bytes => pure bytes
  | none => throw .lengthOverflow

end Bounds

section Fingerprints

def scalar (c : Char) (encoded : List Byte) : FreshM (List Byte) := do
  takeBytes (encoded.length + 1)
  return tag c :: encoded

def intFingerprint (n : Int) : FreshM (List Byte) :=
  if 2 ^ maxBits ≤ n.natAbs then throw .oversized
  else if 10 ^ maxDigits ≤ n.natAbs then throw .digits
  else scalar 'i' (ascii (toString n).toList)

def strFingerprint (s : Text) : FreshM (List Byte) :=
  match encode s with
  | none => throw .unicode
  | some encoded => scalar 's' encoded

mutual

def fingerprint (depth : ℕ) : FreshValue → FreshM (List Byte)
  | .none => do
    takeNode
    takeBytes 1
    return [tag 'n']
  | .bool b => do
    takeNode
    takeBytes 2
    return [tag 'b', tag (if b then '1' else '0')]
  | .int n => do
    takeNode
    intFingerprint n
  | .float x => do
    takeNode
    scalar 'f' (ascii x.hex)
  | .str s => do
    takeNode
    strFingerprint s
  | .bytes bs => do
    takeNode
    scalar 'y' bs
  | .list items => do
    takeNode
    enter depth
    takeBytes (1 + 8 * items.length)
    let parts ← fingerprints (depth + 1) items
    framed (tag 'l') parts
  | .tuple items => do
    takeNode
    enter depth
    takeBytes (1 + 8 * items.length)
    let parts ← fingerprints (depth + 1) items
    framed (tag 't') parts
  | .dict entries => do
    takeNode
    enter depth
    takeBytes (1 + 25 * entries.length)
    let pairs ← pairFingerprints (depth + 1) entries
    framed (tag 'm') (sortBytes pairs)
  | .proxy entries => do
    takeNode
    enter depth
    takeBytes (1 + 25 * entries.length)
    let pairs ← pairFingerprints (depth + 1) entries
    framed (tag 'r') (sortBytes pairs)
  | .set members => do
    takeNode
    enter depth
    takeBytes (1 + 8 * members.length)
    let parts ← fingerprints (depth + 1) members
    framed (tag 'e') (sortBytes parts)
  | .frozenset members => do
    takeNode
    enter depth
    takeBytes (1 + 8 * members.length)
    let parts ← fingerprints (depth + 1) members
    framed (tag 'z') (sortBytes parts)
  | .record cls values => do
    takeNode
    enter depth
    takeBytes (1 + 8 * (1 + 3 * cls.fields.length) + cls.name.length +
      (cls.fields.map fun field => field.1.length + field.2.length).sum)
    let parts ← fingerprints (depth + 1) values
    if parts.length ≠ cls.fields.length then throw .attribute
    else framed (tag 'd') (recordParts cls parts)
  | .other _ => do
    takeNode
    throw .unsupported

def fingerprints (depth : ℕ) : List FreshValue → FreshM (List (List Byte))
  | [] => return []
  | v :: vs => do
    let part ← fingerprint depth v
    let parts ← fingerprints depth vs
    return part :: parts

def pairFingerprints (depth : ℕ) : List (FreshValue × FreshValue) → FreshM (List (List Byte))
  | [] => return []
  | (key, item) :: entries => do
    let keyPart ← fingerprint depth key
    let itemPart ← fingerprint depth item
    let pair ← framed (tag 'p') [keyPart, itemPart]
    let pairs ← pairFingerprints depth entries
    return pair :: pairs

end

def freshFingerprint (value : FreshValue) : Except FreshError (List Byte) :=
  (·.1) <$> fingerprint 0 value .initial

end Fingerprints

end Fresh

end OperateBench
