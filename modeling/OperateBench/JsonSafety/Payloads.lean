import OperateBench.Foundation.JsonOrder
import OperateBench.JsonSafety.Walk

/-! # Payloads of every class

An object may be of a subclass of a built-in one, or of a class that only behaves like a mapping or
like a sequence. The walk admits them all and the projection rebuilds them out of built-in classes,
while the encoder knows the built-in classes and their subclasses only.
-/

namespace OperateBench.JsonSafety

open Foundation Foundation.Json

section Objects

/-- A key, or the `repr` and the class of one that is no text. -/
inductive Key
  | str (value : Text)
  | other (repr typeName : Text)

def Key.text : Key → Text
  | .str value => value
  | .other repr _ => repr

/-- `dict` and its subclasses, and every other class of mappings. -/
inductive MappingClass
  | dict
  | other (typeName : Text)

/-- `list` and `tuple` with their subclasses, and every other class of sequences. -/
inductive SequenceClass
  | list
  | tuple
  | other (typeName : Text)

/-- An object. A scalar of a subclass holds the built-in value that the base descriptors read. -/
inductive Payload
  | none
  | bool (value : Bool)
  | str (value : Text)
  | int (value : ℤ)
  | float (value : PyFloat)
  | mapping (cls : MappingClass) (items : List (Key × Payload))
  | sequence (cls : SequenceClass) (items : List Payload)
  | other (typeName : Text)

end Objects

def maxJsonDepth : ℤ := 64

variable (repr : Text → Text)

namespace Payload

section Walk

variable (maxDepth : ℤ)

def checkFloat (value : PyFloat) (context : Text) : Except JsonSafetyError Unit :=
  let refuse (shown : String) := .error (.nonJsonValue (context ++ Text.ofString ": " ++
    Text.ofString shown ++ Text.ofString
    " is not a finite number; JSON cannot represent NaN or Infinity"))
  match value with
  | .finite _ _ => .ok ()
  | .inf negative => refuse (if negative then "-inf" else "inf")
  | .nan => refuse "nan"

def checkKey (key : Key) (context : Text) : Except JsonSafetyError Text :=
  match key with
  | .str value => checkText value (context ++ Text.ofString ": key " ++ repr value)
  | .other shown typeName => .error (.nonJsonValue (context ++ Text.ofString
      ": mappings must use string keys, got " ++ shown ++ Text.ofString " of type " ++ typeName))

mutual

def walk (context : Text) (depth : ℕ) : Payload → Except JsonSafetyError Unit
  | .none | .bool _ => .ok ()
  | .str value => do let _ ← checkText value context
  | .int value => checkInteger value context
  | .float value => checkFloat value context
  | .mapping _ items =>
    if maxDepth < depth + 1 then .error (tooDeepToSerialise maxDepth context)
    else walkMembers context (depth + 1) items
  | .sequence _ items =>
    if maxDepth < depth + 1 then .error (tooDeepToSerialise maxDepth context)
    else walkItems context (depth + 1) 0 items
  | .other typeName => .error (.nonJsonValue (context ++ Text.ofString ": value of type " ++
      typeName ++ Text.ofString (" is not JSON-safe; use null, bool, int, finite float, string, " ++
      "list or string-keyed mapping")))

def walkMembers (context : Text) (depth : ℕ) :
    List (Key × Payload) → Except JsonSafetyError Unit
  | [] => .ok ()
  | (key, item) :: items => do
    let normalizedKey ← checkKey repr key context
    walk (context ++ Text.ofString "." ++ normalizedKey) depth item
    walkMembers context depth items

def walkItems (context : Text) (depth index : ℕ) : List Payload → Except JsonSafetyError Unit
  | [] => .ok ()
  | item :: items => do
    walk (context ++ Text.ofString "[" ++ renderInt index ++ Text.ofString "]") depth item
    walkItems context depth (index + 1) items

end

/-- The value itself, where the walk over it raises nothing. -/
def ensureJsonSafe (context : Text) (value : Payload) : Except JsonSafetyError Payload := do
  walk repr maxDepth context 0 value
  return value

end Walk

section Parsed

/-- Rounding a decimal to a float. -/
structure Rounding where
  round : FloatLiteral → PyFloat
  finite : ∀ x, x.isFinite = true → ∃ shown h, round x = .finite shown h
  infinite : ∀ x, x.isFinite = false → round x = .inf x.negative

variable (rounding : Rounding)

mutual

/-- A value that was read, as a payload. -/
def ofLoaded : Loaded → Payload
  | .none => .none
  | .bool value => .bool value
  | .int value => .int value
  | .float value => .float (rounding.round value)
  | .str value => .str value
  | .list items => .sequence .list (ofItems items)
  | .dict entries => .mapping .dict (ofEntries entries)

def ofItems : List Loaded → List Payload
  | [] => []
  | item :: items => ofLoaded item :: ofItems items

def ofEntries : List (Text × Loaded) → List (Key × Payload)
  | [] => []
  | (name, item) :: entries => (.str name, ofLoaded item) :: ofEntries entries

end

variable {repr} {rounding} {maxDepth : ℤ}

theorem checkKey_str (name context : Text) : checkKey repr (.str name) context =
    checkText name (context ++ Text.ofString ": key " ++ repr name) := rfl

theorem checkText_ok {value context t : Text} (h : checkText value context = .ok t) :
    t = value := by
  rw [checkText] at h
  split at h
  · exact (Except.ok.inj h).symm
  · cases h

mutual

/-- On what was read, the walk is the one over loaded values. -/
theorem walk_ofLoaded (context : Text) (d : ℕ) (x : Loaded) :
    walk repr maxDepth context d (ofLoaded rounding x) =
      JsonSafety.walk repr maxDepth context d x := by
  cases x with
  | none | bool | int | str => rfl
  | float value =>
    rw [ofLoaded, walk, JsonSafety.walk, JsonSafety.checkFloat]
    cases hfinite : value.isFinite with
    | true =>
      obtain ⟨shown, h, hround⟩ := rounding.finite value hfinite
      rw [hround]
      rfl
    | false =>
      rw [rounding.infinite value hfinite]
      rfl
  | list items =>
    rw [ofLoaded, walk, JsonSafety.walk, walkItems_ofItems context (d + 1) 0 items]
  | dict entries =>
    rw [ofLoaded, walk, JsonSafety.walk, walkMembers_ofEntries context (d + 1) entries]
termination_by structural x

theorem walkItems_ofItems (context : Text) (d index : ℕ) (items : List Loaded) :
    walkItems repr maxDepth context d index (ofItems rounding items) =
      JsonSafety.walkItems repr maxDepth context d index items := by
  match items with
  | [] => rfl
  | item :: items =>
    rw [ofItems, walkItems, JsonSafety.walkItems, walk_ofLoaded _ d item,
      walkItems_ofItems context d (index + 1) items]
termination_by structural items

theorem walkMembers_ofEntries (context : Text) (d : ℕ) (entries : List (Text × Loaded)) :
    walkMembers repr maxDepth context d (ofEntries rounding entries) =
      JsonSafety.walkEntries repr maxDepth context d entries := by
  match entries with
  | [] => rfl
  | (name, item) :: entries =>
    rw [ofEntries, walkMembers, JsonSafety.walkEntries, checkKey_str]
    cases hname : checkText name (context ++ Text.ofString ": key " ++ repr name) with
    | error e => rfl
    | ok t =>
      obtain rfl := checkText_ok hname
      show (walk repr maxDepth _ d _ >>= fun _ => _) = (JsonSafety.walk repr maxDepth _ d _ >>= _)
      rw [walk_ofLoaded _ d item, walkMembers_ofEntries context d entries]
termination_by structural entries

end

end Parsed

section Projection

def tooDeepToProject (path : Text) : JsonSafetyError :=
  .nestingDepth (Text.ofString "JSON projection: nested deeper than " ++ renderInt maxJsonDepth ++
    Text.ofString " levels at " ++ path ++ Text.ofString
    "; a structure this build cannot serialise is refused rather than projected")

/-- The name that a key has among those projected so far. -/
def projectedKey (projected : List (Text × JsonValue)) (key : Key) (path : Text) :
    Except JsonSafetyError Text :=
  match key with
  | .other _ _ => .error (.nonJsonValue (Text.ofString "JSON projection: mapping key at " ++
      path ++ Text.ofString " must be an exact string"))
  | .str value =>
    if value ∈ projected.map Prod.fst then .error (.nonJsonValue (Text.ofString
      "JSON projection: duplicate mapping key " ++ repr value ++ Text.ofString " at " ++ path))
    else .ok value

mutual

def project (path : Text) (depth : ℕ) : Payload → Except JsonSafetyError JsonValue
  | .none => .ok .none
  | .bool value => .ok (.bool value)
  | .str value => .ok (.str value)
  | .int value => .ok (.int value)
  | .float value => .ok (.float value)
  | .mapping _ items =>
    if maxJsonDepth < depth + 1 then .error (tooDeepToProject path)
    else do
      let entries ← projectMapping path (depth + 1) [] items
      return .dict entries
  | .sequence _ items =>
    if maxJsonDepth < depth + 1 then .error (tooDeepToProject path)
    else do
      let items ← projectItems path (depth + 1) 0 items
      return .list items
  | .other typeName => .ok (.other typeName)

def projectMapping (path : Text) (depth : ℕ) (projected : List (Text × JsonValue)) :
    List (Key × Payload) → Except JsonSafetyError (List (Text × JsonValue))
  | [] => .ok projected
  | (key, item) :: items => do
    let normalizedKey ← projectedKey repr projected key path
    let value ← project (path ++ Text.ofString "." ++ normalizedKey) depth item
    projectMapping path depth (projected ++ [(normalizedKey, value)]) items

def projectItems (path : Text) (depth index : ℕ) :
    List Payload → Except JsonSafetyError (List JsonValue)
  | [] => .ok []
  | item :: items => do
    let value ← project (path ++ Text.ofString "[" ++ renderInt index ++ Text.ofString "]") depth
      item
    let values ← projectItems path depth (index + 1) items
    return value :: values

end

/-- The payload rebuilt out of dictionaries and lists. -/
def toJson (value : Payload) : Except JsonSafetyError JsonValue :=
  project repr (Text.ofString "$") 0 value

end Projection

section Encoding

/-- What the encoder raises. -/
inductive DumpsError
  | typeError (typeName : Text)
  | integerTextLimit
  | outOfRangeFloat

mutual

/-- `json.dumps` with sorted keys and without spaces. Keys of other classes have been refused by the
walk; that members with equal names are compared by their values is left out. -/
def dumps : Payload → Except DumpsError Text
  | .none => .ok nullText
  | .bool value => .ok (if value then trueText else falseText)
  | .str value => .ok (encodeString value)
  | .int value =>
    if value.natAbs < maxJsonIntegerMagnitude then .ok (intText value)
    else .error .integerTextLimit
  | .float (.finite repr _) => .ok repr
  | .float (.inf _) | .float .nan => .error .outOfRangeFloat
  | .mapping .dict items => do
    let members ← dumpsMembers items
    return encodeObject (sortEntries members)
  | .sequence .list items | .sequence .tuple items => do
    let texts ← dumpsItems items
    return encodeArray texts
  | .mapping (.other typeName) _ | .sequence (.other typeName) _ | .other typeName =>
    .error (.typeError typeName)

def dumpsMembers : List (Key × Payload) → Except DumpsError (List (Text × Text))
  | [] => .ok []
  | (.other _ typeName, _) :: _ => .error (.typeError typeName)
  | (.str name, item) :: items => do
    let text ← dumps item
    let members ← dumpsMembers items
    return (name, text) :: members

def dumpsItems : List Payload → Except DumpsError (List Text)
  | [] => .ok []
  | item :: items => do
    let text ← dumps item
    let texts ← dumpsItems items
    return text :: texts

end

/-- What leaves the canonical encoding: a named refusal, or what the encoder raised. -/
inductive CanonicalError
  | safety (error : JsonSafetyError)
  | raised (error : DumpsError)

def unrenderable (context : Text) : JsonSafetyError :=
  .unrenderableValue (context ++ Text.ofString (": this build could not render a value it had " ++
    "already proven safe into canonical JSON text. The value is not quoted here: it is the " ++
    "value rendering failed on, and a diagnostic that tried to include it would fail the same way"))

def canonicalJsonText (payload : Payload) (context : Text) : Except CanonicalError Text :=
  match ensureJsonSafe repr maxJsonDepth context payload with
  | .error e => .error (.safety e)
  | .ok _ =>
    match dumps payload with
    | .ok text => .ok text
    | .error .integerTextLimit => .error (.safety (unrenderable context))
    | .error e => .error (.raised e)

end Encoding

end Payload

end OperateBench.JsonSafety
