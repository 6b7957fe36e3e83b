import Mathlib.Data.Nat.Size
import OperateBench.JsonSafety.Raw

/-! # The walk over a value

What a value must be to be written as canonical JSON. The walk stops at the first error, and the
scan of the text agrees with it on the depth, unless an object repeats a name or another error
comes first.
-/

namespace OperateBench.JsonSafety

open Foundation Foundation.Json

section Walk

def maxJsonIntegerDigits : ℕ := 4300

def maxJsonIntegerMagnitude : ℕ := 10 ^ maxJsonIntegerDigits

def maxJsonIntegerBits : ℕ := maxJsonIntegerMagnitude.size

/-- The position of the first lone surrogate. -/
def surrogateIndex (text : Text) : Option ℕ :=
  text.findIdx? fun character => 0xD800 ≤ character ∧ character ≤ 0xDFFF

/-- Four digits in the upper case. -/
def hex4 (c : CodePoint) : Text :=
  [c.val / 4096 % 16, c.val / 256 % 16, c.val / 16 % 16, c.val % 16].map fun n =>
    Fin.ofNat 0x110000 (if n < 10 then 0x30 + n else 0x41 + (n - 10))

def checkText (value context : Text) : Except JsonSafetyError Text :=
  match surrogateIndex value with
  | none => .ok value
  | some position => .error (.textEncoding (context ++ Text.ofString
      ": text carries a lone UTF-16 surrogate (U+" ++ hex4 (value.getD position 0) ++
      Text.ofString ") at position " ++ renderInt position ++ Text.ofString
      "; UTF-8 cannot encode it, so it is refused rather than hashed or persisted"))

def rendersAsDecimalText (value : ℤ) : Bool :=
  let magnitude := value.natAbs
  if magnitude.size < maxJsonIntegerBits then true else magnitude < maxJsonIntegerMagnitude

variable (repr : Text → Text) (maxDepth : ℤ)

def tooDeepToSerialise (context : Text) : JsonSafetyError :=
  .nestingDepth (context ++ Text.ofString ": nested deeper than " ++ renderInt maxDepth ++
    Text.ofString " levels; a structure this build cannot serialise is refused rather than parsed")

def checkInteger (value : ℤ) (context : Text) : Except JsonSafetyError Unit :=
  if rendersAsDecimalText value then .ok ()
  else .error (.unrenderableValue (context ++ Text.ofString ": an integer of more than " ++
    renderInt maxJsonIntegerDigits ++ Text.ofString (
    " decimal digits cannot be converted to text by this interpreter, so it can be neither " ++
    "serialised nor hashed. The value is not quoted here, because quoting it is the operation " ++
    "that fails")))

def checkFloat (value : FloatLiteral) (context : Text) : Except JsonSafetyError Unit :=
  if value.isFinite then .ok ()
  else .error (.nonJsonValue (context ++ Text.ofString ": " ++
    Text.ofString (if value.negative then "-inf" else "inf") ++ Text.ofString
    " is not a finite number; JSON cannot represent NaN or Infinity"))

mutual

def walk (context : Text) (depth : ℕ) : Loaded → Except JsonSafetyError Unit
  | .none | .bool _ => .ok ()
  | .str value => do let _ ← checkText value context
  | .int value => checkInteger value context
  | .float value => checkFloat value context
  | .dict entries =>
    if maxDepth < depth + 1 then .error (tooDeepToSerialise maxDepth context)
    else walkEntries context (depth + 1) entries
  | .list items =>
    if maxDepth < depth + 1 then .error (tooDeepToSerialise maxDepth context)
    else walkItems context (depth + 1) 0 items

def walkEntries (context : Text) (depth : ℕ) :
    List (Text × Loaded) → Except JsonSafetyError Unit
  | [] => .ok ()
  | (key, item) :: entries => do
    let _ ← checkText key (context ++ Text.ofString ": key " ++ repr key)
    walk (context ++ Text.ofString "." ++ key) depth item
    walkEntries context depth entries

def walkItems (context : Text) (depth index : ℕ) : List Loaded → Except JsonSafetyError Unit
  | [] => .ok ()
  | item :: items => do
    walk (context ++ Text.ofString "[" ++ renderInt index ++ Text.ofString "]") depth item
    walkItems context depth (index + 1) items

end

def ensureJsonSafe (context : Text) (value : Loaded) : Except JsonSafetyError Loaded := do
  walk repr maxDepth context 0 value
  return value

end Walk

section Depth

/-- The walk was ended by its limit. -/
def TooDeep {α : Type} (result : Except JsonSafetyError α) : Prop :=
  ∃ message, result = .error (.nestingDepth message)

variable {repr : Text → Text} {maxDepth : ℤ} {d : ℕ}

theorem checkText_shallow {value context : Text} : ¬TooDeep (checkText value context) := by
  rintro ⟨message, h⟩
  rw [checkText] at h
  split at h <;> cases h

/-- What a walk may say of a value that is `k` deep: it is not ended by its limit where the value
fits, and it ends well only there. -/
structure Agrees (maxDepth : ℤ) (d k : ℕ) (result : Except JsonSafetyError Unit) : Prop where
  shallow : Fits maxDepth d k → ¬TooDeep result
  fits : result = .ok () → Fits maxDepth d k

theorem agrees_leaf {result : Except JsonSafetyError Unit} (h : ¬TooDeep result) :
    Agrees maxDepth d 0 result := ⟨fun _ => h, fun _ => .inl rfl⟩

theorem Agrees.seq {j k : ℕ} {first second : Except JsonSafetyError Unit}
    (h : Agrees maxDepth d j first) (h' : Agrees maxDepth d k second) :
    Agrees maxDepth d (max j k) (first >>= fun _ => second) := by
  cases first with
  | error e =>
    constructor
    · intro hfits
      exact h.shallow (fits_max.mp hfits).1
    · nofun
  | ok u =>
    constructor
    · intro hfits
      exact h'.shallow (fits_max.mp hfits).2
    · intro hok
      exact fits_max.mpr ⟨h.fits rfl, h'.fits hok⟩

theorem agrees_checkText {value context : Text} :
    Agrees maxDepth d 0 (do let _ ← checkText value context) := by
  apply agrees_leaf
  rintro ⟨message, h⟩
  cases hcheck : checkText value context with
  | ok t =>
    rw [hcheck] at h
    cases h
  | error e =>
    rw [hcheck] at h
    cases h
    exact checkText_shallow ⟨message, hcheck⟩

theorem agrees_checkInteger {value : ℤ} {context : Text} :
    Agrees maxDepth d 0 (checkInteger value context) := by
  apply agrees_leaf
  rintro ⟨message, h⟩
  rw [checkInteger] at h
  split at h <;> cases h

theorem agrees_checkFloat {value : FloatLiteral} {context : Text} :
    Agrees maxDepth d 0 (checkFloat value context) := by
  apply agrees_leaf
  rintro ⟨message, h⟩
  rw [checkFloat] at h
  split at h <;> cases h

/-- A container is checked before what it holds. -/
theorem agrees_container {k : ℕ} {context : Text} {result : Except JsonSafetyError Unit}
    (h : Agrees maxDepth (d + 1) k result) : Agrees maxDepth d (k + 1)
      (if maxDepth < d + 1 then .error (tooDeepToSerialise maxDepth context) else result) := by
  split
  · rename_i hdeep
    constructor
    · intro hfits
      unfold Fits at hfits
      omega
    · nofun
  · rename_i hroom
    have hiff : Fits maxDepth d (k + 1) ↔ Fits maxDepth (d + 1) k := by
      unfold Fits
      omega
    exact ⟨fun hfits => h.shallow (hiff.mp hfits), fun hok => hiff.mpr (h.fits hok)⟩

mutual

theorem agrees_walk (context : Text) (d : ℕ) (x : Loaded) :
    Agrees maxDepth d x.depth (walk repr maxDepth context d x) := by
  cases x with
  | none | bool => exact agrees_leaf (by rintro ⟨message, ⟨⟩⟩)
  | int => exact agrees_checkInteger
  | float => exact agrees_checkFloat
  | str => exact agrees_checkText
  | list items =>
    rw [walk, Loaded.depth]
    exact agrees_container (agrees_walkItems context (d + 1) 0 items)
  | dict entries =>
    rw [walk, Loaded.depth]
    exact agrees_container (agrees_walkEntries context (d + 1) entries)

theorem agrees_walkEntries (context : Text) (d : ℕ) (entries : List (Text × Loaded)) :
    Agrees maxDepth d (Loaded.depthEntries entries)
      (walkEntries repr maxDepth context d entries) := by
  match entries with
  | [] => exact agrees_leaf (by rintro ⟨message, ⟨⟩⟩)
  | (key, item) :: entries =>
    rw [walkEntries, Loaded.depthEntries]
    have hitem := agrees_walk (context ++ Text.ofString "." ++ key) d item
    have hrest := hitem.seq (agrees_walkEntries context d entries)
    cases hkey : checkText key (context ++ Text.ofString ": key " ++ repr key) with
    | ok t => exact hrest
    | error e =>
      constructor
      · rintro - ⟨message, hmessage⟩
        exact checkText_shallow ⟨message, hkey.trans (by cases hmessage; rfl)⟩
      · nofun

theorem agrees_walkItems (context : Text) (d index : ℕ) (items : List Loaded) :
    Agrees maxDepth d (Loaded.depthItems items)
      (walkItems repr maxDepth context d index items) := by
  cases items with
  | nil => exact agrees_leaf (by rintro ⟨message, ⟨⟩⟩)
  | cons item items =>
    rw [walkItems, Loaded.depthItems]
    exact (agrees_walk _ d item).seq (agrees_walkItems context d (index + 1) items)

end

theorem agrees_ensureJsonSafe (context : Text) (x : Loaded) :
    (Fits maxDepth 0 x.depth → ¬TooDeep (ensureJsonSafe repr maxDepth context x)) ∧
      (ensureJsonSafe repr maxDepth context x = .ok x → Fits maxDepth 0 x.depth) := by
  have hwalk : Agrees maxDepth 0 x.depth (walk repr maxDepth context 0 x) :=
    agrees_walk context 0 x
  rw [ensureJsonSafe]
  cases hresult : walk repr maxDepth context 0 x with
  | ok u =>
    rw [hresult] at hwalk
    constructor
    · rintro - ⟨message, ⟨⟩⟩
    · intro _
      exact hwalk.fits rfl
  | error e =>
    rw [hresult] at hwalk
    constructor
    · rintro hfits ⟨message, ⟨⟩⟩
      exact hwalk.shallow hfits ⟨message, rfl⟩
    · nofun

end Depth

section Agreement

variable {repr : Text → Text} {maxStrDigits : ℕ} {w : Text} {v : Json} {x : Loaded}

/-- The scan of a text against the walk over the value that it is read as. What the scan accepts is
never too deep for the walk. The converse needs names that are not repeated and a walk that no
other error ends. What stands inside of strings does not change the answer of the scan. -/
theorem raw_depth_agrees (hw : Denotes w v) (hx : load maxStrDigits v = some x) (maxDepth : ℤ)
    (context context' : Text) :
    (ensureRawJsonDepth context maxDepth w = .ok w →
      ¬TooDeep (ensureJsonSafe repr maxDepth context' x)) ∧
    (Distinct v →
      (∀ e, ensureJsonSafe repr maxDepth context' x = .error e → TooDeep (.error e : Except _ Unit)) →
      (ensureRawJsonDepth context maxDepth w = .ok w ↔
        ¬TooDeep (ensureJsonSafe repr maxDepth context' x))) ∧
    ∀ w' v', Denotes w' v' → erase v' = erase v →
      (ensureRawJsonDepth context maxDepth w' = .ok w' ↔
        ensureRawJsonDepth context maxDepth w = .ok w) := by
  obtain ⟨hshallow, hfits⟩ := @agrees_ensureJsonSafe repr maxDepth context' x
  obtain ⟨hle, heq⟩ := load_depth hx
  have hweaken : Fits maxDepth 0 (depth v) → Fits maxDepth 0 x.depth := by
    unfold Fits
    omega
  refine ⟨?_, ?_, ?_⟩
  · intro haccepts
    exact hshallow (hweaken ((ensureRawJsonDepth_iff hw).mp haccepts))
  · intro hdistinct honly
    constructor
    · intro haccepts
      exact hshallow (hweaken ((ensureRawJsonDepth_iff hw).mp haccepts))
    · intro hnot
      rw [ensureRawJsonDepth_iff hw, ← heq hdistinct]
      cases hresult : ensureJsonSafe repr maxDepth context' x with
      | error e =>
        rw [hresult] at hnot
        obtain ⟨message, hmessage⟩ := honly e hresult
        cases hmessage
        exact absurd ⟨message, rfl⟩ hnot
      | ok y =>
        apply hfits
        rw [ensureJsonSafe] at hresult ⊢
        cases hwalk : walk repr maxDepth context' 0 x with
        | ok u => rfl
        | error e =>
          rw [hwalk] at hresult
          cases hresult
  · intro w' v' hw' herase
    rw [ensureRawJsonDepth_iff hw, ensureRawJsonDepth_iff hw', ← depth_erase v', herase,
      depth_erase]

/-- An object whose two members have the name `a`: an empty array, and null. -/
def repeated : Text :=
  [beginObject] ++ (((quoted [0x61] ++ ([nameSeparator] ++ ([beginArray] ++ [endArray]))) ++
    ([valueSeparator] ++ (quoted [0x61] ++ ([nameSeparator] ++ nullText)))) ++ [endObject])

/-- An array of a lone surrogate and an empty array. -/
def surrogateFirst : Text :=
  [beginArray] ++ ((quoted [escape, unicodeEscape, 0x64, 0x38, 0x30, 0x30] ++
    ([valueSeparator] ++ ([beginArray] ++ [endArray]))) ++ [endArray])

theorem structural_self (c : CodePoint) : Structural c [c] := ⟨[], [], nofun, nofun, rfl⟩

theorem denotes_of_derives (h : Derives .value v w) : Denotes w v :=
  ⟨[], w, [], (List.append_nil w).symm, nofun, nofun, h⟩

theorem repeated_denotes :
    Denotes repeated (.object [([0x61], .array []), ([0x61], .null)]) := by
  have hname : Chars [0x61] := .unescaped (by decide) .nil
  apply denotes_of_derives
  exact .ofObject (.object (structural_self _)
    (.moreMembers
      (.member hname (structural_self _)
        (.ofArray (.emptyArray (structural_self _) (structural_self _))))
      (structural_self _) (.lastMember (.member hname (structural_self _) .null)))
    (structural_self _))

theorem surrogateFirst_denotes : Denotes surrogateFirst
    (.array [.string [escape, unicodeEscape, 0x64, 0x38, 0x30, 0x30], .array []]) := by
  have hbody : Chars [escape, unicodeEscape, 0x64, 0x38, 0x30, 0x30] :=
    .unicode (by decide) (by decide) (by decide) (by decide) .nil
  apply denotes_of_derives
  exact .ofArray (.array (structural_self _)
    (.moreElements (.string hbody) (structural_self _)
      (.lastElement (.ofArray (.emptyArray (structural_self _) (structural_self _)))))
    (structural_self _))

theorem nested_denotes :
    Denotes ([beginArray] ++ (([beginArray] ++ [endArray]) ++ [endArray])) (.array [.array []]) := by
  apply denotes_of_derives
  exact .ofArray (.array (structural_self _)
    (.lastElement (.ofArray (.emptyArray (structural_self _) (structural_self _))))
    (structural_self _))

/-- Two arrays have room under the limit 2, for the scan as for the walk. -/
theorem nested_agrees :
    ensureRawJsonDepth [] 2 ([beginArray] ++ (([beginArray] ++ [endArray]) ++ [endArray])) =
        .ok ([beginArray] ++ (([beginArray] ++ [endArray]) ++ [endArray])) ↔
      ¬TooDeep (ensureJsonSafe id 2 [] (.list [.list []])) :=
  (@raw_depth_agrees id 4300 _ _ _ nested_denotes rfl 2 [] []).2.1
    ⟨trivial, trivial⟩ (by rintro e ⟨⟩)

/-- With the limit 1, the scan refuses both texts. The walk over the first meets no second
container, and over the second it meets the surrogate before. -/
theorem depths_differ :
    ¬(∀ w v, Denotes w v → ∀ x, load 4300 v = some x → ∀ maxDepth context,
      (ensureRawJsonDepth context maxDepth w = .ok w ↔
        ¬TooDeep (ensureJsonSafe id maxDepth context x))) ∧
    ¬(∀ w v, Denotes w v → Distinct v → ∀ x, load 4300 v = some x → ∀ maxDepth context,
      (ensureRawJsonDepth context maxDepth w = .ok w ↔
        ¬TooDeep (ensureJsonSafe id maxDepth context x))) := by
  constructor
  · intro h
    have hshallow : ¬TooDeep (ensureJsonSafe id 1 [] (.dict [([0x61], .none)])) :=
      agrees_ensureJsonSafe [] _ |>.1 (by decide)
    have haccepts := (h _ _ repeated_denotes _ rfl 1 []).mpr hshallow
    exact absurd ((ensureRawJsonDepth_iff repeated_denotes).mp haccepts) (by decide)
  · intro h
    have hshallow : ¬TooDeep (ensureJsonSafe id 1 [] (.list [.str [0xD800], .list []])) := by
      rintro ⟨message, ⟨⟩⟩
    have haccepts := (h _ _ surrogateFirst_denotes ⟨trivial, trivial, trivial⟩ _ rfl 1 []).mpr
      hshallow
    exact absurd ((ensureRawJsonDepth_iff surrogateFirst_denotes).mp haccepts) (by decide)

end Agreement

end OperateBench.JsonSafety
