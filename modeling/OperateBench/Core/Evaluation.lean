import Mathlib.Data.List.Induction
import OperateBench.Core.Ledger
import OperateBench.Core.ReadContract

/-! # Evaluated dimensions

What a grader states about an episode, and how it reads the untyped rows and roots
of the artefact it grades.
-/

namespace OperateBench

open Foundation

/-- One reason why a dimension does not hold. -/
structure Finding where
  code : String
  detail : String
  instant : Option String := none

/-- One evaluated property of an episode. -/
structure Dimension where
  name : String
  ok : Bool
  findings : List Finding
  counts : List (String × ℕ)
  note : String := ""

namespace Value

section Equality

mutual

/-- `a == b`. An integral float is not identified with the integer it equals. -/
def same : Value → Value → Bool
  | none, none => true
  | bool a, bool b => a == b
  | bool a, int i => (if a then 1 else 0) == i
  | int i, bool b => i == (if b then 1 else 0)
  | int i, int j => i == j
  | float a, float b => a == b
  | str a, str b => a == b
  | list a, list b => sameItems a b
  | tuple a, tuple b => sameItems a b
  | dict a, dict b => a.length == b.length && sameEntries a b
  | other a, other b => a == b
  | _, _ => false

def sameItems : List Value → List Value → Bool
  | [], [] => true
  | v :: vs, w :: ws => v.same w && sameItems vs ws
  | _, _ => false

def sameEntries : List (Value × Value) → List (Value × Value) → Bool
  | [], _ => true
  | (k, v) :: es, fs =>
    (fs.any fun e => k.asStr? == e.1.asStr? && v.same e.2) && sameEntries es fs

end

mutual

/-- The type that keeps the value from being a member of a set. -/
def unhashable? : Value → Option String
  | list _ => some "list"
  | dict _ => some "dict"
  | tuple items => unhashableItem? items
  | _ => Option.none

def unhashableItem? : List Value → Option String
  | [] => Option.none
  | v :: vs => v.unhashable?.orElse fun _ => unhashableItem? vs

end

/-- `hash(value)`, as far as it can fail. -/
def hashed (v : Value) : Except PyError Value :=
  match v.unhashable? with
  | some typeName => .error (.type s!"unhashable type: {pyRepr typeName}")
  | Option.none => .ok v

/-- `set(values)`. -/
def asSet (vs : List Value) : Except PyError (List Value) := do
  let vs ← vs.mapM hashed
  return vs.foldl (fun set v => if set.any v.same then set else set ++ [v]) []

/-- `value in values`, for a set of values. -/
def isIn (v : Value) (set : List Value) : Except PyError Bool := do
  let v ← v.hashed
  return set.any v.same

theorem hashed_ok {v w : Value} (h : v.hashed = .ok w) : v = w := by
  rw [hashed] at h
  split at h
  · cases h
  · exact Except.ok.inj h

theorem same_str_right (v : Value) (s : String) : v.same (str s) = v.isStr s := by
  cases v <;> simp [same, isStr, asStr?]

/-- Membership in a set of texts, where it does not raise. -/
theorem isIn_texts {v : Value} {texts : List String} {b : Bool}
    (h : v.isIn (texts.map str) = .ok b) : texts.any v.isStr = b := by
  obtain ⟨w, hw, h⟩ := bind_ok h
  obtain rfl := hashed_ok hw
  rw [← pure_ok h, List.any_map]
  exact congrArg texts.any (funext fun s => (same_str_right v s).symm)

end Equality

section Numbers

/-- The integer that a float equals, where its text shows no exponent. -/
def integral? (repr : String) : Option Int :=
  let value (digits : List Char) : Option ℕ :=
    if digits.all Char.isDigit then
      some (Nat.ofDigitChars 10 digits 0)
    else Option.none
  match repr.toList.reverse with
  | '0' :: '.' :: digits =>
    match digits.reverse with
    | '-' :: digits => (value digits).map fun n => -n
    | digits => (value digits).map Int.ofNat
  | _ => Option.none

mutual

/-- The value with the integers that booleans and integral floats equal in their place. -/
def counted : Value → Value
  | bool b => int (if b then 1 else 0)
  | float repr => match integral? repr with
    | some i => int i
    | Option.none => float repr
  | list items => list (countedItems items)
  | tuple items => tuple (countedItems items)
  | dict entries => dict (countedEntries entries)
  | v => v

def countedItems : List Value → List Value
  | [] => []
  | v :: vs => v.counted :: countedItems vs

def countedEntries : List (Value × Value) → List (Value × Value)
  | [] => []
  | (k, v) :: es => (k, v.counted) :: countedEntries es

end

/-- `a == b`, for values that may hold floats. -/
def equals (v w : Value) : Bool := v.counted.same w.counted

/-- `isinstance(value, int)`, with the integer. -/
def integer? : Value → Option Int
  | int i => some i
  | bool b => some (if b then 1 else 0)
  | _ => Option.none

mutual

theorem same_self : ∀ v : Value, v.same v = true
  | none => rfl
  | bool b => by simp [same]
  | int i => by simp [same]
  | float repr => by simp [same]
  | str s => by simp [same]
  | list items => by simpa only [same] using sameItems_self items
  | tuple items => by simpa only [same] using sameItems_self items
  | dict entries => by
    simpa only [same, BEq.rfl, Bool.true_and] using sameEntries_self entries entries fun _ h => h
  | other name => by simp [same]

theorem sameItems_self : ∀ vs : List Value, sameItems vs vs = true
  | [] => rfl
  | v :: vs => by
    rw [sameItems, same_self v, sameItems_self vs, Bool.and_self]

theorem sameEntries_self : ∀ es fs : List (Value × Value), es ⊆ fs → sameEntries es fs = true
  | [], _, _ => rfl
  | (k, v) :: es, fs, h => by
    rw [sameEntries, sameEntries_self es fs fun e he => h (List.mem_cons_of_mem _ he),
      Bool.and_true, List.any_eq_true]
    exact ⟨(k, v), h List.mem_cons_self, by rw [same_self v, BEq.rfl, Bool.and_self]⟩

end

/-- A set holds an equal of each value that it was made of. -/
theorem mem_asSet {vs set : List Value} {v : Value} (h : asSet vs = .ok set) (hv : v ∈ vs) :
    ∃ w ∈ set, v.same w = true := by
  obtain ⟨ws, hws, h⟩ := bind_ok h
  obtain ⟨v', hv', hhashed⟩ := exists_of_mapM hws hv
  obtain rfl := hashed_ok hhashed
  rw [← pure_ok h]
  clear hws h hv
  induction ws using List.reverseRecOn with
  | nil => cases hv'
  | append_singleton ws w ih =>
    rw [List.foldl_append, List.foldl_cons, List.foldl_nil]
    rcases List.mem_append.mp hv' with hold | hlast
    · obtain ⟨u, hu, hsame⟩ := ih hold
      split
      · exact ⟨u, hu, hsame⟩
      · exact ⟨u, List.mem_append_left _ hu, hsame⟩
    · obtain rfl := List.mem_singleton.mp hlast
      split
      · exact List.any_eq_true.mp ‹_›
      · exact ⟨v, by simp, same_self v⟩

theorem counted_of_integer? {v : Value} {n : Int} (h : v.integer? = some n) :
    v.counted = int n := by
  cases v <;> simp_all [integer?, counted]

/-- A set holds only values that it was made of. -/
theorem mem_of_asSet {vs set : List Value} {w : Value} (h : asSet vs = .ok set) (hw : w ∈ set) :
    w ∈ vs := by
  obtain ⟨ws, hws, h⟩ := bind_ok h
  rw [← pure_ok h] at hw
  have hmem : w ∈ ws := by
    clear hws h
    induction ws using List.reverseRecOn with
    | nil => cases hw
    | append_singleton ws v ih =>
      rw [List.foldl_append, List.foldl_cons, List.foldl_nil] at hw
      split at hw
      · exact List.mem_append_left _ (ih hw)
      · rcases List.mem_append.mp hw with hold | hlast
        · exact List.mem_append_left _ (ih hold)
        · exact List.mem_append_right _ hlast
  obtain ⟨v, hv, hhashed⟩ := mem_of_mapM hws hmem
  exact hashed_ok hhashed ▸ hv

theorem isNone_of_counted {v : Value} {n : Int} (h : v.counted = int n) : v.isNone = false := by
  cases v with
  | none => cases h
  | _ => rfl

/-- A value equals what counts as an integer when it counts as the same integer. -/
theorem equals_iff_counted {v w : Value} {n : Int} (hw : w.counted = int n) :
    v.equals w = true ↔ v.counted = int n := by
  rw [equals, hw]
  constructor
  · intro h
    cases v with
    | float repr =>
      rw [counted] at h ⊢
      split at h <;> simp_all [same]
    | _ => simp_all [counted, same]
  · intro h
    rw [h, same_self]

theorem counted_of_equals {v w : Value} {n : Int} (hv : v.counted = int n)
    (h : v.equals w = true) : w.counted = int n := by
  rw [equals, hv] at h
  cases w with
  | float repr =>
    rw [counted] at h ⊢
    split at h <;> simp_all [same]
  | _ => simp_all [counted, same]

theorem equals_int {v : Value} {n : Int} : v.equals (int n) = true ↔ v.counted = int n :=
  equals_iff_counted rfl

end Numbers

section Access

/-- `value is True`. -/
def isTrue : Value → Bool
  | bool b => b
  | _ => false

/-- `value.get(name)`. -/
def field (v : Value) (name : String) : Value := (v.lookup? name).getD none

/-- The members of a sequence. -/
def items : Value → List Value
  | list items | tuple items => items
  | _ => []

/-- The items of a mapping with string keys. -/
def fields : Value → List (String × Value)
  | dict entries => entries.map fun e => (e.1.text, e.2)
  | _ => []

theorem lookup?_ofFields (es : List (String × Value)) (name : String) :
    (ofFields es).lookup? name = (es.find? fun e => e.1 = name).map Prod.snd := by
  simp only [ofFields, lookup?, List.find?_map, Option.map_map]
  congr 1

@[simp] theorem isStr_str (s t : String) : (str s).isStr t = (s == t) := rfl

@[simp] theorem same_str (s t : String) : (str s).same (str t) = (s == t) := by
  simp [same]

theorem isStr_iff {v : Value} {s : String} : v.isStr s = true ↔ v = str s := by
  cases v <;> simp [isStr, asStr?]

theorem find?_eq_findEntry (es : List (String × Value)) (name : String) :
    (es.find? fun e => e.1 = name).map Prod.snd = Dict.findEntry name es := by
  induction es with
  | nil => rfl
  | cons e es ih =>
    by_cases h : e.1 = name
    · simp [Dict.findEntry, h]
    · simpa [Dict.findEntry, h] using ih

theorem lookup?_asDict (payload : Fields) (name : String) :
    payload.asDict.lookup? name = payload.get? name := by
  rw [Fields.asDict, lookup?_ofFields, find?_eq_findEntry]
  rfl

theorem field_asDict (payload : Fields) (name : String) :
    payload.asDict.field name = payload.get name := by
  rw [field, lookup?_asDict]
  rfl

end Access

end Value

/-- `row.get(name)`, for a field that the ledger does not own. -/
def Record.get (row : Record) (name : String) : Value := row.payload.get name

def Record.isType (row : Record) (recordType : String) : Bool := row.recordType = recordType

/-- `row.get(name) == text`. -/
def Record.gives (row : Record) (name text : String) : Bool := (row.get name).isStr text

section Positions

variable (trajectory : List Record)

/-- The positions at which a row satisfies the predicate. -/
def positions (p : ℕ → Record → Bool) : List ℕ :=
  (trajectory.zipIdx.filter fun e => p e.2 e.1).map Prod.snd

/-- The rows strictly between two positions. -/
def interval (start stop : ℕ) : List Record := (trajectory.take stop).drop (start + 1)

end Positions

end OperateBench
