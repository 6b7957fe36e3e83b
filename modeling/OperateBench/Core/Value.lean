import Mathlib.Algebra.Ring.Int.Defs
import Mathlib.Algebra.Ring.Nat
import Mathlib.Data.List.Dedup
import Mathlib.Data.List.Sort
import OperateBench.Foundation.Dict
import OperateBench.Foundation.Text

/-! # Untyped values

What an agent returns and what a payload carries is untyped when it reaches the
engine. A `Value` is such an object: JSON's scalars and containers, the tuple, and
`other` for an object of any further class, known by its type name only. Text is
a sequence of Unicode scalar values, and every character outside ASCII counts as
printable in `repr`.
-/

namespace OperateBench

open Foundation

inductive Value where
  | none
  | bool (b : Bool)
  | int (i : Int)
  | float (repr : String)
  | str (s : String)
  | list (items : List Value)
  | tuple (items : List Value)
  | dict (entries : List (Value × Value))
  | other (typeName : String)
  deriving Repr, Inhabited

/-- The exceptions that can leave a modelled function. -/
inductive PyError where
  | malformedTimestamp (message : String)
  | clockRewind (message : String)
  | overflow (message : String)
  | duplicateEvent (message : String)
  | ledgerField (message : String)
  | jsonSafety (context : String)
  | value (message : String)
  | key (name : String)
  | type (message : String)
  | assertion
  deriving Repr, DecidableEq

/-- `repr` of a character inside a string quoted by `quote`. -/
def reprChar (quote c : Char) : List Char :=
  if c = quote ∨ c = '\\' then ['\\', c]
  else if c = '\n' then ['\\', 'n']
  else if c = '\r' then ['\\', 'r']
  else if c = '\t' then ['\\', 't']
  else if c.toNat < 32 ∨ c.toNat = 127 then
    ['\\', 'x', Nat.digitChar (c.toNat / 16), Nat.digitChar (c.toNat % 16)]
  else [c]

def pyRepr (s : String) : String :=
  let cs := s.toList
  let quote := if '\'' ∈ cs ∧ '"' ∉ cs then '"' else '\''
  String.ofList (quote :: cs.flatMap (reprChar quote) ++ [quote])

def commaSeparated : List String → String
  | [] => ""
  | [s] => s
  | s :: t => s ++ ", " ++ commaSeparated t

def reprList (ss : List String) : String :=
  "[" ++ commaSeparated (ss.map pyRepr) ++ "]"

def sortTexts (ss : List String) : List String := ss.insertionSort fun a b => a ≤ b

/-- `sorted(set(ss))`. -/
def sortedSet (ss : List String) : List String := sortTexts ss.dedup

theorem sortTexts_eq_nil {ss : List String} : sortTexts ss = [] ↔ ss = [] := by
  rw [← List.length_eq_zero_iff, sortTexts, List.length_insertionSort, List.length_eq_zero_iff]

theorem sortedSet_eq_nil {ss : List String} : sortedSet ss = [] ↔ ss = [] := by
  rw [sortedSet, sortTexts_eq_nil, List.dedup_eq_nil]

namespace Value

def typeName : Value → String
  | none => "NoneType"
  | bool _ => "bool"
  | int _ => "int"
  | float _ => "float"
  | str _ => "str"
  | list _ => "list"
  | tuple _ => "tuple"
  | dict _ => "dict"
  | other name => name

/-- `bool(value)`. An object of a further class is true, as one without hooks is. -/
def truthy : Value → Bool
  | none => false
  | bool b => b
  | int i => i != 0
  | float repr => repr != "0.0" && repr != "-0.0"
  | str s => s != ""
  | list items => !items.isEmpty
  | tuple items => !items.isEmpty
  | dict entries => !entries.isEmpty
  | other _ => true

mutual

def repr : Value → String
  | none => "None"
  | bool b => if b then "True" else "False"
  | int i => toString i
  | float text => text
  | str s => pyRepr s
  | list items => "[" ++ commaSeparated (reprItems items) ++ "]"
  | tuple [item] => "(" ++ item.repr ++ ",)"
  | tuple items => "(" ++ commaSeparated (reprItems items) ++ ")"
  | dict entries => "\x7b" ++ commaSeparated (reprEntries entries) ++ "\x7d"
  | other name => "<" ++ name ++ " object>"

def reprItems : List Value → List String
  | [] => []
  | v :: vs => v.repr :: reprItems vs

def reprEntries : List (Value × Value) → List String
  | [] => []
  | (k, v) :: es => (k.repr ++ ": " ++ v.repr) :: reprEntries es

end

/-- `str(value)`: a string is itself, everything else its `repr`. -/
def text : Value → String
  | str s => s
  | v => v.repr

/-- `isinstance(value, str)`, with the string. -/
def asStr? : Value → Option String
  | str s => some s
  | _ => Option.none

/-- `int(value)` of a value already known to be an integer. -/
def number : Value → Int
  | int i => i
  | bool true => 1
  | _ => 0

/-- `value == s` for a string `s`. -/
def isStr (v : Value) (s : String) : Bool := v.asStr? == some s

/-- `value == n` for an integer `n`; a boolean equals the integer it counts as. -/
def isInt (n : Int) : Value → Bool
  | int i => i == n
  | bool b => (if b then 1 else 0) == n
  | _ => false

def isNone : Value → Bool
  | none => true
  | _ => false

def ofText? (s : Option String) : Value := (s.map str).getD none

def ofTexts (ss : List String) : Value := list (ss.map str)

def ofFields (fields : List (String × Value)) : Value :=
  dict (fields.map fun e => (str e.1, e.2))

/-- The most containers that may be open at once in a persisted document. -/
def maxJsonDepth : ℕ := 64

/-- The least magnitude of an integer the interpreter does not convert to text. -/
def maxJsonInteger : ℕ := 10 ^ 4300

mutual

/-- Whether the interpreter converts every integer of the value to text. -/
def renderable : Value → Bool
  | int i => i.natAbs < maxJsonInteger
  | list items | tuple items => itemsRenderable items
  | dict entries => entriesRenderable entries
  | _ => true

def itemsRenderable : List Value → Bool
  | [] => true
  | v :: vs => v.renderable && itemsRenderable vs

def entriesRenderable : List (Value × Value) → Bool
  | [] => true
  | (k, v) :: es => k.renderable && v.renderable && entriesRenderable es

end

/-- `repr(value)`, which the interpreter refuses for a wide integer. -/
def reprText (v : Value) : Except PyError String :=
  if v.renderable then .ok v.repr
  else .error (.value "Exceeds the limit (4300 digits) for integer string conversion")

mutual

/-- Whether canonical JSON carries the value, with `room` more containers to open. -/
def jsonSafe : ℕ → Value → Bool
  | _, none | _, bool _ | _, str _ => true
  | _, int i => i.natAbs < maxJsonInteger
  | _, float text => text != "nan" && text != "inf" && text != "-inf"
  | room, list items => room != 0 && itemsJsonSafe (room - 1) items
  | room, tuple items => room != 0 && itemsJsonSafe (room - 1) items
  | room, dict entries => room != 0 && entriesJsonSafe (room - 1) entries
  | _, other _ => false

def itemsJsonSafe : ℕ → List Value → Bool
  | _, [] => true
  | room, v :: vs => v.jsonSafe room && itemsJsonSafe room vs

def entriesJsonSafe : ℕ → List (Value × Value) → Bool
  | _, [] => true
  | room, (k, v) :: es => k.asStr?.isSome && v.jsonSafe room && entriesJsonSafe room es

end

mutual

/-- The value rebuilt out of plain dictionaries, lists and scalars. -/
def plain : Value → Value
  | list items | tuple items => list (plainItems items)
  | dict entries => dict (plainEntries entries)
  | v => v

def plainItems : List Value → List Value
  | [] => []
  | v :: vs => v.plain :: plainItems vs

def plainEntries : List (Value × Value) → List (Value × Value)
  | [] => []
  | (k, v) :: es => (str k.text, v.plain) :: plainEntries es

end

end Value

/-- A mapping with string keys: a payload, an argument set, a record body. -/
abbrev Fields := Dict String Value

namespace Fields

/-- `dict(fields)`, as a value. -/
def asDict (fields : Fields) : Value := .ofFields fields.entries

/-- `payload.get(name)`. -/
def get (fields : Fields) (name : String) : Value := (fields.get? name).getD .none

/-- `str(payload[name])`, for a field that validation has found present. -/
def text (fields : Fields) (name : String) : String := (fields.get name).text

/-- `payload.get(name)` where it is a text. -/
def text? (fields : Fields) (name : String) : Option String := (fields.get name).asStr?

/-- `int(payload[name])`, for a field that validation has found to be an integer. -/
def number (fields : Fields) (name : String) : Int := (fields.get name).number

end Fields

end OperateBench
