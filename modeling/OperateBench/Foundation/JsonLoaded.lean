import Mathlib.Data.Nat.Digits.Defs
import OperateBench.Foundation.Dict
import OperateBench.Foundation.Json

/-! # What a JSON text is read as

The value that Python's reader makes of a text: escapes are replaced, a pair of surrogates is one
code point, and the last of the members with one name is kept. A float keeps the decimal that it is
rounded from. Its depth and that of the tree that it is read from, the containers on the longest way
in, differ only where an object repeats a name.
-/

namespace Foundation.Json

section Strings

def hexDigit (c : CodePoint) : ℕ :=
  if Digit c then c - 0x30 else if c ≤ 0x46 then c - 0x41 + 10 else c - 0x61 + 10

def fourDigits (a b c d : CodePoint) : ℕ :=
  hexDigit a * 4096 + hexDigit b * 256 + hexDigit c * 16 + hexDigit d

/-- The character that an escape stands for. -/
def unescaped (c : CodePoint) : CodePoint :=
  if c = 0x62 then 0x08
  else if c = 0x66 then 0x0C
  else if c = 0x6E then 0x0A
  else if c = 0x72 then 0x0D
  else if c = 0x74 then 0x09
  else c

/-- A high surrogate is joined with a low one that follows it as an escape too. -/
def unescape : Text → Text
  | [] => []
  | c :: w =>
    if c = escape then
      match w with
      | [] => [c]
      | mark :: w =>
        if mark = unicodeEscape then
          match w with
          | a :: b :: c :: d :: w =>
            let high := fourDigits a b c d
            match w with
            | e :: u :: a' :: b' :: c' :: d' :: w' =>
              let low := fourDigits a' b' c' d'
              if 0xD800 ≤ high ∧ high ≤ 0xDBFF ∧ e = escape ∧ u = unicodeEscape ∧
                  0xDC00 ≤ low ∧ low ≤ 0xDFFF then
                Fin.ofNat 0x110000 (0x10000 + (high - 0xD800) * 1024 + (low - 0xDC00)) ::
                  unescape w'
              else Fin.ofNat 0x110000 high :: unescape (e :: u :: a' :: b' :: c' :: d' :: w')
            | w => Fin.ofNat 0x110000 high :: unescape w
          | w => unescape w
        else unescaped mark :: unescape w
    else c :: unescape w

end Strings

section Numbers

def digitsValue (w : Text) : ℕ := w.foldl (fun n c => n * 10 + (c - 0x30)) 0

/-- The sign, the digits without the point, and the exponent of the last of them. -/
structure FloatLiteral where
  negative : Bool
  digits : ℕ
  exponent : ℤ

/-- From here on a number is rounded to infinity. -/
def overflowBound : ℕ := 2 ^ 1024 - 2 ^ 970

def FloatLiteral.isFinite (x : FloatLiteral) : Bool :=
  if 0 ≤ x.exponent then x.digits * 10 ^ x.exponent.toNat < overflowBound
  else x.digits < overflowBound * 10 ^ (-x.exponent).toNat

end Numbers

inductive Loaded
  | none
  | bool (value : Bool)
  | int (value : ℤ)
  | float (value : FloatLiteral)
  | str (value : Text)
  | list (items : List Loaded)
  | dict (entries : List (Text × Loaded))

section Load

variable (maxStrDigits : ℕ)

def exponentValue : Text → ℤ
  | _ :: sign :: digits =>
    if sign = minus then -(digitsValue digits : ℤ)
    else if sign = plus then digitsValue digits
    else digitsValue (sign :: digits)
  | _ => 0

/-- The interpreter refuses to convert more digits than its limit; zero stands for no limit. -/
def loadInt (negative : Bool) (int : Text) : Option Loaded :=
  if maxStrDigits ≠ 0 ∧ maxStrDigits < int.length then Option.none
  else some (.int (if negative then -(digitsValue int : ℤ) else digitsValue int))

def loadFloat (negative : Bool) (int rest : Text) : FloatLiteral :=
  let pointed : Bool := rest.head? = some decimalPoint
  let behind := if pointed then rest.tail else []
  let fraction := behind.takeWhile fun c => Digit c
  let exponent := if pointed then behind.dropWhile fun c => Digit c else rest
  { negative
    digits := digitsValue (int ++ fraction)
    exponent := exponentValue exponent - fraction.length }

/-- A numeral with neither fraction nor exponent is an integer. -/
def loadNumber (literal : Text) : Option Loaded :=
  let negative : Bool := literal.head? = some minus
  let unsigned := if negative then literal.tail else literal
  let int := unsigned.takeWhile fun c => Digit c
  let rest := unsigned.dropWhile fun c => Digit c
  if rest = [] then loadInt maxStrDigits negative int
  else some (.float (loadFloat negative int rest))

/-- The entries of `dict(pairs)`. -/
def dictOf (pairs : List (Text × Loaded)) : List (Text × Loaded) :=
  pairs.foldl (fun entries pair => Dict.putEntry pair.1 pair.2 entries) []

mutual

/-- The value of a tree; none where the reader raises on an integer. -/
def load : Json → Option Loaded
  | .null => some .none
  | .bool value => some (.bool value)
  | .number literal => loadNumber maxStrDigits literal
  | .string body => some (.str (unescape body))
  | .array elements => (loadElements elements).map .list
  | .object members => (loadMembers members).map fun pairs => .dict (dictOf pairs)

def loadElements : List Json → Option (List Loaded)
  | [] => some []
  | v :: vs => do
    let x ← load v
    let xs ← loadElements vs
    return x :: xs

def loadMembers : List (Text × Json) → Option (List (Text × Loaded))
  | [] => some []
  | (name, v) :: ms => do
    let x ← load v
    let xs ← loadMembers ms
    return (unescape name, x) :: xs

end

end Load

mutual

def depth : Json → ℕ
  | .array elements => depthElements elements + 1
  | .object members => depthMembers members + 1
  | .null | .bool _ | .number _ | .string _ => 0

def depthElements : List Json → ℕ
  | [] => 0
  | v :: vs => max (depth v) (depthElements vs)

def depthMembers : List (Text × Json) → ℕ
  | [] => 0
  | (_, v) :: ms => max (depth v) (depthMembers ms)

end

mutual

/-- No object repeats a name, after the escapes in it are replaced. -/
def Distinct : Json → Prop
  | .array elements => DistinctElements elements
  | .object members => (members.map fun m => unescape m.1).Nodup ∧ DistinctMembers members
  | .null | .bool _ | .number _ | .string _ => True

def DistinctElements : List Json → Prop
  | [] => True
  | v :: vs => Distinct v ∧ DistinctElements vs

def DistinctMembers : List (Text × Json) → Prop
  | [] => True
  | (_, v) :: ms => Distinct v ∧ DistinctMembers ms

end

mutual

/-- The tree without what stands inside of its strings. -/
def erase : Json → Json
  | .null => .null
  | .bool value => .bool value
  | .number literal => .number literal
  | .string _ => .string []
  | .array elements => .array (eraseElements elements)
  | .object members => .object (eraseMembers members)

def eraseElements : List Json → List Json
  | [] => []
  | v :: vs => erase v :: eraseElements vs

def eraseMembers : List (Text × Json) → List (Text × Json)
  | [] => []
  | (_, v) :: ms => ([], erase v) :: eraseMembers ms

end

namespace Loaded

mutual

def depth : Loaded → ℕ
  | .list items => depthItems items + 1
  | .dict entries => depthEntries entries + 1
  | .none | .bool _ | .int _ | .float _ | .str _ => 0

def depthItems : List Loaded → ℕ
  | [] => 0
  | x :: xs => max (depth x) (depthItems xs)

def depthEntries : List (Text × Loaded) → ℕ
  | [] => 0
  | (_, x) :: es => max (depth x) (depthEntries es)

end

end Loaded

section Erase

mutual

theorem depth_erase (v : Json) : depth (erase v) = depth v := by
  cases v with
  | null | bool | number | string => rfl
  | array elements => rw [erase, depth, depth, depthElements_erase]
  | object members => rw [erase, depth, depth, depthMembers_erase]

theorem depthElements_erase (vs : List Json) :
    depthElements (eraseElements vs) = depthElements vs := by
  cases vs with
  | nil => rfl
  | cons v vs => rw [eraseElements, depthElements, depthElements, depth_erase, depthElements_erase]

theorem depthMembers_erase (ms : List (Text × Json)) :
    depthMembers (eraseMembers ms) = depthMembers ms := by
  match ms with
  | [] => rfl
  | (name, v) :: ms =>
    rw [eraseMembers, depthMembers, depthMembers, depth_erase, depthMembers_erase]

end

end Erase

section Dictionaries

variable {name : Text} {x : Loaded} {es pairs : List (Text × Loaded)}

open Loaded

theorem depthEntries_append (es es' : List (Text × Loaded)) :
    depthEntries (es ++ es') = max (depthEntries es) (depthEntries es') := by
  induction es with
  | nil => exact (Nat.zero_max _).symm
  | cons e es ih =>
    obtain ⟨name, x⟩ := e
    rw [List.cons_append, depthEntries, depthEntries, ih, Nat.max_assoc]

theorem depthEntries_put_le :
    depthEntries (Dict.putEntry name x es) ≤ max (depthEntries es) x.depth := by
  induction es with
  | nil => exact Nat.le_of_eq (Nat.max_comm _ _)
  | cons e es ih =>
    obtain ⟨name', y⟩ := e
    simp only [Dict.putEntry]
    split
    · simp only [depthEntries]
      omega
    · simp only [depthEntries]
      omega

theorem foldl_put_le : depthEntries (pairs.foldl (fun es p => Dict.putEntry p.1 p.2 es) es) ≤
    max (depthEntries es) (depthEntries pairs) := by
  induction pairs generalizing es with
  | nil => exact Nat.le_max_left _ _
  | cons p pairs ih =>
    obtain ⟨name, x⟩ := p
    rw [List.foldl_cons]
    have hrest := @ih (Dict.putEntry name x es)
    have hput := @depthEntries_put_le name x es
    simp only [depthEntries] at hrest ⊢
    omega

theorem foldl_put_fresh (h : (es.map Prod.fst ++ pairs.map Prod.fst).Nodup) :
    pairs.foldl (fun es p => Dict.putEntry p.1 p.2 es) es = es ++ pairs := by
  induction pairs generalizing es with
  | nil => exact (List.append_nil es).symm
  | cons p pairs ih =>
    have hfresh : p.1 ∉ es.map Prod.fst := by
      intro hmem
      exact (List.nodup_append.mp h).2.2 _ hmem p.1 (by simp) rfl
    rw [List.foldl_cons, Dict.putEntry_fresh hfresh, ih]
    · rw [List.append_assoc, List.singleton_append]
    · simpa using h

theorem depthEntries_dictOf_le : depthEntries (dictOf pairs) ≤ depthEntries pairs := by
  refine foldl_put_le.trans ?_
  simp [depthEntries]

theorem dictOf_of_nodup (h : (pairs.map Prod.fst).Nodup) : dictOf pairs = pairs := by
  have hfresh : pairs.foldl (fun es p => Dict.putEntry p.1 p.2 es) [] = [] ++ pairs :=
    foldl_put_fresh h
  exact hfresh

end Dictionaries

section Loading

variable {maxStrDigits : ℕ}

open Loaded

theorem loadInt_depth {negative : Bool} {int : Text} {x : Loaded}
    (h : loadInt maxStrDigits negative int = some x) : x.depth = 0 := by
  rw [loadInt] at h
  split at h
  · cases h
  · cases h
    rfl

theorem loadNumber_depth {literal : Text} {x : Loaded}
    (h : loadNumber maxStrDigits literal = some x) : x.depth = 0 := by
  rw [loadNumber] at h
  by_cases hrest : List.dropWhile (fun c => decide (Digit c))
      (if (decide (literal.head? = some minus)) = true then literal.tail else literal) = []
  · exact loadInt_depth ((if_pos hrest).symm.trans h)
  · obtain rfl := Option.some.inj ((if_neg hrest).symm.trans h)
    rfl

theorem loadElements_cons {v : Json} {vs : List Json} {xs : List Loaded}
    (h : loadElements maxStrDigits (v :: vs) = some xs) :
    ∃ x rest, load maxStrDigits v = some x ∧ loadElements maxStrDigits vs = some rest ∧
      xs = x :: rest := by
  rw [loadElements] at h
  cases hx : load maxStrDigits v with
  | none =>
    rw [hx] at h
    cases h
  | some x =>
    cases hxs : loadElements maxStrDigits vs with
    | none =>
      rw [hx, hxs] at h
      cases h
    | some rest =>
      rw [hx, hxs] at h
      exact ⟨x, rest, rfl, rfl, (Option.some.inj h).symm⟩

theorem loadMembers_cons {name : Text} {v : Json} {ms : List (Text × Json)}
    {pairs : List (Text × Loaded)} (h : loadMembers maxStrDigits ((name, v) :: ms) = some pairs) :
    ∃ x rest, load maxStrDigits v = some x ∧ loadMembers maxStrDigits ms = some rest ∧
      pairs = (unescape name, x) :: rest := by
  rw [loadMembers] at h
  cases hx : load maxStrDigits v with
  | none =>
    rw [hx] at h
    cases h
  | some x =>
    cases hxs : loadMembers maxStrDigits ms with
    | none =>
      rw [hx, hxs] at h
      cases h
    | some rest =>
      rw [hx, hxs] at h
      exact ⟨x, rest, rfl, rfl, (Option.some.inj h).symm⟩

theorem loadMembers_names {ms : List (Text × Json)} {pairs : List (Text × Loaded)}
    (h : loadMembers maxStrDigits ms = some pairs) :
    pairs.map Prod.fst = ms.map fun m => unescape m.1 := by
  induction ms generalizing pairs with
  | nil =>
    cases h
    rfl
  | cons m ms ih =>
    obtain ⟨x, rest, -, hrest, rfl⟩ := loadMembers_cons h
    rw [List.map_cons, List.map_cons, ih hrest]

mutual

/-- The value is no deeper than the tree, and as deep where no name is repeated. -/
theorem load_depth {v : Json} {x : Loaded} (h : load maxStrDigits v = some x) :
    x.depth ≤ depth v ∧ (Distinct v → x.depth = depth v) := by
  cases v with
  | null | bool | string =>
    obtain rfl := Option.some.inj h
    exact ⟨Nat.zero_le _, fun _ => rfl⟩
  | number literal =>
    rw [loadNumber_depth h]
    exact ⟨Nat.zero_le _, fun _ => rfl⟩
  | array elements =>
    obtain ⟨xs, hxs, rfl⟩ := Option.map_eq_some_iff.mp h
    obtain ⟨hle, heq⟩ := loadElements_depth hxs
    rw [Loaded.depth, depth]
    exact ⟨Nat.succ_le_succ hle, fun hd => congrArg _ (heq hd)⟩
  | object members =>
    obtain ⟨pairs, hpairs, rfl⟩ := Option.map_eq_some_iff.mp h
    obtain ⟨hle, heq⟩ := loadMembers_depth hpairs
    rw [Loaded.depth, depth]
    constructor
    · exact Nat.succ_le_succ (depthEntries_dictOf_le.trans hle)
    · rintro ⟨hnodup, hd⟩
      rw [← loadMembers_names hpairs] at hnodup
      rw [dictOf_of_nodup hnodup, heq hd]

theorem loadElements_depth {vs : List Json} {xs : List Loaded}
    (h : loadElements maxStrDigits vs = some xs) :
    depthItems xs ≤ depthElements vs ∧
      (DistinctElements vs → depthItems xs = depthElements vs) := by
  cases vs with
  | nil =>
    cases h
    exact ⟨le_rfl, fun _ => rfl⟩
  | cons v vs =>
    obtain ⟨x, rest, hx, hrest, rfl⟩ := loadElements_cons h
    obtain ⟨hle, heq⟩ := load_depth hx
    obtain ⟨hle', heq'⟩ := loadElements_depth hrest
    rw [depthItems, depthElements]
    constructor
    · exact max_le_max hle hle'
    · rintro ⟨hd, hd'⟩
      rw [heq hd, heq' hd']

theorem loadMembers_depth {ms : List (Text × Json)} {pairs : List (Text × Loaded)}
    (h : loadMembers maxStrDigits ms = some pairs) :
    depthEntries pairs ≤ depthMembers ms ∧
      (DistinctMembers ms → depthEntries pairs = depthMembers ms) := by
  match ms with
  | [] =>
    cases h
    exact ⟨le_rfl, fun _ => rfl⟩
  | (name, v) :: ms =>
    obtain ⟨x, rest, hx, hrest, rfl⟩ := loadMembers_cons h
    obtain ⟨hle, heq⟩ := load_depth hx
    obtain ⟨hle', heq'⟩ := loadMembers_depth hrest
    rw [depthEntries, depthMembers]
    constructor
    · exact max_le_max hle hle'
    · rintro ⟨hd, hd'⟩
      rw [heq hd, heq' hd']

end

end Loading

end Foundation.Json
