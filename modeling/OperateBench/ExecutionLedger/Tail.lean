import OperateBench.Foundation.Json

/-! # The text of a torn row

A crash can cut the last row of a ledger short. The fragment is accepted when it can be extended
into one object, which a scan with an explicit stack of open containers decides. A number is read
at once, up to the character behind it.
-/

namespace OperateBench.ExecutionLedger

open Foundation Foundation.Json

namespace Tail

section Machine

inductive Kind
  | object
  | array
deriving DecidableEq

inductive Phase
  | keyOrEnd
  | key
  | colon
  | value
  | valueOrEnd
  | commaOrEnd
deriving DecidableEq

inductive StringRole
  | key
  | value
deriving DecidableEq

/-- The token that the scan is inside of. A number keeps its first character. -/
inductive Lexical
  | string
  | escape
  | unicode
  | literal (target : Text) (position : ℕ)
  | number (first : CodePoint)

/-- The open containers with their phases, the innermost first, and the token. -/
structure Machine where
  stack : List (Kind × Phase) := [(.object, .keyOrEnd)]
  lexical : Option Lexical := none
  stringRole : StringRole := .value
  unicodeDigits : ℕ := 0
  complete : Bool := false

namespace Machine

def setPhase (m : Machine) (phase : Phase) : Machine :=
  { m with
    stack :=
      match m.stack with
      | [] => []
      | (kind, _) :: below => (kind, phase) :: below }

/-- The innermost container is closed. -/
def pop (m : Machine) : Machine :=
  { m with stack := m.stack.tail, complete := m.stack.tail.isEmpty }

def push (m : Machine) (kind : Kind) (phase : Phase) : Machine :=
  { m with stack := (kind, phase) :: m.stack }

def beginValue (m : Machine) (character : CodePoint) : Option Machine :=
  let m := m.setPhase .commaOrEnd
  if character = quotationMark then some { m with lexical := some .string, stringRole := .value }
  else if character = beginObject then some (m.push .object .keyOrEnd)
  else if character = beginArray then some (m.push .array .valueOrEnd)
  else if character = 0x74 then some { m with lexical := some (.literal trueText 1) }
  else if character = 0x66 then some { m with lexical := some (.literal falseText 1) }
  else if character = 0x6E then some { m with lexical := some (.literal nullText 1) }
  else if character = minus ∨ Digit character then
    some { m with lexical := some (.number character) }
  else none

/-- A character between two tokens. -/
def structural (m : Machine) (character : CodePoint) : Option Machine :=
  match m.stack with
  | [] => none
  | (.object, phase) :: _ =>
    match phase with
    | .keyOrEnd | .key =>
      if character = endObject ∧ phase = .keyOrEnd then some m.pop
      else if character = quotationMark then
        some { m with lexical := some .string, stringRole := .key }
      else none
    | .colon => if character = nameSeparator then some (m.setPhase .value) else none
    | .value => m.beginValue character
    | _ =>
      if character = valueSeparator then some (m.setPhase .key)
      else if character = endObject then some m.pop
      else none
  | (.array, phase) :: _ =>
    match phase with
    | .valueOrEnd | .value =>
      if character = endArray ∧ phase = .valueOrEnd then some m.pop else m.beginValue character
    | _ =>
      if character = valueSeparator then some (m.setPhase .value)
      else if character = endArray then some m.pop
      else none

/-- One character, outside of numbers. -/
def step (m : Machine) (character : CodePoint) : Option Machine :=
  match m.lexical with
  | some .string =>
    if character = quotationMark then
      let m := { m with lexical := none }
      some (if m.stringRole = .key then m.setPhase .colon else m)
    else if character = Json.escape then some { m with lexical := some .escape }
    else if character < 0x20 then none
    else some m
  | some .escape =>
    if character = unicodeEscape then some { m with lexical := some .unicode, unicodeDigits := 0 }
    else if Escapable character then some { m with lexical := some .string }
    else none
  | some .unicode =>
    if ¬HexDigit character then none
    else if m.unicodeDigits + 1 = 4 then
      some { m with lexical := some .string, unicodeDigits := m.unicodeDigits + 1 }
    else some { m with unicodeDigits := m.unicodeDigits + 1 }
  | some (.literal target position) =>
    if target[position]? ≠ some character then none
    else if position + 1 = target.length then some { m with lexical := none }
    else some { m with lexical := some (.literal target (position + 1)) }
  | some (.number _) => none
  | none =>
    if m.complete then none
    else if Space character then some m
    else m.structural character

end Machine

end Machine

section Numbers

/-- What became of a number: the text ends inside it, it is not one, or it ends before the rest. -/
inductive NumberScan
  | cut
  | refused
  | ended (rest : Text)

def afterNumber : Text → NumberScan
  | [] => .ended []
  | c :: rest =>
    if Space c ∨ c = valueSeparator ∨ c = endArray ∨ c = endObject then .ended (c :: rest)
    else .refused

/-- At least one digit, and what follows the digits. -/
def scanDigits (next : Text → NumberScan) : Text → NumberScan
  | [] => .cut
  | c :: rest => if Digit c then next (rest.dropWhile fun d => Digit d) else .refused

def scanExponent : Text → NumberScan
  | [] => afterNumber []
  | c :: rest =>
    if ExponentMark c then
      match rest with
      | [] => .cut
      | sign :: digits =>
        if sign = plus ∨ sign = minus then scanDigits afterNumber digits
        else scanDigits afterNumber rest
    else afterNumber (c :: rest)

def scanFraction : Text → NumberScan
  | [] => scanExponent []
  | c :: rest => if c = decimalPoint then scanDigits scanExponent rest else scanExponent (c :: rest)

def scanIntegral : Text → NumberScan
  | [] => .cut
  | c :: rest =>
    if c = zero then
      if rest.head?.any fun d => Digit d then .refused else scanFraction rest
    else if DigitOneNine c then scanFraction (rest.dropWhile fun d => Digit d)
    else .refused

def scanNumber : Text → NumberScan
  | [] => scanIntegral []
  | c :: rest => if c = minus then scanIntegral rest else scanIntegral (c :: rest)

theorem dropWhile_length (p : CodePoint → Bool) (w : Text) : (w.dropWhile p).length ≤ w.length :=
  (List.dropWhile_sublist p).length_le

theorem afterNumber_length {w rest : Text} (h : afterNumber w = .ended rest) : rest = w := by
  cases w with
  | nil =>
    cases h
    rfl
  | cons c w =>
    simp only [afterNumber] at h
    split at h
    · cases h
      rfl
    · cases h

theorem scanDigits_length {next : Text → NumberScan} {w rest : Text}
    (hnext : ∀ v, next v = .ended rest → rest.length ≤ v.length)
    (h : scanDigits next w = .ended rest) : rest.length < w.length := by
  cases w with
  | nil => cases h
  | cons c w =>
    simp only [scanDigits] at h
    split at h
    · have hlength := (hnext _ h).trans (dropWhile_length _ w)
      rw [List.length_cons]
      omega
    · cases h

theorem scanExponent_length {w rest : Text} (h : scanExponent w = .ended rest) :
    rest.length ≤ w.length := by
  have hafter (v : Text) (hv : afterNumber v = .ended rest) : rest.length ≤ v.length := by
    rw [afterNumber_length hv]
  unfold scanExponent at h
  split at h
  · exact hafter _ h
  · split at h
    · split at h
      · cases h
      · simp only [List.length_cons]
        split at h
        · have := scanDigits_length hafter h
          omega
        · have := scanDigits_length hafter h
          rw [List.length_cons] at this
          omega
    · exact hafter _ h

theorem scanFraction_length {w rest : Text} (h : scanFraction w = .ended rest) :
    rest.length ≤ w.length := by
  unfold scanFraction at h
  split at h
  · exact scanExponent_length h
  · split at h
    · have := scanDigits_length (fun _ => scanExponent_length) h
      rw [List.length_cons]
      omega
    · exact scanExponent_length h

theorem scanIntegral_length {w rest : Text} (h : scanIntegral w = .ended rest) :
    rest.length < w.length := by
  unfold scanIntegral at h
  split at h
  · cases h
  · rw [List.length_cons]
    split at h
    · split at h
      · cases h
      · have := scanFraction_length h
        omega
    · split at h
      · have := (scanFraction_length h).trans (dropWhile_length _ _)
        omega
      · cases h

theorem scanNumber_length {w rest : Text} (h : scanNumber w = .ended rest) :
    rest.length < w.length := by
  unfold scanNumber at h
  split at h
  · cases h
  · split at h
    · have := scanIntegral_length h
      rw [List.length_cons]
      omega
    · exact scanIntegral_length h

end Numbers

section Scan

/-- The scan from the given machine on. A number that was just begun is read again from its first
character, so that the rest may be as long as before. -/
def scan (m : Machine) : Text → Bool
  | [] => !m.complete
  | character :: rest =>
    match _hm : m.lexical with
    | some (.number first) =>
      match _hs : scanNumber (first :: character :: rest) with
      | .cut => true
      | .refused => false
      | .ended behind => scan { m with lexical := none } behind
    | _ =>
      match m.step character with
      | none => false
      | some m => scan m rest
termination_by text => 2 * text.length + if (m.lexical matches some (.number _)) then 1 else 0
decreasing_by
  · have hlength := scanNumber_length _hs
    simp only [List.length_cons] at hlength
    simp [_hm]
    omega
  · simp only [List.length_cons]
    split <;> split <;> omega

/-- Can the text be extended, and not edited, into one object? -/
def isRecoverableJsonObjectTextPrefix : Text → Bool
  | [] => true
  | character :: rest => if character = beginObject then scan {} rest else false

end Scan

end Tail

end OperateBench.ExecutionLedger
