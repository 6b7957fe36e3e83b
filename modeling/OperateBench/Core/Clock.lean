import OperateBench.Core.Value

/-! # Simulated time

One timestamp format, `YYYY-MM-DDTHH:MM:SSZ`, read into whole seconds since the
epoch and written back. Reading follows the interpreter's `strptime`: letters in any
case, fields after the year with one or two digits, a day padded by a space. The
calendar is the proleptic Gregorian one of the years 1 to 9999.
-/

namespace OperateBench

namespace Calendar

def isLeap (year : Int) : Bool := year % 4 = 0 ∧ (year % 100 ≠ 0 ∨ year % 400 = 0)

def daysBeforeYear (year : Int) : Int :=
  let y := year - 1
  y * 365 + y / 4 - y / 100 + y / 400

def monthLengths : List Int := [31, 28, 31, 30, 31, 30, 31, 31, 30, 31, 30, 31]

def daysInMonth (year : Int) (month : ℕ) : Int :=
  if month = 2 ∧ isLeap year then 29 else monthLengths.getD (month - 1) 0

/-- The days of a common year before the first of the month. -/
def commonDaysBefore (month : ℕ) : Int := (monthLengths.take (month - 1)).sum

def daysBeforeMonth (year : Int) (month : ℕ) : Int :=
  commonDaysBefore month + if 2 < month ∧ isLeap year then 1 else 0

/-- The day number of a date, the first of January of the year 1 being day 1. -/
def toOrdinal (year : Int) (month : ℕ) (day : Int) : Int :=
  daysBeforeYear year + daysBeforeMonth year month + day

/-- The date of a day number, by whole cycles of 400, 100, 4 and 1 years. -/
def ofOrdinal (ordinal : Int) : Int × ℕ × Int :=
  let n := ordinal - 1
  let n400 := n / 146097
  let n := n % 146097
  let n100 := n / 36524
  let n := n % 36524
  let n4 := n / 1461
  let n := n % 1461
  let n1 := n / 365
  let n := n % 365
  let year := n400 * 400 + 1 + n100 * 100 + n4 * 4 + n1
  if n1 = 4 ∨ n100 = 4 then (year - 1, 12, 31)
  else
    let leap := n1 = 3 ∧ (n4 ≠ 24 ∨ n100 = 3)
    let month := ((n + 50) / 32).toNat
    let preceding := commonDaysBefore month + if 2 < month ∧ leap then 1 else 0
    if n < preceding then
      let length := monthLengths.getD (month - 2) 0 + if month = 3 ∧ leap then 1 else 0
      (year, month - 1, n - (preceding - length) + 1)
    else (year, month, n - preceding + 1)

/-- The day number of the first of January 1970. -/
def epochOrdinal : Int := 719163

def secondsOf (year : Int) (month : ℕ) (day hour minute second : Int) : Int :=
  (toOrdinal year month day - epochOrdinal) * 86400 + hour * 3600 + minute * 60 + second

def minSeconds : Int := -62135596800

def maxSeconds : Int := 253402300799

end Calendar

open Calendar

def timestampFormat : String := "%Y-%m-%dT%H:%M:%SZ"

namespace Strptime

def digit? (c : Char) : Option ℕ :=
  if '0' ≤ c ∧ c ≤ '9' then some (c.toNat - 48) else none

/-- Four digits. -/
def year : List Char → Option (ℕ × List Char)
  | a :: b :: c :: d :: rest => do
    let a ← digit? a
    let b ← digit? b
    let c ← digit? c
    let d ← digit? d
    return (a * 1000 + b * 100 + c * 10 + d, rest)
  | _ => none

/-- One or two digits whose number lies between the bounds. A second digit is always
taken: no field is followed by one. -/
def field (lo hi : ℕ) : List Char → Option (ℕ × List Char)
  | [] => none
  | a :: rest => do
    let n ← digit? a
    match rest with
    | [] => if lo ≤ n ∧ n ≤ hi then some (n, []) else none
    | b :: rest' =>
      match digit? b with
      | some m => if lo ≤ n * 10 + m ∧ n * 10 + m ≤ hi then some (n * 10 + m, rest') else none
      | none => if lo ≤ n ∧ n ≤ hi then some (n, rest) else none

def day : List Char → Option (ℕ × List Char)
  | ' ' :: c :: rest => do
    let n ← digit? c
    if n = 0 then none else some (n, rest)
  | cs => field 1 31 cs

def literal (c : Char) : List Char → Option (List Char)
  | [] => none
  | d :: rest => if d = c ∨ d.toUpper = c then some rest else none

def fields (cs : List Char) : Option ((ℕ × ℕ × ℕ) × (ℕ × ℕ × ℕ) × List Char) := do
  let (y, cs) ← year cs
  let cs ← literal '-' cs
  let (mo, cs) ← field 1 12 cs
  let cs ← literal '-' cs
  let (d, cs) ← day cs
  let cs ← literal 'T' cs
  let (h, cs) ← field 0 23 cs
  let cs ← literal ':' cs
  let (mi, cs) ← field 0 59 cs
  let cs ← literal ':' cs
  let (s, cs) ← field 0 61 cs
  let cs ← literal 'Z' cs
  return ((y, mo, d), (h, mi, s), cs)

end Strptime

/-- `datetime.strptime` with the one format, as seconds since the epoch, or its complaint. -/
def strptime (text : String) : Except String Int :=
  match Strptime.fields (Foundation.chars text) with
  | none => .error s!"time data {pyRepr text} does not match format {pyRepr timestampFormat}"
  | some ((y, mo, d), (h, mi, s), rest) =>
    if rest ≠ [] then .error s!"unconverted data remains: {String.ofList rest}"
    else if y = 0 then .error "year 0 is out of range"
    else if daysInMonth y mo < d then .error "day is out of range for month"
    else if 59 < s then .error "second must be in 0..59"
    else .ok (secondsOf y mo d h mi s)

def parseTimestamp (text context : String) : Except PyError Int :=
  match strptime text with
  | .ok seconds => .ok seconds
  | .error exc => .error (.malformedTimestamp
      s!"{context}: {pyRepr text} is not a canonical UTC instant of the form 2031-03-03T09:00:00Z ({exc})")

def twoDigits (n : Int) : String :=
  String.ofList [Nat.digitChar (n.toNat / 10), Nat.digitChar (n.toNat % 10)]

def fourDigits (n : Int) : String := twoDigits (n / 100) ++ twoDigits (n % 100)

/-- `strftime` with the one format. -/
def strftime (seconds : Int) : String :=
  let (year, month, day) := ofOrdinal (seconds / 86400 + epochOrdinal)
  let rest := seconds % 86400
  fourDigits year ++ "-" ++ twoDigits month ++ "-" ++ twoDigits day ++ "T" ++
    twoDigits (rest / 3600) ++ ":" ++ twoDigits (rest % 3600 / 60) ++ ":" ++
    twoDigits (rest % 60) ++ "Z"

def formatTimestamp (seconds : Int) : Except PyError String :=
  if minSeconds ≤ seconds ∧ seconds ≤ maxSeconds then .ok (strftime seconds)
  else .error (.overflow "date value out of range")

/-- Move an instant forward by whole simulated minutes. -/
def shiftMinutes (text : String) (minutes : Int) (context : String) : Except PyError String :=
  if minutes < 0 then
    .error (.clockRewind (s!"{context}: offset of {minutes} minute(s) would move simulated time " ++
      "backwards; scenario offsets are delays, not rewinds"))
  else do
    let seconds ← parseTimestamp text context
    formatTimestamp (seconds + minutes * 60)

/-- The context of a shift only goes into its complaints. -/
theorem shiftMinutes_context {text context : String} {minutes : Int} {shifted : String}
    (h : shiftMinutes text minutes context = .ok shifted) (context' : String) :
    shiftMinutes text minutes context' = .ok shifted := by
  unfold shiftMinutes at h ⊢
  split at h
  · cases h
  · rename_i hm
    rw [if_neg hm]
    unfold parseTimestamp at h ⊢
    split at h
    · exact h
    · cases h

structure SimulatedClock where
  startSeconds : Int
  seconds : Int

namespace SimulatedClock

def start (text context : String) : Except PyError SimulatedClock := do
  let seconds ← parseTimestamp text context
  return ⟨seconds, seconds⟩

/-- The current simulated instant. Every instant the clock holds was read from a text. -/
def now (clock : SimulatedClock) : String := strftime clock.seconds

/-- Whole simulated minutes since the episode began. -/
def elapsedMinutes (clock : SimulatedClock) : Int := (clock.seconds - clock.startSeconds) / 60

/-- Move simulated time to the moment. Standing still is allowed. -/
def advanceTo (clock : SimulatedClock) (moment context : String) :
    Except PyError SimulatedClock := do
  let target ← parseTimestamp moment context
  if target < clock.seconds then
    .error (.clockRewind (s!"{context}: cannot advance to {moment} from {clock.now}; simulated " ++
      "time never moves backwards"))
  else return { clock with seconds := target }

theorem advanceTo_ok {clock clock' : SimulatedClock} {moment context : String}
    (h : clock.advanceTo moment context = .ok clock') :
    parseTimestamp moment context = .ok clock'.seconds ∧
      clock.seconds ≤ clock'.seconds ∧ clock'.startSeconds = clock.startSeconds := by
  unfold advanceTo at h
  cases hp : parseTimestamp moment context with
  | error e => simp [hp, bind, Except.bind] at h
  | ok target =>
    simp only [hp, bind, Except.bind] at h
    split at h
    · cases h
    · rename_i hlt
      obtain rfl : { clock with seconds := target } = clock' := by simpa [pure, Except.pure] using h
      exact ⟨rfl, Int.not_lt.mp hlt, rfl⟩

end SimulatedClock

end OperateBench
