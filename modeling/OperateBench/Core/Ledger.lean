import OperateBench.Foundation.Fallible
import OperateBench.Core.Value

/-! # The trajectory ledger

An append-only sequence of typed records. The ledger owns a record's index,
instant and type, and takes only payloads that canonical JSON carries.
-/

namespace OperateBench

open Foundation

structure Record where
  index : ℕ
  instant : String
  recordType : String
  payload : Fields

def ledgerOwnedFields : List String := ["index", "at", "record_type"]

/-- A record is written inside the trajectory's list, which takes two containers. -/
def Fields.recordable (payload : Fields) : Bool :=
  payload.entries.all fun e => e.2.jsonSafe (Value.maxJsonDepth - 2)

def Record.asDict (record : Record) : Value := .ofFields <|
  [("index", .int record.index), ("at", .str record.instant),
    ("record_type", .str record.recordType)] ++ record.payload.entries

structure TrajectoryLedger where
  records : List Record
  indexed : ∀ (i : ℕ) (record : Record), records[i]? = some record → record.index = i

namespace TrajectoryLedger

def empty : TrajectoryLedger := ⟨[], by simp⟩

def write (ledger : TrajectoryLedger) (instant recordType : String) (payload : Fields) :
    TrajectoryLedger where
  records := ledger.records ++ [⟨ledger.records.length, instant, recordType, payload⟩]
  indexed i record h := by
    rw [List.getElem?_append] at h
    split at h
    · exact ledger.indexed i record h
    · rw [List.getElem?_singleton] at h
      split at h
      · obtain rfl := Option.some.inj h
        simp only
        omega
      · cases h

def append (ledger : TrajectoryLedger) (instant recordType : String) (payload : Fields) :
    Except PyError TrajectoryLedger :=
  if payload.keys.any fun key => key ∈ ledgerOwnedFields then
    .error (.ledgerField "trajectory payload contains a ledger-owned field")
  else if !payload.recordable then .error (.jsonSafety "operatebench trajectory")
  else .ok (ledger.write instant recordType payload)

def asList (ledger : TrajectoryLedger) : Value := .list (ledger.records.map Record.asDict)

theorem append_ok {ledger ledger' : TrajectoryLedger} {instant recordType : String}
    {payload : Fields} (h : ledger.append instant recordType payload = .ok ledger') :
    ledger' = ledger.write instant recordType payload := by
  obtain ⟨_, h⟩ := unless_ok h
  obtain ⟨_, h⟩ := unless_ok h
  exact (Except.ok.inj h).symm

@[simp] theorem records_write (ledger : TrajectoryLedger) (instant recordType : String)
    (payload : Fields) : (ledger.write instant recordType payload).records =
      ledger.records ++ [⟨ledger.records.length, instant, recordType, payload⟩] := rfl

end TrajectoryLedger

end OperateBench
