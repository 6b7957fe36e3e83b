import OperateBench.Foundation.Descriptor
import OperateBench.Foundation.Fallible

/-! # The journal of an execution

The writer of the execution ledger: one row at a time, written whole and made durable, or
truncated away again, after which the writer is finished. What a row says, and which rows the
run can have produced, is the business of a `Format`; what the operating system answers is the
`Weather` of a call.
-/

namespace OperateBench.ExecutionLedger

open Foundation

section Formats

inductive RowKind where
  | header
  | call
  | terminal
  deriving DecidableEq, Repr

/-- What the rows of a journal say, and when the writer agrees to say it. -/
structure Format where
  Header : Type
  Call : Type
  /-- What a run is finalised with. -/
  Ending : Type
  Terminal : Type
  Digest : Type
  Refusal : Type
  genesis : Digest
  callIndex : Call → ℤ
  /-- `call.validate_for_ledger_version` -/
  validate : Call → Except Refusal Unit
  /-- `check_call_admissible`, then `check_call_amounts` -/
  admissible : Header → Option Call → Call → Except Refusal Unit
  /-- `check_terminal_admissible`, then the terminal with its totals -/
  conclude : List Call → Ending → Except Refusal Terminal
  headerRow : ℕ → Digest → Header → Except Refusal (Digest × List UInt8)
  callRow : ℕ → Digest → Call → Except Refusal (Digest × List UInt8)
  terminalRow : ℕ → Digest → Terminal → Except Refusal (Digest × List UInt8)

variable {F : Format}

inductive Body (F : Format) where
  | header (header : F.Header)
  | call (call : F.Call)
  | terminal (terminal : F.Terminal)

namespace Body

def kind : Body F → RowKind
  | header _ => .header
  | call _ => .call
  | terminal _ => .terminal

def call? : Body F → Option F.Call
  | call c => some c
  | _ => none

def terminal? : Body F → Option F.Terminal
  | terminal t => some t
  | _ => none

/-- The digest and the line of a row. -/
def row (index : ℕ) (previous : F.Digest) : Body F → Except F.Refusal (F.Digest × List UInt8)
  | header h => F.headerRow index previous h
  | call c => F.callRow index previous c
  | terminal t => F.terminalRow index previous t

end Body

end Formats

section Writers

/-- What the operating system answers while a row is appended. -/
structure Weather where
  seek : Bool
  writes : List WriteResult
  sync : Bool
  truncate : Bool
  reseek : Bool
  resync : Bool

/-- A row that could not be made durable, and whether it was truncated away. -/
structure WriteFailure where
  kind : RowKind
  rolledBack : Bool
  deriving DecidableEq, Repr

inductive Failure (F : Format) where
  | refused (refusal : F.Refusal)
  /-- `LedgerStateError` of a writer that is finished -/
  | poisoned (failure : WriteFailure)
  | closed
  | finalised
  | misplaced (recorded : ℕ) (offered : ℤ)
  /-- The offset could not be read. -/
  | unseekable
  | unwritten (failure : WriteFailure)

/-- `ExecutionLedgerJournal`, with the file behind its descriptor. -/
structure Journal (F : Format) where
  file : OpenFile
  header : F.Header
  calls : List F.Call := []
  rowIndex : ℕ := 0
  previous : F.Digest := F.genesis
  terminal : Option F.Terminal := none
  closed : Bool := false
  poisoned : Option WriteFailure := none

variable {F : Format}

/-- The bytes are offered until all are taken. There is no result while the answers run out
before the bytes do. -/
def writeAll (file : OpenFile) : List UInt8 → List WriteResult → Option (Bool × OpenFile)
  | [], _ => some (true, file)
  | _ :: _, [] => none
  | b :: payload, .interrupted :: results => writeAll file (b :: payload) results
  | _ :: _, .failed :: _ => some (false, file)
  | _ :: _, .accepted 0 :: _ => some (false, file)
  | b :: payload, .accepted (count + 1) :: results =>
    writeAll (file.put (b :: payload.take count)) (payload.drop count) results

/-- `_roll_back` -/
def rollBack (os : Weather) (offset : ℕ) (file : OpenFile) : Bool × OpenFile :=
  if ¬os.truncate then (false, file)
  else if ¬os.reseek then (false, file.truncate offset)
  else (os.resync, (file.truncate offset).seek offset)

/-- What a call of the writer comes to, and the writer after it. -/
abbrev Answer (F : Format) (α : Type) := Except (Failure F) α × Journal F

namespace Journal

def appendDurably (journal : Journal F) (payload : List UInt8) (kind : RowKind) (os : Weather) :
    Option (Answer F Unit) :=
  if ¬os.seek then some (.error .unseekable, journal)
  else
    let offset := journal.file.offset
    (writeAll journal.file payload os.writes).map fun (written, file) =>
      if written && os.sync then (.ok (), { journal with file })
      else
        let (rolledBack, file) := rollBack os offset file
        let failure : WriteFailure := ⟨kind, rolledBack⟩
        (.error (.unwritten failure), { journal with file, poisoned := some failure })

/-- `_append` -/
def append (journal : Journal F) (body : Body F) (os : Weather) : Option (Answer F Unit) :=
  match journal.poisoned with
  | some failure => some (.error (.poisoned failure), journal)
  | none =>
    if journal.closed then some (.error .closed, journal)
    else
      match body.row journal.rowIndex journal.previous with
      | .error refusal => some (.error (.refused refusal), journal)
      | .ok (digest, line) =>
        (journal.appendDurably line body.kind os).map fun (result, journal) =>
          match result with
          | .error failure => (.error failure, journal)
          | .ok () =>
            (.ok (), { journal with previous := digest, rowIndex := journal.rowIndex + 1 })

/-- `ExecutionLedgerJournal(fd, path, header)` over a file that was just created. -/
def create (header : F.Header) (os : Weather) : Option (Answer F Unit) :=
  append { file := ⟨[], 0⟩, header } (.header header) os

/-- `record_call` -/
def recordCall (journal : Journal F) (call : F.Call) (os : Weather) : Option (Answer F Unit) :=
  match F.validate call with
  | .error refusal => some (.error (.refused refusal), journal)
  | .ok () =>
    if journal.terminal.isSome then some (.error .finalised, journal)
    else if F.callIndex call ≠ journal.calls.length then
      some (.error (.misplaced journal.calls.length (F.callIndex call)), journal)
    else
      match F.admissible journal.header journal.calls.getLast? call with
      | .error refusal => some (.error (.refused refusal), journal)
      | .ok () =>
        (journal.append (.call call) os).map fun (result, journal) =>
          match result with
          | .error failure => (.error failure, journal)
          | .ok () => (.ok (), { journal with calls := journal.calls ++ [call] })

/-- `finalize` -/
def finalize (journal : Journal F) (ending : F.Ending) (os : Weather) :
    Option (Answer F F.Terminal) :=
  if journal.terminal.isSome then some (.error .finalised, journal)
  else
    match F.conclude journal.calls ending with
    | .error refusal => some (.error (.refused refusal), journal)
    | .ok terminal =>
      (journal.append (.terminal terminal) os).map fun (result, journal) =>
        match result with
        | .error failure => (.error failure, journal)
        | .ok () => (.ok terminal, { journal with terminal := some terminal })

/-- `close` -/
def close (journal : Journal F) : Journal F := { journal with closed := true }

end Journal

end Writers

end OperateBench.ExecutionLedger
