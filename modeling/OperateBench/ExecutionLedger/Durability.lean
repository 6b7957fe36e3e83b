import OperateBench.Foundation.Transition
import OperateBench.ExecutionLedger.Journal

/-! # What a failed append leaves behind

Whatever the operating system answers, the file begins with the rows whose append returned, and
is no more than them unless a rollback failed. After a row could not be made durable nothing is
added.
-/

namespace OperateBench.ExecutionLedger

open Foundation

section Writing

variable {file file' : OpenFile} {payload : List UInt8} {results : List WriteResult}
  {written : Bool}

/-- The bytes that were taken stand at the end of the file: all of them if the loop returned. -/
theorem writeAll_spec (hend : file.AtEnd)
    (h : writeAll file payload results = some (written, file')) :
    file'.AtEnd ∧ ∃ front, file'.bytes = file.bytes ++ front ∧ front <+: payload ∧
      (written = true → front = payload) := by
  fun_induction writeAll file payload results with
  | case1 file =>
    obtain ⟨rfl, rfl⟩ := Prod.mk.inj (Option.some.inj h)
    exact ⟨hend, [], (List.append_nil _).symm, List.nil_prefix, fun _ => rfl⟩
  | case2 => cases h
  | case3 file b payload results ih => exact ih hend h
  | case4 file b payload results =>
    obtain ⟨rfl, rfl⟩ := Prod.mk.inj (Option.some.inj h)
    exact ⟨hend, [], (List.append_nil _).symm, List.nil_prefix, fun h => nomatch h⟩
  | case5 file b payload results =>
    obtain ⟨rfl, rfl⟩ := Prod.mk.inj (Option.some.inj h)
    exact ⟨hend, [], (List.append_nil _).symm, List.nil_prefix, fun h => nomatch h⟩
  | case6 file b payload count results ih =>
    obtain ⟨hend', front, hbytes, hbegins, hall⟩ := ih (OpenFile.put_atEnd hend) h
    refine ⟨hend', b :: payload.take count ++ front, ?_, ?_, fun hwritten => ?_⟩
    · rw [hbytes, OpenFile.put_bytes hend, List.append_assoc]
    · obtain ⟨rest, hrest⟩ := hbegins
      refine ⟨rest, ?_⟩
      rw [List.append_assoc, hrest, List.cons_append, List.take_append_drop]
    · rw [hall hwritten, List.cons_append, List.take_append_drop]

theorem rollBack_spec {os : Weather} {front rest : List UInt8} {rolledBack : Bool}
    (hbytes : file.bytes = front ++ rest)
    (h : rollBack os front.length file = (rolledBack, file')) :
    front <+: file'.bytes ∧ (rolledBack = true → file'.bytes = front) := by
  have htruncated := OpenFile.truncate_bytes hbytes
  unfold rollBack at h
  split at h
  · obtain ⟨rfl, rfl⟩ := Prod.mk.inj h
    exact ⟨hbytes ▸ List.prefix_append _ _, fun h => nomatch h⟩
  · split at h
    · obtain ⟨rfl, rfl⟩ := Prod.mk.inj h
      exact ⟨by rw [htruncated], fun h => nomatch h⟩
    · obtain ⟨-, rfl⟩ := Prod.mk.inj h
      exact ⟨by rw [OpenFile.seek, htruncated], fun _ => htruncated⟩

end Writing

section Appending

variable {F : Format} {journal journal' : Journal F} {body : Body F} {os : Weather}
  {result : Except (Failure F) Unit} {kind : RowKind} {payload : List UInt8}

/-- A durable append: all of the row, or a writer that is finished, or nothing at all. -/
theorem appendDurably_spec (hend : journal.file.AtEnd)
    (h : journal.appendDurably payload kind os = some (result, journal')) :
    (result = .ok () ∧ ∃ file, journal' = { journal with file } ∧ file.AtEnd ∧
      file.bytes = journal.file.bytes ++ payload) ∨
    (result = .error .unseekable ∧ journal' = journal) ∨
    ∃ file failure, result = .error (.unwritten failure) ∧
      journal' = { journal with file, poisoned := some failure } ∧
      journal.file.bytes <+: file.bytes ∧
      (failure.rolledBack = true → file.bytes = journal.file.bytes) := by
  unfold Journal.appendDurably at h
  split at h
  · obtain ⟨rfl, rfl⟩ := Prod.mk.inj (Option.some.inj h)
    exact Or.inr (Or.inl ⟨rfl, rfl⟩)
  · obtain ⟨⟨written, file⟩, hwrite, h⟩ := Option.map_eq_some_iff.mp h
    obtain ⟨hend', front, hbytes, -, hall⟩ := writeAll_spec hend hwrite
    dsimp only at h
    split at h
    · rename_i hdone
      obtain ⟨rfl, rfl⟩ := Prod.mk.inj h
      refine Or.inl ⟨rfl, file, rfl, hend', ?_⟩
      rw [hbytes, hall ((Bool.and_eq_true _ _).mp hdone).1]
    · obtain ⟨rfl, rfl⟩ := Prod.mk.inj h
      obtain ⟨hbegins, hrolled⟩ := rollBack_spec hbytes
        (show rollBack os journal.file.bytes.length file = (_, _) from rfl)
      rw [← hend] at hbegins hrolled
      exact Or.inr (Or.inr ⟨_, _, rfl, rfl, hbegins, hrolled⟩)

/-- The rows of a journal, with the digest of the last one and the bytes of all. -/
inductive Chain : List (Body F) → F.Digest → List UInt8 → Prop where
  | nil : Chain [] F.genesis []
  | snoc {rows : List (Body F)} {body : Body F} {tip digest : F.Digest} {bytes line : List UInt8}
      (rest : Chain rows tip bytes) (row : body.row rows.length tip = .ok (digest, line)) :
      Chain (rows ++ [body]) digest (bytes ++ line)

/-- The file holds the rows: it begins with them, and is no more than them unless a rollback
failed. -/
def Filed (journal : Journal F) (rows : List (Body F)) : Prop :=
  ∃ bytes, Chain rows journal.previous bytes ∧ bytes <+: journal.file.bytes ∧
    ((∀ failure, journal.poisoned = some failure → failure.rolledBack = true) →
      journal.file.bytes = bytes)

/-- The writer and its file agree on the rows that were appended. -/
structure Keeps (journal : Journal F) (rows : List (Body F)) : Prop where
  filed : Filed journal rows
  atEnd : journal.poisoned = none → journal.file.AtEnd
  rowIndex : journal.rowIndex = rows.length
  calls : journal.calls = rows.filterMap Body.call?
  terminal : journal.terminal = (rows.filterMap Body.terminal?).getLast?

variable {rows : List (Body F)}

/-- An append adds its row to the file, or leaves the file with the rows it had. -/
theorem append_spec (h : Keeps journal rows)
    (happend : journal.append body os = some (result, journal')) :
    (result = .ok () ∧ ∃ file digest,
      journal' = { journal with file, previous := digest, rowIndex := journal.rowIndex + 1 } ∧
      Filed journal' (rows ++ [body]) ∧ file.AtEnd) ∨
    (∃ failure, result = .error failure ∧ Keeps journal' rows ∧
      ∀ unwritten, failure = .unwritten unwritten → journal'.poisoned = some unwritten) := by
  obtain ⟨bytes, hchain, hbegins, hexact⟩ := h.filed
  have hunmoved : ∀ {failure : Failure F}, some (.error failure, journal) = some (result, journal') →
      (∀ unwritten, failure ≠ .unwritten unwritten) →
      ∃ failure, result = .error failure ∧ Keeps journal' rows ∧
        ∀ unwritten, failure = .unwritten unwritten → journal'.poisoned = some unwritten := by
    intro failure heq hnot
    obtain ⟨rfl, rfl⟩ := Prod.mk.inj (Option.some.inj heq)
    exact ⟨failure, rfl, h, fun unwritten heq => absurd heq (hnot unwritten)⟩
  unfold Journal.append at happend
  split at happend
  · exact Or.inr (hunmoved happend fun _ => nofun)
  · rename_i hsound
    have hbytes := hexact fun _ heq => nomatch hsound.symm.trans heq
    split at happend
    · exact Or.inr (hunmoved happend fun _ => nofun)
    · split at happend
      · exact Or.inr (hunmoved happend fun _ => nofun)
      · rename_i digest line hrow
        obtain ⟨⟨inner, next⟩, hdurable, hresult⟩ := Option.map_eq_some_iff.mp happend
        rcases appendDurably_spec (h.atEnd hsound) hdurable with ⟨rfl, file, rfl, hend, hnew⟩ |
          ⟨rfl, hsame⟩ | ⟨file, failure, rfl, rfl, hkept, hrolled⟩
        · obtain ⟨rfl, rfl⟩ := Prod.mk.inj hresult
          refine Or.inl ⟨rfl, file, digest, rfl, ?_, hend⟩
          rw [h.rowIndex] at hrow
          exact ⟨bytes ++ line, hchain.snoc hrow, by rw [hnew, hbytes], fun _ => by
            rw [hnew, hbytes]⟩
        · rw [hsame] at hresult
          exact Or.inr (hunmoved (congrArg some hresult) fun _ => nofun)
        · obtain ⟨rfl, rfl⟩ := Prod.mk.inj hresult
          refine Or.inr ⟨_, rfl, ⟨⟨bytes, hchain, hbytes ▸ hkept, fun hall => ?_⟩,
            (fun hnone => nomatch hnone), h.rowIndex, h.calls, h.terminal⟩, ?_⟩
          · exact (hrolled (hall failure rfl)).trans hbytes
          · rintro _ ⟨⟩
            rfl

end Appending

section Runs

variable {F : Format}

/-- A call of the writer. -/
inductive Command (F : Format) where
  | recordCall (call : F.Call)
  | finalize (ending : F.Ending)
  | close

/-- The answer to a call: the rows that it appended. -/
def Journal.perform (journal : Journal F) (os : Weather) :
    Command F → Option (Except (Failure F) (List (Body F)) × Journal F)
  | .recordCall call => (journal.recordCall call os).map fun (result, journal) =>
      (result.map fun _ => [.call call], journal)
  | .finalize ending => (journal.finalize ending os).map fun (result, journal) =>
      (result.map fun terminal => [.terminal terminal], journal)
  | .close => some (.ok [], journal.close)

/-- A writer in use, with the rows whose append returned. -/
structure Recording (F : Format) where
  journal : Journal F
  rows : List (Body F)

def appended : Except (Failure F) (List (Body F)) → List (Body F)
  | .ok rows => rows
  | .error _ => []

/-- The file was created and its header row appended, or not. -/
def Created (header : F.Header) (s : Recording F) : Prop :=
  ∃ os result, Journal.create header os = some (result, s.journal) ∧
    s.rows = appended (result.map fun _ => [.header header])

/-- A call on a writer that was constructed. -/
def Recording.Step (s : Recording F) (a : Command F × Weather) (t : Recording F) : Prop :=
  s.rows ≠ [] ∧ ∃ reply, s.journal.perform a.2 a.1 = some (reply, t.journal) ∧
    t.rows = s.rows ++ appended reply

variable {header : F.Header} {journal journal' : Journal F} {rows : List (Body F)}
  {reply : Except (Failure F) (List (Body F))} {command : Command F} {os : Weather}

theorem create_keeps {s : Recording F} (h : Created header s) : Keeps s.journal s.rows := by
  obtain ⟨os, result, hcreate, hrows⟩ := h
  have hblank : Keeps (F := F) { file := ⟨[], 0⟩, header } [] :=
    ⟨⟨[], .nil, List.prefix_refl _, fun _ => rfl⟩, fun _ => rfl, rfl, rfl, rfl⟩
  rcases append_spec hblank hcreate with ⟨rfl, file, digest, heq, hfiled, hend⟩ |
    ⟨failure, rfl, hkeeps, -⟩
  · rw [hrows]
    exact ⟨hfiled, fun _ => heq ▸ hend, by rw [heq]; rfl, by rw [heq]; rfl, by rw [heq]; rfl⟩
  · rw [hrows]
    exact hkeeps

/-- What a call leaves behind: the rows it appended, or a writer that is finished. -/
def Left (rows : List (Body F)) (reply : Except (Failure F) (List (Body F)))
    (journal' : Journal F) : Prop :=
  Keeps journal' (rows ++ appended reply) ∧
    ∀ unwritten, reply = .error (.unwritten unwritten) → journal'.poisoned = some unwritten

theorem Left.of_error (h : Keeps journal rows) {failure : Failure F}
    (hfailure : ∀ unwritten, failure = .unwritten unwritten →
      journal.poisoned = some unwritten) : Left rows (.error failure) journal := by
  refine ⟨?_, fun unwritten heq => hfailure unwritten (Except.error.inj heq)⟩
  rw [appended, List.append_nil]
  exact h

/-- A call is refused before anything is appended, or its row is appended, or the append fails. -/
theorem recordCall_cases {call : F.Call} {result : Except (Failure F) Unit}
    (h : journal.recordCall call os = some (result, journal')) :
    (∃ failure, result = .error failure ∧ journal' = journal ∧
      ∀ unwritten, failure ≠ .unwritten unwritten) ∨
    (∃ next, result = .ok () ∧ journal.append (.call call) os = some (.ok (), next) ∧
      journal' = { next with calls := next.calls ++ [call] }) ∨
    ∃ failure, result = .error failure ∧
      journal.append (.call call) os = some (.error failure, journal') := by
  have hrefused : ∀ {failure : Failure F}, some (.error failure, journal) = some (result, journal') →
      (∀ unwritten, failure ≠ .unwritten unwritten) → ∃ failure, result = .error failure ∧
        journal' = journal ∧ ∀ unwritten, failure ≠ .unwritten unwritten := by
    intro failure heq hnot
    obtain ⟨rfl, rfl⟩ := Prod.mk.inj (Option.some.inj heq)
    exact ⟨failure, rfl, rfl, hnot⟩
  unfold Journal.recordCall at h
  split at h
  · exact Or.inl (hrefused h fun _ => nofun)
  split at h
  · exact Or.inl (hrefused h fun _ => nofun)
  split at h
  · exact Or.inl (hrefused h fun _ => nofun)
  split at h
  · exact Or.inl (hrefused h fun _ => nofun)
  obtain ⟨⟨inner, next⟩, happend, heq⟩ := Option.map_eq_some_iff.mp h
  cases inner with
  | error failure =>
    obtain ⟨rfl, rfl⟩ := Prod.mk.inj heq
    exact Or.inr (Or.inr ⟨failure, rfl, happend⟩)
  | ok =>
    obtain ⟨rfl, rfl⟩ := Prod.mk.inj heq
    exact Or.inr (Or.inl ⟨next, rfl, happend, rfl⟩)

theorem finalize_cases {ending : F.Ending} {result : Except (Failure F) F.Terminal}
    (h : journal.finalize ending os = some (result, journal')) :
    (∃ failure, result = .error failure ∧ journal' = journal ∧
      ∀ unwritten, failure ≠ .unwritten unwritten) ∨
    (∃ terminal next, result = .ok terminal ∧
      journal.append (.terminal terminal) os = some (.ok (), next) ∧ journal.terminal = none ∧
      journal' = { next with terminal := some terminal }) ∨
    ∃ terminal failure, result = .error failure ∧
      journal.append (.terminal terminal) os = some (.error failure, journal') := by
  unfold Journal.finalize at h
  split at h
  · obtain ⟨rfl, rfl⟩ := Prod.mk.inj (Option.some.inj h)
    exact Or.inl ⟨_, rfl, rfl, fun _ => nofun⟩
  rename_i hopen
  split at h
  · obtain ⟨rfl, rfl⟩ := Prod.mk.inj (Option.some.inj h)
    exact Or.inl ⟨_, rfl, rfl, fun _ => nofun⟩
  obtain ⟨⟨inner, next⟩, happend, heq⟩ := Option.map_eq_some_iff.mp h
  cases inner with
  | error failure =>
    obtain ⟨rfl, rfl⟩ := Prod.mk.inj heq
    exact Or.inr (Or.inr ⟨_, failure, rfl, happend⟩)
  | ok =>
    obtain ⟨rfl, rfl⟩ := Prod.mk.inj heq
    exact Or.inr (Or.inl ⟨_, next, rfl, happend,
      Option.not_isSome_iff_eq_none.mp hopen, rfl⟩)

theorem Keeps.recordCall (h : Keeps journal rows) {call : F.Call}
    {result : Except (Failure F) Unit}
    (hrecord : journal.recordCall call os = some (result, journal')) :
    Left rows (result.map fun _ => [.call call]) journal' := by
  rcases recordCall_cases hrecord with ⟨failure, rfl, rfl, hnot⟩ | ⟨next, rfl, happend, rfl⟩ |
    ⟨failure, rfl, happend⟩
  · exact .of_error h fun unwritten heq => absurd heq (hnot unwritten)
  · rcases append_spec h happend with ⟨-, file, digest, rfl, hfiled, hend⟩ | ⟨_, heq, -⟩
    · refine ⟨⟨hfiled, fun _ => hend, ?_, ?_, ?_⟩, fun _ => nofun⟩
      · simp [appended, Except.map, h.rowIndex]
      · simp [appended, Except.map, h.calls, Body.call?]
      · simp [appended, Except.map, h.terminal, Body.terminal?]
    · cases heq
  · rcases append_spec h happend with ⟨heq, -⟩ | ⟨_, heq, hkeeps, hfailure⟩
    · cases heq
    · obtain rfl := Except.error.inj heq
      exact .of_error hkeeps hfailure

theorem Keeps.finalize (h : Keeps journal rows) {ending : F.Ending}
    {result : Except (Failure F) F.Terminal}
    (hfinalize : journal.finalize ending os = some (result, journal')) :
    Left rows (result.map fun terminal => [.terminal terminal]) journal' := by
  rcases finalize_cases hfinalize with ⟨failure, rfl, rfl, hnot⟩ |
    ⟨terminal, next, rfl, happend, -, rfl⟩ | ⟨terminal, failure, rfl, happend⟩
  · exact .of_error h fun unwritten heq => absurd heq (hnot unwritten)
  · rcases append_spec h happend with ⟨-, file, digest, rfl, hfiled, hend⟩ | ⟨_, heq, -⟩
    · refine ⟨⟨hfiled, fun _ => hend, ?_, ?_, ?_⟩, fun _ => nofun⟩
      · simp [appended, Except.map, h.rowIndex]
      · simp [appended, Except.map, h.calls, Body.call?]
      · simp [appended, Except.map, Body.terminal?]
    · cases heq
  · rcases append_spec h happend with ⟨heq, -⟩ | ⟨_, heq, hkeeps, hfailure⟩
    · cases heq
    · obtain rfl := Except.error.inj heq
      exact .of_error hkeeps hfailure

/-- One call keeps the writer and its file in agreement, and one that could not make its row
durable finishes the writer. -/
theorem Keeps.perform (h : Keeps journal rows)
    (hperform : journal.perform os command = some (reply, journal')) :
    Left rows reply journal' := by
  cases command with
  | recordCall call =>
    obtain ⟨⟨result, next⟩, hrecord, heq⟩ := Option.map_eq_some_iff.mp hperform
    obtain ⟨rfl, rfl⟩ := Prod.mk.inj heq
    exact h.recordCall hrecord
  | finalize ending =>
    obtain ⟨⟨result, next⟩, hfinalize, heq⟩ := Option.map_eq_some_iff.mp hperform
    obtain ⟨rfl, rfl⟩ := Prod.mk.inj heq
    exact h.finalize hfinalize
  | close =>
    obtain ⟨rfl, rfl⟩ := Prod.mk.inj (Option.some.inj hperform)
    refine ⟨?_, fun _ => nofun⟩
    rw [appended, List.append_nil]
    exact ⟨h.filed, h.atEnd, h.rowIndex, h.calls, h.terminal⟩

theorem append_finished {body : Body F} {result : Except (Failure F) Unit} {failure : WriteFailure}
    (hpoisoned : journal.poisoned = some failure)
    (h : journal.append body os = some (result, journal')) :
    result = .error (.poisoned failure) ∧ journal' = journal := by
  rw [Journal.append, hpoisoned] at h
  obtain ⟨rfl, rfl⟩ := Prod.mk.inj (Option.some.inj h)
  exact ⟨rfl, rfl⟩

/-- A writer that is finished appends nothing, and its file stays as it is. -/
theorem perform_finished {failure : WriteFailure} (hpoisoned : journal.poisoned = some failure)
    (h : journal.perform os command = some (reply, journal')) :
    appended reply = [] ∧ journal'.file = journal.file ∧ journal'.poisoned = some failure := by
  cases command with
  | recordCall call =>
    obtain ⟨⟨result, next⟩, hrecord, heq⟩ := Option.map_eq_some_iff.mp h
    obtain ⟨rfl, rfl⟩ := Prod.mk.inj heq
    rcases recordCall_cases hrecord with ⟨_, rfl, rfl, -⟩ | ⟨_, -, happend, -⟩ | ⟨_, rfl, happend⟩
    · exact ⟨rfl, rfl, hpoisoned⟩
    · cases (append_finished hpoisoned happend).1
    · obtain ⟨-, rfl⟩ := append_finished hpoisoned happend
      exact ⟨rfl, rfl, hpoisoned⟩
  | finalize ending =>
    obtain ⟨⟨result, next⟩, hfinalize, heq⟩ := Option.map_eq_some_iff.mp h
    obtain ⟨rfl, rfl⟩ := Prod.mk.inj heq
    rcases finalize_cases hfinalize with ⟨_, rfl, rfl, -⟩ | ⟨_, _, -, happend, -⟩ |
      ⟨_, _, rfl, happend⟩
    · exact ⟨rfl, rfl, hpoisoned⟩
    · cases (append_finished hpoisoned happend).1
    · obtain ⟨-, rfl⟩ := append_finished hpoisoned happend
      exact ⟨rfl, rfl, hpoisoned⟩
  | close =>
    obtain ⟨rfl, rfl⟩ := Prod.mk.inj (Option.some.inj h)
    exact ⟨rfl, rfl, hpoisoned⟩

/-- Whatever the operating system answers, the writer and its file agree on the rows whose append
returned, and after a row that could not be made durable no call adds a byte. -/
theorem appends_withstand {s₀ s : Recording F} (hcreated : Created header s₀)
    (hrun : Reaches Recording.Step s₀ s) :
    Keeps s.journal s.rows ∧ ∀ command os unwritten journal',
      s.journal.perform os command = some (.error (.unwritten unwritten), journal') →
      ∀ later, Reaches Recording.Step ⟨journal', s.rows⟩ later →
        later.journal.file = journal'.file ∧ later.rows = s.rows := by
  have hkeeps : Keeps s.journal s.rows := by
    refine hrun.invariant (I := fun s => Keeps s.journal s.rows) (create_keeps hcreated) ?_
    rintro s a t hkeeps - ⟨-, reply, hperform, hrows⟩
    rw [hrows]
    exact (hkeeps.perform hperform).1
  refine ⟨hkeeps, fun command os unwritten journal' hperform later hlater => ?_⟩
  have hpoisoned := (hkeeps.perform hperform).2 unwritten rfl
  have hfinished := hlater.invariant (I := fun t => t.journal.poisoned = some unwritten ∧
    t.journal.file = journal'.file ∧ t.rows = s.rows) ⟨hpoisoned, rfl, rfl⟩ (by
      rintro t a u ⟨hfailed, hfile, hrows⟩ - ⟨-, reply, hstep, hrest⟩
      obtain ⟨hnone, hsame, hstill⟩ := perform_finished hfailed hstep
      refine ⟨hstill, hsame.trans hfile, ?_⟩
      rw [hrest, hnone, List.append_nil, hrows])
  exact hfinished.2

/-- Rows of two bytes: their index, and how many calls they follow or which call they are. -/
def tally : Format where
  Header := Unit
  Call := ℕ
  Ending := Unit
  Terminal := ℕ
  Digest := ℕ
  Refusal := Unit
  genesis := 0
  callIndex := fun call => call
  validate := fun _ => .ok ()
  admissible := fun _ _ _ => .ok ()
  conclude := fun calls _ => .ok calls.length
  headerRow := fun index tip _ => .ok (tip + 1, [index.toUInt8, 0])
  callRow := fun index tip call => .ok (tip + 1, [index.toUInt8, call.toUInt8])
  terminalRow := fun index tip terminal => .ok (tip + 1, [index.toUInt8, terminal.toUInt8])

/-- Every write takes what it is offered. -/
def calm : Weather := ⟨true, [.accepted 1, .interrupted, .accepted 1], true, true, true, true⟩

/-- The second byte of the row is lost with the device. -/
def torn : Weather := ⟨true, [.accepted 1, .failed], true, true, true, true⟩

def begun : Recording tally :=
  ⟨{ file := ⟨[0, 0], 2⟩, header := (), rowIndex := 1, previous := (1 : ℕ) }, [.header ()]⟩

def called : Recording tally :=
  ⟨{ file := ⟨[0, 0, 1, 0], 4⟩, header := (), calls := [(0 : ℕ)], rowIndex := 2,
     previous := (2 : ℕ) }, [.header (), .call (0 : ℕ)]⟩

def broken : Journal tally :=
  { called.journal with poisoned := some ⟨.call, true⟩ }

theorem called_withstands : Keeps called.journal called.rows ∧
    ∀ later, Reaches Recording.Step ⟨broken, called.rows⟩ later →
      later.journal.file = ⟨[0, 0, 1, 0], 4⟩ ∧ later.rows = called.rows := by
  have hbegun : Created (F := tally) () begun := ⟨calm, .ok (), rfl, rfl⟩
  have hcalled : Reaches Recording.Step begun called :=
    (Run.refl begun).tail (a := (.recordCall (0 : ℕ), calm)) trivial
      ⟨by simp [begun], .ok [.call (0 : ℕ)], rfl, rfl⟩
  obtain ⟨hkeeps, hfinished⟩ := appends_withstand hbegun hcalled
  exact ⟨hkeeps, hfinished (.recordCall (1 : ℕ)) torn ⟨.call, true⟩ broken rfl⟩

end Runs

end OperateBench.ExecutionLedger
