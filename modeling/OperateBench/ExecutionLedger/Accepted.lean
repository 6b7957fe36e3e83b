import OperateBench.ExecutionLedger.Durability

/-! # The calls that a writer accepted

Whatever the operating system answers, the calls that a writer holds are those it accepted, each
one after the ones before it, and no append touches them.
-/

namespace OperateBench.ExecutionLedger

open Foundation

variable {F : Format} {header : F.Header} {journal journal' : Journal F} {os : Weather}

/-- Calls that `record_call` accepted, each after the ones before it. -/
inductive Accepted (header : F.Header) : List F.Call → Prop
  | nil : Accepted header []
  | snoc {calls : List F.Call} {call : F.Call} (h : Accepted header calls)
      (valid : F.validate call = .ok ()) (index : F.callIndex call = calls.length)
      (admissible : F.admissible header calls.getLast? call = .ok ()) :
      Accepted header (calls ++ [call])

theorem Accepted.valid {calls : List F.Call} (h : Accepted header calls) {call : F.Call}
    (hmem : call ∈ calls) : F.validate call = .ok () := by
  induction h with
  | nil => cases hmem
  | snoc _ valid _ _ ih =>
    rcases List.mem_append.mp hmem with hmem | hmem
    · exact ih hmem
    · exact List.mem_singleton.mp hmem ▸ valid

/-- Only the file and what is known of its end are touched. -/
structure Touches (journal journal' : Journal F) : Prop where
  header : journal'.header = journal.header
  calls : journal'.calls = journal.calls
  terminal : journal'.terminal = journal.terminal

theorem appendDurably_touches {payload : List UInt8} {kind : RowKind}
    {result : Except (Failure F) Unit}
    (h : journal.appendDurably payload kind os = some (result, journal')) :
    Touches journal journal' := by
  unfold Journal.appendDurably at h
  split at h
  · obtain ⟨-, rfl⟩ := Prod.mk.inj (Option.some.inj h)
    exact ⟨rfl, rfl, rfl⟩
  · obtain ⟨⟨written, file⟩, -, h⟩ := Option.map_eq_some_iff.mp h
    dsimp only at h
    split at h
    · obtain ⟨-, rfl⟩ := Prod.mk.inj h
      exact ⟨rfl, rfl, rfl⟩
    · obtain ⟨-, rfl⟩ := Prod.mk.inj h
      exact ⟨rfl, rfl, rfl⟩

theorem append_touches {body : Body F} {result : Except (Failure F) Unit}
    (h : journal.append body os = some (result, journal')) : Touches journal journal' := by
  have hsame {result result' : Except (Failure F) Unit}
      (h : some (result', journal) = some (result, journal')) : Touches journal journal' := by
    obtain ⟨-, rfl⟩ := Prod.mk.inj (Option.some.inj h)
    exact ⟨rfl, rfl, rfl⟩
  unfold Journal.append at h
  split at h
  · exact hsame h
  · split at h
    · exact hsame h
    · split at h
      · exact hsame h
      · obtain ⟨⟨inner, next⟩, hdurable, heq⟩ := Option.map_eq_some_iff.mp h
        obtain ⟨hheader, hcalls, hterminal⟩ := appendDurably_touches hdurable
        cases inner with
        | error failure =>
          obtain ⟨-, rfl⟩ := Prod.mk.inj heq
          exact ⟨hheader, hcalls, hterminal⟩
        | ok =>
          obtain ⟨-, rfl⟩ := Prod.mk.inj heq
          exact ⟨hheader, hcalls, hterminal⟩

/-- A call is recorded only once it was accepted. -/
theorem recordCall_accepts {call : F.Call} {result : Except (Failure F) Unit}
    (h : journal.recordCall call os = some (result, journal')) :
    journal'.header = journal.header ∧ (journal'.calls = journal.calls ∨
      journal'.calls = journal.calls ++ [call] ∧ F.validate call = .ok () ∧
        F.callIndex call = journal.calls.length ∧
        F.admissible journal.header journal.calls.getLast? call = .ok ()) := by
  have hsame {result' : Except (Failure F) Unit}
      (h : some (result', journal) = some (result, journal')) :
      journal'.header = journal.header ∧ journal'.calls = journal.calls := by
    obtain ⟨-, rfl⟩ := Prod.mk.inj (Option.some.inj h)
    exact ⟨rfl, rfl⟩
  unfold Journal.recordCall at h
  split at h
  · exact (hsame h).imp_right .inl
  rename_i hvalid
  split at h
  · exact (hsame h).imp_right .inl
  split at h
  · exact (hsame h).imp_right .inl
  rename_i hindex
  split at h
  · exact (hsame h).imp_right .inl
  rename_i hadmissible
  obtain ⟨⟨inner, next⟩, happend, heq⟩ := Option.map_eq_some_iff.mp h
  obtain ⟨hheader, hcalls, -⟩ := append_touches happend
  cases inner with
  | error failure =>
    obtain ⟨-, rfl⟩ := Prod.mk.inj heq
    exact ⟨hheader, .inl hcalls⟩
  | ok =>
    obtain ⟨-, rfl⟩ := Prod.mk.inj heq
    refine ⟨hheader, .inr ⟨?_, hvalid, not_not.mp hindex, hadmissible⟩⟩
    rw [hcalls]

theorem finalize_accepts {ending : F.Ending} {result : Except (Failure F) F.Terminal}
    (h : journal.finalize ending os = some (result, journal')) :
    journal'.header = journal.header ∧ journal'.calls = journal.calls := by
  rcases finalize_cases h with ⟨-, -, rfl, -⟩ | ⟨terminal, next, -, happend, -, rfl⟩ |
    ⟨terminal, failure, -, happend⟩
  · exact ⟨rfl, rfl⟩
  · have htouches := append_touches happend
    exact ⟨htouches.header, htouches.calls⟩
  · have htouches := append_touches happend
    exact ⟨htouches.header, htouches.calls⟩

/-- The calls of a writer in use are accepted ones. -/
theorem accepted_of_run {s₀ s : Recording F} (hcreated : Created header s₀)
    (hrun : Reaches Recording.Step s₀ s) :
    s.journal.header = header ∧ Accepted header s.journal.calls := by
  apply hrun.invariant (I := fun s => s.journal.header = header ∧ Accepted header s.journal.calls)
  · obtain ⟨os, result, hcreate, -⟩ := hcreated
    obtain ⟨hheader, hcalls, -⟩ := append_touches hcreate
    exact ⟨hheader, hcalls ▸ .nil⟩
  · rintro s ⟨command, os⟩ t ⟨hheader, hcalls⟩ - ⟨-, reply, hperform, -⟩
    cases command with
    | recordCall call =>
      obtain ⟨⟨result, next⟩, hrecord, heq⟩ := Option.map_eq_some_iff.mp hperform
      obtain ⟨-, rfl⟩ := Prod.mk.inj heq
      obtain ⟨hsame, hkept | ⟨hnew, hvalid, hindex, hadmissible⟩⟩ := recordCall_accepts hrecord
      · exact ⟨hsame.trans hheader, hkept ▸ hcalls⟩
      · refine ⟨hsame.trans hheader, hnew ▸ hcalls.snoc hvalid hindex ?_⟩
        rwa [← hheader]
    | finalize ending =>
      obtain ⟨⟨result, next⟩, hfinalize, heq⟩ := Option.map_eq_some_iff.mp hperform
      obtain ⟨-, rfl⟩ := Prod.mk.inj heq
      obtain ⟨hsame, hkept⟩ := finalize_accepts hfinalize
      exact ⟨hsame.trans hheader, hkept ▸ hcalls⟩
    | close =>
      obtain ⟨-, hclosed⟩ := Prod.mk.inj (Option.some.inj hperform)
      rw [← hclosed]
      exact ⟨hheader, hcalls⟩

/-- `finalize` goes as far as to append this terminal. -/
def Journal.Agrees (journal : Journal F) (ending : F.Ending) (terminal : F.Terminal) : Prop :=
  journal.terminal = none ∧ F.conclude journal.calls ending = .ok terminal

/-- `finalize` fails and leaves the writer as it was. -/
def Journal.Refuses (journal : Journal F) (ending : F.Ending) : Prop :=
  ∀ os, ∃ failure, journal.finalize ending os = some (.error failure, journal)

theorem Journal.Agrees.finalize {ending : F.Ending} {terminal : F.Terminal}
    (h : journal.Agrees ending terminal) (os : Weather) {after : Journal F}
    (happend : journal.append (.terminal terminal) os = some (.ok (), after)) :
    journal.finalize ending os = some (.ok terminal, { after with terminal := some terminal }) := by
  obtain ⟨hopen, hconclude⟩ := h
  rw [Journal.finalize, hopen]
  simp only [Option.isSome_none, Bool.false_eq_true, if_false, hconclude, happend, Option.map_some]

theorem Journal.refuses_of_error {ending : F.Ending} {refusal : F.Refusal}
    (h : F.conclude journal.calls ending = .error refusal) : journal.Refuses ending := by
  intro os
  rw [Journal.finalize]
  split
  · exact ⟨_, rfl⟩
  · rw [h]
    exact ⟨_, rfl⟩

end OperateBench.ExecutionLedger
