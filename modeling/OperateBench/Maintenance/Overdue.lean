import OperateBench.Core.Horizon
import OperateBench.Core.Scenes
import OperateBench.Maintenance.Evaluator
import OperateBench.Maintenance.Duties
import OperateBench.Maintenance.Fixture
import OperateBench.Maintenance.Agreement

/-! # Deadlines that were missed

Only a timer that fires on an open duty marks it as breached. A duty that is discharged
after its deadline, or is still open when the run is cut off, leaves no trace that the
grader looks for; in runs where neither happens no missed deadline is graded as kept.
-/

namespace OperateBench.Maintenance

open Foundation Engine EngineState

variable {op : MaintenanceOperation} {E : Engine MaintenanceState}
  {s s' : EngineState MaintenanceState}

section Spec

/-- One instant lies strictly before another. -/
def Precedes (a b : String) : Prop := ∃ i j, strptime a = .ok i ∧ strptime b = .ok j ∧ i < j

/-- The call discharges a duty that is past its deadline. -/
def Late (op : MaintenanceOperation) (state : MaintenanceState) (call : Call) : Prop :=
  ∃ duty, Discharges op state call duty ∧ duty.status = .opened ∧
    Precedes duty.dueAt call.context.now

/-- Nothing that the next step puts to the operation comes late. -/
def Punctual (op : MaintenanceOperation) (E : Engine MaintenanceState)
    (s : EngineState MaintenanceState) : Prop :=
  ∀ call, E.Puts s call → ¬Late op s.state call

end Spec

section Invariant

/-- What is known of a duty from the rows on record. -/
structure Recorded (records : List Record) (duty : Obligation) : Prop where
  breached : duty.status = .breached → ∃ row ∈ records, row.isType "obligation_breached" = true
  discharged : duty.status = .discharged →
    ∀ closedAt, duty.closedAt = some closedAt → ¬Precedes duty.dueAt closedAt
  opened : duty.status = .opened → duty.closedAt = none

def AllRecorded (s : EngineState MaintenanceState) : Prop :=
  ∀ duty ∈ s.state.obligations.values, Recorded s.ledger.records duty

theorem Recorded.mono {records records' : List Record} {duty : Obligation}
    (h : Recorded records duty) (hr : ∀ row ∈ records, row ∈ records') : Recorded records' duty :=
  { h with breached := fun hb => (h.breached hb).imp fun row hm => ⟨hr row hm.1, hm.2⟩ }

theorem Fate.recorded {now : String} {D : Obligation → Prop} {before : Duties}
    {effects : List Effect} {records : List Record} {duty : Obligation}
    (h : Fate now D before effects duty) (hb : ∀ duty ∈ before.values, Recorded records duty)
    (hd : ∀ duty, D duty → duty.status = .opened → ¬Precedes duty.dueAt now)
    (hw : ∀ recordType payload, Effect.record recordType payload ∈ effects →
      ∃ row ∈ records, row.recordType = recordType ∧ row.payload = payload) :
    Recorded records duty := by
  cases h with
  | unchanged onFile => exact hb duty (Registry.mem_values_iff.mpr onFile)
  | opened status unclosed =>
    refine ⟨fun h => ?_, fun h => ?_, fun _ => unclosed⟩
    · rw [status] at h; cases h
    · rw [status] at h; cases h
  | closed source opened allowed recorded =>
    rename_i duty closure
    refine ⟨fun h => ?_, fun h => ?_, fun h => absurd h closure.status_ne_opened⟩
    · obtain ⟨row, hm, ht, _⟩ := hw _ _ recorded
      refine ⟨row, hm, ?_⟩
      cases closure with
      | breached => simpa [Record.isType, Closure.recordType] using ht
      | discharged => cases h
      | cancelled => cases h
    · rintro _ ⟨⟩
      cases closure with
      | discharged => exact hd duty (allowed rfl) opened
      | breached => cases h
      | cancelled => cases h

variable {sha256 : Value → String} {agent : OperationAgent} {operationId instanceId : String}
  {faults : List String}

theorem AllRecorded.scene {P : MaintenanceState → Call → Prop} {V : Cause → Prop}
    (ha : AllRecorded s)
    (h : (op.engine sha256 agent operationId instanceId faults).Scene P V s s')
    (hP : ∀ state call, P state call → ¬Late op state call) : AllRecorded s' := by
  obtain ⟨hkept, hstate | ⟨call, reduction, hr⟩⟩ := h.reduced
  · intro duty hd
    rw [hstate] at hd
    exact (ha duty hd).mono hkept
  · have hrespond : op.respond call s.state = .ok reduction :=
      (congrFun (congrFun (op.reduce_domain sha256) call) s.state).symm.trans hr.reduced
    intro duty hd
    rw [hr.state] at hd
    rcases MaintenanceOperation.respond_worked hrespond with ⟨code, detail, rfl⟩ | ⟨_, ops⟩
    · exact (ha duty hd).mono hkept
    · refine (Ops.fate ops duty hd).recorded (fun duty hd => (ha duty hd).mono hkept) ?_ hr.written
      intro duty hdischarges ho hp
      exact hP _ _ hr.put ⟨duty, hdischarges, ho, hp⟩

theorem AllRecorded.step (ha : AllRecorded s)
    (hp : Punctual op (op.engine sha256 agent operationId instanceId faults) s)
    (h : (op.engine sha256 agent operationId instanceId faults).step s = .ok s') :
    AllRecorded s' := by
  have hscenes := step_scenes h
  clear h
  induction hscenes with
  | refl => exact ha
  | tail _ scene ih =>
    refine ih.scene scene ?_
    rintro state call ⟨rfl, put⟩
    exact hp call put

end Invariant

section Grading

variable {sha256 : Value → String} {agent : OperationAgent} {operationId instanceId : String}
  {faults : List String} {outcome : EpisodeOutcome}

theorem Discharges.mem {state : MaintenanceState} {call : Call} {duty : Obligation}
    (h : Discharges op state call duty) : duty ∈ state.obligations.values := by
  cases h with
  | visit _ _ _ _ onFile => exact Registry.mem_values_iff.mpr (Registry.get?_ident onFile)
  | decision _ _ _ onFile => exact Registry.mem_values_iff.mpr (Registry.get?_ident onFile)
  | notice _ _ _ _ onFile => exact Registry.mem_values_iff.mpr (Registry.get?_ident onFile)
  | reminder _ _ _ _ _ _ onFile => exact Registry.mem_values_iff.mpr (Registry.get?_ident onFile)

end Grading

end OperateBench.Maintenance
