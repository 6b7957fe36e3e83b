import OperateBench.Core.Pending
import OperateBench.Core.Timeliness
import OperateBench.ReturnRefund.Phases

/-! # What is pending passes the contracts

The loader holds every authored event to the contract of its type, and a conditional is
rewritten when it fires. What is written over it are identities of records on file, and
these are never blank. So is what a timer carries, and no event that is delivered is
ever turned away at the door.
-/

namespace OperateBench.ReturnRefund

open Foundation

variable {op : ReturnRefundOperation} {now : String} {s : ReturnRefundState} {cause : Cause}
  {t : Transaction}

section Payloads

variable {schema : PayloadSchema} {payload : Fields} {name id : String}

theorem Valid.set (h : Valid schema payload) (hc : payload.contains name = true)
    (hk : ∀ kind, (name, kind) ∈ schema.fields → kind = .string) (hid : isBlank id = false) :
    Valid schema (payload.set name (.str id)) := by
  have hcontains : ∀ name', (payload.set name (.str id)).contains name' = true ↔
      payload.contains name' = true := by
    intro name'
    rw [Dict.contains_iff, Dict.contains_iff, Dict.get?_set]
    split
    · rename_i heq
      exact ⟨fun _ => heq ▸ Dict.contains_iff.mp hc, fun _ => ⟨_, rfl⟩⟩
    · rfl
  refine ⟨fun name' hn => h.known name' ((hcontains name').mp hn),
    fun e he => (hcontains e.1).mpr (h.required e he), ?_⟩
  rintro ⟨name', kind⟩ he value hv
  rw [Dict.get?_set] at hv
  split at hv
  · rename_i heq
    obtain rfl := heq
    obtain rfl := Option.some.inj hv
    rw [hk kind he]
    simp [PayloadKind.holds, hid]
  · exact h.holds _ he value hv

/-- Identities may be written over the fields they are passed on under. -/
theorem Valid.rebound {bindings : Bindings} (h : Valid schema payload)
    (hb : ∀ e ∈ bindings.entries, isBlank e.2 = false ∧
      ∀ kind, (e.1, kind) ∈ schema.fields → kind = .string) :
    Valid schema (rebind payload bindings) := by
  unfold rebind
  revert hb
  generalize bindings.entries = entries
  intro hb
  induction entries generalizing payload with
  | nil => exact h
  | cons e entries ih =>
    rw [List.foldl_cons]
    refine ih ?_ fun e' he' => hb e' (List.mem_cons_of_mem _ he')
    split
    · rename_i hc
      obtain ⟨hid, hk⟩ := hb e List.mem_cons_self
      exact h.set hc hk hid
    · exact h

/-- What a timer carries: what it is about, and the cycle. -/
theorem timerPayload_valid {cycle : String} (hs : schema =
      ⟨[(name, .string), ("cycle_id", .string)], []⟩) (hn : name ≠ "cycle_id")
    (hid : isBlank id = false) (hc : isBlank cycle = false) :
    Valid schema (.ofList [(name, .str id), ("cycle_id", .str cycle)]) := by
  subst hs
  have hget : ∀ name', (Dict.ofList [(name, Value.str id), ("cycle_id", .str cycle)]).get? name' =
      if "cycle_id" = name' then some (.str cycle) else if name = name' then some (.str id)
        else none := by
    intro name'
    simp [Dict.ofList, Dict.get?_set]
  refine ⟨?_, ?_, ?_⟩
  · intro name' hname
    obtain ⟨value, hv⟩ := Dict.contains_iff.mp hname
    rw [hget] at hv
    split at hv
    · simp [PayloadSchema.fields, *]
    · split at hv
      · simp [PayloadSchema.fields, *]
      · cases hv
  · simp [Dict.contains, hget, hn.symm]
  · simp [PayloadSchema.fields, hget, PayloadKind.holds, hid, hc, hn.symm]

theorem isBlank_allocate {stem : String} (h : isBlank stem = false) (used : List String) :
    isBlank (allocate stem used) = false := by
  have hfresh : ∃ index : ℕ, allocate stem used = s!"{stem}_{index}" :=
    freshFrom_eq used.length (used.length + 1)
  obtain ⟨index, hindex⟩ := hfresh
  have happend : allocate stem used = stem ++ ("_" ++ toString index) :=
    hindex.trans String.append_assoc
  unfold isBlank at h
  rw [happend, isBlank, String.toList_append, List.all_append, h, Bool.false_and]

end Payloads

section Identities

/-- No record is filed under a blank identity. -/
structure Identified (s : ReturnRefundState) : Prop where
  authorisations : ∀ a ∈ s.authorisations.values, isBlank a.authorisationId = false
  inspections : ∀ i ∈ s.inspections.values, isBlank i.inspectionId = false
  checkpoints : ∀ c ∈ s.checkpoints.values, isBlank c.checkpointId = false
  refunds : ∀ refund ∈ s.refunds.values, isBlank refund.refundRequestId = false
  communications : ∀ row ∈ s.communications.values, isBlank row.communicationId = false

theorem Identified.initial : Identified op.initialState :=
  ⟨fun _ h => absurd h List.not_mem_nil, fun _ h => absurd h List.not_mem_nil,
    fun _ h => absurd h List.not_mem_nil, fun _ h => absurd h List.not_mem_nil,
    fun _ h => absurd h List.not_mem_nil⟩

theorem Commit.identified (hc : Commit op now s cause t) (h : Identified s) :
    Identified t.state := by
  obtain ⟨ha, hi, hk, hr, hm⟩ := h
  cases hc with
  | handoverVerified _ onFile =>
    have hold := ha _ (Registry.mem_of_get? onFile)
    exact ⟨Registry.forall_put ha hold, hi, hk, hr, hm⟩
  | inspected admitted =>
    have hrequired : ("inspection_id", PayloadKind.string) ∈
        (eventPayloadSchema .warehouseInspectionCompleted).required := by decide
    obtain ⟨id, hg, hid⟩ := validated_text admitted.valid hrequired
    refine ⟨ha, Registry.forall_put hi ?_, hk, hr, hm⟩
    rw [Fields.text, hg]
    exact hid
  | decided _ onFile =>
    have hold := hk _ (Registry.mem_of_get? onFile)
    exact ⟨ha, hi, Registry.forall_put hk hold, hr, hm⟩
  | settled _ onFile =>
    have hold := hr _ (Registry.mem_of_get? onFile)
    exact ⟨ha, hi, hk, Registry.forall_put hr hold, hm⟩
  | reversed _ onFile =>
    have hold := hr _ (Registry.mem_of_get? onFile)
    exact ⟨ha, hi, hk, Registry.forall_put hr hold, hm⟩
  | reminderFired _ _ onFile =>
    have hold := ha _ (Registry.mem_of_get? onFile)
    exact ⟨Registry.forall_put ha hold, hi, hk, hr, hm⟩
  | returnExpired _ _ onFile =>
    have hold := ha _ (Registry.mem_of_get? onFile)
    exact ⟨Registry.forall_put ha hold, hi, hk, hr, hm⟩
  | approvalExpired _ _ onFile =>
    have hold := hk _ (Registry.mem_of_get? onFile)
    exact ⟨ha, hi, Registry.forall_put hk hold, hr, hm⟩
  | authorised =>
    exact ⟨Registry.forall_put ha (isBlank_allocate (by decide) _), hi, hk, hr, hm⟩
  | reviewRequested =>
    exact ⟨ha, hi, Registry.forall_put hk (isBlank_allocate (by decide) _), hr, hm⟩
  | refundRequested =>
    exact ⟨ha, hi, hk, Registry.forall_put hr (isBlank_allocate (by decide) _), hm⟩
  | messageSent =>
    exact ⟨ha, hi, hk, hr, Registry.forall_put hm (isBlank_allocate (by decide) _)⟩
  | _ => exact ⟨ha, hi, hk, hr, hm⟩

/-- What is passed on is not blank, and stands in a text field wherever it stands. -/
theorem OnFile.rebinds {name id : String} (h : OnFile s name id) (hs : Identified s) :
    isBlank id = false ∧
      ∀ eventType kind, (name, kind) ∈ (eventPayloadSchema eventType).fields → kind = .string := by
  cases h with
  | authorisation filed =>
    obtain ⟨a, ha⟩ := Registry.contains_iff.mp filed
    refine ⟨Registry.ident_of_get? ha ▸ hs.authorisations a (Registry.mem_of_get? ha), ?_⟩
    intro eventType
    cases eventType <;> simp [eventPayloadSchema, PayloadSchema.fields]
  | checkpoint filed =>
    obtain ⟨c, hc⟩ := Registry.contains_iff.mp filed
    refine ⟨Registry.ident_of_get? hc ▸ hs.checkpoints c (Registry.mem_of_get? hc), ?_⟩
    intro eventType
    cases eventType <;> simp [eventPayloadSchema, PayloadSchema.fields]
  | refund filed =>
    obtain ⟨refund, hr⟩ := Registry.contains_iff.mp filed
    refine ⟨Registry.ident_of_get? hr ▸ hs.refunds refund (Registry.mem_of_get? hr), ?_⟩
    intro eventType
    cases eventType <;> simp [eventPayloadSchema, PayloadSchema.fields]
  | communication filed =>
    obtain ⟨row, hr⟩ := Registry.contains_iff.mp filed
    refine ⟨Registry.ident_of_get? hr ▸ hs.communications row (Registry.mem_of_get? hr), ?_⟩
    intro eventType
    cases eventType <;> simp [eventPayloadSchema, PayloadSchema.fields]

end Identities

section Timers

theorem schedule_mem_timersOf {eventId typeName actorId : String} {minutes : Int}
    {payload : Fields} {triggersAgent : Bool} {effects : List Effect}
    (h : .scheduleTimer eventId typeName actorId minutes payload triggersAgent ∈ effects) :
    .scheduleTimer eventId typeName actorId minutes payload triggersAgent ∈ timersOf effects :=
  List.mem_filter.mpr ⟨h, rfl⟩

/-- A timer is the scheduler's, and carries what its contract asks for. -/
theorem Commit.schedules (hc : Commit op now s cause t) (hs : Coherent op s) (hi : Identified s)
    {eventId typeName actorId : String} {minutes : Int} {payload : Fields} {triggersAgent : Bool}
    (hm : Effect.scheduleTimer eventId typeName actorId minutes payload triggersAgent ∈ t.effects) :
    actorId = "scheduler" ∧ ∃ eventType : EventType, typeName = eventType.text ∧
      eventType.authority = "emit_timer" ∧ Valid (eventPayloadSchema eventType) payload := by
  have hm := schedule_mem_timersOf hm
  have hcycle : s.phase ≠ .new → ∃ cycle, s.currentCycleId = some cycle ∧ isBlank cycle = false := by
    intro hp
    rcases hs.cycle hp with hcycle | hcycle
    · exact ⟨_, hcycle, by decide⟩
    · exact ⟨_, hcycle, by decide⟩
  cases hc with
  | authorised _ awaited _ _ _ timers =>
    obtain ⟨cycle, hcurrent, hblank⟩ := hcycle (by rw [awaited]; nofun)
    rw [timers, hcurrent] at hm
    have hid : isBlank (allocate "return_authorisation" s.authorisations.keys) = false :=
      isBlank_allocate (by decide) s.authorisations.keys
    rcases List.mem_cons.mp hm with hm | hm
    · cases hm
      exact ⟨rfl, .handoverReminderDue, rfl, rfl, timerPayload_valid rfl (by decide) hid hblank⟩
    · cases List.mem_singleton.mp hm
      exact ⟨rfl, .handoverDeadlineDue, rfl, rfl, timerPayload_valid rfl (by decide) hid hblank⟩
  | reviewRequested _ awaited _ _ _ _ _ _ timers =>
    obtain ⟨cycle, hcurrent, hblank⟩ := hcycle (by rw [awaited]; nofun)
    rw [timers, hcurrent] at hm
    have hid : isBlank (allocate "refund_checkpoint" s.checkpoints.keys) = false :=
      isBlank_allocate (by decide) s.checkpoints.keys
    cases List.mem_singleton.mp hm
    exact ⟨rfl, .approvalDeadlineDue, rfl, rfl, timerPayload_valid rfl (by decide) hid hblank⟩
  | provisionallyClosed _ awaited current _ _ _ timers =>
    obtain ⟨cycle, hcurrent, hblank⟩ := hcycle (by rw [awaited]; nofun)
    obtain ⟨hmem, hnow⟩ := currentRefund_mem current
    obtain rfl := Option.some.inj (hnow.trans hcurrent)
    rw [timers] at hm
    cases List.mem_singleton.mp hm
    exact ⟨rfl, .resolutionCooldownExpired, rfl, rfl,
      timerPayload_valid rfl (by decide) (hi.refunds _ hmem) hblank⟩
  | returnRequested _ _ _ timers => rw [timers] at hm; cases hm
  | handoverClaimed _ _ timers => rw [timers] at hm; cases hm
  | handoverVerified _ _ _ _ _ _ _ _ timers => rw [timers] at hm; simp at hm
  | inspected _ _ _ _ _ _ _ _ timers => rw [timers] at hm; cases hm
  | decided _ _ _ _ _ _ _ timers => rw [timers] at hm; simp at hm
  | settled _ _ _ _ _ _ timers => rw [timers] at hm; cases hm
  | reversed _ _ _ _ _ _ _ timers => rw [timers] at hm; simp at hm
  | reminderFired _ _ _ _ _ timers => rw [timers] at hm; cases hm
  | returnExpired _ _ _ _ _ timers => rw [timers] at hm; cases hm
  | approvalExpired _ _ _ _ _ timers => rw [timers] at hm; cases hm
  | finalized _ _ _ _ _ _ _ _ _ _ _ _ _ timers => rw [timers] at hm; cases hm
  | refundRequested _ _ _ _ _ _ _ _ _ _ timers => rw [timers] at hm; cases hm
  | messageSent _ _ _ _ _ timers => rw [timers] at hm; cases hm
  | closed _ _ timers => rw [timers] at hm; cases hm

end Timers

namespace ReturnRefundOperation

theorem admits_of_valid {event : Event} {eventType : EventType} {actor : ActorSpec}
    (hn : EventType.ofText? event.eventType = some eventType)
    (ha : op.spec.actors.get? event.actorId = some actor)
    (hh : actor.holds eventType.authority = true)
    (hv : Valid (eventPayloadSchema eventType) event.payload) : op.Admits event eventType :=
  ⟨hn, ⟨actor, ha, hh⟩, validatePayload_iff.mpr hv⟩

/-- An event that passes the checks is put to its reducer. -/
theorem reduceEvent_admitted {event : Event} {eventType : EventType} {context : EnvironmentContext}
    (h : op.Admits event eventType) :
    op.reduceEvent s event context = op.reducer s event context eventType := by
  obtain ⟨actor, ha, hh⟩ := h.authorised
  unfold reduceEvent
  simp only [ha, h.named, hh, Bool.not_true, Bool.false_eq_true, if_false, h.valid]

end ReturnRefundOperation

section Runs

/-- What is pending, and what may become so, passes the checks of the operation. -/
structure Inbox (op : ReturnRefundOperation) (s : EngineState ReturnRefundState) : Prop where
  conditionals : ∀ p ∈ s.conditionals, Authored op.spec op.scenario.startsAt p
  pending : ∀ e ∈ s.queue.pending, ∃ eventType, op.Admits e eventType

variable {sha256 : Value → String} {agent : OperationAgent} {operationId instanceId : String}
  {s s' : EngineState ReturnRefundState}

/-- An authored event passes the checks, whatever identities were written over its payload. -/
theorem Authored.admits {p : PlannedEvent} {startsAt instant : String} {bindings : Bindings}
    {causedBy : Option String} (h : Authored op.spec startsAt p)
    (hb : ∀ e ∈ bindings.entries, isBlank e.2 = false ∧
      ∀ eventType kind, (e.1, kind) ∈ (eventPayloadSchema eventType).fields → kind = .string) :
    ∃ eventType, op.Admits (toEvent p instant causedBy bindings) eventType := by
  obtain ⟨eventType, actor, hn, ha, hh, place, hv⟩ := h.actor
  exact ⟨eventType, ReturnRefundOperation.admits_of_valid hn ha hh
    ((validatePayload_iff.mp hv).rebound fun e he => ⟨(hb e he).1, (hb e he).2 eventType⟩)⟩

theorem Inbox.step (hs : (op.engine sha256 agent operationId instanceId).step s = .ok s')
    (hc : Coherent op s.state) (hi : Identified s.state) (h : Inbox op s) : Inbox op s' := by
  obtain ⟨hconditionals, hpending⟩ := Engine.step_brought hs
  refine ⟨fun p hp => h.conditionals p (hconditionals p hp), fun e he => ?_⟩
  rcases hpending e he with he | ⟨call, reduction, hr, hnow, hstate, hb⟩
  · exact h.pending e he
  rcases ReturnRefundOperation.respond_answered (op.respond_of_engine hr) with ⟨code, detail, rfl⟩ | ⟨_, hcommit, hbound⟩
  · cases hb with
    | fired planned instant cause mem accepted => cases accepted
    | timer eventId eventType actorId delay payload triggersAgent instant mem => cases mem
  · cases hb with
    | fired planned instant cause mem accepted fired =>
      subst fired
      exact (h.conditionals planned mem).admits fun b hm =>
        (hbound b hm).rebinds (hcommit.identified hi)
    | timer eventId typeName actorId delay payload triggersAgent instant mem armed =>
      obtain ⟨rfl, eventType, rfl, hauthority, hv⟩ := hcommit.schedules hc hi mem
      obtain ⟨actor, hactor, _, hholds⟩ := op.spec.actorsThere
        ("scheduler", "system_scheduler", ["emit_timer"]) (by simp [requiredActors])
      refine ⟨eventType, ReturnRefundOperation.admits_of_valid ?_ (armed.actorId ▸ hactor)
        (hauthority ▸ hholds "emit_timer" (by simp)) (armed.payload ▸ hv)⟩
      rw [armed.eventType]
      cases eventType <;> decide

theorem start_inbox (h₀ : (op.engine sha256 agent operationId instanceId).start = .ok s) :
    Inbox op s := by
  obtain ⟨hconditionals, hpending⟩ := Engine.start_brought h₀
  refine ⟨fun p hp => op.scenario.authored p (hconditionals p hp), fun e he => ?_⟩
  obtain ⟨planned, hp, instant, rfl⟩ := hpending e he
  exact (op.scenario.authored planned hp).admits nofun

end Runs

end OperateBench.ReturnRefund
