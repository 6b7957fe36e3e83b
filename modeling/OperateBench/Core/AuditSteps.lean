import OperateBench.Core.AuditAccounting

/-! # Steps of the audit runtime

Each call keeps the books sound, and where it halts the runtime the refusal is justified.
-/

namespace OperateBench.AuditBudget

open Foundation

namespace AuditBudgetRuntime

variable {r : AuditBudgetRuntime} {s s' : RuntimeState} {active : TransitionState}
  {source : AuditBudgetSource} {batch : BatchState} {intents : List String}
  {nonce sourceId : String}

section Refusals

variable {α β : Type} {P : HaltRecord → Prop}

/-- Where the computation halts the runtime, its record is as stated, or is the one there was. -/
def Stops (s : RuntimeState) (P : HaltRecord → Prop) (x : Except Refusal α) : Prop :=
  ∀ record, x = .error (.halted record) → P record ∨ s.halt = some record

theorem stops_ok (a : α) : Stops s P (.ok a : Except Refusal α) := nofun

theorem stops_raise (error : AuditError) : Stops s P (raise error : Except Refusal α) := nofun

theorem stops_lift (x : Except AuditError α) : Stops s P (lift x) := by
  cases x with
  | ok a => exact nofun
  | error e => exact nofun

theorem stops_bind {x : Except Refusal α} {f : α → Except Refusal β} (hx : Stops s P x)
    (hf : ∀ a, x = .ok a → Stops s P (f a)) : Stops s P (x >>= f) := by
  intro record hrecord
  cases hc : x with
  | error e =>
    rw [hc] at hrecord
    obtain rfl := Except.error.inj hrecord
    exact hx record hc
  | ok a =>
    rw [hc] at hrecord
    exact hf a hc record hrecord

theorem stops_raiseIfHalted : Stops s P (raiseIfHalted s) := by
  intro record hrecord
  unfold raiseIfHalted at hrecord
  split at hrecord
  · rename_i held hheld
    obtain rfl := Refusal.halted.inj (Except.error.inj hrecord)
    exact Or.inr hheld
  · cases hrecord

theorem stops_stop {refusalClass : RefusalClass} {source? : Option String} {requested : ℕ}
    {transitionId : Option String} {invocationIndex : Option ℕ} {witness : HaltWitness}
    (h : ∀ record, record.refusalClass = refusalClass → record.sourceId = source? → P record) :
    Stops s P (r.stop s refusalClass source? requested transitionId invocationIndex witness :
      Except Refusal α) := by
  intro record hrecord
  simp only [stop] at hrecord
  split at hrecord
  · obtain rfl := Refusal.halted.inj (Except.error.inj hrecord)
    exact Or.inl (h _ rfl rfl)
  · cases hrecord

/-- The runtime may halt for a broken contract. -/
def Allowed (P : HaltRecord → Prop) : Prop :=
  ∀ record, record.refusalClass.integrityCode = "DOMAIN_AUDIT_CONTRACT_VIOLATION" → P record

theorem stops_violation {refusalClass : RefusalClass} {source? : Option String} {requested : ℕ}
    {transitionId : Option String} {invocationIndex : Option ℕ} {witness : HaltWitness}
    (hP : Allowed P)
    (h : refusalClass.integrityCode = "DOMAIN_AUDIT_CONTRACT_VIOLATION") :
    Stops s P (r.stop s refusalClass source? requested transitionId invocationIndex witness :
      Except Refusal α) :=
  stops_stop fun record heq _ => hP record (heq ▸ h)

theorem stops_lifecycleOrProgrammer (hP : Allowed P) :
    Stops s P (r.lifecycleOrProgrammer s active : Except Refusal α) := by
  unfold lifecycleOrProgrammer
  split
  · exact stops_raise _
  · exact stops_violation hP rfl

theorem stops_requireScope {scope : AuditTransitionScope} (hP : Allowed P) :
    Stops s P (r.requireScope s scope) := by
  unfold requireScope
  split
  · exact stops_raise _
  · split
    · exact stops_lifecycleOrProgrammer hP
    · exact stops_ok _

theorem requireScope_ok {scope : AuditTransitionScope} (h : r.requireScope s scope = .ok active) :
    s.active = some active := by
  unfold requireScope at h
  split at h
  · cases h
  · rename_i held hheld
    split at h
    · unfold lifecycleOrProgrammer stopLifecycle stop at h
      split at h
      · cases h
      · dsimp only at h
        split at h <;> cases h
    · obtain rfl := Except.ok.inj h
      exact hheld

/-- A refusal for the aggregate names a source that has no occurrence left, and no arithmetic
overflows. -/
structure Justified (r : AuditBudgetRuntime) (s : RuntimeState) (record : HaltRecord) : Prop where
  inRange : record.refusalClass ≠ .checkedSignedInt64ArithmeticOverflow
  aggregate : record.refusalClass = .validReservationAboveDeclaredAggregate →
    ∃ source ∈ r.declaration.sources, record.sourceId = some source.sourceId ∧
      source.maxAcceptedOccurrences ≤ (usage s).used source.sourceId

theorem allowed_justified : Allowed (r.Justified s) := by
  intro record hcode
  constructor
  · intro heq
    rw [heq] at hcode
    exact absurd hcode (by decide)
  · intro heq
    rw [heq] at hcode
    exact absurd hcode (by decide)

theorem stops_stage : Stops s (r.Justified s) (r.stage s active source intents nonce) := by
  unfold stage
  dsimp only
  split
  · exact stops_violation allowed_justified rfl
  split
  · exact stops_raise _
  split
  · exact stops_raise _
  split
  · exact stops_raise _
  · exact stops_ok _

/-- The refusals of a batch of a known source that is not staged and within its fan-out. -/
theorem stops_reserveKnown (h : r.Sound s) (ho : s.active = some active)
    (hm : source ∈ r.declaration.sources)
    (hunstaged : ∀ batch ∈ active.batches, batch.source.sourceId ≠ source.sourceId)
    (hbounded : intents.length ≤ source.maxEventsPerTransition) :
    Stops s (r.Justified s) (r.reserveKnown s active source intents nonce) := by
  unfold reserveKnown
  dsimp only
  rw [h.attempt ho hm hbounded]
  dsimp only
  split
  · rename_i habove
    refine stops_stop fun record hclass hsource => ⟨?_, fun _ => ⟨source, hm, hsource, ?_⟩⟩
    · rw [hclass]
      exact nofun
    · by_contra hleft
      have hle := h.aggregate_le ho hm hunstaged (Nat.lt_of_not_le hleft) hbounded
      omega
  refine stops_bind (stops_lift _) fun _ _ => stops_bind (stops_lift _) fun _ _ => ?_
  split
  · refine stops_stop fun record hclass _ => ⟨?_, fun haggregate => ?_⟩
    · rw [hclass]
      exact nofun
    · rw [hclass] at haggregate
      cases haggregate
  · exact stops_stage

theorem stops_reserve (h : r.Sound s) {scope : AuditTransitionScope} {countedKind : String} :
    Stops s (r.Justified s) (r.reserve s scope sourceId countedKind intents nonce) := by
  unfold reserve
  refine stops_bind stops_raiseIfHalted fun _ _ => ?_
  refine stops_bind (stops_requireScope allowed_justified) fun active hactive => ?_
  have ho := requireScope_ok hactive
  refine stops_bind (stops_lift _) fun _ _ => stops_bind (stops_lift _) fun _ _ => ?_
  refine stops_bind (stops_lift _) fun _ _ => ?_
  have hunknown : ∀ source? : Option AuditBudgetSource, Stops s (r.Justified s)
      (if intents.length = 0 then
        r.stopInvalidBatch s active sourceId "empty_or_unknown_batch"
      else r.stop s .unknownSourceOrKind (some sourceId) intents.length (some active.transitionId)
        (some active.invocationIndex) ⟨"unknown_source_or_kind",
          [.str countedKind, .bool source?.isSome, .str sourceId, .str active.transitionId,
            .int active.invocationIndex]⟩ : Except Refusal (AuditReservation × RuntimeState)) := by
    intro source?
    split
    · exact stops_violation allowed_justified rfl
    · exact stops_violation allowed_justified rfl
  dsimp only
  split
  · exact stops_violation allowed_justified rfl
  split
  · rename_i hnone
    exact hnone ▸ hunknown none
  · rename_i source hfind
    have hm := List.mem_of_find?_eq_some hfind
    have hid : source.sourceId = sourceId := by simpa using List.find?_some hfind
    split
    · exact hfind ▸ hunknown (some source)
    split
    · exact stops_violation allowed_justified rfl
    · rename_i hshape
      obtain ⟨hsize, hrest⟩ := not_or.mp hshape
      obtain ⟨hunstaged, -⟩ := not_or.mp hrest
      refine stops_reserveKnown h ho hm (fun batch hb heq => hunstaged ?_) (not_not.mp hsize).2
      exact List.any_eq_true.mpr ⟨batch, hb, decide_eq_true (heq.trans hid)⟩

end Refusals

section Steps

theorem lift_ok {α : Type} {x : Except AuditError α} {a : α} (h : lift x = .ok a) : x = .ok a := by
  cases x with
  | ok b => exact congrArg Except.ok (Except.ok.inj h)
  | error e => cases h

theorem requireScope_self (h : s.active = some active) :
    r.requireScope s active.scope = .ok active := by
  simp only [requireScope, h, ne_eq, not_true_eq_false, if_false]

theorem stop_not_ok {α : Type} {refusalClass : RefusalClass} {source? : Option String}
    {requested : ℕ} {transitionId : Option String} {invocationIndex : Option ℕ}
    {witness : HaltWitness} {a : α} :
    r.stop s refusalClass source? requested transitionId invocationIndex witness ≠ .ok a := by
  unfold stop
  dsimp only
  split
  · exact nofun
  · exact nofun

theorem lifecycleOrProgrammer_not_ok {α : Type} {a : α} :
    r.lifecycleOrProgrammer s active ≠ .ok a := by
  unfold lifecycleOrProgrammer
  split
  · exact nofun
  · exact stop_not_ok

theorem stops_mono {α : Type} {P Q : HaltRecord → Prop} {x : Except Refusal α} (h : Stops s P x)
    (hPQ : ∀ record, P record → Q record) : Stops s Q x :=
  fun record hrecord => (h record hrecord).imp_left (hPQ record)

/-- The record of a halt is not of an overflow. -/
def InRange (record : HaltRecord) : Prop :=
  record.refusalClass ≠ .checkedSignedInt64ArithmeticOverflow

theorem allowed_inRange : Allowed InRange := by
  intro record hcode heq
  rw [heq] at hcode
  exact absurd hcode (by decide)

/-- What a transition may be read against does not depend on which transition is open. -/
theorem Open.of_state (h : r.Open s active) (hids : s'.committedIds = s.committedIds)
    (hdigests : s'.committedDigests = s.committedDigests)
    (hoccurrences : s'.sourceOccurrences = s.sourceOccurrences) : r.Open s' active := by
  constructor
  · rw [activeValid, batchesValid_congr hids hdigests rfl rfl]
    exact h.valid
  · exact h.nonces
  · intro batch hm
    simp only [usage, hoccurrences]
    exact h.room batch hm

/-- The books stay sound when only what is open, the finality or the halt changes. -/
theorem Sound.move (h : r.Sound s) {final : Bool} {halt : Option HaltRecord}
    {open? : Option TransitionState} (ho : ∀ active, open? = some active → r.Open s active)
    (hh : ∀ record, halt = some record → InRange record) :
    r.Sound { s with final, halt, active := open? } where
  within := h.within
  counted := h.counted
  listed := h.listed
  opened active heq := (ho active heq).of_state rfl rfl rfl
  ids := h.ids
  digests := h.digests
  halts := hh

theorem Sound.reopen (h : r.Sound s) {open? : Option TransitionState}
    (ho : ∀ active, open? = some active → r.Open s active) :
    r.Sound { s with active := open? } := h.move ho h.halts

theorem Sound.after {α : Type} {x : Except Refusal (α × RuntimeState)} (h : r.Sound s)
    (hstops : Stops s InRange x) (hok : ∀ a s', x = .ok (a, s') → r.Sound s') :
    r.Sound (after s x) := by
  match hx : x with
  | .ok (a, s') => exact hok a s' rfl
  | .error (.raised _) => exact h
  | .error (.halted record) =>
    unfold AuditBudgetRuntime.after
    dsimp only
    split
    · exact h
    · refine h.move (fun _ => nofun) fun held hheld => ?_
      obtain rfl := Option.some.inj hheld
      rcases hstops record rfl with hrange | hheld
      · exact hrange
      · exact h.halts record hheld

theorem beginTransition_ok {transitionId identity : String} {invocationIndex : ℕ}
    {scope : AuditTransitionScope}
    (h : r.beginTransition s transitionId invocationIndex identity = .ok (scope, s')) :
    ∃ active, active.batches = [] ∧ s' = { s with active := some active } := by
  obtain ⟨_, -, h⟩ := bind_ok h
  obtain ⟨_, -, h⟩ := bind_ok h
  obtain ⟨_, -, h⟩ := bind_ok h
  split at h
  · exact absurd h stop_not_ok
  split at h
  · exact absurd h lifecycleOrProgrammer_not_ok
  · obtain ⟨-, rfl⟩ := Prod.mk.inj (Except.ok.inj h)
    exact ⟨_, rfl, rfl⟩

theorem Sound.beginTransition (h : r.Sound s) (transitionId : String) (invocationIndex : ℕ)
    (identity : String) :
    r.Sound (AuditBudgetRuntime.after s
      (r.beginTransition s transitionId invocationIndex identity)) := by
  refine h.after ?_ fun a s' hok => ?_
  · refine stops_bind stops_raiseIfHalted fun _ _ => stops_bind (stops_lift _) fun _ _ => ?_
    refine stops_bind (stops_lift _) fun _ _ => ?_
    split
    · exact stops_violation allowed_inRange rfl
    split
    · exact stops_lifecycleOrProgrammer allowed_inRange
    · exact stops_ok _
  · obtain ⟨active, hbatches, rfl⟩ := beginTransition_ok hok
    refine h.reopen fun other hother => ?_
    obtain rfl := Option.some.inj hother
    constructor
    · rw [activeValid, hbatches]
      rfl
    · rw [hbatches]
      exact List.nodup_nil
    · rw [hbatches]
      exact fun _ hm => absurd hm List.not_mem_nil

/-- The batch that a reservation stages. -/
def newBatch (r : AuditBudgetRuntime) (active : TransitionState) (source : AuditBudgetSource)
    (intents : List String) (nonce : String) : BatchState :=
  ⟨source, ⟨active.identity, nonce⟩, nonce, intents,
    r.batchDigests intents source.sourceId active.transitionId, 0⟩

theorem stage_ok {reservation : AuditReservation}
    (h : r.stage s active source intents nonce = .ok (reservation, s')) :
    ∃ next, next.batches = active.batches ++ [r.newBatch active source intents nonce] ∧
      (next.batches.map BatchState.nonce).Nodup ∧ r.activeValid s next = true ∧
      s' = { s with active := some next } := by
  unfold stage at h
  dsimp only at h
  split at h
  · exact absurd h stop_not_ok
  split at h
  · cases h
  split at h
  · cases h
  split at h
  · cases h
  · rename_i hnonces hvalid
    obtain ⟨-, rfl⟩ := Prod.mk.inj (Except.ok.inj h)
    exact ⟨_, rfl, not_not.mp hnonces, by simpa using hvalid, rfl⟩

theorem reserveKnown_ok {reservation : AuditReservation}
    (h : r.reserveKnown s active source intents nonce = .ok (reservation, s')) :
    (usage s).used source.sourceId < source.maxAcceptedOccurrences ∧
      r.stage s active source intents nonce = .ok (reservation, s') := by
  unfold reserveKnown at h
  dsimp only at h
  split at h
  · exact absurd h stop_not_ok
  · cases h
  split at h
  · exact absurd h stop_not_ok
  obtain ⟨occurrences, hoccurrences, h⟩ := bind_ok h
  obtain ⟨_, -, h⟩ := bind_ok h
  split at h
  · exact absurd h stop_not_ok
  · rename_i hroom
    refine ⟨?_, h⟩
    unfold countOf at hoccurrences
    split at hoccurrences
    · cases hoccurrences
    · rename_i count hcount
      obtain rfl := Except.ok.inj hoccurrences
      simp only [usage, hcount, Option.getD_some]
      exact Nat.lt_of_not_le (not_or.mp hroom).1

theorem reserve_ok {scope : AuditTransitionScope} {countedKind : String}
    {reservation : AuditReservation}
    (h : r.reserve s scope sourceId countedKind intents nonce = .ok (reservation, s')) :
    ∃ active source, s.active = some active ∧ source.sourceId = sourceId ∧
      r.reserveKnown s active source intents nonce = .ok (reservation, s') := by
  obtain ⟨_, -, h⟩ := bind_ok h
  obtain ⟨active, hactive, h⟩ := bind_ok h
  obtain ⟨_, -, h⟩ := bind_ok h
  obtain ⟨_, -, h⟩ := bind_ok h
  obtain ⟨_, -, h⟩ := bind_ok h
  dsimp only at h
  split at h
  · exact absurd h stop_not_ok
  split at h
  · split at h
    · exact absurd h stop_not_ok
    · exact absurd h stop_not_ok
  · rename_i source hfind
    split at h
    · split at h
      · exact absurd h stop_not_ok
      · exact absurd h stop_not_ok
    split at h
    · exact absurd h stop_not_ok
    · have hid : source.sourceId = sourceId := by simpa using List.find?_some hfind
      exact ⟨active, source, requireScope_ok hactive, hid, h⟩

theorem Sound.reserve (h : r.Sound s) (scope : AuditTransitionScope) (countedKind : String) :
    r.Sound (AuditBudgetRuntime.after s
      (r.reserve s scope sourceId countedKind intents nonce)) := by
  refine h.after (stops_mono (stops_reserve h) fun _ => Justified.inRange) fun _ s' hok => ?_
  obtain ⟨active, source, ho, -, hok⟩ := reserve_ok hok
  obtain ⟨hroom, hok⟩ := reserveKnown_ok hok
  obtain ⟨next, hbatches, hnonces, hvalid, rfl⟩ := stage_ok hok
  refine h.reopen fun other hother => ?_
  obtain rfl := Option.some.inj hother
  refine ⟨hvalid, hnonces, fun batch hm => ?_⟩
  rw [hbatches] at hm
  rcases List.mem_append.mp hm with hm | hm
  · exact (h.opened active ho).room batch hm
  · obtain rfl := List.mem_singleton.mp hm
    exact hroom

theorem stops_consumeLocked {reservation : AuditReservation} {intentId : String} :
    Stops s InRange (r.consumeLocked s active reservation intentId) := by
  refine stops_bind (stops_lift _) fun _ _ => ?_
  split
  · exact stops_lifecycleOrProgrammer allowed_inRange
  split
  · exact stops_raise _
  split
  · exact stops_violation allowed_inRange rfl
  · exact stops_ok _

theorem consumeLocked_ok {reservation : AuditReservation} {intentId : String} {u : Unit}
    (h : r.consumeLocked s active reservation intentId = .ok (u, s')) :
    ∃ index batch, active.batches[index]? = some batch ∧ batch.nextIndex < batch.intents.length ∧
      s' = { s with active := some { active with
        batches := active.batches.set index { batch with nextIndex := batch.nextIndex + 1 } } } := by
  obtain ⟨_, -, h⟩ := bind_ok h
  split at h
  · exact absurd h lifecycleOrProgrammer_not_ok
  · rename_i index _
    split at h
    · cases h
    · rename_i batch hbatch
      split at h
      · exact absurd h stop_not_ok
      · rename_i hnext
        obtain ⟨-, rfl⟩ := Prod.mk.inj (Except.ok.inj h)
        obtain ⟨hlt, -⟩ := List.getElem?_eq_some_iff.mp (not_not.mp hnext)
        exact ⟨index, batch, hbatch, hlt, rfl⟩

theorem Open.consume (h : r.Open s active) {index : ℕ} (hbatch : active.batches[index]? = some batch)
    (hnext : batch.nextIndex < batch.intents.length) :
    r.Open s { active with
      batches := active.batches.set index { batch with nextIndex := batch.nextIndex + 1 } } := by
  constructor
  · have hset := batchesValid_set h.valid hbatch hnext
    rw [← hset]
    exact batchesValid_congr rfl rfl rfl rfl
  · obtain ⟨hlt, rfl⟩ := List.getElem?_eq_some_iff.mp hbatch
    have hsame : (active.batches.map BatchState.nonce).set index active.batches[index].nonce =
        active.batches.map BatchState.nonce := by
      rw [← List.getElem_map BatchState.nonce (h := by simpa using hlt), List.set_getElem_self]
    rw [List.map_set, hsame]
    exact h.nonces
  · intro other hm
    rcases List.mem_or_eq_of_mem_set hm with hm | rfl
    · exact h.room other hm
    · exact h.room batch (List.mem_of_getElem? hbatch)

theorem Sound.consumeLocked (h : r.Sound s) (ho : s.active = some active)
    {reservation : AuditReservation} {intentId : String} {u : Unit}
    (hok : r.consumeLocked s active reservation intentId = .ok (u, s')) : r.Sound s' := by
  obtain ⟨index, batch, hbatch, hnext, rfl⟩ := consumeLocked_ok hok
  refine h.reopen fun other hother => ?_
  obtain rfl := Option.some.inj hother
  exact (h.opened active ho).consume hbatch hnext

theorem Sound.consume (h : r.Sound s) (reservation : AuditReservation) (intentId : String) :
    r.Sound (AuditBudgetRuntime.after s (r.consume s reservation intentId)) := by
  refine h.after ?_ fun _ s' hok => ?_
  · refine stops_bind stops_raiseIfHalted fun _ _ => ?_
    split
    · exact stops_raise _
    · exact stops_consumeLocked
  · obtain ⟨_, -, hok⟩ := bind_ok hok
    split at hok
    · cases hok
    · rename_i active ho
      exact h.consumeLocked ho hok

theorem Sound.consumeFromScope (h : r.Sound s) (scope : AuditTransitionScope)
    (reservation : AuditReservation) (intentId : String) :
    r.Sound (AuditBudgetRuntime.after s (r.consumeFromScope s scope reservation intentId)) := by
  refine h.after ?_ fun _ s' hok => ?_
  · refine stops_bind stops_raiseIfHalted fun _ _ => ?_
    exact stops_bind (stops_requireScope allowed_inRange) fun _ _ => stops_consumeLocked
  · obtain ⟨_, -, hok⟩ := bind_ok hok
    obtain ⟨active, hactive, hok⟩ := bind_ok hok
    exact h.consumeLocked (requireScope_ok hactive) hok

theorem Sound.abort (h : r.Sound s) (scope : AuditTransitionScope) :
    r.Sound (AuditBudgetRuntime.after s (r.abort s scope)) := by
  refine h.after ?_ fun _ s' hok => ?_
  · refine stops_bind stops_raiseIfHalted fun _ _ => ?_
    exact stops_bind (stops_requireScope allowed_inRange) fun _ _ => stops_ok _
  · obtain ⟨_, -, hok⟩ := bind_ok hok
    obtain ⟨_, -, hok⟩ := bind_ok hok
    obtain ⟨-, rfl⟩ := Prod.mk.inj (Except.ok.inj hok)
    exact h.reopen fun _ => nofun

theorem Sound.abortIfActive (h : r.Sound s) (scope : AuditTransitionScope) :
    r.Sound (AuditBudgetRuntime.after s (AuditBudgetRuntime.abortIfActive s scope)) := by
  unfold AuditBudgetRuntime.abortIfActive
  split
  · exact h.reopen fun _ => nofun
  · exact h

theorem Sound.markFinality (h : r.Sound s) :
    r.Sound (AuditBudgetRuntime.after s (r.markFinality s)) := by
  refine h.after ?_ fun _ s' hok => ?_
  · refine stops_bind stops_raiseIfHalted fun _ _ => ?_
    split
    · exact stops_violation allowed_inRange rfl
    split
    · exact stops_lifecycleOrProgrammer allowed_inRange
    · exact stops_ok _
  · obtain ⟨_, -, hok⟩ := bind_ok hok
    split at hok
    · exact absurd hok stop_not_ok
    split at hok
    · exact absurd hok lifecycleOrProgrammer_not_ok
    · obtain ⟨-, rfl⟩ := Prod.mk.inj (Except.ok.inj hok)
      exact h.move h.opened h.halts

end Steps

end AuditBudgetRuntime

end OperateBench.AuditBudget
