import Mathlib.Algebra.Order.Group.Multiset
import Mathlib.Tactic.Abel
import OperateBench.Core.Stages

/-! # Conservation of events

Every event that enters the queue is delivered, cancelled or still pending. `Moves`
accounts for one stretch of the program, `Chronicle` for a run, and an episode that
was not stopped early leaves only events beyond the horizon.
-/

namespace OperateBench

open Foundation EngineState Calendar

variable {σ : Type} {E : Engine σ} {s s' s'' t : EngineState σ}

section Rows

/-- The events that the rows of a type name. -/
def idsOf (recordType : String) (rows : List Record) : List String :=
  rows.filterMap fun record =>
    if record.recordType = recordType then record.payload.text? "event_id" else none

/-- Each of the identities has its row, and in a candid domain there is no other. -/
structure Attests (candid : Prop) (recordType : String) (rows : List Record)
    (ids : List String) : Prop where
  recorded : ids.Sublist (idsOf recordType rows)
  only : candid → idsOf recordType rows = ids

variable {candid : Prop} {recordType : String} {rows rows' : List Record} {ids ids' : List String}

theorem idsOf_append : idsOf recordType (rows ++ rows') = idsOf recordType rows ++
    idsOf recordType rows' := List.filterMap_append

theorem Attests.append (h : Attests candid recordType rows ids)
    (h' : Attests candid recordType rows' ids') :
    Attests candid recordType (rows ++ rows') (ids ++ ids') where
  recorded := idsOf_append ▸ h.recorded.append h'.recorded
  only hc := by rw [idsOf_append, h.only hc, h'.only hc]

theorem Attests.nil : Attests candid recordType [] [] := ⟨.slnil, fun _ => rfl⟩

theorem attests_of_eq (h : idsOf recordType rows = ids) : Attests candid recordType rows ids :=
  ⟨h ▸ .refl _, fun _ => h⟩

theorem idsOf_of_ne {index : ℕ} {instant rowType : String} {payload : Fields}
    (h : rowType ≠ recordType) : idsOf recordType [⟨index, instant, rowType, payload⟩] = [] := by
  simp [idsOf, h]

theorem idsOf_of_eventId {index : ℕ} {instant eventId : String} {payload : Fields}
    (h : payload.text? "event_id" = some eventId) :
    idsOf recordType [⟨index, instant, recordType, payload⟩] = [eventId] := by
  simp [idsOf, h]

end Rows

namespace EventQueue

variable {queue queue' : EventQueue} {eventId : String}

theorem filter_eq_singleton {l : List Event} {e : Event} (hn : (l.map Event.eventId).Nodup)
    (he : e ∈ l) : (l.filter fun event => event.eventId = e.eventId) = [e] := by
  induction l with
  | nil => cases he
  | cons a l ih =>
    rw [List.map_cons, List.nodup_cons] at hn
    rcases List.mem_cons.mp he with rfl | hl
    · have hrest : (l.filter fun event => event.eventId = e.eventId) = [] := by
        rw [List.filter_eq_nil_iff]
        intro b hb hid
        exact hn.1 (of_decide_eq_true hid ▸ List.mem_map_of_mem hb)
      rw [List.filter_cons_of_pos (by simp), hrest]
    · have hne : a.eventId ≠ e.eventId := fun h => hn.1 (h ▸ List.mem_map_of_mem hl)
      rw [List.filter_cons_of_neg (by simpa using hne), ih hn.2 hl]

/-- A cancellation that took effect removed one event of the identity. -/
theorem cancel_true (h : queue.cancel eventId = (true, queue')) : queue'.seen = queue.seen ∧
    ∃ e : Event, e.eventId = eventId ∧ queue.pending.Perm (queue'.pending ++ [e]) := by
  obtain ⟨hlen, rfl⟩ := Prod.mk.inj h
  refine ⟨rfl, ?_⟩
  have hperm : ((queue.without eventId).pending ++
      queue.pending.filter fun event => event.eventId = eventId).Perm queue.pending := by
    have hf := List.filter_append_perm (fun event : Event => event.eventId ≠ eventId) queue.pending
    simpa [without] using hf
  have hne : (queue.pending.filter fun event => event.eventId = eventId) ≠ [] := by
    intro hnil
    rw [hnil, List.append_nil] at hperm
    exact of_decide_eq_true hlen hperm.length_eq
  obtain ⟨e, he⟩ := List.exists_mem_of_ne_nil _ hne
  obtain ⟨hmem, hid⟩ := List.mem_filter.mp he
  obtain rfl := of_decide_eq_true hid
  rw [filter_eq_singleton queue.distinct hmem] at hperm
  exact ⟨e, rfl, hperm.symm⟩

theorem cancel_false (h : queue.cancel eventId = (false, queue')) :
    queue'.seen = queue.seen ∧ queue'.pending = queue.pending := by
  obtain ⟨hlen, rfl⟩ := Prod.mk.inj h
  refine ⟨rfl, List.filter_eq_self.mpr ?_⟩
  have hlen : (queue.without eventId).pending.length = queue.pending.length := by
    simpa using of_decide_eq_false hlen
  exact List.length_filter_eq_length_iff.mp hlen

end EventQueue

/-- The event is a timer that was armed. -/
def Event.isTimer (event : Event) : Bool := event.causedBy = some "timer"

/-- The identities of the timers among the events. -/
def timerIds (events : List Event) : List String := (events.filter Event.isTimer).map Event.eventId

theorem timerIds_append (events events' : List Event) :
    timerIds (events ++ events') = timerIds events ++ timerIds events' := by
  simp [timerIds]

/-- What a stretch of the program put into the queue and cancelled there. -/
structure Moves (candid : Prop) (s s' : EngineState σ) (puts drops : List Event) : Prop where
  balance : (s.queue.pending ++ puts).Perm (s'.queue.pending ++ drops)
  seen : s'.queue.seen = (puts.map Event.eventId).reverse ++ s.queue.seen
  fresh : s.queue.seen.Nodup → s'.queue.seen.Nodup
  planned : ∀ p ∈ s.conditionals, p ∈ s'.conditionals ∨
    ∃ instant cause bindings, toEvent p instant (some cause) bindings ∈ puts
  clock : s'.clock = s.clock
  delivered : s'.delivered = s.delivered
  rows : ∃ rows, s'.ledger.records = s.ledger.records ++ rows ∧
    Attests candid "timer_scheduled" rows (timerIds puts) ∧
    Attests candid "timer_cancelled" rows (drops.map Event.eventId)

namespace Moves

variable {candid : Prop} {puts drops puts' drops' : List Event}

theorem refl (s : EngineState σ) : Moves candid s s [] [] where
  balance := by simp
  seen := rfl
  fresh := id
  planned _ hp := Or.inl hp
  clock := rfl
  delivered := rfl
  rows := ⟨[], by simp, .nil, .nil⟩

theorem trans (h : Moves candid s t puts drops) (h' : Moves candid t s' puts' drops') :
    Moves candid s s' (puts ++ puts') (drops ++ drops') where
  balance := by
    have h₁ := h.balance.append_right puts'
    have h₂ := h'.balance.append_right drops
    rw [List.append_assoc] at h₁
    refine h₁.trans (List.Perm.trans ?_ (h₂.trans ?_))
    · rw [List.append_assoc, List.append_assoc]
      exact List.perm_append_comm.append_left _
    · rw [List.append_assoc]
      exact List.perm_append_comm.append_left _
  seen := by rw [h'.seen, h.seen, List.map_append, List.reverse_append, List.append_assoc]
  fresh hn := h'.fresh (h.fresh hn)
  planned p hp := by
    rcases h.planned p hp with hp | ⟨instant, cause, bindings, hm⟩
    · rcases h'.planned p hp with hp | ⟨instant, cause, bindings, hm⟩
      · exact Or.inl hp
      · exact Or.inr ⟨instant, cause, bindings, List.mem_append_right _ hm⟩
    · exact Or.inr ⟨instant, cause, bindings, List.mem_append_left _ hm⟩
  clock := h'.clock.trans h.clock
  delivered := h'.delivered.trans h.delivered
  rows := by
    obtain ⟨rows, hr, ht, hc⟩ := h.rows
    obtain ⟨rows', hr', ht', hc'⟩ := h'.rows
    refine ⟨rows ++ rows', by rw [hr', hr, List.append_assoc], ?_, ?_⟩
    · rw [timerIds_append]
      exact ht.append ht'
    · rw [List.map_append]
      exact hc.append hc'

theorem of_alike (h : Alike s s') : Moves candid s s' [] [] where
  balance := by simp [h.queue]
  seen := by simp [h.queue]
  fresh hn := by rwa [h.queue]
  planned p hp := Or.inl (h.conditionals ▸ hp)
  clock := h.clock
  delivered := h.delivered
  rows := ⟨[], by simp [h.ledger], .nil, .nil⟩

theorem of_row {recordType : String} {payload : Fields} {ledger : TrajectoryLedger}
    (hw : ledger = s.ledger.write s.clock.now recordType payload)
    (ht : candid → recordType ≠ "timer_scheduled") (hc : candid → recordType ≠ "timer_cancelled") :
    Moves candid s { s with ledger } [] [] where
  balance := by simp
  seen := rfl
  fresh := id
  planned _ hp := Or.inl hp
  clock := rfl
  delivered := rfl
  rows := by
    subst hw
    exact ⟨_, rfl, ⟨List.nil_sublist _, fun h => idsOf_of_ne (ht h)⟩,
      ⟨List.nil_sublist _, fun h => idsOf_of_ne (hc h)⟩⟩

/-- Noting a delivery is no matter of the queue. -/
theorem note (h : Moves candid s s' puts drops) (event : Event) (disposition : Disposition)
    (code : String) : Moves candid (s.noteDelivery event disposition code)
      (s'.noteDelivery event disposition code) puts drops where
  balance := h.balance
  seen := h.seen
  fresh := h.fresh
  planned := h.planned
  clock := h.clock
  delivered := by simp only [noteDelivery, h.delivered]
  rows := h.rows

end Moves

/-- The domain leaves the rows about timers to the engine. -/
def OperationDomain.Candid (domain : OperationDomain σ) : Prop :=
  ∀ call state reduction recordType payload, domain.reduce call state = .ok reduction →
    Effect.record recordType payload ∈ reduction.effects →
      recordType ≠ "timer_scheduled" ∧ recordType ≠ "timer_cancelled"

section Timers

variable {candid : Prop} {eventId eventType actorId : String}

theorem scheduleTimer_moves {delayMinutes : Int} {payload : Fields} {triggersAgent : Bool}
    (h : s.scheduleTimer eventId eventType actorId delayMinutes payload triggersAgent = .ok s') :
    ∃ event, Moves candid s s' [event] [] := by
  obtain ⟨instant, _, h⟩ := bind_ok h
  obtain ⟨queue, hq, h⟩ := bind_ok h
  obtain ⟨hn, hp, hs⟩ := EventQueue.schedule_ok hq
  obtain rfl := log_ok h
  refine ⟨_, by simp [hp], hs, fun hd => hs ▸ List.nodup_cons.mpr ⟨hn, hd⟩, fun _ hp => Or.inl hp,
    rfl, rfl, _, rfl, attests_of_eq (idsOf_of_eventId ?_), attests_of_eq (idsOf_of_ne (by decide))⟩
  simp [Fields.text?, Fields.get, Dict.ofList, Dict.get?_set, Value.asStr?]

theorem cancelTimer_moves (h : s.cancelTimer eventId = .ok s') :
    ∃ drops, Moves candid s s' [] drops := by
  unfold cancelTimer at h
  cases hcancel : s.queue.cancel eventId with
  | mk cancelled queue =>
    rw [hcancel] at h
    cases cancelled with
    | false =>
      obtain rfl := Except.ok.inj h
      obtain ⟨hs, hp⟩ := EventQueue.cancel_false hcancel
      exact ⟨[], by simp [hp], hs, fun hd => by rwa [hs], fun _ hp => Or.inl hp, rfl, rfl, [],
        by simp, .nil, .nil⟩
    | true =>
      obtain rfl := log_ok h
      obtain ⟨hs, e, rfl, hp⟩ := EventQueue.cancel_true hcancel
      exact ⟨[e], by simpa using hp, hs, fun hd => by rwa [hs], fun _ hp => Or.inl hp, rfl, rfl, _,
        rfl, attests_of_eq (idsOf_of_ne (by decide)), attests_of_eq (idsOf_of_eventId rfl)⟩

theorem ne_timer (kind : TriggerKind) (typeName : String) : s!"{kind.text}:{typeName}" ≠ "timer" := by
  intro h
  have hlength : (kind.text ++ ":" ++ typeName).length = "timer".length := congrArg String.length h
  have hcolon : ":".length = 1 := by decide
  have htimer : "timer".length = 5 := by decide
  rw [String.length_append, String.length_append, hcolon, htimer] at hlength
  have hkind : 5 ≤ kind.text.length := by cases kind <;> decide
  omega

/-- The conditionals whose cause happened are scheduled, and the others are kept. -/
theorem fireMatching_moves {now typeName : String} {kind : TriggerKind} {cycleId : Option String}
    {bindings : Bindings} {events remaining : List PlannedEvent} {queue queue' : EventQueue}
    (h : fireMatching now kind typeName cycleId bindings events queue = .ok (remaining, queue')) :
    ∃ puts : List Event, timerIds puts = [] ∧
      queue'.pending = queue.pending ++ puts ∧
      queue'.seen = (puts.map Event.eventId).reverse ++ queue.seen ∧
      (queue.seen.Nodup → queue'.seen.Nodup) ∧
      ∀ p ∈ events, p ∈ remaining ∨
        ∃ instant cause, toEvent p instant (some cause) bindings ∈ puts := by
  induction events generalizing queue remaining with
  | nil =>
    obtain ⟨rfl, rfl⟩ := Prod.mk.inj (Except.ok.inj h)
    exact ⟨[], rfl, by simp, by simp, id, by simp⟩
  | cons planned events ih =>
    rw [fireMatching] at h
    split at h
    · cases h
    · split at h
      · obtain ⟨instant, _, h⟩ := bind_ok h
        obtain ⟨q, hq, h⟩ := bind_ok h
        obtain ⟨hn, hp, hs⟩ := EventQueue.schedule_ok hq
        obtain ⟨puts, ht, hp', hs', hd', hm⟩ := ih h
        refine ⟨_ :: puts, ?_, by rw [hp', hp, List.append_assoc]; rfl, ?_, ?_, ?_⟩
        · rw [← List.singleton_append, timerIds_append, ht]
          simp [timerIds, Event.isTimer, toEvent, ne_timer]
        · rw [hs', hs]
          simp
        · intro hd
          exact hd' (hs ▸ List.nodup_cons.mpr ⟨hn, hd⟩)
        · intro p hpm
          rcases List.mem_cons.mp hpm with rfl | hpm
          · exact Or.inr ⟨_, _, List.mem_cons_self⟩
          · apply (hm p hpm).imp_right
            rintro ⟨i, c, hi⟩
            exact ⟨i, c, List.mem_cons_of_mem _ hi⟩
      · obtain ⟨⟨rest, q⟩, hr, h⟩ := bind_ok h
        obtain ⟨rfl, rfl⟩ := Prod.mk.inj (pure_ok h)
        obtain ⟨puts, ht, hp, hs, hd, hm⟩ := ih hr
        refine ⟨puts, ht, hp, hs, hd, fun p hpm => ?_⟩
        rcases List.mem_cons.mp hpm with rfl | hpm
        · exact Or.inl List.mem_cons_self
        · exact (hm p hpm).imp_left (List.mem_cons_of_mem _)

end Timers

namespace Engine

section Accounts

theorem applyEffect_moves {call : Call} {state : σ} {reduction : Reduction σ} {effect : Effect}
    (hr : E.domain.reduce call state = .ok reduction) (ha : effect ∈ reduction.effects)
    (h : s.applyEffect effect = .ok s') : ∃ puts drops, Moves E.domain.Candid s s' puts drops := by
  cases effect with
  | record recordType payload =>
    obtain ⟨ledger, hl, h⟩ := bind_ok h
    obtain rfl := pure_ok h
    exact ⟨[], [], .of_row (TrajectoryLedger.append_ok hl)
      (fun hc => (hc call state reduction recordType payload hr ha).1)
      (fun hc => (hc call state reduction recordType payload hr ha).2)⟩
  | scheduleTimer =>
    obtain ⟨event, hm⟩ := scheduleTimer_moves h
    exact ⟨[event], [], hm⟩
  | cancelTimer =>
    obtain ⟨drops, hm⟩ := cancelTimer_moves h
    exact ⟨[], drops, hm⟩

theorem Stage.moves (h : E.Stage s s') : ∃ puts drops, Moves E.domain.Candid s s' puts drops := by
  cases h with
  | inner alike => exact ⟨[], [], .of_alike alike⟩
  | row own written =>
    obtain rfl := log_ok written
    exact ⟨[], [], .of_row rfl (fun _ ht => absurd (ht ▸ own) (by decide))
      fun _ hc => absurd (hc ▸ own) (by decide)⟩
  | effect reduced asked applied => exact applyEffect_moves reduced asked applied
  | fire fired =>
    obtain ⟨⟨conditionals, queue⟩, hq, h⟩ := bind_ok fired
    obtain rfl := pure_ok h
    obtain ⟨puts, ht, hp, hs, hd, hm⟩ := fireMatching_moves hq
    refine ⟨puts, [], by simp [hp], hs, hd, fun p hpm => ?_, rfl, rfl, [], by simp,
      ht ▸ .nil, .nil⟩
    exact (hm p hpm).imp_right fun ⟨instant, cause, hi⟩ => ⟨instant, cause, _, hi⟩

theorem Stages.moves (h : E.Stages s s') :
    ∃ puts drops, Moves E.domain.Candid s s' puts drops := by
  induction h with
  | refl => exact ⟨[], [], .refl s⟩
  | tail _ hst ih =>
    obtain ⟨puts, drops, hm⟩ := ih
    obtain ⟨puts', drops', hm'⟩ := hst.moves
    exact ⟨puts ++ puts', drops ++ drops', hm.trans hm'⟩

end Accounts

section Chronicles

/-- The row in which the delivery of an event is noted. -/
def Noted (event : Event) (row : Fields) : Prop :=
  ∃ (disposition : Disposition) (code : String), row = .ofList (event.asDict ++
    [("disposition", .str disposition.text), ("verdict_code", .str code)])

/-- What a run scheduled, cancelled and delivered so far, and where that is on record. -/
structure Chronicle (E : Engine σ) (s : EngineState σ)
    (scheduled cancelled delivered : List Event) : Prop where
  balance : scheduled.Perm (s.queue.pending ++ delivered ++ cancelled)
  seen : s.queue.seen = (scheduled.map Event.eventId).reverse
  distinct : s.queue.seen.Nodup
  authored : ∀ p ∈ E.plan.events, ∀ instant, p.instant = some instant →
    toEvent p instant none Dict.empty ∈ scheduled
  planned : ∀ p ∈ E.plan.events, p.trigger.isSome → p ∈ s.conditionals ∨
    ∃ instant cause bindings, toEvent p instant (some cause) bindings ∈ scheduled
  noted : List.Forall₂ Noted delivered s.delivered
  timers : Attests E.domain.Candid "timer_scheduled" s.ledger.records (timerIds scheduled)
  cancels : Attests E.domain.Candid "timer_cancelled" s.ledger.records
    (cancelled.map Event.eventId)
  ordered : ∃ instants : List Int, delivered.map (fun event => strptime event.instant) =
    instants.map .ok ∧ instants.Pairwise (· ≤ ·) ∧ ∀ n ∈ instants, n ≤ s.clock.seconds

variable {scheduled cancelled delivered puts drops : List Event}

theorem Chronicle.moves (h : E.Chronicle s scheduled cancelled delivered)
    (hm : Moves E.domain.Candid s s' puts drops) :
    E.Chronicle s' (scheduled ++ puts) (cancelled ++ drops) delivered where
  balance := by
    have hb := Multiset.coe_eq_coe.mpr h.balance
    have hq := Multiset.coe_eq_coe.mpr hm.balance
    rw [← Multiset.coe_eq_coe]
    simp only [← Multiset.coe_add] at hb hq ⊢
    calc (↑scheduled + ↑puts : Multiset Event)
        = (↑s.queue.pending + ↑puts) + ↑delivered + ↑cancelled := by rw [hb]; abel
      _ = ↑s'.queue.pending + ↑delivered + (↑cancelled + ↑drops) := by rw [hq]; abel
  seen := by rw [hm.seen, h.seen, List.map_append, List.reverse_append]
  distinct := hm.fresh h.distinct
  authored p hp instant hi := List.mem_append_left _ (h.authored p hp instant hi)
  planned p hp ht := by
    rcases h.planned p hp ht with hc | ⟨instant, cause, bindings, hm'⟩
    · exact (hm.planned p hc).imp_right fun ⟨instant, cause, bindings, hm'⟩ =>
        ⟨instant, cause, bindings, List.mem_append_right _ hm'⟩
    · exact Or.inr ⟨instant, cause, bindings, List.mem_append_left _ hm'⟩
  noted := hm.delivered ▸ h.noted
  timers := by
    obtain ⟨rows, hr, ht, _⟩ := hm.rows
    rw [hr, timerIds_append]
    exact h.timers.append ht
  cancels := by
    obtain ⟨rows, hr, _, hc⟩ := hm.rows
    rw [hr, List.map_append]
    exact h.cancels.append hc
  ordered := hm.clock.symm ▸ h.ordered

theorem Chronicle.stages (h : E.Chronicle s scheduled cancelled delivered) (hs : E.Stages s s') :
    ∃ scheduled cancelled, E.Chronicle s' scheduled cancelled delivered := by
  obtain ⟨puts, drops, hm⟩ := hs.moves
  exact ⟨_, _, h.moves hm⟩

theorem Chronicle.moved (h : E.Chronicle s scheduled cancelled delivered) {queue : EventQueue}
    {clock : SimulatedClock} (hs : s.queue.sort = .ok queue)
    (hc : s.clock.seconds ≤ clock.seconds) :
    E.Chronicle { s with queue, clock } scheduled cancelled delivered where
  balance := by
    have hp := (inDeliveryOrder_perm (EventQueue.sort_ok hs).1).symm
    exact h.balance.trans ((hp.append_right _).append_right _)
  seen := (EventQueue.sort_ok hs).2.trans h.seen
  distinct := (EventQueue.sort_ok hs).2.symm ▸ h.distinct
  authored := h.authored
  planned := h.planned
  noted := h.noted
  timers := h.timers
  cancels := h.cancels
  ordered := by
    obtain ⟨instants, hm, hp, hle⟩ := h.ordered
    exact ⟨instants, hm, hp, fun n hn => (hle n hn).trans hc⟩

/-- The event that is taken from the queue is noted as delivered at the clock's instant. -/
theorem Chronicle.taken (h : E.Chronicle s scheduled cancelled delivered) {queue : EventQueue}
    {clock : SimulatedClock} {event : Event} {disposition : Disposition} {code : String}
    (hs : s.queue.sort = .ok queue) (hn : queue.pending.head? = some event)
    (hm : strptime event.instant = .ok clock.seconds) (hc : s.clock.seconds ≤ clock.seconds) :
    E.Chronicle ({ s with queue := queue.tail, clock }.noteDelivery event disposition code)
      scheduled cancelled (delivered ++ [event]) where
  balance := by
    have hp := inDeliveryOrder_perm (EventQueue.sort_ok hs).1
    have hcons : queue.pending = event :: queue.pending.tail := (List.cons_head?_tail hn).symm
    have hb := Multiset.coe_eq_coe.mpr h.balance
    have hq := Multiset.coe_eq_coe.mpr hp
    rw [hcons, ← Multiset.cons_coe, ← Multiset.singleton_add] at hq
    rw [← Multiset.coe_eq_coe]
    simp only [← Multiset.coe_add] at hb ⊢
    calc (↑scheduled : Multiset Event)
        = ({event} + ↑queue.pending.tail) + ↑delivered + ↑cancelled := by rw [hb, hq]
      _ = ↑queue.pending.tail + (↑delivered + {event}) + ↑cancelled := by abel
  seen := (EventQueue.sort_ok hs).2.trans h.seen
  distinct := by
    have hseen : queue.seen = s.queue.seen := (EventQueue.sort_ok hs).2
    exact hseen.symm ▸ h.distinct
  authored := h.authored
  planned := h.planned
  noted := List.rel_append h.noted (.cons ⟨_, _, rfl⟩ .nil)
  timers := h.timers
  cancels := h.cancels
  ordered := by
    obtain ⟨instants, hi, hp, hle⟩ := h.ordered
    refine ⟨instants ++ [clock.seconds], by simp [hi, hm], ?_, ?_⟩
    · rw [List.pairwise_append]
      refine ⟨hp, List.pairwise_singleton _ _, fun n hn m hm => ?_⟩
      rw [List.mem_singleton.mp hm]
      exact (hle n hn).trans hc
    · intro n hn
      rcases List.mem_append.mp hn with hn | hn
      · exact (hle n hn).trans hc
      · exact (List.mem_singleton.mp hn).le

theorem Chronicle.step (h : E.Chronicle s scheduled cancelled delivered)
    (hs : E.step s = .ok s') :
    ∃ scheduled cancelled delivered, E.Chronicle s' scheduled cancelled delivered := by
  cases step_passage hs with
  | stages stages =>
    obtain ⟨_, _, hc⟩ := h.stages stages
    exact ⟨_, _, _, hc⟩
  | moved sorted later stages =>
    obtain ⟨_, _, hc⟩ := (h.moved sorted later).stages stages
    exact ⟨_, _, _, hc⟩
  | delivery sorted next moment later before after =>
    obtain ⟨puts, drops, hm⟩ := before.moves
    obtain ⟨_, _, hc⟩ := ((h.taken sorted next moment later).moves (hm.note _ _ _)).stages after
    exact ⟨_, _, _, hc⟩

end Chronicles

section Ends

variable {event : Event}

/-- The instant lies beyond the horizon of the plan. -/
def Beyond (E : Engine σ) (instant : String) : Prop :=
  ∃ start n, strptime E.plan.startsAt = .ok start ∧ strptime instant = .ok n ∧
    start + E.plan.horizonMinutes * 60 < n

/-- The identity and the instant that a row of the delivered events names. -/
def rowId (row : Fields) : Option String := row.text? "event_id"

def rowInstant (row : Fields) : Option String := row.text? "at"

theorem Noted.row {row : Fields} (h : Noted event row) :
    rowId row = some event.eventId ∧ rowInstant row = some event.instant := by
  obtain ⟨disposition, code, rfl⟩ := h
  constructor <;>
    simp [rowId, rowInstant, Event.asDict, Fields.text?, Fields.get, Dict.ofList, Dict.get?_set,
      Value.asStr?]

theorem noted_rows {delivered : List Event} {rows : List Fields}
    (h : List.Forall₂ Noted delivered rows) :
    rows.map rowId = delivered.map (fun event => some event.eventId) ∧
      rows.map rowInstant = delivered.map fun event => some event.instant := by
  induction h with
  | nil => exact ⟨rfl, rfl⟩
  | cons hrow _ ih =>
    obtain ⟨hid, hat⟩ := hrow.row
    exact ⟨by rw [List.map_cons, hid, ih.1, List.map_cons],
      by rw [List.map_cons, hat, ih.2, List.map_cons]⟩

/-- Of the events that were scheduled, all that were due and not cancelled were delivered, each
once and in the order of their instants, and no cancelled one was. -/
structure Conserved (E : Engine σ) (outcome : EpisodeOutcome)
    (scheduled cancelled : List Event) : Prop where
  arrives : ∀ event ∈ scheduled, ¬E.Beyond event.instant →
    event.eventId ∉ cancelled.map Event.eventId →
      (outcome.events.map rowId).count (some event.eventId) = 1
  once : (outcome.events.map rowId).Nodup
  cancelled : ∀ event ∈ cancelled, some event.eventId ∉ outcome.events.map rowId
  ordered : ∃ instants : List Int, outcome.events.map (fun row => (rowInstant row).map strptime) =
    instants.map (fun n => some (.ok n)) ∧ instants.Pairwise (· ≤ ·)

theorem Chronicle.conserved {scheduled cancelled delivered : List Event} {outcome : EpisodeOutcome}
    (h : E.Chronicle s scheduled cancelled delivered) (he : outcome.events = s.delivered)
    (hleft : ∀ e ∈ s.queue.pending, E.Beyond e.instant) : E.Conserved outcome scheduled cancelled := by
  obtain ⟨hids, hinstants⟩ := noted_rows (he ▸ h.noted)
  have hnodup : ((s.queue.pending ++ delivered ++ cancelled).map Event.eventId).Nodup := by
    rw [← (h.balance.map Event.eventId).nodup_iff, ← List.nodup_reverse, ← h.seen]
    exact h.distinct
  rw [List.map_append, List.map_append, List.nodup_append, List.nodup_append] at hnodup
  obtain ⟨⟨_, hdelivered, _⟩, _, hapart⟩ := hnodup
  have honce : (outcome.events.map rowId).Nodup := by
    have hsome := hdelivered.map (Option.some_injective _)
    rw [List.map_map] at hsome
    exact hids ▸ hsome
  refine ⟨fun event hm hb hc => ?_, honce, fun event hm => ?_, ?_⟩
  · rw [h.balance.mem_iff, List.mem_append, List.mem_append] at hm
    rcases hm with (hm | hm) | hm
    · exact absurd (hleft event hm) hb
    · refine List.count_eq_one_of_mem honce ?_
      rw [hids]
      exact List.mem_map_of_mem hm
    · exact absurd (List.mem_map_of_mem hm) hc
  · intro hrow
    rw [hids] at hrow
    obtain ⟨e, hm', hid⟩ := List.mem_map.mp hrow
    refine hapart _ (List.mem_append_right _ (List.mem_map_of_mem hm')) _ (List.mem_map_of_mem hm)
      (Option.some.inj hid)
  · obtain ⟨instants, hi, hp, _⟩ := h.ordered
    refine ⟨instants, ?_, hp⟩
    have hrows : outcome.events.map (fun row => (rowInstant row).map strptime) =
        (outcome.events.map rowInstant).map (Option.map strptime) := by
      rw [List.map_map]
      rfl
    have hsome : delivered.map (fun event => some (strptime event.instant)) =
        (delivered.map fun event => strptime event.instant).map some := by
      rw [List.map_map]
      rfl
    rw [hrows, hinstants, List.map_map]
    refine hsome.trans ?_
    rw [hi, List.map_map]
    rfl

end Ends

end Engine

end OperateBench
