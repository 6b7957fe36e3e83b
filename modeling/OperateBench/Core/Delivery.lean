import Mathlib.Data.List.Induction
import OperateBench.Core.Events

/-! # The order of delivery

What a queue delivers is determined by the events that were scheduled and not cancelled
afterwards: they come in the order of their keys, however the calls were interleaved and
however often somebody looked at the next event.
-/

namespace OperateBench

open Foundation

section Order

/-- Both keys can be read, and the first does not come after the second. -/
def Event.Before (a b : Event) : Prop :=
  ∃ x y, a.orderKey = .ok x ∧ b.orderKey = .ok y ∧ x.le y

/-- Every key can be read and the events come in their order. -/
structure InOrder (events : List Event) : Prop where
  readable : ∀ e ∈ events, ∃ key, e.orderKey = .ok key
  sorted : events.Pairwise Event.Before

variable {events sorted : List Event} {a b event : Event}

theorem OrderKey.eventId_of_le {x y : OrderKey} (hxy : x.le y) (hyx : y.le x) :
    x.eventId = y.eventId := by
  unfold OrderKey.le at hxy hyx
  rcases hxy with h | ⟨h, hs | ⟨hs, hi⟩⟩
  · rcases hyx with h' | ⟨h', -⟩ <;> omega
  · rcases hyx with h' | ⟨h', hs' | ⟨hs', -⟩⟩ <;> omega
  · rcases hyx with h' | ⟨h', hs' | ⟨hs', hi'⟩⟩
    · omega
    · omega
    · exact String.le_antisymm hi hi'

theorem Event.orderKey_eventId {key : OrderKey} (h : event.orderKey = .ok key) :
    key.eventId = event.eventId := by
  obtain ⟨instant, -, h⟩ := bind_ok h
  rw [← pure_ok h]

/-- Two events that come before each other are one event. -/
theorem Event.Before.eventId (hab : a.Before b) (hba : b.Before a) : a.eventId = b.eventId := by
  obtain ⟨x, y, hx, hy, hxy⟩ := hab
  obtain ⟨y', x', hy', hx', hyx⟩ := hba
  obtain rfl := Except.ok.inj (hx.symm.trans hx')
  obtain rfl := Except.ok.inj (hy.symm.trans hy')
  rw [← orderKey_eventId hx, ← orderKey_eventId hy, OrderKey.eventId_of_le hxy hyx]

theorem InOrder.tail {a : Event} (h : InOrder (a :: events)) : InOrder events :=
  ⟨fun e he => h.readable e (List.mem_cons_of_mem a he), (List.pairwise_cons.mp h.sorted).2⟩

theorem withOrderKeys_isOk (h : ∀ e ∈ events, ∃ key, e.orderKey = .ok key) :
    ∃ keyed, withOrderKeys events = .ok keyed := by
  induction events with
  | nil => exact ⟨[], rfl⟩
  | cons event events ih =>
    obtain ⟨key, hkey⟩ := h event List.mem_cons_self
    obtain ⟨rest, hrest⟩ := ih fun e he => h e (List.mem_cons_of_mem event he)
    refine ⟨(key, event) :: rest, ?_⟩
    rw [withOrderKeys, hkey, ok_bind, hrest]
    rfl

theorem inOrder_of_sorted {keyed : List (OrderKey × Event)}
    (hkeys : ∀ e ∈ keyed, e.2.orderKey = .ok e.1)
    (hsorted : keyed.Pairwise fun a b => a.1.le b.1) : InOrder (keyed.map Prod.snd) := by
  constructor
  · intro e he
    obtain ⟨entry, hentry, rfl⟩ := List.mem_map.mp he
    exact ⟨entry.1, hkeys entry hentry⟩
  · refine List.pairwise_map.mpr (hsorted.imp_of_mem fun ha hb hle => ?_)
    exact ⟨_, _, hkeys _ ha, hkeys _ hb, hle⟩

theorem inOrder_of_inDeliveryOrder (h : inDeliveryOrder events = .ok sorted) : InOrder sorted := by
  obtain ⟨keyed, hkeyed, h⟩ := bind_ok h
  obtain ⟨-, hkeys⟩ := withOrderKeys_ok hkeyed
  rw [← pure_ok h]
  refine inOrder_of_sorted ?_ ?_
  · intro e he
    exact hkeys e ((List.perm_insertionSort _ keyed).mem_iff.mp he)
  · have : Std.Total fun a b : OrderKey × Event => a.1.le b.1 := ⟨fun a b => a.1.le_total b.1⟩
    have : IsTrans (OrderKey × Event) fun a b => a.1.le b.1 := ⟨fun _ _ _ => OrderKey.le_trans⟩
    exact List.pairwise_insertionSort _ keyed

/-- The delivery order of events with different identities is the one arrangement of them that
is in order. -/
theorem inDeliveryOrder_iff (hdistinct : (events.map Event.eventId).Nodup) :
    inDeliveryOrder events = .ok sorted ↔ sorted.Perm events ∧ InOrder sorted := by
  refine ⟨fun h => ⟨inDeliveryOrder_perm h, inOrder_of_inDeliveryOrder h⟩, ?_⟩
  rintro ⟨hperm, horder⟩
  obtain ⟨keyed, hkeyed⟩ := withOrderKeys_isOk fun e he =>
    horder.readable e (hperm.mem_iff.mpr he)
  obtain ⟨sorted', h⟩ : ∃ sorted', inDeliveryOrder events = .ok sorted' := by
    rw [inDeliveryOrder, hkeyed]
    exact ⟨_, rfl⟩
  have hperm' := inDeliveryOrder_perm h
  have hsame : sorted' = sorted := by
    refine (hperm'.trans hperm.symm).eq_of_pairwise ?_
      (inOrder_of_inDeliveryOrder h).sorted horder.sorted
    intro a b ha hb hab hba
    exact List.inj_on_of_nodup_map hdistinct (hperm'.mem_iff.mp ha) (hperm.mem_iff.mp hb)
      (hab.eventId hba)
  rw [h, hsame]

end Order

namespace EventQueue

variable {queue queue' : EventQueue} {event : Event}

/-- Take up to this many events, in the order in which they come. -/
def drainFor : ℕ → EventQueue → Except PyError (List Event)
  | 0, _ => .ok []
  | count + 1, queue => do
    let (next, queue) ← queue.popNext
    match next with
    | none => return []
    | some event => return event :: (← drainFor count queue)

/-- Every remaining event. Each that is taken is one less. -/
def drain (queue : EventQueue) : Except PyError (List Event) :=
  drainFor (queue.pending.length + 1) queue

theorem drainFor_ok {count : ℕ} {sorted : List Event} (hcount : queue.pending.length < count)
    (h : inDeliveryOrder queue.pending = .ok sorted) : drainFor count queue = .ok sorted := by
  induction count generalizing queue sorted with
  | zero => omega
  | succ count ih =>
    have hperm := inDeliveryOrder_perm h
    obtain ⟨queue', hsort⟩ : ∃ queue', queue.sort = .ok queue' := by
      unfold sort
      split
      · rename_i he
        rw [h] at he
        cases he
      · exact ⟨_, rfl⟩
    have hpending : queue'.pending = sorted := Except.ok.inj ((sort_ok hsort).1.symm.trans h)
    rw [drainFor, popNext, hsort, ok_bind]
    cases sorted with
    | nil =>
      rw [hpending]
      rfl
    | cons first rest =>
      have htail : queue'.tail.pending = rest := by
        change queue'.pending.tail = rest
        rw [hpending, List.tail_cons]
      have hrest : inDeliveryOrder queue'.tail.pending = .ok rest := by
        refine (inDeliveryOrder_iff queue'.tail.distinct).mpr ⟨htail ▸ List.Perm.refl _, ?_⟩
        exact (inOrder_of_inDeliveryOrder h).tail
      have hlength := hperm.length_eq
      rw [List.length_cons] at hlength
      have hdrain := ih (by rw [htail]; omega) hrest
      rw [hpending]
      change (do return first :: (← drainFor count queue'.tail)) = _
      rw [hdrain]
      rfl

theorem drain_ok {sorted : List Event} :
    queue.drain = .ok sorted ↔ inDeliveryOrder queue.pending = .ok sorted := by
  cases h : inDeliveryOrder queue.pending with
  | ok events => rw [drain, drainFor_ok (Nat.lt_succ_self _) h]
  | error e =>
    have hsort : queue.sort = .error e := by
      unfold sort
      split
      · rename_i he
        rw [Except.error.inj (h.symm.trans he)]
      · rename_i he
        rw [h] at he
        cases he
    rw [drain, drainFor, popNext, hsort]
    exact Iff.rfl

section Calls

/-- A call on the queue. -/
inductive Call
  | schedule (event : Event)
  | cancel (eventId : String)
  | peekNext
  | popNext

def Call.event? : Call → Option Event
  | .schedule event => some event
  | _ => none

/-- The queue after a call. One that raises leaves it as it was. -/
def perform (queue : EventQueue) : Call → EventQueue
  | .schedule event => (queue.schedule event).toOption.getD queue
  | .cancel eventId => (queue.cancel eventId).2
  | .peekNext => (queue.peekNext.map Prod.snd).toOption.getD queue
  | .popNext => (queue.popNext.map Prod.snd).toOption.getD queue

def performAll (calls : List Call) : EventQueue := calls.foldl perform empty

/-- The event was scheduled, and no cancellation of it came later. -/
def Survives (calls : List Call) (event : Event) : Prop :=
  ∃ before after, calls = before ++ .schedule event :: after ∧ .cancel event.eventId ∉ after

variable {calls calls' : List Call} {call : Call}

theorem performAll_snoc : performAll (calls ++ [call]) = (performAll calls).perform call := by
  rw [performAll, List.foldl_append]
  rfl

theorem perform_schedule (h : queue.schedule event = .ok queue') :
    queue.perform (.schedule event) = queue' := by
  rw [perform, h]
  rfl

theorem perform_schedule_error {e : PyError} (h : queue.schedule event = .error e) :
    queue.perform (.schedule event) = queue := by
  rw [perform, h]
  rfl

theorem peekNext_same : (∀ e, e ∈ (queue.perform .peekNext).pending ↔ e ∈ queue.pending) ∧
    (queue.perform .peekNext).seen = queue.seen := by
  unfold perform
  cases h : queue.peekNext with
  | error e => exact ⟨fun _ => Iff.rfl, rfl⟩
  | ok result =>
    obtain ⟨hsort, -⟩ : queue.sort = .ok result.2 ∧ _ := peekNext_ok h
    exact ⟨fun _ => mem_sort hsort, (sort_ok hsort).2⟩

theorem popNext_seen : (queue.perform .popNext).seen = queue.seen := by
  unfold perform popNext
  cases hsort : queue.sort with
  | error e => rfl
  | ok queue' => exact (sort_ok hsort).2

/-- The consumed identities are those that were ever scheduled. -/
theorem mem_seen {eventId : String} :
    eventId ∈ (performAll calls).seen ↔ ∃ event, .schedule event ∈ calls ∧ event.eventId = eventId := by
  induction calls using List.reverseRecOn with
  | nil => simp [performAll, empty]
  | append_singleton calls call ih =>
    rw [performAll_snoc]
    cases call with
    | schedule event =>
      have hmem : ∀ e : Event, Call.schedule e ∈ calls ++ [.schedule event] ↔
          Call.schedule e ∈ calls ∨ e = event := by simp
      cases h : (performAll calls).schedule event with
      | error e =>
        -- Only an identity that is consumed already is refused.
        have hseen : event.eventId ∈ (performAll calls).seen := by
          unfold schedule at h
          split at h
          · assumption
          · cases h
        rw [perform_schedule_error h]
        simp only [hmem, or_and_right, exists_or, exists_eq_left]
        exact ⟨fun hs => Or.inl (ih.mp hs), fun hs => hs.elim ih.mpr fun heq => heq ▸ hseen⟩
      | ok queue =>
        obtain ⟨-, -, hseen⟩ := schedule_ok h
        rw [perform_schedule h, hseen, List.mem_cons, ih]
        simp only [hmem, or_and_right, exists_or, exists_eq_left]
        rw [or_comm, eq_comm]
    | cancel id =>
      change eventId ∈ (performAll calls).seen ↔ _
      simp [ih]
    | peekNext => rw [peekNext_same.2, ih]; simp
    | popNext => rw [popNext_seen, ih]; simp

theorem survives_snoc : Survives (calls ++ [call]) event ↔
    (Survives calls event ∧ call ≠ .cancel event.eventId) ∨ call = .schedule event := by
  constructor
  · rintro ⟨before, after, heq, hafter⟩
    rcases List.eq_nil_or_concat after with rfl | ⟨front, last, rfl⟩
    · obtain ⟨-, hlast⟩ := List.append_inj' heq rfl
      exact Or.inr (List.cons.inj hlast).1
    · rw [List.concat_eq_append] at heq hafter
      rw [← List.cons_append, ← List.append_assoc] at heq
      obtain ⟨rfl, hlast⟩ := List.append_inj' heq rfl
      rw [List.mem_append, not_or] at hafter
      obtain rfl := (List.cons.inj hlast).1
      refine Or.inl ⟨⟨before, front, rfl, hafter.1⟩, fun hcancel => hafter.2 ?_⟩
      exact List.mem_singleton.mpr hcancel.symm
  · rintro (⟨⟨before, after, rfl, hafter⟩, hcall⟩ | rfl)
    · refine ⟨before, after ++ [call], by simp, ?_⟩
      rw [List.mem_append, not_or]
      exact ⟨hafter, fun h => hcall (List.mem_singleton.mp h).symm⟩
    · exact ⟨calls, [], rfl, List.not_mem_nil⟩

theorem mem_pending (hdistinct : ((calls.filterMap Call.event?).map Event.eventId).Nodup)
    (hkept : .popNext ∉ calls) : event ∈ (performAll calls).pending ↔ Survives calls event := by
  induction calls using List.reverseRecOn with
  | nil =>
    constructor
    · exact fun h => absurd h List.not_mem_nil
    · rintro ⟨before, after, h, -⟩
      simp at h
  | append_singleton calls call ih =>
    rw [List.filterMap_append, List.map_append] at hdistinct
    rw [List.mem_append, not_or] at hkept
    have ih := ih (List.Nodup.of_append_left hdistinct) hkept.1
    rw [performAll_snoc, survives_snoc, ← ih]
    cases call with
    | schedule scheduled =>
      have hfresh : scheduled.eventId ∉ (performAll calls).seen := by
        rw [mem_seen]
        rintro ⟨e, he, hid⟩
        refine (List.disjoint_of_nodup_append hdistinct) ?_ (List.mem_singleton_self _)
        exact hid ▸ List.mem_map_of_mem (List.mem_filterMap.mpr ⟨_, he, rfl⟩)
      obtain ⟨queue, hq⟩ : ∃ queue, (performAll calls).schedule scheduled = .ok queue := by
        unfold schedule
        rw [dif_neg hfresh]
        exact ⟨_, rfl⟩
      rw [perform_schedule hq, (schedule_ok hq).2.1, List.mem_append, List.mem_singleton]
      simp [eq_comm]
    | cancel eventId =>
      change event ∈ ((performAll calls).without eventId).pending ↔ _
      rw [mem_without]
      simp [eq_comm]
    | peekNext => rw [peekNext_same.1]; simp
    | popNext => exact absurd (List.mem_singleton_self _) hkept.2

/-- Interleavings in which the same events are cancelled after they were scheduled deliver the
same sequence: the events that were not, in the order of their keys. An identity that was ever
scheduled is refused. -/
theorem delivery_of_interleavings :
    (∀ calls calls' : List Call, calls.Perm calls' →
      ((calls.filterMap Call.event?).map Event.eventId).Nodup → .popNext ∉ calls →
      (∀ event, Survives calls event ↔ Survives calls' event) →
      ∀ delivered, (performAll calls).drain = .ok delivered ↔
        (performAll calls').drain = .ok delivered) ∧
    (∀ calls : List Call, ((calls.filterMap Call.event?).map Event.eventId).Nodup →
      .popNext ∉ calls → ∀ delivered, (performAll calls).drain = .ok delivered ↔
        delivered.Nodup ∧ (∀ event, event ∈ delivered ↔ Survives calls event) ∧
          InOrder delivered) ∧
    ∀ (calls : List Call) (event again : Event), .schedule event ∈ calls →
      again.eventId = event.eventId →
      ∃ message, (performAll calls).schedule again = .error (.duplicateEvent message) := by
  have hdelivers : ∀ calls : List Call,
      ((calls.filterMap Call.event?).map Event.eventId).Nodup → .popNext ∉ calls →
      ∀ delivered, (performAll calls).drain = .ok delivered ↔
        delivered.Nodup ∧ (∀ event, event ∈ delivered ↔ Survives calls event) ∧
          InOrder delivered := by
    intro calls hdistinct hkept delivered
    have hnodup := (performAll calls).distinct.of_map
    rw [drain_ok, inDeliveryOrder_iff (performAll calls).distinct]
    constructor
    · rintro ⟨hperm, horder⟩
      refine ⟨hperm.nodup_iff.mpr hnodup, fun event => ?_, horder⟩
      rw [hperm.mem_iff, mem_pending hdistinct hkept]
    · rintro ⟨hdelivered, hmem, horder⟩
      refine ⟨(List.perm_ext_iff_of_nodup hdelivered hnodup).mpr fun event => ?_, horder⟩
      rw [hmem, mem_pending hdistinct hkept]
  refine ⟨?_, hdelivers, ?_⟩
  · intro calls calls' hperm hdistinct hkept hsame delivered
    have hdistinct' : ((calls'.filterMap Call.event?).map Event.eventId).Nodup :=
      ((hperm.filterMap _).map _).nodup_iff.mp hdistinct
    rw [hdelivers calls hdistinct hkept,
      hdelivers calls' hdistinct' fun h => hkept (hperm.mem_iff.mpr h)]
    simp only [hsame]
  · intro calls event again hscheduled hid
    have hseen : again.eventId ∈ (performAll calls).seen := mem_seen.mpr ⟨event, hscheduled, hid.symm⟩
    unfold schedule
    rw [dif_pos hseen]
    exact ⟨_, rfl⟩

def lateEvent : Event := ⟨"event_1", "note", "actor_1", "2031-03-03T09:00:00Z", 1, .empty, true, none⟩

/-- A cancellation that comes before its event is scheduled cancels nothing. -/
theorem early_cancel_differs : ¬∀ calls calls' : List Call, calls.Perm calls' →
    ((calls.filterMap Call.event?).map Event.eventId).Nodup → .popNext ∉ calls →
    ∀ delivered, (performAll calls).drain = .ok delivered ↔
      (performAll calls').drain = .ok delivered := by
  intro h
  have hdrained : (performAll [.schedule lateEvent, .cancel "event_1"]).drain = .ok [] := rfl
  have hsame := h [.schedule lateEvent, .cancel "event_1"] [.cancel "event_1", .schedule lateEvent]
    (List.Perm.swap _ _ _) (List.nodup_singleton _) (by simp)
  have hlost := inDeliveryOrder_perm (drain_ok.mp ((hsame []).mp hdrained))
  cases hlost.length_eq

end Calls

end EventQueue

end OperateBench
