import Mathlib.Data.List.Sort
import OperateBench.Foundation.Fallible
import OperateBench.Core.Clock

/-! # Events and the order of their delivery

An event carries its instant, the authored sequence number that breaks ties and
its identity, and is delivered in the order of these three. The queue consumes
identities: one that was ever scheduled is never scheduled again.
-/

namespace OperateBench

open Foundation

structure Event where
  eventId : String
  eventType : String
  actorId : String
  instant : String
  sequence : Int
  payload : Fields
  triggersAgent : Bool
  causedBy : Option String

structure OrderKey where
  instant : Int
  sequence : Int
  eventId : String

namespace OrderKey

/-- Instant first, then sequence, then identity. -/
def le (a b : OrderKey) : Prop :=
  a.instant < b.instant ∨ a.instant = b.instant ∧
    (a.sequence < b.sequence ∨ a.sequence = b.sequence ∧ a.eventId ≤ b.eventId)

instance : DecidableRel le := fun a b => by unfold le; infer_instance

theorem le_total (a b : OrderKey) : a.le b ∨ b.le a := by
  unfold le
  rcases Int.lt_trichotomy a.instant b.instant with h | h | h
  · exact Or.inl (Or.inl h)
  · rcases Int.lt_trichotomy a.sequence b.sequence with hs | hs | hs
    · exact Or.inl (Or.inr ⟨h, Or.inl hs⟩)
    · rcases String.le_total a.eventId b.eventId with hi | hi
      · exact Or.inl (Or.inr ⟨h, Or.inr ⟨hs, hi⟩⟩)
      · exact Or.inr (Or.inr ⟨h.symm, Or.inr ⟨hs.symm, hi⟩⟩)
    · exact Or.inr (Or.inr ⟨h.symm, Or.inl hs⟩)
  · exact Or.inr (Or.inl h)

theorem le_trans {a b c : OrderKey} (hab : a.le b) (hbc : b.le c) : a.le c := by
  unfold le at *
  rcases hab with h | ⟨h, hs⟩
  · rcases hbc with h' | ⟨h', _⟩ <;> exact Or.inl (by omega)
  · rcases hbc with h' | ⟨h', hs'⟩
    · exact Or.inl (by omega)
    · refine Or.inr ⟨h.trans h', ?_⟩
      rcases hs with k | ⟨k, hi⟩
      · rcases hs' with k' | ⟨k', _⟩ <;> exact Or.inl (by omega)
      · rcases hs' with k' | ⟨k', hi'⟩
        · exact Or.inl (by omega)
        · exact Or.inr ⟨k.trans k', String.le_trans hi hi'⟩

instance : Std.Total le := ⟨le_total⟩

instance : IsTrans OrderKey le := ⟨fun _ _ _ => le_trans⟩

end OrderKey

namespace Event

def orderKey (event : Event) : Except PyError OrderKey := do
  let instant ← parseTimestamp event.instant s!"event {event.eventId}"
  return ⟨instant, event.sequence, event.eventId⟩

def asDict (event : Event) : List (String × Value) :=
  [("event_id", .str event.eventId), ("event_type", .str event.eventType),
    ("actor_id", .str event.actorId), ("at", .str event.instant),
    ("sequence", .int event.sequence), ("payload", event.payload.asDict),
    ("triggers_agent", .bool event.triggersAgent), ("caused_by", .ofText? event.causedBy)]

end Event

section Order

def withOrderKeys : List Event → Except PyError (List (OrderKey × Event))
  | [] => .ok []
  | event :: events => do
    let key ← event.orderKey
    let rest ← withOrderKeys events
    return (key, event) :: rest

def inDeliveryOrder (events : List Event) : Except PyError (List Event) := do
  let keyed ← withOrderKeys events
  return (keyed.insertionSort fun a b => a.1.le b.1).map Prod.snd

variable {events sorted : List Event} {keyed : List (OrderKey × Event)}

theorem withOrderKeys_ok (h : withOrderKeys events = .ok keyed) :
    keyed.map Prod.snd = events ∧ ∀ e ∈ keyed, e.2.orderKey = .ok e.1 := by
  induction events generalizing keyed with
  | nil => obtain rfl := pure_ok h; simp
  | cons event events ih =>
    obtain ⟨key, hk, h⟩ := bind_ok h
    obtain ⟨rest, hr, h⟩ := bind_ok h
    obtain rfl := pure_ok h
    obtain ⟨hm, ho⟩ := ih hr
    exact ⟨by rw [List.map_cons, hm], by simpa [hk] using ho⟩

theorem withOrderKeys_of (h : ∀ e ∈ keyed, e.2.orderKey = .ok e.1) :
    withOrderKeys (keyed.map Prod.snd) = .ok keyed := by
  induction keyed with
  | nil => rfl
  | cons e keyed ih =>
    simp only [List.mem_cons, forall_eq_or_imp] at h
    rw [List.map_cons, withOrderKeys, h.1, ok_bind, ih h.2]
    rfl

theorem inDeliveryOrder_perm (h : inDeliveryOrder events = .ok sorted) : sorted.Perm events := by
  obtain ⟨keyed, hk, h⟩ := bind_ok h
  rw [← pure_ok h, ← (withOrderKeys_ok hk).1]
  exact (List.perm_insertionSort _ keyed).map _

/-- Events in delivery order stay as they are. -/
theorem inDeliveryOrder_idem (h : inDeliveryOrder events = .ok sorted) :
    inDeliveryOrder sorted = .ok sorted := by
  obtain ⟨keyed, hk, h⟩ := bind_ok h
  have hs : (keyed.insertionSort fun a b => a.1.le b.1).Pairwise fun a b => a.1.le b.1 :=
    haveI : Std.Total fun a b : OrderKey × Event => a.1.le b.1 := ⟨fun a b => a.1.le_total b.1⟩
    haveI : IsTrans (OrderKey × Event) fun a b => a.1.le b.1 := ⟨fun _ _ _ => OrderKey.le_trans⟩
    List.pairwise_insertionSort _ keyed
  rw [← pure_ok h, inDeliveryOrder, withOrderKeys_of, ok_bind, hs.insertionSort_eq]
  · rfl
  · exact fun e he => (withOrderKeys_ok hk).2 e ((List.perm_insertionSort _ keyed).mem_iff.mp he)

end Order

/-- What is still to happen, and every identity that was ever scheduled. -/
structure EventQueue where
  pending : List Event
  seen : List String
  consumed : ∀ event ∈ pending, event.eventId ∈ seen
  distinct : (pending.map Event.eventId).Nodup

namespace EventQueue

def empty : EventQueue := ⟨[], [], by simp, List.nodup_nil⟩

def schedule (queue : EventQueue) (event : Event) : Except PyError EventQueue :=
  if h : event.eventId ∈ queue.seen then
    .error (.duplicateEvent (s!"event {pyRepr event.eventId} was already scheduled in this " ++
      "episode; an event identity is used once so a duplicate cannot mutate twice"))
  else .ok {
    pending := queue.pending ++ [event]
    seen := event.eventId :: queue.seen
    consumed := by
      intro e he
      rcases List.mem_append.mp he with he | he
      · exact List.mem_cons_of_mem _ (queue.consumed e he)
      · exact List.mem_singleton.mp he ▸ List.mem_cons_self
    distinct := by
      rw [List.map_append, List.map_singleton, List.nodup_append]
      refine ⟨queue.distinct, List.nodup_singleton _, ?_⟩
      rintro _ hi _ hj rfl
      obtain ⟨e, he, hid⟩ := List.mem_map.mp hi
      exact h (List.mem_singleton.mp hj ▸ hid ▸ queue.consumed e he) }

def without (queue : EventQueue) (eventId : String) : EventQueue where
  pending := queue.pending.filter fun event => event.eventId ≠ eventId
  seen := queue.seen
  consumed event he := queue.consumed event (List.mem_of_mem_filter he)
  distinct := queue.distinct.sublist (List.filter_sublist.map _)

/-- Drop a pending event, and say whether one was pending. Its identity stays consumed. -/
def cancel (queue : EventQueue) (eventId : String) : Bool × EventQueue :=
  let remaining := queue.without eventId
  (remaining.pending.length ≠ queue.pending.length, remaining)

def sort (queue : EventQueue) : Except PyError EventQueue :=
  match h : inDeliveryOrder queue.pending with
  | .error e => .error e
  | .ok sorted => .ok {
      pending := sorted
      seen := queue.seen
      consumed := fun e he => queue.consumed e ((inDeliveryOrder_perm h).mem_iff.mp he)
      distinct := ((inDeliveryOrder_perm h).map _).nodup_iff.mpr queue.distinct }

/-- The next event, with the queue left in delivery order. -/
def peekNext (queue : EventQueue) : Except PyError (Option Event × EventQueue) := do
  let queue ← queue.sort
  return (queue.pending.head?, queue)

def tail (queue : EventQueue) : EventQueue where
  pending := queue.pending.tail
  seen := queue.seen
  consumed e he := queue.consumed e (List.mem_of_mem_tail he)
  distinct := queue.distinct.sublist ((List.tail_sublist _).map _)

def popNext (queue : EventQueue) : Except PyError (Option Event × EventQueue) := do
  let queue ← queue.sort
  return (queue.pending.head?, queue.tail)

variable {queue queue' : EventQueue} {event : Event}

theorem schedule_ok (h : queue.schedule event = .ok queue') :
    event.eventId ∉ queue.seen ∧ queue'.pending = queue.pending ++ [event] ∧
      queue'.seen = event.eventId :: queue.seen := by
  unfold schedule at h
  split at h
  · cases h
  · obtain rfl := Except.ok.inj h
    exact ⟨‹_›, rfl, rfl⟩

theorem mem_without {eventId : String} :
    event ∈ (queue.without eventId).pending ↔ event ∈ queue.pending ∧ event.eventId ≠ eventId := by
  simp [without]

theorem sort_ok (h : queue.sort = .ok queue') :
    inDeliveryOrder queue.pending = .ok queue'.pending ∧ queue'.seen = queue.seen := by
  unfold sort at h
  split at h
  · cases h
  · obtain rfl := Except.ok.inj h
    exact ⟨‹_›, rfl⟩

theorem mem_sort (h : queue.sort = .ok queue') :
    event ∈ queue'.pending ↔ event ∈ queue.pending :=
  (inDeliveryOrder_perm (sort_ok h).1).mem_iff

theorem sort_idem (h : queue.sort = .ok queue') : queue'.sort = .ok queue' := by
  have hp := inDeliveryOrder_idem (sort_ok h).1
  unfold sort
  split
  · rename_i hp'; rw [hp] at hp'; cases hp'
  · rename_i sorted hp'
    obtain rfl : queue'.pending = sorted := Except.ok.inj (hp.symm.trans hp')
    rfl

theorem peekNext_ok {next : Option Event} (h : queue.peekNext = .ok (next, queue')) :
    queue.sort = .ok queue' ∧ next = queue'.pending.head? := by
  obtain ⟨q, hq, h⟩ := bind_ok h
  obtain ⟨rfl, rfl⟩ := Prod.mk.inj (pure_ok h)
  exact ⟨hq, rfl⟩

/-- After the next event was looked at, taking it needs no further sorting. -/
theorem popNext_of_peekNext {next : Option Event} (h : queue.peekNext = .ok (next, queue')) :
    queue'.popNext = .ok (next, queue'.tail) := by
  obtain ⟨hs, rfl⟩ := peekNext_ok h
  rw [popNext, sort_idem hs, ok_bind]
  rfl

/-- The later queue consumed at least the same identities, and an event that is pending in
it was pending before or carries an identity that is new. -/
structure Evolves (queue queue' : EventQueue) : Prop where
  seen : ∀ i ∈ queue.seen, i ∈ queue'.seen
  pending : ∀ e ∈ queue'.pending, e ∈ queue.pending ∨ e.eventId ∉ queue.seen

theorem Evolves.refl (queue : EventQueue) : Evolves queue queue := ⟨fun _ => id, fun _ => Or.inl⟩

theorem Evolves.trans {q₁ q₂ q₃ : EventQueue} (h₁ : Evolves q₁ q₂) (h₂ : Evolves q₂ q₃) :
    Evolves q₁ q₃ where
  seen i hi := h₂.seen i (h₁.seen i hi)
  pending e he := (h₂.pending e he).elim (h₁.pending e)
    fun hn => Or.inr fun hs => hn (h₁.seen _ hs)

theorem evolves_of_subset (hp : ∀ e ∈ queue'.pending, e ∈ queue.pending)
    (hs : queue'.seen = queue.seen) : Evolves queue queue' :=
  ⟨fun _ hi => hs ▸ hi, fun e he => Or.inl (hp e he)⟩

theorem schedule_evolves (h : queue.schedule event = .ok queue') : Evolves queue queue' := by
  obtain ⟨hn, hp, hs⟩ := schedule_ok h
  refine ⟨fun i hi => hs ▸ List.mem_cons_of_mem _ hi, fun e he => ?_⟩
  rw [hp, List.mem_append, List.mem_singleton] at he
  rcases he with he | rfl
  · exact Or.inl he
  · exact Or.inr hn

/-- The identity was scheduled, and where it is still pending it comes due at the instant. -/
structure Arms (queue : EventQueue) (eventId instant : String) : Prop where
  seen : eventId ∈ queue.seen
  due : ∀ e ∈ queue.pending, e.eventId = eventId → e.instant = instant

theorem arms_of_schedule (h : queue.schedule event = .ok queue') :
    queue'.Arms event.eventId event.instant := by
  obtain ⟨hn, hp, hs⟩ := schedule_ok h
  refine ⟨hs ▸ List.mem_cons_self, fun e he hid => ?_⟩
  rw [hp, List.mem_append, List.mem_singleton] at he
  rcases he with he | rfl
  · exact absurd (hid ▸ queue.consumed e he) hn
  · rfl

theorem Arms.evolves {eventId instant : String} (h : queue.Arms eventId instant)
    (he : queue.Evolves queue') : queue'.Arms eventId instant where
  seen := he.seen _ h.seen
  due e hm hid := (he.pending e hm).elim (fun hp => h.due e hp hid)
    fun hn => absurd (hid ▸ h.seen) hn

theorem cancel_evolves (eventId : String) : Evolves queue (queue.cancel eventId).2 :=
  evolves_of_subset (fun _ he => (mem_without.mp he).1) rfl

theorem sort_evolves (h : queue.sort = .ok queue') : Evolves queue queue' :=
  evolves_of_subset (fun _ he => (mem_sort h).mp he) (sort_ok h).2

theorem tail_evolves : Evolves queue queue.tail :=
  evolves_of_subset (fun _ he => List.mem_of_mem_tail he) rfl

/-- The identity was scheduled and is no longer pending, so it never will be. -/
structure Gone (queue : EventQueue) (eventId : String) : Prop where
  seen : eventId ∈ queue.seen
  absent : ∀ e ∈ queue.pending, e.eventId ≠ eventId

theorem Gone.evolves {eventId : String} (h : queue.Gone eventId) (he : queue.Evolves queue') :
    queue'.Gone eventId where
  seen := he.seen _ h.seen
  absent e hm hid := (he.pending e hm).elim (fun hp => h.absent e hp hid)
    fun hn => hn (hid ▸ h.seen)

/-- What is taken from the head of the queue is gone. -/
theorem gone_tail (h : queue.pending.head? = some event) : queue.tail.Gone event.eventId where
  seen := queue.consumed event (List.mem_of_mem_head? h)
  absent e hm hid := by
    have hd := queue.distinct
    change e ∈ queue.pending.tail at hm
    cases hp : queue.pending with
    | nil => rw [hp] at h; cases h
    | cons a l =>
      rw [hp] at hd h hm
      obtain rfl := Option.some.inj h
      exact (List.nodup_cons.mp hd).1 (hid ▸ List.mem_map_of_mem hm)

end EventQueue

end OperateBench
